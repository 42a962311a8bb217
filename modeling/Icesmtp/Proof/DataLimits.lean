/-
  icesmtp formalization — the limits of `readData` at their exact boundaries
  (`Engine.readData`, `SessionLimits`).

  `readData` checks each body line as it came over the wire, dot-stuffed and
  with its line ending, against `MaxLineLength`, and adds it to the unstuffed
  bytes kept so far for `MaxMessageSize`.  On the lines of the body this means:
  every wire line within `MaxLineLength`, and the unstuffed body within
  `MaxMessageSize`, strictly so when its last line was dot-stuffed (`Fits`).

  * `readBody_limitLaw`: `readBody` accepts exactly the bodies that fit, and
    otherwise the first line that breaks a limit decides the error;
  * `Engine.readData_limits`: the same of `readData` on a dot-stuffed body.
-/
import Icesmtp.Proof.DataFraming

namespace Icesmtp

/-! ## The bodies that fit -/

theorem length_stuffLine (l : Bytes) :
    (stuffLine l).length = l.length + if l.head? = some 46 then 1 else 0 := by
  cases l with
  | nil => rfl
  | cons x l => by_cases hx : x = 46 <;> simp [stuffLine, hx]

theorem IsLine.length_pos {l : Bytes} (h : IsLine l) : 0 < l.length := by
  obtain ⟨b, rfl, -⟩ := h; simp

/-- The body lines `ls` fit the limits: every line, dot-stuffed and with its line ending,
    within `maxLine`, and the unstuffed body within `maxMsg`, strictly when its last line
    starts with `.` and so went over the wire with one byte more. -/
@[mk_iff]
structure Fits (maxLine maxMsg : Int) (ls : List Bytes) : Prop where
  lines : ∀ l ∈ ls, ((stuffLine l).length : Int) ≤ maxLine
  size : (ls.flatten.length : Int) ≤ maxMsg
  last : ∀ l ∈ ls.getLast?, l.head? = some 46 → (ls.flatten.length : Int) < maxMsg

section
variable {maxLine maxMsg : Int}

/-- A body fits with one line more when the shorter body fits, and the line fits both on
    its own and after the shorter body. -/
theorem fits_concat {ls : List Bytes} {l : Bytes} (hl : IsLine l) :
    Fits maxLine maxMsg (ls ++ [l]) ↔ Fits maxLine maxMsg ls ∧
      ((stuffLine l).length : Int) ≤ maxLine ∧
      ((ls.flatten.length + (stuffLine l).length : Nat) : Int) ≤ maxMsg := by
  have hpos := hl.length_pos
  have hw := length_stuffLine l
  simp only [fits_iff, List.forall_mem_append, List.mem_singleton, forall_eq,
    List.flatten_append, List.flatten_cons, List.flatten_nil, List.append_nil,
    List.length_append, List.getLast?_concat, Option.mem_def, Option.some.injEq, forall_eq']
  by_cases hd : l.head? = some 46
  · simp only [hd, if_true, true_implies] at hw ⊢
    constructor
    · rintro ⟨⟨hls, hl'⟩, hs, hlast⟩
      exact ⟨⟨hls, by omega, fun _ _ _ => by omega⟩, hl', by omega⟩
    · rintro ⟨⟨hls, -, -⟩, hl', hs⟩
      exact ⟨⟨hls, hl'⟩, by omega, by omega⟩
  · simp only [hd, if_false, false_implies, and_true] at hw ⊢
    constructor
    · rintro ⟨⟨hls, hl'⟩, hs⟩
      exact ⟨⟨hls, by omega, fun _ _ _ => by omega⟩, hl', by omega⟩
    · rintro ⟨⟨hls, -, -⟩, hl', hs⟩
      exact ⟨⟨hls, hl'⟩, by omega⟩

/-! ## `readBody` -/

theorem readBody_append (buf : Bytes) (xs ys : List Bytes) :
    readBody maxLine maxMsg buf (xs ++ ys) =
      (readBody maxLine maxMsg buf xs).bind fun d => readBody maxLine maxMsg d ys := by
  induction xs generalizing buf with
  | nil => rfl
  | cons l xs ih =>
    rw [List.cons_append, readBody, readBody]
    split_ifs
    · rfl
    · rfl
    · exact ih _

/-- What `readBody` returns when it succeeds: the lines after the bytes kept so far. -/
theorem readBody_ok {buf d : Bytes} {ls : List Bytes} (h : readBody maxLine maxMsg buf ls = .ok d) :
    d = buf ++ ls.flatten := by
  induction ls generalizing buf with
  | nil => cases h; simp
  | cons l ls ih =>
    simp only [readBody] at h
    split_ifs at h
    simpa using ih h

/-- `readBody` fails only on a limit. -/
theorem readBody_cases (buf : Bytes) (ls : List Bytes) :
    readBody maxLine maxMsg buf ls = .ok (buf ++ ls.flatten) ∨
      readBody maxLine maxMsg buf ls = .error .lineTooLong ∨
      readBody maxLine maxMsg buf ls = .error .messageTooLarge := by
  induction ls generalizing buf with
  | nil => simp [readBody]
  | cons l ls ih =>
    simp only [readBody]
    split_ifs
    · simp
    · simp
    · simpa using ih (buf ++ l)

/-- The checks on one line, with both limits set. -/
theorem readBody_singleton (hline : 0 < maxLine) (hmsg : 0 < maxMsg) (buf l : Bytes) :
    (readBody maxLine maxMsg buf [l] = .error .lineTooLong ↔
        maxLine < (stuffLine l).length) ∧
      (readBody maxLine maxMsg buf [l] = .error .messageTooLarge ↔
        ((stuffLine l).length : Int) ≤ maxLine ∧
          maxMsg < (buf.length + (stuffLine l).length : Nat)) := by
  simp only [readBody]
  split_ifs <;> simp_all

/-- `readBody` fails at the first line that breaks a limit, after the lines before it. -/
theorem readBody_error_iff {buf : Bytes} {ls : List Bytes} {err : Error} :
    readBody maxLine maxMsg buf ls = .error err ↔
      ∃ pre l post, ls = pre ++ l :: post ∧
        readBody maxLine maxMsg buf pre = .ok (buf ++ pre.flatten) ∧
        readBody maxLine maxMsg (buf ++ pre.flatten) [l] = .error err := by
  constructor
  · intro h
    induction ls generalizing buf with
    | nil => cases h
    | cons l ls ih =>
      simp only [readBody] at h
      split_ifs at h with h1 h2
      · cases h
        exact ⟨[], l, ls, rfl, by simp [readBody], by simp only [List.flatten_nil,
          List.append_nil, readBody, if_pos h1]⟩
      · cases h
        exact ⟨[], l, ls, rfl, by simp [readBody], by simp only [List.flatten_nil,
          List.append_nil, readBody, if_neg h1, if_pos h2]⟩
      · obtain ⟨pre, l', post, rfl, hpre, hl'⟩ := ih h
        exact ⟨l :: pre, l', post, rfl, by rw [readBody, if_neg h1, if_neg h2]; simpa using hpre,
          by simpa using hl'⟩
  · rintro ⟨pre, l, post, rfl, hpre, hl⟩
    rw [readBody_append, hpre, Except.bind, ← List.singleton_append, readBody_append, hl]
    rfl

/-- A body is read whole exactly when it fits. -/
theorem readBody_ok_iff (hline : 0 < maxLine) (hmsg : 0 < maxMsg) {ls : List Bytes}
    (hL : ∀ l ∈ ls, IsLine l) :
    readBody maxLine maxMsg [] ls = .ok ls.flatten ↔ Fits maxLine maxMsg ls := by
  induction ls using List.reverseRecOn with
  | nil => exact iff_of_true rfl ⟨nofun, by simp; omega, nofun⟩
  | append_singleton ls l ih =>
    rw [List.forall_mem_append] at hL
    have hl := hL.2 l (List.mem_singleton_self l)
    rw [fits_concat hl, ← ih hL.1, readBody_append]
    rcases @readBody_cases maxLine maxMsg [] ls with h | h | h <;>
      rw [h] <;> simp only [List.nil_append, Except.bind, reduceCtorEq, false_and, and_true]
    simp only [readBody, List.flatten_append, List.flatten_cons, List.flatten_nil,
      List.append_nil, true_and]
    split_ifs with h1 h2 <;> simp_all

/-- What `readData` does with the lines `ls` of a body, under both limits: it accepts exactly
    the bodies that fit, and otherwise the first line that breaks a limit decides the error:
    `ErrLineTooLong` when its wire form is longer than `maxLine`, `ErrMessageTooLarge` when it
    is not but the bytes before it and its wire form are more than `maxMsg`. -/
structure LimitLaw (maxLine maxMsg : Int) (ls : List Bytes) (res : Except Error Bytes) :
    Prop where
  cases : res = .ok ls.flatten ∨ res = .error .lineTooLong ∨ res = .error .messageTooLarge
  ok : res = .ok ls.flatten ↔ Fits maxLine maxMsg ls
  lineTooLong : res = .error .lineTooLong ↔
    ∃ pre l post, ls = pre ++ l :: post ∧ Fits maxLine maxMsg pre ∧
      maxLine < (stuffLine l).length
  messageTooLarge : res = .error .messageTooLarge ↔
    ∃ pre l post, ls = pre ++ l :: post ∧ Fits maxLine maxMsg pre ∧
      ((stuffLine l).length : Int) ≤ maxLine ∧
      maxMsg < (pre.flatten.length + (stuffLine l).length : Nat)

theorem readBody_limitLaw (hline : 0 < maxLine) (hmsg : 0 < maxMsg) {ls : List Bytes}
    (hL : ∀ l ∈ ls, IsLine l) : LimitLaw maxLine maxMsg ls (readBody maxLine maxMsg [] ls) := by
  have hpre : ∀ pre l post, ls = pre ++ l :: post →
      (readBody maxLine maxMsg [] pre = .ok ([] ++ pre.flatten) ↔ Fits maxLine maxMsg pre) :=
    fun pre l post h => by
      rw [List.nil_append]
      exact readBody_ok_iff hline hmsg fun l' hl' => hL l' (h ▸ List.mem_append_left _ hl')
  refine ⟨by simpa using readBody_cases [] ls, readBody_ok_iff hline hmsg hL, ?_, ?_⟩ <;>
    rw [readBody_error_iff] <;>
    refine exists_congr fun pre => exists_congr fun l => exists_congr fun post => ?_ <;>
    refine ⟨fun ⟨h, hp, hl⟩ => ⟨h, (hpre _ _ _ h).1 hp, ?_⟩,
      fun ⟨h, hp, hl⟩ => ⟨h, (hpre _ _ _ h).2 hp, ?_⟩⟩
  · exact ((readBody_singleton hline hmsg _ l).1).1 hl
  · exact ((readBody_singleton hline hmsg _ l).1).2 hl
  · simpa using ((readBody_singleton hline hmsg _ l).2).1 hl
  · exact ((readBody_singleton hline hmsg _ l).2).2 (by simpa using hl)

end

/-! ## `readData` -/

namespace Engine

/-- With both limits set and the context not cancelled, `readData` on a dot-stuffed body
    accepts it exactly when it fits, and otherwise the first line that breaks a limit decides
    the error. -/
theorem readData_limits (w : World) (hctx : ∀ n, w.ctxErr n = none) (Ls : List Bytes)
    (R : Bytes) {e : Engine} (hL : ∀ l ∈ Ls, IsLine l)
    (hs : e.conn.stream = (Ls.map stuffLine).flatten ++ ascii ".\r\n" ++ R)
    (hline : 0 < e.config.limits.maxLineLength) (hmsg : 0 < e.config.limits.maxMessageSize) :
    LimitLaw e.config.limits.maxLineLength e.config.limits.maxMessageSize Ls (e.readData w).1 := by
  rw [(readData_lines w hctx Ls R hL hs).1]
  exact readBody_limitLaw hline hmsg hL

/-- A body of the one line `abc` with its CRLF, under a `MaxLineLength` of three. -/
def longLineEngine : Engine :=
  Engine.new { serverHostname := ascii "mx", limits := { maxLineLength := 3, maxMessageSize := 100 } }
    { buf := ascii "abc\r\n.\r\n", src := [], final := .eof } [] []

/-- A body of the one line `.` with its CRLF, three bytes, under a `MaxMessageSize` of three. -/
def dotLineEngine : Engine :=
  Engine.new { serverHostname := ascii "mx", limits := { maxLineLength := 998, maxMessageSize := 3 } }
    { buf := ascii "..\r\n.\r\n", src := [], final := .eof } [] []

theorem readData_limits_dotted :
    LimitLaw 998 3 [ascii ".\r\n"] (dotLineEngine.readData quietWorld).1 :=
  readData_limits quietWorld (fun _ => rfl) [ascii ".\r\n"] [] (e := dotLineEngine)
    (by simpa using ⟨ascii ".\r", rfl, by decide⟩) (by decide) (by decide) (by decide)

/-- A line with as many bytes of content as `MaxLineLength` is refused, and a body of exactly
    `MaxMessageSize` unstuffed bytes is refused when its last line was dot-stuffed. -/
theorem readData_wire_lengths :
    longLineEngine.conn.stream = ([ascii "abc\r\n"].map stuffLine).flatten ++ ascii ".\r\n" ∧
      (longLineEngine.readData quietWorld).1 = .error .lineTooLong ∧
      dotLineEngine.conn.stream = ([ascii ".\r\n"].map stuffLine).flatten ++ ascii ".\r\n" ∧
      (dotLineEngine.readData quietWorld).1 = .error .messageTooLarge := by
  decide

end Engine

end Icesmtp
