/-
  icesmtp formalization — framing of the DATA body (`Engine.readData`,
  `DataLineReader`).

  A reader delivers a stream of bytes (`Reader.stream`) before its first
  failed read.  `readBytes` takes one line from the front of the stream,
  whatever the reads it is split into, and `readData` takes lines up to and
  including the first terminator line.

  * `Engine.readData_unstuffs`: the dot-stuffed lines and the terminator are
    read back as the lines, and the rest of the stream is left to the loop;
  * `Engine.readData_ok`: conversely, a successful `readData` consumed body
    lines within the line limit and one terminator line, and returns the
    unstuffed body lines;
  * `Engine.line_too_long_body_parsed`: a body cut short by a limit is read on
    by the command loop.
-/
import Icesmtp.Proof.Steps

namespace Icesmtp

/-! ## Lines -/

/-- A line as `ReadBytes('\n')` returns it: bytes with no `\n`, then `\n`. -/
def IsLine (l : Bytes) : Prop := ∃ b, l = b ++ [10] ∧ (10 : UInt8) ∉ b

theorem splitLine_cons (x : UInt8) (xs : Bytes) :
    splitLine (x :: xs) =
      if x = 10 then some ([10], xs) else (splitLine xs).map fun p => (x :: p.1, p.2) := by
  unfold splitLine indexByte
  rw [List.findIdx?_cons]
  by_cases hx : x = 10
  · simp [hx]
  · simp only [beq_iff_eq, hx, if_false, List.findIdx?_succ, Option.map_map]
    cases xs.findIdx? (· == 10) <;> rfl

theorem splitLine_eq_none {buf : Bytes} (h : (10 : UInt8) ∉ buf) : splitLine buf = none := by
  induction buf with
  | nil => rfl
  | cons x xs ih =>
    simp only [List.mem_cons, not_or] at h
    rw [splitLine_cons, if_neg (Ne.symm h.1), ih h.2]; rfl

theorem splitLine_line {b : Bytes} (hb : (10 : UInt8) ∉ b) (rest : Bytes) :
    splitLine (b ++ [10] ++ rest) = some (b ++ [10], rest) := by
  induction b with
  | nil => rw [List.nil_append, List.singleton_append, splitLine_cons, if_pos rfl]
  | cons x xs ih =>
    simp only [List.mem_cons, not_or] at hb
    rw [List.cons_append, List.cons_append, splitLine_cons, if_neg (Ne.symm hb.1), ih hb.2]; rfl

theorem splitLine_some {buf line rest : Bytes} (h : splitLine buf = some (line, rest)) :
    IsLine line ∧ buf = line ++ rest := by
  induction buf generalizing line with
  | nil => cases h
  | cons x xs ih =>
    rw [splitLine_cons] at h
    split at h
    · cases h; subst x; exact ⟨⟨[], rfl, by simp⟩, rfl⟩
    · rename_i hx
      obtain ⟨⟨l, r⟩, hs, he⟩ := Option.map_eq_some'.1 h
      cases he
      obtain ⟨⟨b, rfl, hb⟩, rfl⟩ := ih hs
      exact ⟨⟨x :: b, rfl, by simp [hb, Ne.symm hx]⟩, rfl⟩

/-! ## What a reader delivers -/

/-- The bytes the reads `src` deliver before the first failed one, and the reads from that
    one on. -/
def streamSplit : List Chunk → Bytes × List Chunk
  | [] => ([], [])
  | .data bs :: cs => (bs ++ (streamSplit cs).1, (streamSplit cs).2)
  | .fail e :: cs => ([], .fail e :: cs)

/-- What a reader delivers before its first failed read. -/
def Reader.stream (r : Reader) : Bytes := r.buf ++ (streamSplit r.src).1

/-- What a reader does once its stream is used up: its later reads, then `final`. -/
def Reader.after (r : Reader) : List Chunk × Error := ((streamSplit r.src).2, r.final)

theorem readBytesAux_ok {final : Error} {buf : Bytes} {src : List Chunk} {line buf' : Bytes}
    {src' : List Chunk} (h : readBytesAux final buf src = (.ok line, buf', src')) :
    IsLine line ∧ buf ++ (streamSplit src).1 = line ++ (buf' ++ (streamSplit src').1) ∧
      (streamSplit src').2 = (streamSplit src).2 := by
  induction buf, src using readBytesAux.induct final with
  | case1 buf l r src hs =>
    rw [readBytesAux_of_some hs] at h; cases h
    obtain ⟨hl, rfl⟩ := splitLine_some hs
    exact ⟨hl, by simp, rfl⟩
  | case2 buf hs => rw [readBytesAux_nil hs] at h; cases h
  | case3 buf bs src hs ih =>
    rw [readBytesAux_data hs] at h
    obtain ⟨hl, h1, h2⟩ := ih h
    exact ⟨hl, by simpa [streamSplit] using h1, h2⟩
  | case4 buf e src hs => rw [readBytesAux_fail hs] at h; cases h

/-- `ReadBytes('\n')` only ever returns a line from the front of the stream. -/
theorem readBytes_ok {r r' : Reader} {line : Bytes} (h : r.readBytes = (.ok line, r')) :
    IsLine line ∧ r.stream = line ++ r'.stream ∧ r'.after = r.after := by
  unfold Reader.readBytes at h
  rcases ha : readBytesAux r.final r.buf r.src with ⟨res, buf', src'⟩
  rw [ha] at h
  cases h
  obtain ⟨hl, hs, ht⟩ := readBytesAux_ok ha
  exact ⟨hl, hs, by simp [Reader.after, ht]⟩

/-- A buffer that holds a `\n` of the stream `b ++ [10] ++ rest` holds the whole first line. -/
theorem line_in_buffer {buf more b rest : Bytes} (hb : (10 : UInt8) ∉ b)
    (hs : buf ++ more = b ++ [10] ++ rest) (hn : (10 : UInt8) ∈ buf) :
    ∃ t, buf = b ++ [10] ++ t ∧ t ++ more = rest := by
  rw [List.append_assoc, List.append_eq_append_iff] at hs
  rcases hs with ⟨a, rfl, -⟩ | ⟨c, rfl, hc⟩
  · exact absurd (List.mem_append_left _ hn) (by simpa using hb)
  · cases c with
    | nil => simp at hn; exact absurd hn hb
    | cons y c => cases hc; exact ⟨c, by simp, rfl⟩

theorem readBytesAux_line (final : Error) {b rest : Bytes} (hb : (10 : UInt8) ∉ b)
    (buf : Bytes) (src : List Chunk) (hs : buf ++ (streamSplit src).1 = b ++ [10] ++ rest) :
    ∃ buf' src', readBytesAux final buf src = (.ok (b ++ [10]), buf', src') ∧
      buf' ++ (streamSplit src').1 = rest ∧ (streamSplit src').2 = (streamSplit src).2 := by
  by_cases hn : (10 : UInt8) ∈ buf
  · obtain ⟨t, rfl, ht⟩ := line_in_buffer hb hs hn
    exact ⟨t, src, readBytesAux_of_some (splitLine_line hb t), ht, rfl⟩
  induction buf, src using readBytesAux.induct final with
  | case1 buf l r src hl => exact absurd (splitLine_some hl).2 (by rw [splitLine_eq_none hn] at hl; cases hl)
  | case2 buf _ =>
    exact absurd (by rw [show buf = b ++ [10] ++ rest by simpa [streamSplit] using hs]; simp) hn
  | case3 buf bs src hl ih =>
    by_cases hn' : (10 : UInt8) ∈ buf ++ bs
    · obtain ⟨t, ht, ht'⟩ := line_in_buffer hb (by simpa [streamSplit] using hs) hn'
      refine ⟨t, src, ?_, ht', rfl⟩
      rw [readBytesAux_data hl, ht, readBytesAux_of_some (splitLine_line hb t)]
    · obtain ⟨buf', src', h, h1, h2⟩ := ih (by simpa [streamSplit] using hs) hn'
      exact ⟨buf', src', by rw [readBytesAux_data hl, h], h1, h2⟩
  | case4 buf e src _ =>
    exact absurd (by rw [show buf = b ++ [10] ++ rest by simpa [streamSplit] using hs]; simp) hn

/-- A line at the front of the stream is what `ReadBytes('\n')` returns, whatever the
    reads it is split into. -/
theorem readBytes_line {r : Reader} {b rest : Bytes} (hb : (10 : UInt8) ∉ b)
    (hs : r.stream = b ++ [10] ++ rest) :
    r.readBytes.1 = .ok (b ++ [10]) ∧ r.readBytes.2.stream = rest ∧
      r.readBytes.2.after = r.after := by
  obtain ⟨buf', src', h, h1, h2⟩ := readBytesAux_line r.final hb r.buf r.src hs
  simp [Reader.readBytes, h, Reader.stream, Reader.after, h1, h2]

theorem streamSplit_length_le (src : List Chunk) :
    (streamSplit src).1.length ≤ (src.map Chunk.size).sum := by
  induction src with
  | nil => simp [streamSplit]
  | cons c src ih =>
    cases c with
    | data bs => simp only [streamSplit, List.map_cons, Chunk.size, List.sum_cons]; simp; omega
    | fail e => simp [streamSplit]

theorem Reader.stream_length_le (r : Reader) : r.stream.length ≤ r.size := by
  have := streamSplit_length_le r.src
  simp only [Reader.stream, Reader.size, List.length_append]; omega

/-! ## Dot-stuffing -/

theorem unstuffLine_stuffLine (l : Bytes) : unstuffLine (stuffLine l) = l := by
  unfold stuffLine; split <;> simp_all [unstuffLine]

theorem IsLine.stuffLine {l : Bytes} (h : IsLine l) : IsLine (stuffLine l) := by
  obtain ⟨b, rfl, hb⟩ := h
  cases b with
  | nil => exact ⟨[], rfl, by simp⟩
  | cons x b =>
    by_cases hx : x = 46
    · subst hx; exact ⟨46 :: 46 :: b, rfl, by simpa using hb⟩
    · exact ⟨x :: b, by simp [Icesmtp.stuffLine, hx], hb⟩

theorem length_le_stuffLine (l : Bytes) : l.length ≤ (stuffLine l).length := by
  unfold stuffLine; split <;> simp

theorem IsLine.unstuffLine {l : Bytes} (h : IsLine l) : IsLine (unstuffLine l) := by
  obtain ⟨b, rfl, hb⟩ := h
  cases b with
  | nil => exact ⟨[], rfl, by simp⟩
  | cons x b =>
    by_cases hx : x = 46
    · subst hx; exact ⟨b, rfl, fun h => hb (List.mem_cons_of_mem _ h)⟩
    · exact ⟨x :: b, by simp [Icesmtp.unstuffLine, hx], hb⟩

theorem length_unstuffLine_le (l : Bytes) : (unstuffLine l).length ≤ l.length := by
  unfold unstuffLine; split <;> simp

theorem trimSuffix_append (y suf : Bytes) : trimSuffix (y ++ suf) suf = y := by
  simp [trimSuffix, List.isSuffixOf_iff_suffix.2 (List.suffix_append y suf)]

theorem trimSuffix_newline {b : Bytes} (h : (10 : UInt8) ∉ b) : trimSuffix b [10] = b := by
  have : ¬[(10 : UInt8)].isSuffixOf b := by
    rw [List.isSuffixOf_iff_suffix]; rintro ⟨t, rfl⟩; simp at h
  simp [trimSuffix, this]

/-- A line is a terminator when it is `.` with its line ending. -/
theorem isTerminator_line {b : Bytes} (hb : (10 : UInt8) ∉ b) :
    isTerminator (b ++ [10]) = true ↔ b = [46, 13] ∨ b = [46] := by
  rcases List.eq_nil_or_concat b with rfl | ⟨c, x, rfl⟩
  · decide
  simp only [List.concat_eq_append] at hb ⊢
  have hc : (10 : UInt8) ∉ c := fun h => hb (List.mem_append_left _ h)
  by_cases hx : x = 13
  · -- a CRLF ending
    subst hx
    rw [isTerminator, List.append_assoc, show [(13 : UInt8)] ++ [10] = crlf from rfl,
      trimSuffix_append, trimSuffix_newline hc]
    rcases c with _ | ⟨a, _ | ⟨d, c⟩⟩ <;> simp
  · -- a bare LF ending
    have h1 : trimSuffix (c ++ [x] ++ [10]) crlf = c ++ [x] ++ [10] := by
      simp [trimSuffix, List.isSuffixOf, crlf, List.isPrefixOf, Ne.symm hx]
    rw [isTerminator, h1, trimSuffix_append]
    rcases c with _ | ⟨a, _ | ⟨d, c⟩⟩ <;> simp [hx]

/-- No dot-stuffed line is a terminator. -/
theorem isTerminator_stuffLine {l : Bytes} (h : IsLine l) : isTerminator (stuffLine l) = false := by
  obtain ⟨b, rfl, hb⟩ := h
  rw [← Bool.not_eq_true]
  cases b with
  | nil => decide
  | cons x b =>
    by_cases hx : x = 46
    · subst hx
      rw [show stuffLine ((46 :: b) ++ [10]) = (46 :: 46 :: b) ++ [10] from rfl,
        @isTerminator_line (46 :: 46 :: b) (by simpa using hb)]
      simp
    · rw [show stuffLine ((x :: b) ++ [10]) = (x :: b) ++ [10] by simp [stuffLine, hx],
        isTerminator_line hb]
      simp [hx]

/-! ## The body by lines -/

/-- `readData` on a body given by its lines before dot-stuffing: each line is checked as it
    goes on the wire (stuffed, with its line ending) against `MaxLineLength`, and with the
    unstuffed bytes kept so far against `MaxMessageSize`. -/
def readBody (maxLine maxMsg : Int) (buf : Bytes) : List Bytes → Except Error Bytes
  | [] => .ok buf
  | l :: ls =>
    if 0 < maxLine ∧ maxLine < (stuffLine l).length then .error .lineTooLong
    else if 0 < maxMsg ∧ maxMsg < (buf.length + (stuffLine l).length : Nat) then
      .error .messageTooLarge
    else readBody maxLine maxMsg (buf ++ l) ls

/-- `readBody` keeps every line while neither limit is broken. -/
theorem readBody_of_le {maxLine maxMsg : Int} (buf : Bytes) (Ls : List Bytes)
    (hline : maxLine ≤ 0 ∨ ∀ l ∈ Ls, ((stuffLine l).length : Int) ≤ maxLine)
    (hsize : maxMsg ≤ 0 ∨ ((buf.length + (Ls.map stuffLine).flatten.length : Nat) : Int) ≤ maxMsg) :
    readBody maxLine maxMsg buf Ls = .ok (buf ++ Ls.flatten) := by
  induction Ls generalizing buf with
  | nil => simp [readBody]
  | cons l Ls ih =>
    have hll := length_le_stuffLine l
    simp only [List.map_cons, List.flatten_cons, List.length_append] at hsize
    rw [readBody, if_neg, if_neg, ih, List.flatten_cons, List.append_assoc]
    · exact hline.imp_right fun h l' hl' => h l' (List.mem_cons_of_mem l hl')
    · exact hsize.imp_right fun h => by simp only [List.length_append]; omega
    · rintro ⟨hpos, hlt⟩; rcases hsize with h | h <;> omega
    · rintro ⟨hpos, hlt⟩
      rcases hline with h | h
      · omega
      · have := h l (List.mem_cons_self l Ls); omega

/-! ## Reading the body -/

namespace Engine

section
variable (w : World)

/-- One line of `readData` while the context is not cancelled. -/
theorem readDataLoop_succ {fuel : Nat} {buf : Bytes} {e : Engine} (hctx : w.ctxErr e.clock = none)
    {line : Bytes} {conn : Reader} (hr : e.conn.readBytes = (.ok line, conn)) :
    readDataLoop w (fuel + 1) buf e =
      if isTerminator line then (.ok buf, { e.tick with conn })
      else if 0 < e.config.limits.maxLineLength ∧
          e.config.limits.maxLineLength < line.length then (.error .lineTooLong, { e.tick with conn })
      else if 0 < e.config.limits.maxMessageSize ∧
          e.config.limits.maxMessageSize < (buf.length + line.length : Nat) then
        (.error .messageTooLarge, { e.tick with conn })
      else readDataLoop w fuel (buf ++ unstuffLine line) { e.tick with conn } := by
  rw [readDataLoop, hctx]
  simp only [readLine_eq, tick_conn, tick_config, hr]

/-- `readData` on the dot-stuffed lines `Ls` and the terminator is `readBody` on `Ls`; when it
    succeeds, the rest of the stream is left unread. -/
theorem readDataLoop_lines (hctx : ∀ n, w.ctxErr n = none) (R : Bytes) (Ls : List Bytes) :
    ∀ (fuel : Nat) (buf : Bytes) (e : Engine),
      (∀ l ∈ Ls, IsLine l) → Ls.length < fuel →
      e.conn.stream = (Ls.map stuffLine).flatten ++ ascii ".\r\n" ++ R →
      (readDataLoop w fuel buf e).1 =
          readBody e.config.limits.maxLineLength e.config.limits.maxMessageSize buf Ls ∧
        ((readDataLoop w fuel buf e).1 = .ok (buf ++ Ls.flatten) →
          (readDataLoop w fuel buf e).2.conn.stream = R ∧
            (readDataLoop w fuel buf e).2.conn.after = e.conn.after) := by
  induction Ls with
  | nil =>
    rintro (_ | fuel) buf e - hn hs
    · cases hn
    obtain ⟨h1, h2, h3⟩ := @readBytes_line e.conn [46, 13] R (by decide) (by rw [hs]; rfl)
    rcases hr : e.conn.readBytes with ⟨res, conn⟩
    rw [hr] at h1 h2 h3; cases h1
    rw [readDataLoop_succ w (hctx _) hr, if_pos (by decide)]
    exact ⟨rfl, fun _ => ⟨h2, h3⟩⟩
  | cons l Ls ih =>
    rintro (_ | fuel) buf e hL hn hs
    · cases hn
    have hl := hL l (List.mem_cons_self l Ls)
    obtain ⟨b, hb, hb10⟩ := hl.stuffLine
    obtain ⟨h1, h2, h3⟩ := @readBytes_line e.conn b ((Ls.map stuffLine).flatten ++ ascii ".\r\n" ++ R)
      hb10 (by rw [hs, ← hb]; simp)
    rcases hr : e.conn.readBytes with ⟨res, conn⟩
    rw [hr] at h1 h2 h3; cases h1
    rw [readDataLoop_succ w (hctx _) hr, ← hb, isTerminator_stuffLine hl, if_neg (by simp), readBody]
    split_ifs
    · exact ⟨rfl, nofun⟩
    · exact ⟨rfl, nofun⟩
    · obtain ⟨r1, r2⟩ := ih fuel (buf ++ l) { e.tick with conn }
        (fun l' hl' => hL l' (List.mem_cons_of_mem l hl'))
        (by simp only [List.length_cons] at hn; omega) h2
      rw [unstuffLine_stuffLine]
      exact ⟨r1, fun h => have r := r2 (by simpa using h); ⟨r.1, r.2.trans h3⟩⟩

/-- A body line that `readData` keeps: a line, not the terminator, within `MaxLineLength`
    when that is set. -/
structure BodyLine (maxLineLength : Int) (l : Bytes) : Prop where
  isLine : IsLine l
  not_terminator : isTerminator l = false
  length_le : 0 < maxLineLength → (l.length : Int) ≤ maxLineLength

/-- What a successful `readData` consumed: body lines and a terminator line from the front of
    the stream, and what it returns is the unstuffed body lines. -/
theorem readDataLoop_ok {fuel : Nat} {buf : Bytes} {e e' : Engine} {data : Bytes}
    (h : readDataLoop w fuel buf e = (.ok data, e')) :
    ∃ (ls : List Bytes) (t : Bytes), (∀ l ∈ ls, BodyLine e.config.limits.maxLineLength l) ∧ IsLine t ∧
      isTerminator t = true ∧ e.conn.stream = ls.flatten ++ t ++ e'.conn.stream ∧
      e'.conn.after = e.conn.after ∧ data = buf ++ (ls.map unstuffLine).flatten := by
  induction fuel generalizing buf e with
  | zero => cases h
  | succ fuel ih =>
    rcases hc : w.ctxErr e.clock with _ | err
    · rcases hr : e.conn.readBytes with ⟨_ | line, conn⟩
      · rw [readDataLoop, hc] at h
        simp only [readLine_eq, tick_conn, hr] at h
        cases h
      obtain ⟨hl, hs, ha⟩ := readBytes_ok hr
      rw [readDataLoop_succ w hc hr] at h
      by_cases ht : isTerminator line
      · rw [if_pos ht] at h; cases h
        exact ⟨[], line, by simp, hl, ht, by simpa using hs, ha, by simp⟩
      rw [if_neg ht] at h
      split_ifs at h with hll hms
      · cases h
      · cases h
      obtain ⟨ls, t, hls, htl, htt, hs', ha', hd⟩ := ih h
      refine ⟨line :: ls, t, ?_, htl, htt, ?_, ha'.trans ha, by simpa using hd⟩
      · simp only [tick_config] at hls
        refine List.forall_mem_cons.2 ⟨⟨hl, by simpa using ht, fun hpos => ?_⟩, hls⟩
        by_contra hgt; exact hll ⟨hpos, by omega⟩
      · rw [hs, hs']; simp
    · rw [readDataLoop, hc] at h; cases h

/-- `readData` as `readDataLoop_ok` says, from the empty body. -/
theorem readData_ok {e : Engine} {data : Bytes} (h : (e.readData w).1 = .ok data) :
    ∃ (ls : List Bytes) (t : Bytes), (∀ l ∈ ls, BodyLine e.config.limits.maxLineLength l) ∧ IsLine t ∧
      isTerminator t = true ∧ e.conn.stream = ls.flatten ++ t ++ (e.readData w).2.conn.stream ∧
      (e.readData w).2.conn.after = e.conn.after ∧ data = (ls.map unstuffLine).flatten := by
  simpa using readDataLoop_ok w (Prod.ext h rfl)

theorem length_le_stuffed {Ls : List Bytes} (hL : ∀ l ∈ Ls, IsLine l) :
    Ls.length ≤ (Ls.map stuffLine).flatten.length := by
  induction Ls with
  | nil => simp
  | cons l Ls ih =>
    obtain ⟨b, hb, -⟩ := (hL l (List.mem_cons_self l Ls)).stuffLine
    have h1 := congrArg List.length hb
    have h2 := ih fun l' hl' => hL l' (List.mem_cons_of_mem l hl')
    simp only [List.length_append, List.length_singleton] at h1
    simp only [List.length_cons, List.map_cons, List.flatten_cons, List.length_append]
    omega

/-- `readData` on a dot-stuffed body: `readBody` on its lines, from the empty body. -/
theorem readData_lines (hctx : ∀ n, w.ctxErr n = none) (Ls : List Bytes) (R : Bytes)
    {e : Engine} (hL : ∀ l ∈ Ls, IsLine l)
    (hs : e.conn.stream = (Ls.map stuffLine).flatten ++ ascii ".\r\n" ++ R) :
    (e.readData w).1 = readBody e.config.limits.maxLineLength e.config.limits.maxMessageSize [] Ls ∧
      ((e.readData w).1 = .ok Ls.flatten →
        (e.readData w).2.conn.stream = R ∧ (e.readData w).2.conn.after = e.conn.after) := by
  have h1 := length_le_stuffed hL
  have h2 := e.conn.stream_length_le
  rw [hs] at h2
  simp only [List.length_append] at h2
  simpa using readDataLoop_lines w hctx R Ls (e.conn.size + 1) [] e hL (by omega) hs

/-- The DATA round trip: when the stream after the `354` is the dot-stuffed lines, the
    terminator and `R`, and the context is not cancelled, `readData` returns the lines and
    leaves `R` to the command loop. -/
theorem readData_unstuffs (hctx : ∀ n, w.ctxErr n = none) (Ls : List Bytes) (R : Bytes)
    {e : Engine} (hL : ∀ l ∈ Ls, IsLine l)
    (hs : e.conn.stream = (Ls.map stuffLine).flatten ++ ascii ".\r\n" ++ R)
    (hline : e.config.limits.maxLineLength ≤ 0 ∨
      ∀ l ∈ Ls, ((stuffLine l).length : Int) ≤ e.config.limits.maxLineLength)
    (hsize : e.config.limits.maxMessageSize ≤ 0 ∨
      ((Ls.map stuffLine).flatten.length : Int) ≤ e.config.limits.maxMessageSize) :
    (e.readData w).1 = .ok Ls.flatten ∧ (e.readData w).2.conn.stream = R ∧
      (e.readData w).2.conn.after = e.conn.after := by
  obtain ⟨h1, h2⟩ := readData_lines w hctx Ls R hL hs
  have hok := h1.trans (by simpa using readBody_of_le [] Ls hline (by simpa using hsize))
  exact ⟨hok, h2 hok⟩

end

/-- A body line that starts with a dot, split across two reads with the terminator and the
    next command. -/
def splitBodyEngine : Engine :=
  Engine.new { serverHostname := ascii "mx" }
    { buf := [], src := [.data (ascii "..hi\r\n."), .data (ascii "\r\nQUIT\r\n")], final := .eof }
    [] []

theorem readData_unstuffs_split_reads :
    (splitBodyEngine.readData quietWorld).1 = .ok (ascii ".hi\r\n") ∧
      (splitBodyEngine.readData quietWorld).2.conn.stream = ascii "QUIT\r\n" ∧
      (splitBodyEngine.readData quietWorld).2.conn.after = splitBodyEngine.conn.after :=
  readData_unstuffs quietWorld (fun _ => rfl) [ascii ".hi\r\n"] (ascii "QUIT\r\n")
    (by simpa using ⟨ascii ".hi\r", rfl, by decide⟩) (by decide) (.inl (by decide)) (.inl (by decide))

/-- The context of the session is cancelled. -/
def canceledWorld : World := { quietWorld with ctxErr := fun _ => some .contextCanceled }

/-- The body is only the terminator. -/
def terminatorEngine : Engine :=
  Engine.new { serverHostname := ascii "mx" } { buf := ascii ".\r\n", src := [], final := .eof } [] []

/-- With the context cancelled, `readData` returns its error even though the stream holds a
    whole body. -/
theorem readData_canceled_context :
    terminatorEngine.conn.stream = (([] : List Bytes).map stuffLine).flatten ++ ascii ".\r\n" ∧
      (terminatorEngine.readData canceledWorld).1 = .error .contextCanceled := by
  decide

/-- A client whose body has a line over `MaxLineLength` and then a line that spells a
    command, to a server with an `OnCommand` hook. -/
def longLineSession : Engine :=
  Engine.new { serverHostname := ascii "mx", limits := { maxLineLength := 20 }, hooks := true }
    { buf := [], final := .eof,
      src := [.data (ascii "HELO c\r\nMAIL FROM:<a@b>\r\nRCPT TO:<u@x>\r\nDATA\r\n"),
        .data (ascii "0123456789012345678901234\r\nRCPT TO:<evil@x>\r\n.\r\nQUIT\r\n")] }
    [] []

/-- The body line `RCPT TO:<evil@x>` after the over-long line is read by the command loop:
    it is parsed, and passed to the `OnCommand` hook. -/
theorem line_too_long_body_parsed :
    Event.command (ascii "RCPT TO:<evil@x>\r\n")
        (.ok { verb := .rcpt, raw := ascii "RCPT TO:<evil@x>", argument := ascii "TO:<evil@x>" }) ∈
        (longLineSession.run quietWorld 5).1.log ∧
      Event.onCommand { verb := .rcpt, raw := ascii "RCPT TO:<evil@x>", argument := ascii "TO:<evil@x>" } ∈
        (longLineSession.run quietWorld 5).1.log := by
  decide

end Engine

end Icesmtp
