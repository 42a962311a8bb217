/-
  icesmtp formalization — replies on the wire (`Response.String`).

  `WireReply d` is the framing of one reply whose code is written `d`: lines `d-text`
  CRLF, then `d text` CRLF or `d` CRLF, no text holding a CR or LF.

  * `decimal_bytes`: `%d` writes digits and `-` only, so `decimal_three`: a code in
    100..999 is written as its three digits;
  * `Response.string_wire`: a response whose lines hold no CR or LF is written as one
    `WireReply`, whatever its enhanced code (`Response.Clean.framed`).
-/
import Mathlib.Data.Nat.Digits
import Icesmtp.Reply

namespace Icesmtp

/-! ## `%d` -/

theorem digitChar_toNat : ∀ d, d < 10 → (Nat.digitChar d).toNat = 48 + d := by decide

theorem toDigitsCore_digits (f n : Nat) (ds : List Char)
    (hds : ∀ c ∈ ds, 48 ≤ c.toNat ∧ c.toNat ≤ 57) :
    ∀ c ∈ Nat.toDigitsCore 10 f n ds, 48 ≤ c.toNat ∧ c.toNat ≤ 57 := by
  induction f generalizing n ds with
  | zero => exact hds
  | succ f ih =>
    have hd : 48 ≤ (Nat.digitChar (n % 10)).toNat ∧ (Nat.digitChar (n % 10)).toNat ≤ 57 := by
      rw [digitChar_toNat _ (Nat.mod_lt _ (by decide))]; omega
    have hds' : ∀ c ∈ Nat.digitChar (n % 10) :: ds, 48 ≤ c.toNat ∧ c.toNat ≤ 57 := by
      simpa [hd] using hds
    rw [Nat.toDigitsCore]
    split
    · exact hds'
    · exact ih _ _ hds'

/-- Every byte `%d` writes is a digit or `-`. -/
theorem decimal_bytes (n : Int) : ∀ b ∈ decimal n, b = 45 ∨ 48 ≤ b.toNat ∧ b.toNat ≤ 57 := by
  have hnat : ∀ m : Nat, ∀ c ∈ (toString m).toList, 48 ≤ c.toNat ∧ c.toNat ≤ 57 := fun m =>
    toDigitsCore_digits _ m [] (by simp)
  intro b hb
  simp only [decimal, ascii, List.mem_map] at hb
  obtain ⟨c, hc, rfl⟩ := hb
  have hc' : c = '-' ∨ 48 ≤ c.toNat ∧ c.toNat ≤ 57 := by
    cases n with
    | ofNat m => exact .inr (hnat m c hc)
    | negSucc m =>
      change c ∈ '-' :: (toString (m + 1)).toList at hc
      rcases List.mem_cons.1 hc with rfl | hc
      · exact .inl rfl
      · exact .inr (hnat _ c hc)
  rcases hc' with rfl | hc'
  · exact .inl rfl
  · right
    have hlt : c.toNat < 256 := by omega
    rw [UInt8.toNat_ofNat_of_lt hlt]
    exact hc'

/-- `%d` of a three-digit number is its three digits. -/
theorem decimal_three {c : Nat} (h1 : 100 ≤ c) (h2 : c < 1000) :
    decimal c = [(48 + c / 100).toUInt8, (48 + c / 10 % 10).toUInt8, (48 + c % 10).toUInt8] := by
  obtain ⟨k, rfl⟩ : ∃ k, c = k + 2 + 1 := ⟨c - 3, by omega⟩
  have e1 : (k + 2 + 1) / 10 ≠ 0 := by omega
  have e2 : (k + 2 + 1) / 10 / 10 ≠ 0 := by omega
  have e3 : (k + 2 + 1) / 10 / 10 / 10 = 0 := by omega
  show (Nat.toDigitsCore 10 (k + 2 + 1 + 1) (k + 2 + 1) []).map (fun c => c.toNat.toUInt8) = _
  rw [Nat.toDigitsCore, if_neg e1, Nat.toDigitsCore, if_neg e2, Nat.toDigitsCore, if_pos e3]
  simp only [List.map_cons, List.map_nil, digitChar_toNat _ (Nat.mod_lt _ (by decide : 10 > 0))]
  rw [show (k + 2 + 1) / 10 / 10 % 10 = (k + 2 + 1) / 100 by omega]

/-- A text that holds neither CR nor LF. -/
def NoCrLf (t : Bytes) : Prop := (13 : UInt8) ∉ t ∧ (10 : UInt8) ∉ t

instance : DecidablePred NoCrLf := fun _ => inferInstanceAs (Decidable (_ ∧ _))

@[simp] theorem noCrLf_append (a b : Bytes) : NoCrLf (a ++ b) ↔ NoCrLf a ∧ NoCrLf b := by
  simp only [NoCrLf, List.mem_append, not_or]
  tauto

theorem decimal_no_crlf (n : Int) : NoCrLf (decimal n) := by
  constructor <;> intro h <;> rcases decimal_bytes n _ h with h | h <;> revert h <;> decide

theorem EnhancedStatusCode.string_no_crlf (e : EnhancedStatusCode) : NoCrLf e.string := by
  simp only [EnhancedStatusCode.string, noCrLf_append, decimal_no_crlf, and_true, true_and]
  decide

/-! ## Replies -/

/-- One reply on the wire, with the code written as `d`: lines `d-text` CRLF, then the last
    line `d text` CRLF or `d` CRLF, where no text holds a CR or LF. -/
inductive WireReply (d : Bytes) : Bytes → Prop
  | bare : WireReply d (d ++ crlf)
  | last {t : Bytes} : NoCrLf t → WireReply d (d ++ 32 :: t ++ crlf)
  | more {t rest : Bytes} : NoCrLf t → WireReply d rest → WireReply d (d ++ 45 :: t ++ crlf ++ rest)

/-- The text of a line of `r` after the separator: the enhanced code, if any, and the line. -/
def Response.text (r : Response) (line : Bytes) : Bytes :=
  match r.enhancedCode with
  | some e => e.string ++ ascii " " ++ line
  | none => line

theorem Response.formatLine_eq (r : Response) (sep : UInt8) (line : Bytes) :
    r.formatLine sep line = decimal r.code ++ sep :: r.text line ++ crlf := by
  unfold formatLine text
  cases r.enhancedCode <;> simp [List.append_assoc]

theorem Response.text_no_crlf (r : Response) {line : Bytes} (h : NoCrLf line) :
    NoCrLf (r.text line) := by
  unfold text
  cases r.enhancedCode with
  | none => exact h
  | some e => simpa [e.string_no_crlf, h] using (by decide : NoCrLf (ascii " "))

/-- `Response.String` of a response whose lines hold no CR or LF is one reply on the wire. -/
theorem Response.string_wire (r : Response) (hl : ∀ t ∈ r.lines, NoCrLf t) :
    WireReply (decimal r.code) r.string := by
  have hlines : ∀ (ls : List Bytes) (last : Bytes), (∀ t ∈ ls, NoCrLf t) → NoCrLf last →
      WireReply (decimal r.code) ((ls.flatMap fun l => r.formatLine 45 l) ++ r.formatLine 32 last) := by
    intro ls last hls hlast
    induction ls with
    | nil =>
      rw [List.flatMap_nil, List.nil_append, formatLine_eq]
      exact .last (r.text_no_crlf hlast)
    | cons l ls ih =>
      rw [List.flatMap_cons, List.append_assoc, formatLine_eq]
      simpa only [List.append_assoc, List.cons_append] using
        WireReply.more (r.text_no_crlf (hls l (.head _))) (ih fun t ht => hls t (.tail _ ht))
  unfold Response.string
  rcases hlast : r.lines.getLast? with _ | last
  · cases r.enhancedCode with
    | none => exact .bare
    | some e =>
      simpa only [List.append_assoc] using
        (WireReply.last e.string_no_crlf : WireReply (decimal r.code) _)
  · exact hlines _ _ (fun t ht => hl t (List.dropLast_subset _ ht))
      (hl last (List.mem_of_getLast?_eq_some hlast))

/-! ## Clean responses -/

/-- A response the engine can write as one framed reply: a code in 200..599 and lines that
    hold no CR or LF. -/
def Response.Clean (r : Response) : Prop :=
  (200 ≤ r.code ∧ r.code ≤ 599) ∧ ∀ t ∈ r.lines, NoCrLf t

instance : DecidablePred Response.Clean := fun r =>
  inferInstanceAs (Decidable ((200 ≤ r.code ∧ r.code ≤ 599) ∧ ∀ t ∈ r.lines, NoCrLf t))

/-- A reply framed on the wire: a code in 200..599, written as `WireReply`. -/
def Response.Framed (r : Response) : Prop :=
  200 ≤ r.code ∧ r.code ≤ 599 ∧ WireReply (decimal r.code) r.string

theorem Response.Clean.framed {r : Response} (h : r.Clean) : r.Framed :=
  ⟨h.1.1, h.1.2, r.string_wire h.2⟩

theorem newResponse_clean {c : ReplyCode} {t : Bytes} (hc : 200 ≤ c ∧ c ≤ 599) (ht : NoCrLf t) :
    (newResponse c t).Clean :=
  ⟨hc, fun t' h => by rw [List.mem_singleton.1 h]; exact ht⟩

end Icesmtp
