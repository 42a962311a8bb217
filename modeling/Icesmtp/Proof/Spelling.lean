/-
  icesmtp formalization — the spellings of a command verb that `ParseCommand`
  accepts (`Parser.ParseCommand`, `ParseCommandVerb`, `strings.ToUpper`).

  `ParseCommandVerb` upper-cases the trimmed verb with `strings.ToUpper`, which
  maps rune by rune with `unicode.ToUpper`.  Besides the ASCII letters of a
  verb in either case, `ı` (U+0131) upper-cases to `I` and `ſ` (U+017F) to
  `S`, so the verbs with those letters have spellings outside ASCII (`Spells`).

  * `decodeRune_take`: a rune below U+0800 is decoded from its own encoding;
  * `toUpper_eq_iff_spells`: `strings.ToUpper u` is an upper-case ASCII word
    exactly when `u` spells it;
  * `Parser.parseCommand_ok_iff`: what `ParseCommand` accepts, for every line.
-/
import Icesmtp.Parser

namespace Icesmtp

/-! ## Bytes as numbers -/

theorem byte_lt_iff {a b : UInt8} : a < b ↔ a.toNat < b.toNat := Iff.rfl

theorem byte_le_iff {a b : UInt8} : a ≤ b ↔ a.toNat ≤ b.toNat := Iff.rfl

theorem byte_eq_iff {a b : UInt8} : a = b ↔ a.toNat = b.toNat := ⟨congrArg _, UInt8.toNat.inj⟩

theorem byte_toNat_lt (a : UInt8) : a.toNat < 256 := UInt8.toNat_lt_size a

theorem byte_toNat_add_32 (a : UInt8) : (a + 32).toNat = (a.toNat + 32) % 256 :=
  BitVec.toNat_add _ _

theorem byte_toNat_sub_32 (a : UInt8) : (a - 32).toNat = (224 + a.toNat) % 256 :=
  BitVec.toNat_sub _ _

theorem toNat_toUInt8 {n : Nat} (h : n < 256) : n.toUInt8.toNat = n := UInt8.toNat_ofNat_of_lt h

/-! ## UTF-8 -/

/-- The sequences `leadInfo` admits: two bytes from `C2`, three from `E0` (from `E0 A0`),
    four from `F0` (from `F0 90`) to `F4`, every further byte a continuation byte. -/
theorem leadInfo_some {b : UInt8} {n : Nat} {lo hi : UInt8} (h : leadInfo b = some (n, lo, hi)) :
    0x80 ≤ lo.toNat ∧ hi.toNat ≤ 0xBF ∧
      (n = 2 ∧ 0xC2 ≤ b.toNat ∧ b.toNat ≤ 0xDF ∨
       n = 3 ∧ 0xE0 ≤ b.toNat ∧ b.toNat ≤ 0xEF ∧ (b.toNat = 0xE0 → 0xA0 ≤ lo.toNat) ∨
       n = 4 ∧ 0xF0 ≤ b.toNat ∧ b.toNat ≤ 0xF4 ∧ (b.toNat = 0xF0 → 0x90 ≤ lo.toNat)) := by
  unfold leadInfo at h
  simp only [apply_ite (· = some (n, lo, hi)), reduceCtorEq, Option.some.injEq, Prod.mk.injEq,
    byte_lt_iff, byte_le_iff, byte_eq_iff, UInt8.reduceToNat] at h
  generalize b.toNat = k at h ⊢
  by_cases h1 : k < 194
  · rw [if_pos h1] at h; exact h.elim
  rw [if_neg h1] at h
  by_cases h2 : k ≤ 223
  · rw [if_pos h2] at h; omega
  rw [if_neg h2] at h
  by_cases h3 : k = 224
  · rw [if_pos h3] at h; omega
  rw [if_neg h3] at h
  by_cases h4 : k = 237
  · rw [if_pos h4] at h; omega
  rw [if_neg h4] at h
  by_cases h5 : k ≤ 239
  · rw [if_pos h5] at h; omega
  rw [if_neg h5] at h
  by_cases h6 : k = 240
  · rw [if_pos h6] at h; omega
  rw [if_neg h6] at h
  by_cases h7 : k ≤ 243
  · rw [if_pos h7] at h; omega
  rw [if_neg h7] at h
  by_cases h8 : k = 244
  · rw [if_pos h8] at h; omega
  rw [if_neg h8] at h
  exact h.elim

/-- A non-empty sequence decodes to a rune of width between one and its length. -/
theorem decodeRune_width {b : UInt8} {s : Bytes} {r n : Nat} (h : decodeRune (b :: s) = (r, n)) :
    1 ≤ n ∧ n ≤ s.length + 1 := by
  rw [decodeRune.eq_def] at h; dsimp only at h
  by_cases hb : b < 0x80
  · rw [if_pos hb] at h; cases h; simp
  · rw [if_neg hb] at h
    split at h <;> (try split_ifs at h) <;> cases h <;> simp

theorem decodeRune_ascii {b : UInt8} (hb : b < 0x80) (s : Bytes) :
    decodeRune (b :: s) = (b.toNat, 1) := by
  rw [decodeRune.eq_def]; dsimp only; rw [if_pos hb]

theorem runes_succ (fuel : Nat) (b : UInt8) (s : Bytes) :
    runes (fuel + 1) (b :: s) =
      ((decodeRune (b :: s)).1, (b :: s).take (decodeRune (b :: s)).2) ::
        runes fuel ((b :: s).drop (decodeRune (b :: s)).2) := rfl

theorem encodeRune_ascii {r : Nat} (h : r < 0x80) : encodeRune r = [r.toUInt8] := by
  have hs : ¬(0xD800 ≤ r ∧ r ≤ 0xDFFF ∨ 0x10FFFF < r) := by omega
  simp only [encodeRune, hs, if_false, h, if_true]

theorem encodeRune_two {r : Nat} (h1 : 0x80 ≤ r) (h2 : r < 0x800) :
    encodeRune r = [(0xC0 + r / 64).toUInt8, (0x80 + r % 64).toUInt8] := by
  have hs : ¬(0xD800 ≤ r ∧ r ≤ 0xDFFF ∨ 0x10FFFF < r) := by omega
  simp only [encodeRune, hs, if_false, if_neg (show ¬r < 0x80 by omega), h2, if_true]

/-- A rune below U+0800 is decoded from its own UTF-8 encoding. -/
theorem decodeRune_take {s : Bytes} {r n : Nat} (h : decodeRune s = (r, n)) (hr : r < 0x800) :
    s.take n = encodeRune r := by
  match s, h with
  | [], h => cases h; simp [runeError] at hr
  | b0 :: p, h =>
    have h0 := byte_toNat_lt b0
    rw [decodeRune.eq_def] at h; dsimp only at h
    by_cases hb : b0 < 0x80
    · rw [if_pos hb] at h
      cases h
      have hb' : b0.toNat < 0x80 := hb
      rw [encodeRune_ascii hb', UInt8.toNat.inj (toNat_toUInt8 h0)]
      rfl
    rw [if_neg hb] at h
    split at h
    · -- two bytes
      rename_i lo hi b1 _ hl
      obtain ⟨hlo, hhi, h2 | h3 | h4⟩ := leadInfo_some hl
      · split_ifs at h with hb1
        · cases h; simp [runeError] at hr
        cases h
        simp only [Bool.or_eq_true, decide_eq_true_eq, not_or, UInt8.not_lt, byte_le_iff] at hb1
        have h1 := byte_toNat_lt b1
        rw [encodeRune_two (by omega) (by omega)]
        simp only [List.take_succ_cons, List.take_zero, List.cons.injEq, and_true, byte_eq_iff]
        rw [toNat_toUInt8 (by omega), toNat_toUInt8 (by omega)]
        omega
      · omega
      · omega
    all_goals
      first
      | (cases h; simp [runeError] at hr)
      | (rename_i hl
         obtain ⟨hlo, hhi, h2 | h3 | h4⟩ := leadInfo_some hl
         · omega
         all_goals
           split_ifs at h with hb1
           · cases h; simp [runeError] at hr
           cases h
           simp only [Bool.or_eq_true, decide_eq_true_eq, not_or, UInt8.not_lt,
             byte_le_iff] at hb1
           omega)

/-- An encoding that starts with an ASCII byte is that one byte, of an ASCII rune. -/
theorem encodeRune_eq_cons {x : Nat} {c : UInt8} {more : Bytes} (h : encodeRune x = c :: more)
    (hc : c.toNat < 0x80) : x < 0x80 ∧ c.toNat = x ∧ more = [] := by
  unfold encodeRune at h
  generalize hr : (if (0xD800 ≤ x ∧ x ≤ 0xDFFF) ∨ 0x10FFFF < x then runeError else x) = r at h
  have hr' : r ≤ 0x10FFFF ∧ (r < 0x80 → r = x) := by
    subst hr; split_ifs <;> simp [runeError]; omega
  dsimp only at h
  split_ifs at h with h1 h2 h3 <;> simp only [List.cons.injEq] at h <;> obtain ⟨rfl, rfl⟩ := h
  · rw [toNat_toUInt8 (by omega)]; exact ⟨hr'.2 h1 ▸ h1, hr'.2 h1, rfl⟩
  all_goals rw [toNat_toUInt8 (by omega)] at hc; omega

/-- `unicode.ToUpper` on ASCII: it only moves `a`–`z`. -/
theorem toUpperRune_ascii {r : Nat} (h : r < 0x80) :
    toUpperRune r = if 0x61 ≤ r ∧ r ≤ 0x7A then r - 32 else r :=
  if_pos (Nat.le_of_lt_succ h)

/-- The runes `unicode.ToUpper` sends to an ASCII rune `c`: `c`, the lower case of an
    upper-case letter, `ı` for `I` and `ſ` for `S`. -/
theorem toUpperRune_eq_ascii {r c : Nat} (h : toUpperRune r = c) (hc : c < 0x80) :
    r = c ∨ (65 ≤ c ∧ c ≤ 90 ∧ r = c + 32) ∨ (c = 73 ∧ r = 0x131) ∨ (c = 83 ∧ r = 0x17F) := by
  by_cases hr : r < 0x80
  · rw [toUpperRune_ascii hr] at h
    split_ifs at h <;> omega
  rw [toUpperRune, if_neg (by omega)] at h
  rcases toCase_upper_lt_ascii (by omega) (h ▸ hc) with rfl | rfl
  · exact .inr (.inr (.inl ⟨by rw [← h]; decide, rfl⟩))
  · exact .inr (.inr (.inr ⟨by rw [← h]; decide, rfl⟩))

theorem toUpperRune_eq_letter {r c : Nat} (h : toUpperRune r = c) (hc1 : 65 ≤ c) (hc2 : c ≤ 90) :
    r = c ∨ r = c + 32 ∨ (c = 73 ∧ r = 0x131) ∨ (c = 83 ∧ r = 0x17F) :=
  (toUpperRune_eq_ascii h (by omega)).imp_right (.imp_left fun h' => h'.2.2)

/-! ## Spellings -/

/-- An upper-case ASCII word, such as a verb's name. -/
def IsUpperWord (w : Bytes) : Prop := ∀ c ∈ w, 65 ≤ c.toNat ∧ c.toNat ≤ 90

instance : DecidablePred IsUpperWord := fun w =>
  inferInstanceAs (Decidable (∀ c ∈ w, 65 ≤ c.toNat ∧ c.toNat ≤ 90))

/-- The encodings of the runes that `unicode.ToUpper` sends to the upper-case ASCII letter
    `c`: `c` itself, its lower case, and `ı` (U+0131) for `I` and `ſ` (U+017F) for `S`. -/
def upperSpellings (c : UInt8) : List Bytes :=
  [[c], [c + 32]] ++ (if c = 73 then [[0xC4, 0xB1]] else []) ++
    (if c = 83 then [[0xC5, 0xBF]] else [])

/-- `u` spells the word `w`, each letter by one of its `upperSpellings`. -/
inductive Spells : Bytes → Bytes → Prop
  | nil : Spells [] []
  | cons {bs u : Bytes} {c : UInt8} {w : Bytes} :
      bs ∈ upperSpellings c → Spells u w → Spells (bs ++ u) (c :: w)

/-- Each spelling of a letter is one rune, which `unicode.ToUpper` sends to the letter. -/
theorem upperSpellings_decode {c : UInt8} (hc : 65 ≤ c.toNat ∧ c.toNat ≤ 90) {bs : Bytes}
    (hbs : bs ∈ upperSpellings c) (s : Bytes) :
    ∃ r, decodeRune (bs ++ s) = (r, bs.length) ∧ encodeRune (toUpperRune r) = [c] := by
  have hc' := byte_toNat_lt c
  simp only [upperSpellings, List.mem_append, List.mem_cons, List.mem_singleton,
    List.not_mem_nil, or_false, List.mem_ite_nil_right, or_assoc] at hbs
  rcases hbs with rfl | rfl | ⟨rfl, rfl⟩ | ⟨rfl, rfl⟩
  · refine ⟨c.toNat, decodeRune_ascii (show c.toNat < 0x80 by omega) s, ?_⟩
    rw [toUpperRune_ascii (by omega), if_neg (by omega), encodeRune_ascii (by omega),
      UInt8.toNat.inj (toNat_toUInt8 hc')]
  · have h32 : (c + 32).toNat = c.toNat + 32 := by rw [byte_toNat_add_32]; omega
    refine ⟨c.toNat + 32, ?_, ?_⟩
    · rw [List.singleton_append, decodeRune_ascii (show (c + 32).toNat < 0x80 by omega), h32]; rfl
    rw [toUpperRune_ascii (by omega), if_pos (by omega), Nat.add_sub_cancel,
      encodeRune_ascii (by omega), UInt8.toNat.inj (toNat_toUInt8 hc')]
  · exact ⟨0x131, rfl, rfl⟩
  · exact ⟨0x17F, rfl, rfl⟩

/-- `strings.ToUpper` as its rune-by-rune mapping, also on ASCII input. -/
theorem toUpper_eq_runes (s : Bytes) :
    toUpper s = (runes s.length s).flatMap fun p => encodeRune (toUpperRune p.1) := by
  unfold toUpper
  split_ifs with h
  · suffices ∀ fuel (s : Bytes), s.length ≤ fuel → s.all (· < 0x80) →
        (s.map fun c => if 0x61 ≤ c && c ≤ 0x7A then c - 32 else c) =
          (runes fuel s).flatMap fun p => encodeRune (toUpperRune p.1) from this _ s le_rfl h
    intro fuel
    induction fuel with
    | zero => intro s hs _; rw [Nat.le_zero, List.length_eq_zero] at hs; subst hs; rfl
    | succ fuel ih =>
      rintro (_ | ⟨b, s⟩) hs ha
      · rfl
      simp only [List.all_cons, Bool.and_eq_true, decide_eq_true_eq] at ha
      have hb : b.toNat < 0x80 := ha.1
      rw [List.map_cons, runes_succ, decodeRune_ascii ha.1]
      simp only [List.take_succ_cons, List.take_zero, List.drop_succ_cons, List.drop_zero,
        List.flatMap_cons]
      rw [ih s (by simpa using hs) ha.2]
      have hb' := byte_toNat_lt b
      have he : encodeRune (toUpperRune b.toNat) =
          [if 0x61 ≤ b && b ≤ 0x7A then b - 32 else b] := by
        by_cases hl : 0x61 ≤ b.toNat ∧ b.toNat ≤ 0x7A
        · have hl' : (0x61 ≤ b && b ≤ 0x7A) = true := by simpa [byte_le_iff] using hl
          rw [if_pos hl', toUpperRune_ascii hb, if_pos hl, encodeRune_ascii (by omega)]
          simp only [List.cons.injEq, and_true, byte_eq_iff, byte_toNat_sub_32]
          rw [toNat_toUInt8 (by omega)]; omega
        · have hl' : (0x61 ≤ b && b ≤ 0x7A) = false := by simpa [byte_le_iff] using hl
          rw [if_neg (by simp [hl']), toUpperRune_ascii hb, if_neg hl, encodeRune_ascii hb,
            UInt8.toNat.inj (toNat_toUInt8 hb')]
      rw [he]; rfl
  · rfl

theorem encodeRune_ne_nil (x : Nat) : encodeRune x ≠ [] := by
  unfold encodeRune
  generalize (if (0xD800 ≤ x ∧ x ≤ 0xDFFF) ∨ 0x10FFFF < x then runeError else x) = r
  dsimp only; split_ifs <;> simp

theorem upperSpellings_ne_nil {c : UInt8} {bs : Bytes} (h : bs ∈ upperSpellings c) : bs ≠ [] := by
  simp only [upperSpellings, List.mem_append, List.mem_cons, List.mem_singleton,
    List.not_mem_nil, or_false, List.mem_ite_nil_right] at h
  rintro rfl; simp at h

/-- The encoding of each rune `unicode.ToUpper` sends to a letter is a spelling of it. -/
theorem encodeRune_mem_upperSpellings {c : UInt8} (hc : 65 ≤ c.toNat ∧ c.toNat ≤ 90) {r : Nat}
    (hr : r = c.toNat ∨ r = c.toNat + 32 ∨ (c.toNat = 73 ∧ r = 0x131) ∨
      (c.toNat = 83 ∧ r = 0x17F)) :
    encodeRune r ∈ upperSpellings c := by
  have hc' := byte_toNat_lt c
  rcases hr with rfl | rfl | ⟨h73, rfl⟩ | ⟨h83, rfl⟩
  · rw [encodeRune_ascii (by omega), UInt8.toNat.inj (toNat_toUInt8 hc')]
    simp [upperSpellings]
  · have h32 : (c.toNat + 32).toUInt8 = c + 32 := by
      rw [byte_eq_iff, byte_toNat_add_32, toNat_toUInt8 (by omega)]; omega
    rw [encodeRune_ascii (by omega), h32]
    simp [upperSpellings]
  · rw [show c = 73 from UInt8.toNat.inj h73]; decide
  · rw [show c = 83 from UInt8.toNat.inj h83]; decide

section
variable {w : Bytes}

theorem runes_nil (fuel : Nat) : runes fuel [] = [] := by cases fuel <;> rfl

/-- A spelling of a word, and whatever follows it, upper-cases to the word and what follows,
    rune by rune. -/
theorem runes_of_spells {u : Bytes} (h : Spells u w) (hw : IsUpperWord w) (v : Bytes) :
    ∀ fuel, u.length + v.length ≤ fuel → ∃ fuel', v.length ≤ fuel' ∧
      ((runes fuel (u ++ v)).flatMap fun p => encodeRune (toUpperRune p.1)) =
        w ++ (runes fuel' v).flatMap fun p => encodeRune (toUpperRune p.1) := by
  induction h with
  | nil => intro fuel hlen; exact ⟨fuel, by simpa using hlen, rfl⟩
  | @cons bs u c w hbs _ ih =>
    intro fuel hlen
    obtain ⟨r, hr, he⟩ := upperSpellings_decode (hw c (List.mem_cons_self c w)) hbs (u ++ v)
    obtain ⟨b, t, rfl⟩ := List.exists_cons_of_ne_nil (upperSpellings_ne_nil hbs)
    obtain ⟨fuel, rfl⟩ : ∃ f, fuel = f + 1 := ⟨fuel - 1, by simp at hlen; omega⟩
    obtain ⟨fuel', hv, hrest⟩ := ih (fun c' hc' => hw c' (List.mem_cons_of_mem c hc')) fuel
      (by simp at hlen; omega)
    refine ⟨fuel', hv, ?_⟩
    rw [List.append_assoc, List.cons_append, runes_succ, ← List.cons_append, hr, List.take_left,
      List.drop_left, List.flatMap_cons, he, hrest]
    rfl

/-- What upper-cases to a word followed by `t`, rune by rune, is a spelling of the word
    followed by what upper-cases to `t`. -/
theorem spells_of_runes (hw : IsUpperWord w) : ∀ fuel (u t : Bytes), u.length ≤ fuel →
    ((runes fuel u).flatMap fun p => encodeRune (toUpperRune p.1)) = w ++ t →
    ∃ u₁ u₂ fuel', u = u₁ ++ u₂ ∧ Spells u₁ w ∧ u₂.length ≤ fuel' ∧
      ((runes fuel' u₂).flatMap fun p => encodeRune (toUpperRune p.1)) = t := by
  intro fuel
  induction fuel generalizing w with
  | zero =>
    intro u t hu h
    rw [Nat.le_zero, List.length_eq_zero] at hu
    subst hu
    obtain ⟨rfl, rfl⟩ := List.append_eq_nil.1 h.symm
    exact ⟨[], [], 0, rfl, .nil, le_rfl, rfl⟩
  | succ fuel ih =>
    intro u t hu h
    cases w with
    | nil => exact ⟨[], u, fuel + 1, rfl, .nil, hu, h⟩
    | cons c' w =>
    rcases u with _ | ⟨b, s⟩
    · cases h
    rcases hd : decodeRune (b :: s) with ⟨r, n⟩
    rw [runes_succ, List.flatMap_cons, hd] at h
    obtain ⟨c, more, he⟩ := List.exists_cons_of_ne_nil (encodeRune_ne_nil (toUpperRune r))
    rw [he, List.cons_append, List.cons_append, List.cons.injEq] at h
    obtain ⟨rfl, h⟩ := h
    have hc := hw c (List.mem_cons_self c w)
    obtain ⟨-, hcx, rfl⟩ := encodeRune_eq_cons he (by omega)
    have hr := toUpperRune_eq_letter hcx.symm hc.1 hc.2
    have hn := decodeRune_width hd
    obtain ⟨u₁, u₂, fuel', hu₂, hsp, hlen, ht⟩ :=
      ih (fun c' hc' => hw c' (List.mem_cons_of_mem c hc')) _ t (by simp at hu ⊢; omega) h
    refine ⟨(b :: s).take n ++ u₁, u₂, fuel', ?_, ?_, hlen, ht⟩
    · rw [List.append_assoc, ← hu₂, List.take_append_drop]
    · rw [decodeRune_take hd (by omega)]
      exact .cons (encodeRune_mem_upperSpellings hc hr) hsp

/-- Only the empty string upper-cases to nothing. -/
theorem runes_eq_nil {fuel : Nat} {u : Bytes} (hu : u.length ≤ fuel)
    (h : ((runes fuel u).flatMap fun p => encodeRune (toUpperRune p.1)) = []) : u = [] := by
  rcases u with _ | ⟨b, s⟩
  · rfl
  obtain ⟨fuel, rfl⟩ : ∃ f, fuel = f + 1 := ⟨fuel - 1, by simp at hu; omega⟩
  rw [runes_succ, List.flatMap_cons, List.append_eq_nil] at h
  exact absurd h.1 (encodeRune_ne_nil _)

/-- `strings.ToUpper u` is the upper-case ASCII word `w` exactly when `u` spells `w`. -/
theorem toUpper_eq_iff_spells {u : Bytes} (hw : IsUpperWord w) : toUpper u = w ↔ Spells u w := by
  rw [toUpper_eq_runes]
  constructor
  · intro h
    obtain ⟨u₁, u₂, fuel', rfl, hsp, hlen, ht⟩ := spells_of_runes hw _ u [] le_rfl (by simpa using h)
    rw [runes_eq_nil hlen ht, List.append_nil]; exact hsp
  · intro h
    obtain ⟨fuel', -, hr⟩ := runes_of_spells h hw [] u.length (by simp)
    simpa [runes_nil] using hr

end

/-! ## Verbs and command lines -/

theorem isUpperWord_name {V : CommandVerb} (hV : V ∈ CommandVerb.known) : IsUpperWord V.name := by
  revert hV; cases V <;> decide

theorem spells_nil {w : Bytes} (h : Spells [] w) : w = [] := by
  generalize hu : ([] : Bytes) = u at h
  cases h with
  | nil => rfl
  | cons hbs _ => exact absurd (List.append_eq_nil.1 hu.symm).1 (upperSpellings_ne_nil hbs)

/-- `ParseCommandVerb` returns a known verb exactly for the spellings of its name, once
    `strings.TrimSpace` has removed the white space around them. -/
theorem parseCommandVerb_eq_iff {T : Bytes} {V : CommandVerb} (hV : V ∈ CommandVerb.known) :
    parseCommandVerb T = V ↔ Spells (trimSpace T) V.name := by
  have hfind : ∀ V ∈ CommandVerb.known,
      CommandVerb.known.find? (fun c => c.name == V.name) = some V := by decide
  rw [← toUpper_eq_iff_spells (isUpperWord_name hV), parseCommandVerb]
  constructor
  · intro h
    cases hf : CommandVerb.known.find? fun c => c.name == toUpper (trimSpace T) with
    | none =>
      simp only [hf, Option.getD_none] at h
      subst h; exact absurd hV (by decide)
    | some c =>
      simp only [hf, Option.getD_some] at h
      subst h
      have hc : c.name = toUpper (trimSpace T) := by simpa using List.find?_some hf
      exact hc.symm
  · intro h
    rw [h, hfind V hV]; rfl

/-- What `ParseCommand` accepts, for every line: a line within `MaxCommandLength` whose verb
    (before the first space, once the line ending is removed) spells a known verb up to the
    white space around it, and whose trimmed rest meets the verb's argument rule; the
    argument is the trimmed rest. -/
theorem Parser.parseCommand_ok_iff (p : Parser) (line : Bytes) (cmd : Command) :
    p.parseCommand line = .ok cmd ↔
      ¬(0 < p.maxCommandLength ∧ p.maxCommandLength < line.length) ∧
      cmd.verb ∈ CommandVerb.known ∧
      Spells (trimSpace (splitCommand (trimSuffix (trimSuffix line crlf) [10])).1) cmd.verb.name ∧
      cmd.raw = trimSuffix (trimSuffix line crlf) [10] ∧
      cmd.argument = trimSpace (splitCommand (trimSuffix (trimSuffix line crlf) [10])).2 ∧
      ¬(commandRequiresArgument cmd.verb ∧ cmd.argument = []) ∧
      ¬(commandForbidsArgument cmd.verb ∧ cmd.argument ≠ []) ∧
      cmd.params =
        if cmd.verb = .mail ∨ cmd.verb = .rcpt then parseESMTPParams cmd.argument else [] := by
  unfold Parser.parseCommand
  by_cases hlen : 0 < p.maxCommandLength ∧ p.maxCommandLength < line.length
  · simp [hlen]
  rw [if_neg hlen]
  simp only [hlen, not_false_eq_true, true_and]
  generalize trimSuffix (trimSuffix line crlf) [10] = L
  by_cases hL : L = []
  · subst hL
    simp only [if_pos, reduceCtorEq, false_iff, not_and]
    intro hk hs
    exact absurd (spells_nil hs) (by revert hk; cases cmd.verb <;> decide)
  rw [if_neg hL]
  rcases hs : splitCommand L with ⟨verb, arg⟩
  dsimp only
  by_cases hv : parseCommandVerb verb = .unknown
  · simp only [if_pos hv, reduceCtorEq, false_iff, not_and]
    intro hk hsp
    have := (parseCommandVerb_eq_iff hk).2 hsp
    rw [hv] at this
    rw [← this] at hk
    exact absurd hk (by decide)
  rw [if_neg hv]
  have hk : parseCommandVerb verb ∈ CommandVerb.known := by
    revert hv; cases parseCommandVerb verb <;> decide
  constructor
  · intro h
    split_ifs at h with h1 h2 h3 <;> cases h
    · exact ⟨hk, (parseCommandVerb_eq_iff hk).1 rfl, rfl, rfl, h1, h2, by rw [if_pos h3]⟩
    · exact ⟨hk, (parseCommandVerb_eq_iff hk).1 rfl, rfl, rfl, h1, h2, by rw [if_neg h3]⟩
  · rintro ⟨hk', hsp, hraw, harg, h1, h2, hpar⟩
    have hV := (parseCommandVerb_eq_iff hk').2 hsp
    rw [hV, ← harg, if_neg h1, if_neg h2, ← hraw, ← hpar]

/-- A parser with the default `MaxCommandLength`. -/
def commandParser : Parser := { maxCommandLength := 512 }

/-- `MAıL` is read as `MAIL`, a no-break space (U+00A0) before `QUIT` is trimmed away, and a
    plain space before `QUIT` makes the verb empty. -/
theorem parseCommand_unicode_verbs :
    commandParser.parseCommand ([0x4D, 0x41, 0xC4, 0xB1, 0x4C] ++ ascii " FROM:<a@b>\r\n") =
        .ok { verb := .mail, raw := [0x4D, 0x41, 0xC4, 0xB1, 0x4C] ++ ascii " FROM:<a@b>",
              argument := ascii "FROM:<a@b>" } ∧
      commandParser.parseCommand ([0xC2, 0xA0] ++ ascii "QUIT\r\n") =
        .ok { verb := .quit, raw := [0xC2, 0xA0] ++ ascii "QUIT", argument := [] } ∧
      commandParser.parseCommand (ascii " QUIT\r\n") =
        .error { err := .invalidCommand, input := ascii " QUIT", context := [] } := by
  decide

end Icesmtp
