/-
  icesmtp formalization — the paths `ParseMailPath` accepts (`ParseMailPath`,
  `extractPath`, `isValidAddress`, `strings.TrimSpace`).

  `ParseMailPath` checks the `FROM:`/`TO:` prefix on the upper-cased argument, then
  `extractPath` takes `<inner>` up to the first `>`, splits a leading `@route:` off `inner`,
  and `isValidAddress` splits the rest at its last `@`.

  * `trimSpace_trimSpace`: `strings.TrimSpace` is idempotent;
  * `isValidAddress_iff`: the addresses accepted are `AddrOk`, a non-empty local part (which
    may hold further `@`), `@`, and a domain of `[A-Za-z0-9.-]` that neither begins nor
    ends with `.` or `-`;
  * `extractPath_ok_iff`: what `extractPath` returns, as the grammar `PathOk`;
  * `parseMailPath_ok_iff`: what `ParseMailPath` accepts for the prefixes `FROM` and `TO`.
    The empty path `<>` is the null path for both.
-/
import Mathlib.Data.List.Forall2
import Icesmtp.Proof.Spelling

namespace Icesmtp

/-! ## `strings.TrimSpace` -/

/-- A rune decoded from a prefix is the rune decoded from the whole, unless it is
    `RuneError` (the prefix cut a sequence short). -/
theorem decodeRune_prefix (y w : Bytes) :
    (decodeRune y).1 = (decodeRune (y ++ w)).1 ∨ (decodeRune y).1 = runeError := by
  rcases y with _ | ⟨b, y⟩
  · exact .inr rfl
  rw [List.cons_append, decodeRune.eq_def, decodeRune.eq_def]; dsimp only
  by_cases hb : b < 0x80
  · rw [if_pos hb, if_pos hb]; exact .inl rfl
  rw [if_neg hb, if_neg hb]
  generalize leadInfo b = li
  rcases li with _ | ⟨_ | _ | _ | _ | _ | n, lo, hi⟩ <;>
    rcases y with _ | ⟨b1, _ | ⟨b2, _ | ⟨b3, y⟩⟩⟩ <;>
    first | exact .inr rfl | exact .inl rfl

/-- Only `RuneError` can come with width zero. -/
theorem decodeRune_width_pos {q : Bytes} {r n : Nat} (h : decodeRune q = (r, n))
    (hr : r ≠ runeError) : 1 ≤ n := by
  rcases q with _ | ⟨b, q⟩
  · cases h; exact absurd rfl hr
  · exact (decodeRune_width h).1

theorem decodeLastRune_width_pos {p : Bytes} (hr : (decodeLastRune p).1 ≠ runeError) :
    1 ≤ (decodeLastRune p).2 := by
  revert hr
  unfold decodeLastRune
  split
  · intro hr; exact absurd rfl hr
  dsimp only
  split_ifs
  · exact fun _ => le_rfl
  · exact fun hr => decodeRune_width_pos rfl hr
  · exact fun _ => le_rfl

section
variable {f : Nat → Bool} (hf : f runeError = false)
include hf

/-- `strings.TrimLeftFunc` drops a prefix and stops at a rune `f` rejects (or at the end). -/
theorem trimLeftFunc_spec : ∀ fuel (s : Bytes), s.length ≤ fuel →
    ∃ p, s = p ++ trimLeftFunc f fuel s ∧ f (decodeRune (trimLeftFunc f fuel s)).1 = false
  | 0, s, h => by
    rw [Nat.le_zero, List.length_eq_zero] at h; subst h; exact ⟨[], rfl, hf⟩
  | _ + 1, [], _ => ⟨[], rfl, hf⟩
  | fuel + 1, b :: s, h => by
    rcases hd : decodeRune (b :: s) with ⟨r, n⟩
    by_cases hr : f r
    · have he : trimLeftFunc f (fuel + 1) (b :: s) = trimLeftFunc f fuel ((b :: s).drop n) := by
        rw [trimLeftFunc.eq_3, hd]; dsimp only; rw [if_pos hr]
      have hn := (decodeRune_width hd).1
      obtain ⟨p, hp, hs⟩ := trimLeftFunc_spec fuel ((b :: s).drop n) (by simp at h ⊢; omega)
      refine ⟨(b :: s).take n ++ p, ?_, he ▸ hs⟩
      rw [he, List.append_assoc, ← hp, List.take_append_drop]
    · have he : trimLeftFunc f (fuel + 1) (b :: s) = b :: s := by
        rw [trimLeftFunc.eq_3, hd]; dsimp only; rw [if_neg hr]
      rw [he, hd]
      exact ⟨[], rfl, by simpa using hr⟩

/-- `strings.TrimRightFunc` drops a suffix and stops at a rune `f` rejects (or at the start). -/
theorem trimRightFunc_spec : ∀ fuel (s : Bytes), s.length ≤ fuel →
    ∃ q, s = trimRightFunc f fuel s ++ q ∧ f (decodeLastRune (trimRightFunc f fuel s)).1 = false
  | 0, s, h => by
    rw [Nat.le_zero, List.length_eq_zero] at h; subst h; exact ⟨[], rfl, hf⟩
  | _ + 1, [], _ => ⟨[], rfl, hf⟩
  | fuel + 1, b :: s, h => by
    rcases hd : decodeLastRune (b :: s) with ⟨r, n⟩
    by_cases hr : f r
    · have he : trimRightFunc f (fuel + 1) (b :: s) =
          trimRightFunc f fuel ((b :: s).take ((b :: s).length - n)) := by
        rw [trimRightFunc.eq_3, hd]; dsimp only; rw [if_pos hr]
      have hn : 1 ≤ n := by
        have := @decodeLastRune_width_pos (b :: s)
        rw [hd] at this; exact this (by rintro rfl; rw [hf] at hr; cases hr)
      obtain ⟨q, hq, hs⟩ := trimRightFunc_spec fuel ((b :: s).take ((b :: s).length - n))
        (by simp at h ⊢; omega)
      refine ⟨q ++ (b :: s).drop ((b :: s).length - n), ?_, he ▸ hs⟩
      rw [he, ← List.append_assoc, ← hq, List.take_append_drop]
    · have he : trimRightFunc f (fuel + 1) (b :: s) = b :: s := by
        rw [trimRightFunc.eq_3, hd]; dsimp only; rw [if_neg hr]
      rw [he, hd]
      exact ⟨[], (List.append_nil _).symm, by simpa using hr⟩

end

theorem trimLeftFunc_of_stop {f : Nat → Bool} {s : Bytes} (h : f (decodeRune s).1 = false) :
    ∀ fuel, trimLeftFunc f fuel s = s
  | 0 => trimLeftFunc.eq_1 _ _
  | fuel + 1 => by
    rcases s with _ | ⟨b, s⟩
    · rfl
    rcases hd : decodeRune (b :: s) with ⟨r, n⟩
    rw [hd] at h
    rw [trimLeftFunc.eq_3, hd]; dsimp only; rw [h, if_neg Bool.false_ne_true]

theorem trimRightFunc_of_stop {f : Nat → Bool} {s : Bytes} (h : f (decodeLastRune s).1 = false) :
    ∀ fuel, trimRightFunc f fuel s = s
  | 0 => trimRightFunc.eq_1 _ _
  | fuel + 1 => by
    rcases s with _ | ⟨b, s⟩
    · rfl
    rcases hd : decodeLastRune (b :: s) with ⟨r, n⟩
    rw [hd] at h
    rw [trimRightFunc.eq_3, hd]; dsimp only; rw [h, if_neg Bool.false_ne_true]

theorem isSpaceRune_runeError : isSpaceRune runeError = false := rfl

/-- `strings.TrimSpace` is idempotent. -/
theorem trimSpace_trimSpace (x : Bytes) : trimSpace (trimSpace x) = trimSpace x := by
  obtain ⟨p, hz, hzs⟩ := trimLeftFunc_spec isSpaceRune_runeError x.length x le_rfl
  unfold trimSpace
  generalize trimLeftFunc isSpaceRune x.length x = z at hz hzs ⊢
  obtain ⟨q, hy, hys⟩ := trimRightFunc_spec isSpaceRune_runeError x.length z
    (by rw [hz, List.length_append]; omega)
  generalize trimRightFunc isSpaceRune x.length z = y at hy hys ⊢
  rw [trimLeftFunc_of_stop ?_, trimRightFunc_of_stop hys]
  rcases decodeRune_prefix y q with h | h
  · rw [h, ← hy]; exact hzs
  · rw [h]; rfl

/-- `strings.TrimSpace` returns a piece of its input. -/
theorem trimSpace_isInfix (x : Bytes) : trimSpace x <:+: x := by
  obtain ⟨p, hz, -⟩ := trimLeftFunc_spec isSpaceRune_runeError x.length x le_rfl
  unfold trimSpace
  generalize trimLeftFunc isSpaceRune x.length x = z at hz ⊢
  obtain ⟨q, hy, -⟩ := trimRightFunc_spec isSpaceRune_runeError x.length z
    (by rw [hz, List.length_append]; omega)
  exact ⟨p, q, by rw [List.append_assoc, ← hy, ← hz]⟩

/-! ## Searching for a byte -/

theorem indexByte_eq_none_iff {s : Bytes} {b : UInt8} : indexByte s b = none ↔ b ∉ s := by
  simp only [indexByte, List.findIdx?_eq_none_iff, beq_eq_false_iff_ne]
  exact ⟨fun h hb => h b hb rfl, fun h x hx hxb => h (hxb ▸ hx)⟩

/-- `IndexByte` finds the first `b`: it splits `s` around a `b` that `pre` does not hold. -/
theorem indexByte_eq_some_iff {s : Bytes} {b : UInt8} {i : Nat} :
    indexByte s b = some i ↔ ∃ pre post, s = pre ++ b :: post ∧ b ∉ pre ∧ pre.length = i := by
  induction s generalizing i with
  | nil => simp [indexByte]
  | cons x s ih =>
    unfold indexByte at ih ⊢
    rw [List.findIdx?_cons, List.findIdx?_succ]
    by_cases hx : x = b
    · subst hx
      simp only [beq_self_eq_true, if_true, Option.some.injEq]
      constructor
      · rintro rfl; exact ⟨[], s, rfl, List.not_mem_nil _, rfl⟩
      · rintro ⟨_ | ⟨y, pre⟩, post, he, hb, rfl⟩
        · rfl
        · simp only [List.cons_append, List.cons.injEq] at he
          exact absurd (he.1 ▸ List.mem_cons_self y pre) hb
    · simp only [beq_iff_eq, hx, if_false, Option.map_eq_some', ih]
      constructor
      · rintro ⟨_, ⟨pre, post, rfl, hb, rfl⟩, rfl⟩
        exact ⟨x :: pre, post, rfl, by simp [Ne.symm hx, hb], rfl⟩
      · rintro ⟨_ | ⟨y, pre⟩, post, he, hb, rfl⟩
        · simp only [List.nil_append, List.cons.injEq] at he; exact absurd he.1 hx
        · simp only [List.cons_append, List.cons.injEq] at he
          obtain ⟨rfl, rfl⟩ := he
          exact ⟨pre.length, ⟨pre, post, rfl, fun h => hb (List.mem_cons_of_mem _ h), rfl⟩, rfl⟩

/-- The first `b` splits a string in one way only. -/
theorem split_first_unique {b : UInt8} {pre post pre' post' : Bytes}
    (h : pre ++ b :: post = pre' ++ b :: post') (hb : b ∉ pre) (hb' : b ∉ pre') :
    pre = pre' ∧ post = post' := by
  have h₁ := indexByte_eq_some_iff.2 ⟨pre, post, rfl, hb, rfl⟩
  rw [h, indexByte_eq_some_iff.2 ⟨pre', post', rfl, hb', rfl⟩, Option.some.injEq] at h₁
  obtain ⟨rfl, h₂⟩ := List.append_inj h h₁.symm
  exact ⟨rfl, (List.cons.inj h₂).2⟩

theorem lastIndexByte_eq_none_iff {s : Bytes} {b : UInt8} : lastIndexByte s b = none ↔ b ∉ s := by
  simp [lastIndexByte, indexByte_eq_none_iff]

/-- `strings.LastIndex` finds the last `b`: it splits `s` around a `b` that `post` does not hold. -/
theorem lastIndexByte_eq_some_iff {s : Bytes} {b : UInt8} {i : Nat} :
    lastIndexByte s b = some i ↔ ∃ pre post, s = pre ++ b :: post ∧ b ∉ post ∧ pre.length = i := by
  unfold lastIndexByte
  rw [Option.map_eq_some']
  constructor
  · rintro ⟨_, h, rfl⟩
    obtain ⟨pre, post, hs, hb, rfl⟩ := indexByte_eq_some_iff.1 h
    refine ⟨post.reverse, pre.reverse, ?_, by simpa using hb, ?_⟩
    · rw [← List.reverse_reverse s, hs]; simp
    · have := congrArg List.length hs
      simp only [List.length_reverse, List.length_append, List.length_cons] at this ⊢
      omega
  · rintro ⟨pre, post, rfl, hb, rfl⟩
    refine ⟨post.length, indexByte_eq_some_iff.2 ⟨post.reverse, pre.reverse, by simp, by simpa using hb,
      by simp⟩, by simp⟩


/-- The last `b` splits a string in one way only. -/
theorem split_last_unique {b : UInt8} {pre post pre' post' : Bytes}
    (h : pre ++ b :: post = pre' ++ b :: post') (hb : b ∉ post) (hb' : b ∉ post') :
    pre = pre' ∧ post = post' := by
  have h₁ := lastIndexByte_eq_some_iff.2 ⟨pre, post, rfl, hb, rfl⟩
  rw [h, lastIndexByte_eq_some_iff.2 ⟨pre', post', rfl, hb', rfl⟩, Option.some.injEq] at h₁
  obtain ⟨rfl, h₂⟩ := List.append_inj h h₁.symm
  exact ⟨rfl, (List.cons.inj h₂).2⟩

theorem hasPrefix_singleton {s : Bytes} {b : UInt8} : hasPrefix s [b] = true ↔ s.head? = some b := by
  cases s with
  | nil => simp [hasPrefix, List.isPrefixOf]
  | cons x s =>
    simp only [hasPrefix, List.isPrefixOf, List.head?_cons, Option.some.injEq, Bool.and_true,
      beq_iff_eq]
    exact eq_comm

theorem hasSuffix_singleton {s : Bytes} {b : UInt8} : hasSuffix s [b] = true ↔ s.getLast? = some b := by
  rw [hasSuffix, List.isSuffixOf, ← hasPrefix, List.reverse_singleton, hasPrefix_singleton,
    List.head?_reverse]

/-! ## Addresses -/

/-- A byte at or past `0x80` decodes to a rune at or past `U+0080`. -/
theorem decodeRune_high {b : UInt8} (hb : ¬b < 0x80) (s : Bytes) : 0x80 ≤ (decodeRune (b :: s)).1 := by
  rcases hd : decodeRune (b :: s) with ⟨r, n⟩
  by_contra hr
  have ht := decodeRune_take hd (by omega)
  rw [encodeRune_ascii (by omega)] at ht
  obtain ⟨n, rfl⟩ : ∃ m, n = m + 1 := ⟨n - 1, by have := (decodeRune_width hd).1; omega⟩
  rw [List.take_succ_cons, List.cons.injEq, byte_eq_iff, toNat_toUInt8 (by omega)] at ht
  exact hb (by simp only [byte_lt_iff, ht.1, UInt8.reduceToNat]; omega)

theorem isValidDomainChar_of_high {c : Nat} (h : 0x80 ≤ c) : isValidDomainChar c = false := by
  simp only [isValidDomainChar, Bool.or_eq_false_iff, Bool.and_eq_false_iff, decide_eq_false_iff_not]
  omega

/-- Checking the runes of a string against `isValidDomainChar` is checking its bytes. -/
theorem runes_all_domain : ∀ fuel (d : Bytes), d.length ≤ fuel →
    ((runes fuel d).all fun p => isValidDomainChar p.1) = d.all fun c => isValidDomainChar c.toNat
  | 0, d, h => by rw [Nat.le_zero, List.length_eq_zero] at h; subst h; rfl
  | _ + 1, [], _ => rfl
  | fuel + 1, b :: s, h => by
    rw [runes_succ, List.all_cons, List.all_cons]
    by_cases hb : b < 0x80
    · rw [decodeRune_ascii hb, List.drop_succ_cons, List.drop_zero,
        runes_all_domain fuel s (by simp at h; omega)]
    · rw [isValidDomainChar_of_high (decodeRune_high hb s), isValidDomainChar_of_high (by
        simp only [byte_lt_iff, UInt8.reduceToNat] at hb; omega)]
      rfl

/-- The domain grammar of `isValidAddress`: `[A-Za-z0-9.-]+`, not beginning or ending with
    `.` or `-`. -/
structure DomainOk (dom : Bytes) : Prop where
  ne_nil : dom ≠ []
  chars : ∀ c ∈ dom, isValidDomainChar c.toNat = true
  head : ∀ c ∈ dom.head?, c ≠ 46 ∧ c ≠ 45
  last : ∀ c ∈ dom.getLast?, c ≠ 46 ∧ c ≠ 45

/-- The addresses `isValidAddress` accepts: a non-empty local part, `@` and a domain.  The
    local part may itself hold `@`: the domain begins after the last one. -/
def AddrOk (addr : Bytes) : Prop := ∃ loc dom, addr = loc ++ 64 :: dom ∧ loc ≠ [] ∧ DomainOk dom

theorem DomainOk.at_not_mem {dom : Bytes} (h : DomainOk dom) : (64 : UInt8) ∉ dom :=
  fun hm => absurd (h.chars 64 hm) (by decide)

theorem addrOk_split {pre post : Bytes} (h64 : (64 : UInt8) ∉ post) :
    AddrOk (pre ++ 64 :: post) ↔ pre ≠ [] ∧ DomainOk post := by
  constructor
  · rintro ⟨loc, dom, he, hloc, hd⟩
    obtain ⟨rfl, rfl⟩ := split_last_unique he h64 hd.at_not_mem
    exact ⟨hloc, hd⟩
  · rintro ⟨hp, hd⟩
    exact ⟨pre, post, rfl, hp, hd⟩

theorem domainOk_iff {dom : Bytes} :
    DomainOk dom ↔ dom ≠ [] ∧ hasPrefix dom [46] = false ∧ hasSuffix dom [46] = false ∧
      hasPrefix dom [45] = false ∧ hasSuffix dom [45] = false ∧
      ((runes dom.length dom).all fun p => isValidDomainChar p.1) = true := by
  simp only [← Bool.not_eq_true, hasPrefix_singleton, hasSuffix_singleton,
    runes_all_domain _ _ le_rfl, List.all_eq_true]
  constructor
  · rintro ⟨hn, hc, hh, hl⟩
    exact ⟨hn, fun h => (hh _ h).1 rfl, fun h => (hl _ h).1 rfl, fun h => (hh _ h).2 rfl,
      fun h => (hl _ h).2 rfl, hc⟩
  · rintro ⟨hn, h1, h2, h3, h4, hc⟩
    exact ⟨hn, hc, fun c hc => ⟨by rintro rfl; exact h1 hc, by rintro rfl; exact h3 hc⟩,
      fun c hc => ⟨by rintro rfl; exact h2 hc, by rintro rfl; exact h4 hc⟩⟩

/-- `isValidAddress` accepts exactly the `AddrOk` addresses. -/
theorem isValidAddress_iff (addr : Bytes) : isValidAddress addr = true ↔ AddrOk addr := by
  unfold isValidAddress
  cases h : lastIndexByte addr 64 with
  | none =>
    simp only [Bool.false_eq_true, false_iff]
    rintro ⟨loc, dom, rfl, -, -⟩
    exact lastIndexByte_eq_none_iff.1 h (by simp)
  | some i =>
    obtain ⟨pre, post, rfl, h64, rfl⟩ := lastIndexByte_eq_some_iff.1 h
    rw [addrOk_split h64, domainOk_iff]
    have hd : (pre ++ 64 :: post).drop (pre.length + 1) = post := by
      simp [List.drop_append_eq_append_drop]
    have hl : pre.length ≠ (pre ++ 64 :: post).length - 1 ↔ post ≠ [] := by simp
    dsimp only
    rw [List.take_left, hd]
    simp only [Bool.and_eq_true, decide_eq_true_eq, Bool.not_eq_true', hl, ne_eq,
      List.length_eq_zero]
    tauto

/-! ## Paths -/

/-- How `extractPath` splits `inner` into a source route and an address. -/
inductive RouteSplit : Bytes → Bytes → Bytes → Prop
  /-- `@...:`, up to the first `:`, is the source route. -/
  | route {r addr : Bytes} : r.head? = some 64 → (58 : UInt8) ∉ r →
      RouteSplit (r ++ 58 :: addr) (r ++ [58]) addr
  /-- No source route unless `inner` starts with `@` and holds a `:`. -/
  | plain {inner : Bytes} : ¬(inner.head? = some 64 ∧ (58 : UInt8) ∈ inner) → RouteSplit inner [] inner

/-- The grammar of the text between `<` and `>`: empty (the null path), or a source route
    and an `AddrOk` address. -/
inductive PathOk : Bytes → MailPath → Prop
  | null : PathOk [] { isNull := true }
  | path {inner route addr : Bytes} : RouteSplit inner route addr → AddrOk addr →
      PathOk inner { address := addr, sourceRoute := route }

theorem RouteSplit.inner_eq {inner route addr : Bytes} (h : RouteSplit inner route addr) :
    inner = route ++ addr := by
  cases h with
  | route => rw [List.append_assoc]; rfl
  | plain => rfl

theorem head?_append_of_head? {r : Bytes} {x : UInt8} (hr : r.head? = some x) (a : Bytes) :
    (r ++ a).head? = some x := by
  cases r with
  | nil => cases hr
  | cons => exact hr

/-- `extractPath` splits `inner` in one way only. -/
theorem RouteSplit.unique {inner route addr route' addr' : Bytes} (h : RouteSplit inner route addr)
    (h' : RouteSplit inner route' addr') : route = route' ∧ addr = addr' := by
  cases h with
  | route hr h58 =>
    rename_i r
    generalize hi : r ++ 58 :: addr = inner at h'
    cases h' with
    | route _ h58' =>
      obtain ⟨rfl, rfl⟩ := split_first_unique hi h58 h58'
      exact ⟨rfl, rfl⟩
    | plain hn => subst hi; exact absurd ⟨head?_append_of_head? hr _, by simp⟩ hn
  | plain hn =>
    cases h' with
    | route hr => exact absurd ⟨head?_append_of_head? hr _, by simp⟩ hn
    | plain => exact ⟨rfl, rfl⟩

theorem pathOk_nil {mp : MailPath} (h : PathOk [] mp) : mp = { isNull := true } := by
  generalize hi : ([] : Bytes) = inner at h
  cases h with
  | null => rfl
  | path hs ha =>
    obtain ⟨loc, dom, rfl, -⟩ := ha
    have := congrArg List.length (hs.inner_eq.symm.trans hi.symm)
    simp at this

theorem pathOk_iff_of_split {inner route addr : Bytes} (hn : inner ≠ []) (hs : RouteSplit inner route addr)
    (mp : MailPath) : PathOk inner mp ↔ AddrOk addr ∧ mp = { address := addr, sourceRoute := route } := by
  constructor
  · rintro (_ | ⟨hs', ha⟩)
    · exact absurd rfl hn
    · obtain ⟨rfl, rfl⟩ := hs.unique hs'
      exact ⟨ha, rfl⟩
  · rintro ⟨ha, rfl⟩
    exact .path hs ha

/-- The last check of `extractPath`, on the split it made. -/
theorem checkAddress_ok_iff {inner route addr : Bytes} (hn : inner ≠ []) (hs : RouteSplit inner route addr)
    (e : ParseError) (mp : MailPath) :
    (if !isValidAddress addr then .error e
      else .ok { address := addr, sourceRoute := route, isNull := false }) = Except.ok mp ↔
      PathOk inner mp := by
  rw [pathOk_iff_of_split hn hs, ← isValidAddress_iff]
  cases isValidAddress addr
  · exact iff_of_false (fun h => nomatch h) (fun h => nomatch h.1)
  · exact ⟨fun h => ⟨rfl, (Except.ok.inj h).symm⟩, fun h => by rw [h.2]; rfl⟩

/-- `extractPath` returns exactly the paths of the grammar: `<inner>` up to the first `>`. -/
theorem extractPath_ok_iff (t : Bytes) (mp : MailPath) :
    extractPath t = .ok mp ↔
      ∃ inner rest, trimSpace t = 60 :: (inner ++ 62 :: rest) ∧ (62 : UInt8) ∉ inner ∧
        PathOk inner mp := by
  unfold extractPath
  generalize trimSpace t = s
  dsimp only
  by_cases hp : hasPrefix s [60] = true
  swap
  · rw [Bool.not_eq_true] at hp
    rw [hp]
    refine iff_of_false (fun h => nomatch h) ?_
    rintro ⟨inner, rest, rfl, -⟩
    exact Bool.false_ne_true (hp ▸ hasPrefix_singleton.2 rfl)
  rw [hp, Bool.not_true, if_neg Bool.false_ne_true]
  cases hi : indexByte s 62 with
  | none =>
    refine iff_of_false (fun h => nomatch h) ?_
    rintro ⟨inner, rest, rfl, -⟩
    exact indexByte_eq_none_iff.1 hi (by simp)
  | some k =>
    obtain ⟨pre, post, rfl, h62, rfl⟩ := indexByte_eq_some_iff.1 hi
    obtain ⟨inner, rfl⟩ : ∃ inner, pre = 60 :: inner := by
      rcases pre with _ | ⟨x, inner⟩
      · cases hasPrefix_singleton.1 hp
      · exact ⟨inner, by cases hasPrefix_singleton.1 hp; rfl⟩
    have hrhs : (∃ inner' rest, 60 :: inner ++ 62 :: post = 60 :: (inner' ++ 62 :: rest) ∧
        (62 : UInt8) ∉ inner' ∧ PathOk inner' mp) ↔ PathOk inner mp := by
      constructor
      · rintro ⟨inner', rest, he, h62', hpath⟩
        obtain ⟨rfl, rfl⟩ := split_first_unique (List.cons.inj he).2 (fun h => h62 (.tail _ h)) h62'
        exact hpath
      · exact fun h => ⟨inner, post, rfl, fun h' => h62 (.tail _ h'), h⟩
    dsimp only
    rw [hrhs, List.take_left, List.drop_one, List.tail_cons]
    by_cases hn : inner = []
    · subst hn
      rw [if_pos rfl]
      exact ⟨fun h => (Except.ok.inj h) ▸ .null, fun h => by rw [pathOk_nil h]⟩
    rw [if_neg hn]
    by_cases ha : hasPrefix inner [64] = true
    · rw [if_pos ha]
      cases hc : indexByte inner 58 with
      | none =>
        exact checkAddress_ok_iff hn (.plain fun h => indexByte_eq_none_iff.1 hc h.2) _ mp
      | some c =>
        obtain ⟨r, a, rfl, h58, rfl⟩ := indexByte_eq_some_iff.1 hc
        have hr : r.head? = some 64 := by
          rcases r with _ | ⟨x, r⟩
          · cases hasPrefix_singleton.1 ha
          · have := hasPrefix_singleton.1 ha; exact this
        have ht : (r ++ 58 :: a).take (r.length + 1) = r ++ [58] := by
          simp [List.take_append_eq_append_take]
        have hd : (r ++ 58 :: a).drop (r.length + 1) = a := by
          simp [List.drop_append_eq_append_drop]
        dsimp only
        rw [ht, hd]
        exact checkAddress_ok_iff hn (.route hr h58) _ mp
    · rw [if_neg ha]
      exact checkAddress_ok_iff hn (.plain fun h => ha (hasPrefix_singleton.2 h.1)) _ mp

/-! ## The `FROM:` and `TO:` prefixes -/

/-- `unicode.ToUpper` sends only `:` to `:`. -/
theorem toUpperRune_eq_colon {r : Nat} (h : toUpperRune r = 58) : r = 58 := by
  have := toUpperRune_eq_ascii h (by decide); omega

/-- The upper-cased text starts with `w:` exactly when the text is a spelling of `w`, then `:`. -/
theorem hasPrefix_toUpper_iff {w : Bytes} (hw : IsUpperWord w) (a : Bytes) :
    hasPrefix (toUpper a) (w ++ [58]) = true ↔ ∃ P s, a = P ++ 58 :: s ∧ Spells P w := by
  rw [hasPrefix, List.isPrefixOf_iff_prefix, toUpper_eq_runes]
  constructor
  · rintro ⟨t, ht⟩
    rw [List.append_assoc, List.singleton_append] at ht
    obtain ⟨P, u, fuel, rfl, hP, hlen, hu⟩ := spells_of_runes hw _ a (58 :: t) le_rfl ht.symm
    rcases u with _ | ⟨b, s⟩
    · rw [runes_nil] at hu; cases hu
    obtain ⟨fuel, rfl⟩ : ∃ f, fuel = f + 1 := ⟨fuel - 1, by simp at hlen; omega⟩
    rcases hd : decodeRune (b :: s) with ⟨r, n⟩
    rw [runes_succ, List.flatMap_cons, hd] at hu
    obtain ⟨c, more, he⟩ := List.exists_cons_of_ne_nil (encodeRune_ne_nil (toUpperRune r))
    rw [he, List.cons_append, List.cons.injEq] at hu
    obtain ⟨rfl, -⟩ := hu
    obtain ⟨-, hc, -⟩ := encodeRune_eq_cons he (by decide)
    have hr := toUpperRune_eq_colon hc.symm
    have ht := decodeRune_take hd (by omega)
    obtain ⟨n, rfl⟩ : ∃ m, n = m + 1 := ⟨n - 1, by have := (decodeRune_width hd).1; omega⟩
    rw [hr, encodeRune_ascii (by decide), List.take_succ_cons, List.cons.injEq] at ht
    exact ⟨P, s, by rw [ht.1]; rfl, hP⟩
  · rintro ⟨P, s, rfl, hP⟩
    obtain ⟨fuel, hv, hr⟩ := runes_of_spells hP hw (58 :: s) (P ++ 58 :: s).length (by simp)
    obtain ⟨fuel, rfl⟩ : ∃ f, fuel = f + 1 := ⟨fuel - 1, by simp at hv; omega⟩
    rw [hr, runes_succ, decodeRune_ascii (by decide), List.flatMap_cons]
    exact ⟨_, by rw [List.append_assoc]; rfl⟩

/-- For a word without `I` and `S`, spelling it is matching it up to ASCII case. -/
theorem spells_iff_forall₂ {P w : Bytes} (hw : ∀ c ∈ w, c ≠ 73 ∧ c ≠ 83) :
    Spells P w ↔ List.Forall₂ (fun b c => b = c ∨ b = c + 32) P w := by
  have hup : ∀ c : UInt8, c ≠ 73 ∧ c ≠ 83 → upperSpellings c = [[c], [c + 32]] := by
    rintro c ⟨h1, h2⟩; simp [upperSpellings, h1, h2]
  constructor
  · intro h
    induction h with
    | nil => exact .nil
    | @cons bs u c w hbs _ ih =>
      have hc := hw c (List.mem_cons_self c w)
      rw [hup c hc, List.mem_cons, List.mem_singleton] at hbs
      rcases hbs with rfl | rfl
      · exact .cons (.inl rfl) (ih fun c' h => hw c' (.tail _ h))
      · exact .cons (.inr rfl) (ih fun c' h => hw c' (.tail _ h))
  · intro h
    induction h with
    | nil => exact .nil
    | @cons b c P w hbc _ ih =>
      have hc := hw c (List.mem_cons_self c w)
      refine @Spells.cons [b] P c w ?_ (ih fun c' h => hw c' (.tail _ h))
      rw [hup c hc]
      rcases hbc with rfl | rfl <;> simp

/-! ## `ParseMailPath` -/

/-- **`ParseMailPath`** accepts, for the prefixes `FROM` and `TO`, exactly `P:s` with `P` the
    prefix up to ASCII case and `TrimSpace(s)` a path `<inner>rest` of the `PathOk` grammar.
    The empty path is the null path for `TO` as for `FROM`, and the local part of the
    address may hold further `@`. -/
theorem parseMailPath_ok_iff {pre : Bytes} (hpre : pre = ascii "FROM" ∨ pre = ascii "TO")
    (arg : Bytes) (mp : MailPath) :
    parseMailPath arg pre = .ok mp ↔
      ∃ P s inner rest, trimSpace arg = P ++ 58 :: s ∧
        List.Forall₂ (fun b c => b = c ∨ b = c + 32) P pre ∧
        trimSpace s = 60 :: (inner ++ 62 :: rest) ∧ (62 : UInt8) ∉ inner ∧ PathOk inner mp := by
  have hw : IsUpperWord pre := by rcases hpre with rfl | rfl <;> decide
  have hIS : ∀ c ∈ pre, c ≠ 73 ∧ c ≠ 83 := by rcases hpre with rfl | rfl <;> decide
  unfold parseMailPath
  generalize trimSpace arg = a
  dsimp only
  by_cases hc : hasPrefix (toUpper a) (pre ++ [58]) = true
  · rw [hc, Bool.not_true, if_neg Bool.false_ne_true, extractPath_ok_iff, trimSpace_trimSpace]
    obtain ⟨P, s, rfl, hP⟩ := (hasPrefix_toUpper_iff hw a).1 hc
    have hF := (spells_iff_forall₂ hIS).1 hP
    have hs : (P ++ 58 :: s).drop (pre.length + 1) = s := by
      rw [← hF.length_eq]; simp [List.drop_append_eq_append_drop]
    rw [hs]
    constructor
    · rintro ⟨inner, rest, h1, h2, h3⟩
      exact ⟨P, s, inner, rest, rfl, hF, h1, h2, h3⟩
    · rintro ⟨P', s', inner, rest, he, hF', h1, h2, h3⟩
      obtain ⟨rfl, hs'⟩ := List.append_inj he (hF.length_eq.trans hF'.length_eq.symm)
      obtain ⟨-, rfl⟩ := List.cons.inj hs'
      exact ⟨inner, rest, h1, h2, h3⟩
  · rw [Bool.not_eq_true] at hc
    rw [hc, Bool.not_false, if_pos rfl]
    refine iff_of_false (fun h => nomatch h) ?_
    rintro ⟨P, s, inner, rest, he, hF, -⟩
    exact Bool.false_ne_true (hc ▸ (hasPrefix_toUpper_iff hw a).2 ⟨P, s, he, (spells_iff_forall₂ hIS).2 hF⟩)

theorem parseMailPath_ok_iff_null_to :
    (ascii "TO" = ascii "FROM" ∨ ascii "TO" = ascii "TO") ∧
    (parseMailPath (ascii "TO:<>") (ascii "TO") = .ok { isNull := true } ↔
      ∃ P s inner rest, trimSpace (ascii "TO:<>") = P ++ 58 :: s ∧
        List.Forall₂ (fun b c => b = c ∨ b = c + 32) P (ascii "TO") ∧
        trimSpace s = 60 :: (inner ++ 62 :: rest) ∧ (62 : UInt8) ∉ inner ∧
        PathOk inner { isNull := true }) :=
  ⟨.inr rfl, parseMailPath_ok_iff (.inr rfl) _ _⟩

/-- `TO:<>` is accepted as the null path, and an address with two `@` is accepted whole. -/
theorem parseMailPath_null_to_and_two_ats :
    parseMailPath (ascii "TO:<>") (ascii "TO") = .ok { isNull := true } ∧
    parseMailPath (ascii "FROM:<a@b@example.com>") (ascii "FROM") =
      .ok { address := ascii "a@b@example.com" } := by
  decide

end Icesmtp
