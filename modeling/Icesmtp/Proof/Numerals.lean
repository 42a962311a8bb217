/-
  icesmtp formalization — decimal numerals read and written by the program:
  the `SIZE` parameter of MAIL (`fmt.Sscanf` into an `int64`) and the
  logger's `intToStr`.

  * `intToStr_canonical_iff`: `intToStr` and `formatValue` render an `int64`
    as `FormatInt` does exactly when it is not `MinInt64`, whose negation
    overflows;
  * `intToStr_length_le`: the result fits the 20-byte buffer;
  * `sscanfInt64_numeral`: a decimal numeral reads as its value when that fits
    an `int64`, and as 0 otherwise;
  * `Engine.handleMAIL_size_rejects_iff`: the SIZE check of MAIL refuses a
    declared size `N` exactly when `MaxMessageSize < N < 2^63`.
-/
import Mathlib.Data.Nat.Digits
import Icesmtp.Logger
import Icesmtp.Proof.Steps

namespace Icesmtp

/-! ## `intToStr` -/

theorem digitChar_byte {d : Nat} (h : d < 10) :
    (Nat.digitChar d).toNat.toUInt8 = ((48 + (d : Int)).toNat).toUInt8 := by
  have : ∀ d, d < 10 → (Nat.digitChar d).toNat = 48 + d := by decide
  rw [this d h]
  congr 1

/-- The loop writes the digits that `Nat.toDigitsCore` computes, in front of what it was
    given. -/
theorem intToStrLoop_toDigitsCore (f n : Nat) (cs : List Char) (hn : 0 < n) (hf : n < f) :
    intToStrLoop n (cs.map fun c => c.toNat.toUInt8) =
      (Nat.toDigitsCore 10 f n cs).map fun c => c.toNat.toUInt8 := by
  induction f generalizing n cs with
  | zero => omega
  | succ f ih =>
    rw [intToStrLoop, if_pos (by omega), Nat.toDigitsCore]
    have hd : ((n : Int) % 10).toNat = n % 10 := by omega
    have hq : ((n : Int) / 10) = ((n / 10 : Nat) : Int) := by omega
    split
    · rename_i h0
      rw [hq, h0, intToStrLoop, if_neg (by decide), List.map_cons, digitChar_byte (by omega)]
      push_cast
      rfl
    · rw [hq, ← ih (n / 10) _ (by omega) (by omega), List.map_cons,
        digitChar_byte (Nat.mod_lt n (by decide))]
      push_cast
      rfl

theorem intToStrLoop_pos {n : Nat} (hn : 0 < n) : intToStrLoop n [] = ascii (toString n) :=
  intToStrLoop_toDigitsCore (n + 1) n [] hn (by omega)

theorem intToStr_eq_decimal (n : Int64) (h : n.val ≠ -2 ^ 63) : intToStr n = decimal n.val := by
  obtain ⟨v, hge, hlt⟩ := n
  dsimp only at h
  unfold intToStr
  dsimp only
  obtain ⟨k, rfl | rfl⟩ := Int.eq_nat_or_neg v <;> rcases Nat.eq_zero_or_pos k with rfl | hk
  · rfl
  · rw [if_neg (by omega), decide_eq_false (by omega)]
    exact intToStrLoop_pos hk
  · rfl
  · rw [if_neg (by omega), decide_eq_true (by omega)]
    have hneg : (Int64.neg ⟨-k, hge, hlt⟩).val = k := by simp only [Int64.neg]; omega
    simp only [if_true, hneg, intToStrLoop_pos hk]
    obtain ⟨m, rfl⟩ := Nat.exists_eq_succ_of_ne_zero (Nat.pos_iff_ne_zero.1 hk)
    rfl

theorem intToStr_min : intToStr Int64.min = ascii "-" := by
  have : (Int64.min.neg).val = -2 ^ 63 := by decide
  simp only [intToStr, this]
  rw [intToStrLoop, if_neg (by decide)]
  decide

/-- `intToStr` writes at most 20 bytes: its index into `buf [20]byte` stays in range. -/
theorem intToStr_length_le (n : Int64) : (intToStr n).length ≤ 20 := by
  by_cases hmin : n.val = -2 ^ 63
  · obtain rfl : n = Int64.min := by cases n; simp_all [Int64.min]
    rw [intToStr_min]; decide
  rw [intToStr_eq_decimal n hmin]
  have hd := Nat.toDigitsCore_length 10 (by decide) (n.val.natAbs + 1) n.val.natAbs 19
    (by have := n.ge; have := n.lt; omega) (by decide)
  have hs : (decimal n.val).length ≤ (Nat.toDigits 10 n.val.natAbs).length + 1 := by
    rcases n.val with k | k <;> simp [decimal, ascii, toString, Nat.repr, Int.natAbs, List.asString]
  exact hs.trans (by simpa [Nat.toDigits] using Nat.succ_le_succ hd)

/-- `intToStr`, and with it `formatValue` on `int` and `int64` attributes, agrees with
    `strconv.FormatInt(n, 10)` on every `int64` but `MinInt64`, where `-n` overflows and
    only the sign is written. -/
theorem intToStr_canonical_iff (n : Int64) :
    (intToStr n = decimal n.val ↔ n.val ≠ -2 ^ 63) ∧
      (formatValue (.int n) = decimal n.val ↔ n.val ≠ -2 ^ 63) ∧
      (formatValue (.int64 n) = decimal n.val ↔ n.val ≠ -2 ^ 63) := by
  have key : intToStr n = decimal n.val ↔ n.val ≠ -2 ^ 63 := by
    refine ⟨fun h hmin => ?_, intToStr_eq_decimal n⟩
    obtain rfl : n = Int64.min := by cases n; simp_all [Int64.min]
    rw [intToStr_min] at h
    exact absurd h (by decide)
  exact ⟨key, key, key⟩

/-! ## The `SIZE` parameter -/

/-- A decimal numeral: one or more ASCII digits. -/
def IsNumeral (ds : Bytes) : Prop := ds ≠ [] ∧ ∀ c ∈ ds, 48 ≤ c ∧ c ≤ 57

/-- `Sscanf` takes no sign from a numeral that starts with a digit. -/
theorem sscanfInt64_sign {c : UInt8} {cs : Bytes} (h1 : c ≠ 45) (h2 : c ≠ 43) :
    sscanfInt64.match_1 (fun _ => Bool × Bytes) (c :: cs) (fun r => (true, r))
      (fun r => (false, r)) (fun r => (false, r)) = (false, c :: cs) := by
  unfold sscanfInt64.match_1
  simp [h1, h2]

/-- `Sscanf` reads a numeral as its value when that fits an `int64`; otherwise it fails and
    leaves the destination at 0. -/
theorem sscanfInt64_numeral {ds : Bytes} (h : IsNumeral ds) :
    sscanfInt64 ds = if digitsValue ds < 2 ^ 63 then (digitsValue ds : Int) else 0 := by
  obtain ⟨hne, hd⟩ := h
  obtain ⟨c, cs, rfl⟩ := List.exists_cons_of_ne_nil hne
  have hc := hd c (List.mem_cons_self c cs)
  have htw : (c :: cs).takeWhile (fun c => 48 ≤ c && c ≤ 57) = c :: cs :=
    List.takeWhile_eq_self_iff.2 fun x hx => by simpa using hd x hx
  have h1 : c ≠ 45 := fun h => absurd (h ▸ hc) (by decide)
  have h2 : c ≠ 43 := fun h => absurd (h ▸ hc) (by decide)
  simp only [sscanfInt64, sscanfInt64_sign h1 h2, htw, Bool.false_eq_true, if_false,
    List.cons_ne_nil, false_or]
  split_ifs <;> first | rfl | omega

namespace Engine

/-- The reply of MAIL to a declared size over `MaxMessageSize`. -/
def sizeRefusal : Response :=
  newResponse reply552ExceededStorage (ascii "Message size exceeds fixed maximum message size")

/-- The SenderPolicy check makes a call, unless no SenderPolicy is configured. -/
theorem validateSender_clock (w : World) (e : Engine) :
    (e.validateSender w).1.clock = e.clock + 1 ∨ e.validateSender w = (e, none) := by
  unfold validateSender; split_ifs <;> simp

theorem acceptSender_clock (w : World) (e : Engine) (path : MailPath) (params : ESMTPParams) :
    (e.acceptSender w path params).1.clock = e.clock + 1 := by
  unfold acceptSender; dsimp only; split <;> simp

/-- The SIZE check of MAIL.  For a MAIL that reaches it (TLS is not required and missing,
    `MaxTransactions` is not reached, and the path parses) and whose `SIZE` parameter is a
    numeral for `N`, MAIL is answered `552` with the session unchanged, and so no envelope,
    exactly when `MaxMessageSize < N < 2^63`: a larger `N` overflows `Sscanf`'s `int64`,
    which leaves the size at 0. -/
theorem handleMAIL_size_rejects_iff (w : World) (e : Engine) (cmd : Command) (path : MailPath)
    (ds : Bytes) (hsize : e.config.extensions.size = true)
    (hmax : 0 < e.config.limits.maxMessageSize)
    (htls : ¬(e.config.tlsPolicy = .required ∧ !e.state.tlsActive))
    (htx : ¬(0 < e.config.limits.maxTransactions ∧
      e.config.limits.maxTransactions ≤ e.stats.transactionCount))
    (hp : parseMailPath cmd.argument (ascii "FROM") = .ok path)
    (hget : cmd.params.get? (ascii "SIZE") = some ds) (hds : IsNumeral ds) :
    e.handleMAIL w cmd = (e, sizeRefusal) ↔
      e.config.limits.maxMessageSize < digitsValue ds ∧ digitsValue ds < 2 ^ 63 := by
  have hse : e.sizeExceeded cmd = true ↔
      e.config.limits.maxMessageSize < digitsValue ds ∧ digitsValue ds < 2 ^ 63 := by
    simp only [sizeExceeded, hsize, hmax, hget, sscanfInt64_numeral hds, decide_True,
      Bool.true_and, Option.any_some, decide_eq_true_eq]
    split_ifs <;> omega
  unfold handleMAIL
  rw [if_neg htls, if_neg htx, hp]
  dsimp only
  by_cases hc : e.sizeExceeded cmd = true
  · simp only [hc, if_true, true_iff, sizeRefusal]
    exact hse.1 hc
  rw [if_neg hc, ← hse, iff_false_intro hc, iff_false]
  intro h
  have hclock := congrArg (fun p => p.1.clock) h
  rcases validateSender_clock w e with hv | hv
  · rcases hv' : e.validateSender w with ⟨e₁, _ | r⟩ <;> rw [hv'] at hclock hv <;>
      dsimp only at hclock hv
    · rw [acceptSender_clock] at hclock; omega
    · omega
  · rw [hv] at hclock
    dsimp only at hclock
    rw [acceptSender_clock] at hclock
    omega

/-- A MAIL with `SIZE=11` under `MaxMessageSize = 10` is refused. -/
def sizeCheckSession : Engine :=
  Engine.new
    { serverHostname := ascii "mx", limits := { maxMessageSize := 10 },
      extensions := { size := true } }
    { buf := [], src := [], final := .eof } [] []

/-- `MAIL FROM:<a@b> SIZE=11`. -/
def sizeElevenMail : Command :=
  { verb := .mail, raw := ascii "MAIL FROM:<a@b> SIZE=11", argument := ascii "FROM:<a@b> SIZE=11",
    params := [(ascii "SIZE", ascii "11")] }

theorem handleMAIL_size_rejects_eleven :
    sizeCheckSession.handleMAIL quietWorld sizeElevenMail = (sizeCheckSession, sizeRefusal) ↔
      (10 : Int) < digitsValue (ascii "11") ∧ digitsValue (ascii "11") < 2 ^ 63 :=
  handleMAIL_size_rejects_iff quietWorld sizeCheckSession sizeElevenMail
    { address := ascii "a@b" } (ascii "11") rfl (by decide) (by decide) (by decide) (by decide) rfl
    ⟨by decide, by decide⟩

/-- A client that declares a size of `2^63` bytes, to a server with the SIZE extension and a
    `MaxMessageSize` of 10. -/
def oversizeSession : Engine :=
  Engine.new
    { serverHostname := ascii "mx", limits := { maxMessageSize := 10 },
      extensions := { size := true } }
    { buf := [], final := .eof,
      src := [.data (ascii "EHLO c\r\nMAIL FROM:<a@b> SIZE=9223372036854775808\r\n")] } [] []

/-- The MAIL declaring `2^63` bytes is answered `250 OK` and opens an envelope. -/
theorem oversize_mail_accepted :
    (oversizeSession.run quietWorld 2).1.log.getLast? = some (.reply responseOK) ∧
      (oversizeSession.run quietWorld 2).1.envelope.isSome := by
  decide

end Engine

end Icesmtp
