/-
  icesmtp formalization — the integer formatting of the standard logger
  (`logger.go`: `intToStr`, `formatValue`).

  A Go `int64` is an integer in `[-2^63, 2^63)` (`Int64`); its negation wraps
  around in two's complement (`Int64.neg`), so `-MinInt64 = MinInt64`.  An
  `int` is 64 bits wide, as on the platforms the package targets.
-/
import Icesmtp.Reply

namespace Icesmtp

/-- A Go `int64`. -/
structure Int64 where
  val : Int
  ge : -2 ^ 63 ≤ val
  lt : val < 2 ^ 63
  deriving DecidableEq

/-- `math.MinInt64`. -/
def Int64.min : Int64 := ⟨-2 ^ 63, Int.le_refl _, by decide⟩

/-- `-n` on an `int64`: the negation taken modulo `2^64` into `[-2^63, 2^63)`. -/
def Int64.neg (n : Int64) : Int64 :=
  ⟨(-n.val + 2 ^ 63) % 2 ^ 64 - 2 ^ 63, by omega, by omega⟩

/-- The digit loop of `intToStr`: while `n > 0`, the last decimal digit of `n` is put in
    front of the bytes written so far (`buf[i:]`).  On `n > 0` Go's truncated `/` and `%`
    agree with Lean's. -/
def intToStrLoop (n : Int) (buf : Bytes) : Bytes :=
  if 0 < n then intToStrLoop (n / 10) ((48 + n % 10).toNat.toUInt8 :: buf) else buf
termination_by n.toNat
decreasing_by omega

/-- `intToStr`. -/
def intToStr (n : Int64) : Bytes :=
  if n.val = 0 then ascii "0" else
  let neg := decide (n.val < 0)
  let n := if neg then n.neg else n
  let buf := intToStrLoop n.val []
  if neg then 45 :: buf else buf

/-- The dynamic types `formatValue` tells apart; `other` is every other type. -/
inductive LogValue where
  | nil
  | string (s : Bytes)
  | int (n : Int64)
  | int64 (n : Int64)
  | bool (b : Bool)
  | other

/-- `formatValue`. -/
def formatValue : LogValue → Bytes
  | .nil => ascii "<nil>"
  | .string s => s
  | .int n => intToStr n
  | .int64 n => intToStr n
  | .bool b => if b then ascii "true" else ascii "false"
  | .other => ascii "<value>"

end Icesmtp
