/-
  icesmtp formalization — byte strings and the Go library functions the
  parser calls (`bytes`, `strings`, `unicode/utf8`, `unicode`).

  A Go `string` or `[]byte` is a list of bytes.  The `strings` functions that
  look at runes decode UTF-8 the way `unicode/utf8` does: an invalid byte is
  the rune `U+FFFD` of width one.

  * `decodeRune`, `decodeLastRune`: `utf8.DecodeRune` and `utf8.DecodeLastRune`;
  * `trimSpace`, `fields`, `toUpper`, `toLower`: `strings.TrimSpace`, `strings.Fields`,
    `strings.ToUpper`, `strings.ToLower` (the ASCII fast paths compute what the rune
    paths do);
  * `trimSuffix`, `indexByte`, `lastIndexByte`, `splitByte`: the byte-level
    helpers.
-/
import Mathlib.Algebra.Group.Int
import Mathlib.Algebra.Order.Ring.Nat
import Mathlib.Data.List.Basic
import Icesmtp.CaseTables

namespace Icesmtp

/-- Results of fallible functions are compared in tests. -/
instance instDecidableEqExcept {ε α : Type} [DecidableEq ε] [DecidableEq α] :
    DecidableEq (Except ε α)
  | .error a, .error b => decidable_of_iff (a = b) (by simp)
  | .ok a, .ok b => decidable_of_iff (a = b) (by simp)
  | .error _, .ok _ => isFalse nofun
  | .ok _, .error _ => isFalse nofun

/-- A Go `string` or `[]byte`. -/
abbrev Bytes := List UInt8

/-- The bytes of an ASCII literal of the source. -/
def ascii (s : String) : Bytes := s.toList.map fun c => c.toNat.toUInt8

/-! ## Byte-level helpers -/

/-- `bytes.TrimSuffix` / `strings.TrimSuffix`. -/
def trimSuffix (s suf : Bytes) : Bytes :=
  if suf.isSuffixOf s then s.take (s.length - suf.length) else s

/-- `strings.HasPrefix`. -/
def hasPrefix (s pre : Bytes) : Bool := pre.isPrefixOf s

/-- `strings.HasSuffix`. -/
def hasSuffix (s suf : Bytes) : Bool := suf.isSuffixOf s

/-- `bytes.IndexByte`, and `strings.Index` with a one-byte needle; `none` is `-1`. -/
def indexByte (s : Bytes) (b : UInt8) : Option Nat := s.findIdx? (· == b)

/-- `strings.LastIndex` with a one-byte needle. -/
def lastIndexByte (s : Bytes) (b : UInt8) : Option Nat :=
  (indexByte s.reverse b).map fun i => s.length - 1 - i

/-- `strings.Split` with a one-byte separator. -/
def splitByte (s : Bytes) (b : UInt8) : List Bytes := s.splitOn b

/-! ## UTF-8 -/

/-- `utf8.RuneError`, `U+FFFD`. -/
def runeError : Nat := 0xFFFD

/-- A continuation byte `10xxxxxx`. -/
def isCont (b : UInt8) : Bool := 0x80 ≤ b && b ≤ 0xBF

/-- The length of the sequence a non-ASCII byte `b` starts and the accepted range of the
    second byte (`utf8.first` and `utf8.acceptRanges`); `none` when no sequence starts
    with `b`. -/
def leadInfo (b : UInt8) : Option (Nat × UInt8 × UInt8) :=
  if b < 0xC2 then none
  else if b ≤ 0xDF then some (2, 0x80, 0xBF)
  else if b = 0xE0 then some (3, 0xA0, 0xBF)
  else if b = 0xED then some (3, 0x80, 0x9F)
  else if b ≤ 0xEF then some (3, 0x80, 0xBF)
  else if b = 0xF0 then some (4, 0x90, 0xBF)
  else if b ≤ 0xF3 then some (4, 0x80, 0xBF)
  else if b = 0xF4 then some (4, 0x80, 0x8F)
  else none

/-- `utf8.DecodeRune`: the first rune of `p` and its width. -/
def decodeRune : Bytes → Nat × Nat
  | [] => (runeError, 0)
  | b0 :: p =>
    if b0 < 0x80 then (b0.toNat, 1) else
    match leadInfo b0, p with
    | some (2, lo, hi), b1 :: _ =>
      if b1 < lo || hi < b1 then (runeError, 1)
      else ((b0.toNat % 32) * 64 + b1.toNat % 64, 2)
    | some (3, lo, hi), b1 :: b2 :: _ =>
      if b1 < lo || hi < b1 || !isCont b2 then (runeError, 1)
      else ((b0.toNat % 16) * 4096 + (b1.toNat % 64) * 64 + b2.toNat % 64, 3)
    | some (4, lo, hi), b1 :: b2 :: b3 :: _ =>
      if b1 < lo || hi < b1 || !isCont b2 || !isCont b3 then (runeError, 1)
      else ((b0.toNat % 8) * 262144 + (b1.toNat % 64) * 4096 + (b2.toNat % 64) * 64 +
        b3.toNat % 64, 4)
    | _, _ => (runeError, 1)

/-- `utf8.DecodeLastRune`: the last rune of `p` and its width.  The start is searched
    among the last `UTFMax` bytes; a sequence that does not end exactly at the end of `p`
    is `RuneError` of width one. -/
def decodeLastRune (p : Bytes) : Nat × Nat :=
  match p.getLast? with
  | none => (runeError, 0)
  | some b =>
    if b < 0x80 then (b.toNat, 1) else
    let tail := p.drop (p.length - 4)
    -- the last byte of `tail.dropLast` that is not a continuation byte starts the rune
    let start := match (tail.dropLast.reverse.findIdx? fun c => !isCont c) with
      | some k => tail.length - 2 - k
      | none => 0
    let seq := tail.drop start
    let (r, size) := decodeRune seq
    if size = seq.length then (r, size) else (runeError, 1)

/-- `utf8.EncodeRune`: the bytes of a rune; surrogates and values past `U+10FFFF` are
    encoded as `RuneError`. -/
def encodeRune (r : Nat) : Bytes :=
  let r := if (0xD800 ≤ r ∧ r ≤ 0xDFFF) ∨ 0x10FFFF < r then runeError else r
  if r < 0x80 then [r.toUInt8]
  else if r < 0x800 then [(0xC0 + r / 64).toUInt8, (0x80 + r % 64).toUInt8]
  else if r < 0x10000 then
    [(0xE0 + r / 4096).toUInt8, (0x80 + r / 64 % 64).toUInt8, (0x80 + r % 64).toUInt8]
  else
    [(0xF0 + r / 262144).toUInt8, (0x80 + r / 4096 % 64).toUInt8,
      (0x80 + r / 64 % 64).toUInt8, (0x80 + r % 64).toUInt8]

/-- The runes of `s` with their bytes, in order, as `for _, r := range s` sees them. -/
def runes : Nat → Bytes → List (Nat × Bytes)
  | 0, _ => []
  | _, [] => []
  | fuel + 1, s@(_ :: _) =>
    let (r, size) := decodeRune s
    (r, s.take size) :: runes fuel (s.drop size)

/-- `unicode.IsSpace`. -/
def isSpaceRune (r : Nat) : Bool :=
  r = 0x09 || r = 0x0A || r = 0x0B || r = 0x0C || r = 0x0D || r = 0x20 || r = 0x85 ||
    r = 0xA0 || r = 0x1680 || (0x2000 ≤ r && r ≤ 0x200A) || r = 0x2028 || r = 0x2029 ||
    r = 0x202F || r = 0x205F || r = 0x3000

/-- `unicode.ToUpper`: ASCII directly, other runes through `unicode.CaseRanges`. -/
def toUpperRune (r : Nat) : Nat :=
  if r ≤ 0x7F then (if 0x61 ≤ r ∧ r ≤ 0x7A then r - 32 else r) else toCase .upper r

/-- `unicode.ToLower`: ASCII directly, other runes through `unicode.CaseRanges`. -/
def toLowerRune (r : Nat) : Nat :=
  if r ≤ 0x7F then (if 0x41 ≤ r ∧ r ≤ 0x5A then r + 32 else r) else toCase .lower r

/-! ## `strings` functions on runes -/

/-- `strings.TrimLeftFunc`. -/
def trimLeftFunc (f : Nat → Bool) : Nat → Bytes → Bytes
  | 0, s => s
  | _, [] => []
  | fuel + 1, s@(_ :: _) =>
    let (r, size) := decodeRune s
    if f r then trimLeftFunc f fuel (s.drop size) else s

/-- `strings.TrimRightFunc`: drops trailing runes, decoded from the end, while `f` holds. -/
def trimRightFunc (f : Nat → Bool) : Nat → Bytes → Bytes
  | 0, s => s
  | _, [] => []
  | fuel + 1, s@(_ :: _) =>
    let (r, size) := decodeLastRune s
    if f r then trimRightFunc f fuel (s.take (s.length - size)) else s

/-- `strings.TrimSpace`. -/
def trimSpace (s : Bytes) : Bytes :=
  trimRightFunc isSpaceRune s.length (trimLeftFunc isSpaceRune s.length s)

/-- `strings.Fields`: the maximal runs of runes that are not `unicode.IsSpace`. -/
def fields (s : Bytes) : List Bytes :=
  ((runes s.length s).splitOnP fun p => isSpaceRune p.1).filterMap fun grp =>
    if grp.isEmpty then none else some (grp.flatMap Prod.snd)

/-- `strings.ToUpper`: byte-wise on ASCII input, otherwise `strings.Map(unicode.ToUpper)`,
    which re-encodes every rune (an invalid byte becomes the encoding of `U+FFFD`). -/
def toUpper (s : Bytes) : Bytes :=
  if s.all (· < 0x80) then
    s.map fun c => if 0x61 ≤ c && c ≤ 0x7A then c - 32 else c
  else (runes s.length s).flatMap fun p => encodeRune (toUpperRune p.1)

/-- `strings.ToLower`: byte-wise on ASCII input, otherwise `strings.Map(unicode.ToLower)`. -/
def toLower (s : Bytes) : Bytes :=
  if s.all (· < 0x80) then
    s.map fun c => if 0x41 ≤ c && c ≤ 0x5A then c + 32 else c
  else (runes s.length s).flatMap fun p => encodeRune (toLowerRune p.1)

end Icesmtp
