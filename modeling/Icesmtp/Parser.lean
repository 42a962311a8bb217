/-
  icesmtp formalization — the SMTP grammar parsers (`parser.go`).

  * `Parser.parseCommand`: a command line (length limit, CRLF strip, verb,
    argument rules, ESMTP parameters of MAIL and RCPT);
  * `parseMailPath`, `extractPath`, `isValidAddress`: MAIL/RCPT paths;
  * `parseHeloHostname`, `isValidHostname`: HELO/EHLO arguments;
  * `isTerminator`, `unstuffLine`, `stuffLine`: DATA line framing
    (`DataLineReader`, which keeps no state).
-/
import Icesmtp.State

namespace Icesmtp

/-- The sentinel errors of `parser.go` and `ErrCommandTooLong`. -/
inductive ParseErrorKind where
  | commandTooLong | emptyCommand | invalidCommand | missingArgument | unexpectedArgument
  | invalidPath | invalidAddress | missingColon | invalidSyntax
  deriving DecidableEq, Repr

/-- `ParseError`: the sentinel, its context and the input that failed. -/
structure ParseError where
  err : ParseErrorKind
  context : Bytes := []
  input : Bytes := []
  deriving DecidableEq, Repr

/-- `Parser`: the parser's only setting. -/
structure Parser where
  maxCommandLength : Int
  deriving DecidableEq, Repr

/-! ## Command lines -/

/-- `splitCommand`: the verb before the first space and the rest after it. -/
def splitCommand (line : Bytes) : Bytes × Bytes :=
  match indexByte line 32 with
  | none => (line, [])
  | some i => (line.take i, line.drop (i + 1))

/-- `parseESMTPParams`: the whitespace-separated `KEY=VALUE` words after the first `>`,
    keys upper-cased, a word without `=` giving an empty value. -/
def parseESMTPParams (arg : Bytes) : ESMTPParams :=
  match indexByte arg 62 with
  | none => []
  | some closeIdx =>
    (fields (trimSpace (arg.drop (closeIdx + 1)))).map fun part =>
      match indexByte part 61 with
      | none => (toUpper part, [])
      | some eqIdx => (toUpper (part.take eqIdx), part.drop (eqIdx + 1))

/-- `Parser.ParseCommand`. -/
def Parser.parseCommand (p : Parser) (line : Bytes) : Except ParseError Command :=
  if 0 < p.maxCommandLength ∧ p.maxCommandLength < line.length then
    .error { err := .commandTooLong, input := line }
  else
    let line := trimSuffix (trimSuffix line crlf) [10]
    if line = [] then .error { err := .emptyCommand } else
    let (verb, arg) := splitCommand line
    let cmdVerb := parseCommandVerb verb
    if cmdVerb = .unknown then
      .error { err := .invalidCommand, input := line, context := verb }
    else
      let argStr := trimSpace arg
      if commandRequiresArgument cmdVerb ∧ argStr = [] then
        .error { err := .missingArgument,
                 context := cmdVerb.name ++ ascii " requires an argument" }
      else if commandForbidsArgument cmdVerb ∧ argStr ≠ [] then
        .error { err := .unexpectedArgument,
                 context := cmdVerb.name ++ ascii " does not accept arguments" }
      else
        .ok { verb := cmdVerb, raw := line, argument := argStr,
              params := if cmdVerb = .mail ∨ cmdVerb = .rcpt then parseESMTPParams argStr
                else [] }

/-! ## Paths -/

/-- `isValidDomainChar`. -/
def isValidDomainChar (c : Nat) : Bool :=
  (0x61 ≤ c && c ≤ 0x7A) || (0x41 ≤ c && c ≤ 0x5A) || (0x30 ≤ c && c ≤ 0x39) ||
    c = 0x2D || c = 0x2E

/-- `isValidAddress`: one `@` found from the end, neither first nor last; a domain that
    neither begins nor ends with `.` or `-` and whose runes are domain characters. -/
def isValidAddress (addr : Bytes) : Bool :=
  match lastIndexByte addr 64 with
  | none => false
  | some atIdx =>
    let localPart := addr.take atIdx
    let domain := addr.drop (atIdx + 1)
    atIdx ≠ 0 && atIdx ≠ addr.length - 1 && localPart ≠ [] && domain ≠ [] &&
      !hasPrefix domain [46] && !hasSuffix domain [46] &&
      !hasPrefix domain [45] && !hasSuffix domain [45] &&
      (runes domain.length domain).all fun p => isValidDomainChar p.1

/-- `extractPath`: `<inner>` up to the first `>`; an empty `inner` is the null path; a
    leading `@...:` is the source route. -/
def extractPath (s : Bytes) : Except ParseError MailPath :=
  let s := trimSpace s
  if !hasPrefix s [60] then .error { err := .invalidPath, context := ascii "path must start with <", input := s }
  else match indexByte s 62 with
  | none => .error { err := .invalidPath, context := ascii "path must end with >", input := s }
  | some closeIdx =>
    let inner := (s.take closeIdx).drop 1
    if inner = [] then .ok { isNull := true } else
    let (sourceRoute, inner) :=
      if hasPrefix inner [64] then
        match indexByte inner 58 with
        | some colonIdx => (inner.take (colonIdx + 1), inner.drop (colonIdx + 1))
        | none => ([], inner)
      else ([], inner)
    if !isValidAddress inner then
      .error { err := .invalidAddress, context := ascii "invalid address format", input := inner }
    else .ok { address := inner, sourceRoute, isNull := false }

/-- `ParseMailPath`: `prefix:` (any case) and then a path. -/
def parseMailPath (arg : Bytes) (pre : Bytes) : Except ParseError MailPath :=
  let arg := trimSpace arg
  if !hasPrefix (toUpper arg) (pre ++ [58]) then
    .error { err := .missingColon, context := ascii "expected " ++ pre ++ [58], input := arg }
  else extractPath (trimSpace (arg.drop (pre.length + 1)))

/-! ## HELO/EHLO hostnames -/

/-- `isAlphanumeric`. -/
def isAlphanumeric (c : Nat) : Bool :=
  (0x61 ≤ c && c ≤ 0x7A) || (0x41 ≤ c && c ≤ 0x5A) || (0x30 ≤ c && c ≤ 0x39)

/-- `isValidHostname`: at most 255 bytes of dot-separated labels of 1 to 63 bytes that
    start and end alphanumeric and hold only alphanumerics and hyphens. -/
def isValidHostname (s : Bytes) : Bool :=
  s ≠ [] && s.length ≤ 255 &&
    (splitByte s 46).all fun label =>
      match label.head?, label.getLast? with
      | some a, some z =>
        label.length ≤ 63 && isAlphanumeric a.toNat && isAlphanumeric z.toNat &&
          (runes label.length label).all fun p => isAlphanumeric p.1 || p.1 = 0x2D
      | _, _ => false

/-- `ParseHeloHostname`: an address literal `[...]` is accepted unchecked. -/
def parseHeloHostname (arg : Bytes) : Except ParseError Bytes :=
  let hostname := trimSpace arg
  if hostname = [] then .error { err := .missingArgument, context := ascii "hostname required" }
  else if hasPrefix hostname [91] then
    if !hasSuffix hostname [93] then
      .error { err := .invalidSyntax, context := ascii "unclosed address literal", input := hostname }
    else .ok hostname
  else if !isValidHostname hostname then
    .error { err := .invalidSyntax, context := ascii "invalid hostname", input := hostname }
  else .ok hostname

/-! ## DATA framing -/

/-- `DataLineReader.IsTerminator`: the line is `.` once its CRLF or LF is removed. -/
def isTerminator (line : Bytes) : Bool := trimSuffix (trimSuffix line crlf) [10] == [46]

/-- `DataLineReader.UnstuffLine`: drop one leading dot. -/
def unstuffLine : Bytes → Bytes
  | 46 :: rest => rest
  | line => line

/-- `DataLineReader.StuffLine`: prepend a dot to a line that starts with one. -/
def stuffLine : Bytes → Bytes
  | 46 :: rest => 46 :: 46 :: rest
  | line => line

end Icesmtp
