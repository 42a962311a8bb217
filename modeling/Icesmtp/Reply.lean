/-
  icesmtp formalization — reply codes and the response formatter
  (`reply.go`).

  A `Response` is a code, an optional enhanced status code and its text lines;
  `Response.string` is `Response.String()`, the bytes written on the wire.
-/
import Icesmtp.GoStrings

namespace Icesmtp

/-- `ReplyCode`, a Go `int`. -/
abbrev ReplyCode := Int

/-- `ReplyCode.IsPositive`: a 2xx or 3xx code. -/
def ReplyCode.isPositive (c : ReplyCode) : Bool := 200 ≤ c && c < 400

/-- `ReplyCode.IsTransient`: a 4xx code. -/
def ReplyCode.isTransient (c : ReplyCode) : Bool := 400 ≤ c && c < 500

/-- `ReplyCode.IsPermanent`: a 5xx code. -/
def ReplyCode.isPermanent (c : ReplyCode) : Bool := 500 ≤ c

/-- `EnhancedStatusCode` (RFC 3463): class, subject and detail. -/
structure EnhancedStatusCode where
  class_ : Int
  subject : Int
  detail : Int
  deriving DecidableEq, Repr

/-- `Response`: a code, an optional enhanced code and the text lines. -/
structure Response where
  code : ReplyCode
  enhancedCode : Option EnhancedStatusCode := none
  lines : List Bytes := []
  deriving DecidableEq, Repr

/-- `fmt.Sprintf("%d", n)`. -/
def decimal (n : Int) : Bytes := ascii (toString n)

/-- `EnhancedStatusCode.String()`: `class.subject.detail`. -/
def EnhancedStatusCode.string (e : EnhancedStatusCode) : Bytes :=
  decimal e.class_ ++ ascii "." ++ decimal e.subject ++ ascii "." ++ decimal e.detail

/-- `"\r\n"`. -/
def crlf : Bytes := [13, 10]

/-- One formatted line: `code`, the separator (`-` or space), the enhanced code and the
    text. -/
def Response.formatLine (r : Response) (sep : UInt8) (line : Bytes) : Bytes :=
  match r.enhancedCode with
  | some e => decimal r.code ++ [sep] ++ e.string ++ ascii " " ++ line ++ crlf
  | none => decimal r.code ++ [sep] ++ line ++ crlf

/-- `Response.String()`: every line but the last uses `code-`, the last `code `; an empty
    response is the code alone (with its enhanced code). -/
def Response.string (r : Response) : Bytes :=
  match r.lines.getLast? with
  | none =>
    match r.enhancedCode with
    | some e => decimal r.code ++ ascii " " ++ e.string ++ crlf
    | none => decimal r.code ++ crlf
  | some last =>
    (r.lines.dropLast.flatMap fun l => r.formatLine 45 l) ++ r.formatLine 32 last

/-- `NewResponse`: a one-line response. -/
def newResponse (code : ReplyCode) (text : Bytes) : Response :=
  { code, lines := [text] }

/-- `NewMultilineResponse`. -/
def newMultilineResponse (code : ReplyCode) (lines : List Bytes) : Response :=
  { code, lines }

/-! ## Reply codes and prebuilt responses used by the engine -/

def reply214HelpMessage : ReplyCode := 214
def reply220ServiceReady : ReplyCode := 220
def reply221ServiceClosing : ReplyCode := 221
def reply250OK : ReplyCode := 250
def reply252CannotVRFY : ReplyCode := 252
def reply354StartMailInput : ReplyCode := 354
def reply421ServiceNotAvailable : ReplyCode := 421
def reply451LocalError : ReplyCode := 451
def reply452InsufficientStorage : ReplyCode := 452
def reply454TLSNotAvailable : ReplyCode := 454
def reply500SyntaxError : ReplyCode := 500
def reply501SyntaxErrorParams : ReplyCode := 501
def reply502CommandNotImplemented : ReplyCode := 502
def reply503BadSequence : ReplyCode := 503
def reply530AuthRequired : ReplyCode := 530
def reply550MailboxUnavailable : ReplyCode := 550
def reply552ExceededStorage : ReplyCode := 552
def reply554TransactionFailed : ReplyCode := 554

def responseBye : Response := newResponse reply221ServiceClosing (ascii "Bye")
def responseOK : Response := newResponse reply250OK (ascii "OK")
def responseStartMailInput : Response :=
  newResponse reply354StartMailInput (ascii "Start mail input; end with <CRLF>.<CRLF>")
def responseSyntaxError : Response :=
  newResponse reply500SyntaxError (ascii "Syntax error, command unrecognized")
def responseSyntaxErrorParams : Response :=
  newResponse reply501SyntaxErrorParams (ascii "Syntax error in parameters or arguments")
def responseCommandNotImplemented : Response :=
  newResponse reply502CommandNotImplemented (ascii "Command not implemented")
def responseBadSequence : Response := newResponse reply503BadSequence (ascii "Bad sequence of commands")
def responseTransactionFailed : Response :=
  newResponse reply554TransactionFailed (ascii "Transaction failed")

@[simp] theorem newResponse_code (c : ReplyCode) (t : Bytes) : (newResponse c t).code = c := rfl

end Icesmtp
