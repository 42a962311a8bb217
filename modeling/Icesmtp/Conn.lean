/-
  icesmtp formalization — error values and the buffered connection
  (`conn.go`: `BufferedConn`, over `bufio.Reader`).

  The reading side of a connection is what the `bufio.Reader` holds and the
  results of the connection's next `Read` calls; once those are used, every
  `Read` returns the same error (`final`).  Timing is not modelled: a read
  deadline that expires is a `Read` that returns a timeout error.

  `Reader.readBytes` is `ReadBytes('\n')`: a line with its `\n`, or the first
  error, which discards the bytes buffered so far.
-/
import Icesmtp.StateMachine
import Icesmtp.Parser

namespace Icesmtp

/-- The error values the engine tells apart. -/
inductive Error where
  /-- `io.EOF` -/
  | eof
  /-- `io.ErrUnexpectedEOF` -/
  | unexpectedEOF
  /-- `io.ErrClosedPipe` -/
  | closedPipe
  /-- `ErrDeadlineExceeded` of `conn.go` -/
  | deadlineExceeded
  /-- `context.Canceled` -/
  | contextCanceled
  /-- `context.DeadlineExceeded` (a `net.Error` whose `Timeout()` is true) -/
  | contextDeadline
  /-- a `net.Error` such as `*net.OpError`, with its `Timeout()` -/
  | net (timeout : Bool)
  /-- a `*ParseError` -/
  | parse (e : ParseError)
  /-- `ErrTooManyErrors` -/
  | tooManyErrors
  /-- `ErrLineTooLong` -/
  | lineTooLong
  /-- `ErrMessageTooLarge` -/
  | messageTooLarge
  /-- `ErrTooManyRecipients` -/
  | tooManyRecipients
  /-- `ErrCommandTooLong` -/
  | commandTooLong
  /-- `ErrTooManyTransactions` -/
  | tooManyTransactions
  /-- a `*StateTransitionError` -/
  | transition (e : StateTransitionError)
  /-- `fmt.Errorf("...: %w", cause)` -/
  | wrap (context : Bytes) (cause : Error)
  /-- any other error value (a TLS alert, an error of a collaborator, ...) -/
  | other (tag : Nat)
  deriving DecidableEq, Repr

/-- `errors.Is(err, target)` for a sentinel `target`. -/
def Error.is (err target : Error) : Bool :=
  match err with
  | .wrap _ cause => err == target || cause.is target
  | _ => err == target

/-- `isTimeoutError`: `errors.As` a `net.Error` whose `Timeout()` is true. -/
def Error.isTimeoutError : Error → Bool
  | .net t => t
  | .contextDeadline => true
  | .wrap _ cause => cause.isTimeoutError
  | _ => false

/-- `isIOError`: compared with `==`, so wrapped or other I/O errors do not count. -/
def Error.isIOError (err : Error) : Bool :=
  err == .eof || err == .unexpectedEOF || err == .closedPipe

/-- The engine's timeout test: `errors.Is(err, context.DeadlineExceeded)`,
    `errors.Is(err, ErrDeadlineExceeded)` or `isTimeoutError(err)`. -/
def Error.isTimeout (err : Error) : Bool :=
  err.is .contextDeadline || err.is .deadlineExceeded || err.isTimeoutError

/-- One result of the connection's `Read`. -/
inductive Chunk where
  | data (bs : Bytes)
  | fail (e : Error)
  deriving DecidableEq, Repr

/-- The reading side of a `BufferedConn`. -/
structure Reader where
  buf : Bytes
  src : List Chunk
  final : Error
  deriving DecidableEq, Repr

/-- The first line of `buf` with its `\n`, and the rest. -/
def splitLine (buf : Bytes) : Option (Bytes × Bytes) :=
  (indexByte buf 10).map fun i => (buf.take (i + 1), buf.drop (i + 1))

/-- `bufio.Reader.ReadBytes('\n')` on the buffer `buf` and the reads `src`. -/
def readBytesAux (final : Error) (buf : Bytes) (src : List Chunk) :
    Except Error Bytes × Bytes × List Chunk :=
  match splitLine buf, src with
  | some (line, rest), src => (.ok line, rest, src)
  | none, [] => (.error final, [], [])
  | none, .data bs :: src => readBytesAux final (buf ++ bs) src
  | none, .fail e :: src => (.error e, [], src)

section
variable {final : Error} {buf : Bytes} {src : List Chunk}

theorem readBytesAux_of_some {line rest : Bytes} (h : splitLine buf = some (line, rest)) :
    readBytesAux final buf src = (.ok line, rest, src) := by
  rw [readBytesAux.eq_def, h]

theorem readBytesAux_nil (h : splitLine buf = none) :
    readBytesAux final buf [] = (.error final, [], []) := by
  rw [readBytesAux.eq_def, h]

theorem readBytesAux_data (h : splitLine buf = none) (bs : Bytes) :
    readBytesAux final buf (.data bs :: src) = readBytesAux final (buf ++ bs) src := by
  rw [readBytesAux.eq_def, h]

theorem readBytesAux_fail (h : splitLine buf = none) (e : Error) :
    readBytesAux final buf (.fail e :: src) = (.error e, [], src) := by
  rw [readBytesAux.eq_def, h]

end

/-- `ReadBytes('\n')` on the buffered connection. -/
def Reader.readBytes (r : Reader) : Except Error Bytes × Reader :=
  let (res, buf, src) := readBytesAux r.final r.buf r.src
  (res, { r with buf, src })

/-- What one read delivers, counted with its result. -/
def Chunk.size : Chunk → Nat
  | .data bs => bs.length + 1
  | .fail _ => 1

/-- What the reader can still deliver: buffered bytes, bytes and results of later reads.
    Every line read makes it smaller. -/
def Reader.size (r : Reader) : Nat := r.buf.length + (r.src.map Chunk.size).sum

/-- `BufferedConn.ResetReader`: a new `bufio.Reader` over the (upgraded) connection. -/
def Reader.resetReader (r : Reader) : Reader := { r with buf := [] }

end Icesmtp
