/-
  icesmtp formalization — envelopes and the standard envelope builder
  (`envelope.go`, `envelope_builder.go`).

  The builder hands out data writers that all append to the builder's one
  buffer (`&b.data`); a writer is a handle into `writers`, the closed flags of
  every writer the builder has returned, and `dataWriter` is the handle the
  builder holds.  `reset` forgets that handle and empties the buffer but does
  not close the writers already handed out.
-/
import Icesmtp.Parser

namespace Icesmtp

/-- `EnvelopeMetadata`: the session snapshot taken when MAIL is accepted. -/
structure EnvelopeMetadata where
  sessionID : Bytes
  clientHostname : Bytes
  clientIP : Bytes
  serverHostname : Bytes
  tlsActive : Bool
  tlsVersion : Bytes := []
  tlsCipherSuite : Nat := 0
  authenticatedUser : Bytes := []
  deriving DecidableEq, Repr

/-- `StandardEnvelope`. -/
structure Envelope where
  id : Bytes
  mailFrom : MailPath
  recipients : List MailPath
  esmtpParams : ESMTPParams
  data : Bytes
  finalized : Bool
  metadata : EnvelopeMetadata
  deriving DecidableEq, Repr

/-- `Envelope.RecipientCount`. -/
def Envelope.recipientCount (e : Envelope) : Nat := e.recipients.length

/-- `Envelope.DataSize`. -/
def Envelope.dataSize (e : Envelope) : Nat := e.data.length

/-- The errors of the builder and of its writers. -/
inductive EnvelopeError where
  | envelopeFinalized | writerAlreadyOpen | noMailFrom | noRecipients | dataWriterOpen
  | writerClosed
  deriving DecidableEq, Repr

/-- `StandardEnvelopeBuilder` (its `receivedAt` time is not modelled). -/
structure StandardEnvelopeBuilder where
  id : Bytes
  mailFrom : Option MailPath := none
  recipients : List MailPath := []
  esmtpParams : ESMTPParams := []
  data : Bytes := []
  dataWriter : Option Nat := none
  finalized : Bool := false
  metadata : EnvelopeMetadata
  writers : List Bool := []
  deriving DecidableEq, Repr

namespace StandardEnvelopeBuilder

/-- `NewStandardEnvelopeBuilder`, with the fresh envelope id. -/
def new (id : Bytes) (metadata : EnvelopeMetadata) : StandardEnvelopeBuilder :=
  { id, metadata }

/-- `SetMailFrom`. -/
def setMailFrom (b : StandardEnvelopeBuilder) (path : MailPath) (params : ESMTPParams) :
    Except EnvelopeError StandardEnvelopeBuilder :=
  if b.finalized then .error .envelopeFinalized
  else .ok { b with mailFrom := some path, esmtpParams := params }

/-- `AddRecipient`. -/
def addRecipient (b : StandardEnvelopeBuilder) (path : MailPath) :
    Except EnvelopeError StandardEnvelopeBuilder :=
  if b.finalized then .error .envelopeFinalized
  else .ok { b with recipients := b.recipients ++ [path] }

/-- `DataWriter`: a new writer on the builder's buffer, unless one is held. -/
def dataWriterOpen (b : StandardEnvelopeBuilder) :
    Except EnvelopeError (Nat × StandardEnvelopeBuilder) :=
  if b.finalized then .error .envelopeFinalized
  else if b.dataWriter.isSome then .error .writerAlreadyOpen
  else .ok (b.writers.length,
    { b with dataWriter := some b.writers.length, writers := b.writers ++ [false] })

/-- Whether the writer `w` was closed. -/
def writerIsClosed (b : StandardEnvelopeBuilder) (w : Nat) : Bool := b.writers.getD w true

/-- `envelopeDataWriter.Write`: append to the buffer unless the writer is closed. -/
def write (b : StandardEnvelopeBuilder) (w : Nat) (p : Bytes) :
    Except EnvelopeError (Nat × StandardEnvelopeBuilder) :=
  if b.writerIsClosed w then .error .writerClosed
  else .ok (p.length, { b with data := b.data ++ p })

/-- `envelopeDataWriter.Close`. -/
def close (b : StandardEnvelopeBuilder) (w : Nat) : StandardEnvelopeBuilder :=
  { b with writers := b.writers.set w true }

/-- `Finalize`: sender, recipients and a closed writer (if any) are required. -/
def finalize (b : StandardEnvelopeBuilder) :
    Except EnvelopeError (Envelope × StandardEnvelopeBuilder) :=
  if b.finalized then .error .envelopeFinalized else
  match b.mailFrom with
  | none => .error .noMailFrom
  | some mailFrom =>
    if b.recipients = [] then .error .noRecipients
    else if b.dataWriter.any fun w => !b.writerIsClosed w then .error .dataWriterOpen
    else .ok ({ id := b.id, mailFrom, recipients := b.recipients, esmtpParams := b.esmtpParams,
                data := b.data, finalized := true, metadata := b.metadata },
              { b with finalized := true })

/-- `Reset`, with the fresh envelope id. -/
def reset (b : StandardEnvelopeBuilder) (id : Bytes) : StandardEnvelopeBuilder :=
  { b with id, mailFrom := none, recipients := [], esmtpParams := [], data := [],
           dataWriter := none, finalized := false }

/-- `Build`: the current envelope, not finalized. -/
def build (b : StandardEnvelopeBuilder) : Envelope :=
  { id := b.id, mailFrom := b.mailFrom.getD {}, recipients := b.recipients,
    esmtpParams := b.esmtpParams, data := b.data, finalized := b.finalized,
    metadata := b.metadata }

end StandardEnvelopeBuilder

end Icesmtp
