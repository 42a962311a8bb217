/-
  icesmtp formalization — session configuration, limits, session state and
  the collaborator answers (`session.go`, `tls.go`, `mailbox.go`, `limits.go`).

  Collaborators are the engine's environment: only the values they return
  are modelled, in `Engine.World`.  A configured collaborator is a flag.
-/
import Icesmtp.Envelope
import Icesmtp.Conn

namespace Icesmtp

/-- `SessionLimits` (the durations only set deadlines, and `MaxAuthAttempts` is not read
    by the engine). -/
structure SessionLimits where
  maxMessageSize : Int := 0
  maxRecipients : Int := 0
  maxCommandLength : Int := 0
  maxLineLength : Int := 0
  maxErrors : Int := 0
  maxTransactions : Int := 0
  deriving DecidableEq, Repr

/-- `DefaultSessionLimits` (its timeouts and `MaxAuthAttempts` are not modelled). -/
def defaultSessionLimits : SessionLimits :=
  { maxMessageSize := 25 * 1024 * 1024, maxRecipients := 100, maxCommandLength := 512,
    maxLineLength := 998, maxErrors := 10, maxTransactions := 100 }

/-- `TLSPolicy`. -/
inductive TLSPolicy where
  | disabled | optional | required | immediate
  deriving DecidableEq, Repr

/-- `ExtensionSet`. -/
structure ExtensionSet where
  starttls : Bool := false
  size : Bool := false
  eightBitMIME : Bool := false
  pipelining : Bool := false
  enhancedStatusCodes : Bool := false
  smtputf8 : Bool := false
  auth : Bool := false
  vrfy : Bool := false
  expn : Bool := false
  help : Bool := false
  deriving DecidableEq, Repr

/-- `SessionConfig`; the Mailbox is always configured, the envelope factory is the
    standard one and logging is not modelled. -/
structure SessionConfig where
  serverHostname : Bytes
  limits : SessionLimits := {}
  tlsPolicy : TLSPolicy := .disabled
  tlsProvider : Bool := false
  senderPolicy : Bool := false
  storage : Bool := false
  extensions : ExtensionSet := {}
  hooks : Bool := false
  deriving DecidableEq, Repr

/-- `TLSConnectionState`. -/
structure TLSConnectionState where
  version : Nat
  cipherSuite : Nat
  serverName : Bytes := []
  peerCertificates : Bool := false
  verifiedChains : Bool := false
  deriving DecidableEq, Repr

/-- `TLSConnectionState.VersionString`. -/
def TLSConnectionState.versionString (s : TLSConnectionState) : Bytes :=
  if s.version = 0x0301 then ascii "TLS 1.0"
  else if s.version = 0x0302 then ascii "TLS 1.1"
  else if s.version = 0x0303 then ascii "TLS 1.2"
  else if s.version = 0x0304 then ascii "TLS 1.3"
  else ascii "Unknown"

/-- `SessionState` (its unused `Envelope` field is left out). -/
structure SessionState where
  state : State
  clientHostname : Bytes := []
  tlsActive : Bool := false
  tlsState : Option TLSConnectionState := none
  authenticated : Bool := false
  authenticatedUser : Bytes := []
  consecutiveErrors : Nat := 0
  deriving DecidableEq, Repr

/-- The counters of `SessionStats` that the engine reads or that a run commits. -/
structure SessionStats where
  transactionCount : Nat := 0
  messageCount : Nat := 0
  recipientCount : Nat := 0
  deriving DecidableEq, Repr

/-- `DisconnectReason`. -/
inductive DisconnectReason where
  | normal | timeout | error | policyViolation | resourceLimit | tlsFailure | serverShutdown
  deriving DecidableEq, Repr

/-- `SenderResult`. -/
structure SenderResult where
  accepted : Bool
  response : Response
  requireAuth : Bool := false
  deriving DecidableEq, Repr

/-- `RecipientStatus`. -/
inductive RecipientStatus where
  | pending | accepted | rejected | deferred
  deriving DecidableEq, Repr

/-- `RecipientResult`. -/
structure RecipientResult where
  status : RecipientStatus
  response : Response
  deriving DecidableEq, Repr

/-- A successful `Conn.UpgradeTLS`: the negotiated state and the reads of the TLS
    stream. -/
structure TLSSession where
  state : TLSConnectionState
  src : List Chunk
  final : Error
  deriving DecidableEq, Repr

/-! ## `StandardLimitChecker` -/

/-- The checks of `StandardLimitChecker` that compare with `>`: `err` once a limit that is
    set is exceeded. -/
def checkAbove (limit value : Int) (err : Error) : Option Error :=
  if 0 < limit ∧ limit < value then some err else none

/-- `StandardLimitChecker.CheckMessageSize`. -/
def checkMessageSize (limits : SessionLimits) (size : Int) : Option Error :=
  checkAbove limits.maxMessageSize size .messageTooLarge

/-- `StandardLimitChecker.CheckRecipientCount`. -/
def checkRecipientCount (limits : SessionLimits) (count : Int) : Option Error :=
  checkAbove limits.maxRecipients count .tooManyRecipients

/-- `StandardLimitChecker.CheckCommandLength`. -/
def checkCommandLength (limits : SessionLimits) (length : Int) : Option Error :=
  checkAbove limits.maxCommandLength length .commandTooLong

/-- `StandardLimitChecker.CheckLineLength`. -/
def checkLineLength (limits : SessionLimits) (length : Int) : Option Error :=
  checkAbove limits.maxLineLength length .lineTooLong

/-- `StandardLimitChecker.CheckErrorCount`: it compares with `>=`. -/
def checkErrorCount (limits : SessionLimits) (count : Nat) : Option Error :=
  if 0 < limits.maxErrors ∧ limits.maxErrors ≤ count then some .tooManyErrors else none

/-- `StandardLimitChecker.CheckTransactionCount`: it compares with `>=`. -/
def checkTransactionCount (limits : SessionLimits) (count : Int) : Option Error :=
  if 0 < limits.maxTransactions ∧ limits.maxTransactions ≤ count then some .tooManyTransactions
  else none

end Icesmtp
