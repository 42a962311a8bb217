/-
  icesmtp formalization — the per-verb handlers of the engine other than DATA
  (`Engine.handleHELO` ... `Engine.handleSTARTTLS`).

  A handler returns the engine and the response to write.  `handleRCPT`
  dereferences the envelope and so returns `none` where Go would panic on a
  nil envelope.
-/
import Icesmtp.Engine.Basic

namespace Icesmtp

/-- The value of a decimal digit string. -/
def digitsValue (ds : Bytes) : Nat := ds.foldl (fun n d => 10 * n + (d.toNat - 48)) 0

/-- `fmt.Sscanf(s, "%d", &size)` into an `int64` that holds 0: an optional sign and
    digits; an empty numeral or one outside the `int64` range is an error that leaves 0. -/
def sscanfInt64 (s : Bytes) : Int :=
  let (neg, rest) := match s with
    | 45 :: r => (true, r)
    | 43 :: r => (false, r)
    | r => (false, r)
  let ds := rest.takeWhile fun c => 48 ≤ c && c ≤ 57
  let v : Int := if neg then -(digitsValue ds : Int) else digitsValue ds
  if ds = [] ∨ v < -2 ^ 63 ∨ 2 ^ 63 - 1 < v then 0 else v

namespace Engine

variable (w : World)

/-- `handleHELO`. -/
def handleHELO (e : Engine) (cmd : Command) : Engine × Response :=
  match parseHeloHostname cmd.argument with
  | .error _ => (e, responseSyntaxErrorParams)
  | .ok hostname =>
    let e := { e with state := { e.state with clientHostname := hostname },
                      sm := (StateMachine.transitionForCommand e.sm .helo true).1 }
    ((e.setState .identified).resetTransaction,
      newResponse reply250OK (e.config.serverHostname ++ ascii " Hello " ++ hostname))

/-- The extension lines of the EHLO reply. -/
def ehloExtensions (e : Engine) : List Bytes :=
  let ext := e.config.extensions
  (if ext.size ∧ 0 < e.config.limits.maxMessageSize then
      [ascii "SIZE " ++ decimal e.config.limits.maxMessageSize] else []) ++
  (if ext.starttls ∧ e.config.tlsPolicy ≠ .disabled ∧ !e.state.tlsActive then
      [ascii "STARTTLS"] else []) ++
  (if ext.eightBitMIME then [ascii "8BITMIME"] else []) ++
  (if ext.pipelining then [ascii "PIPELINING"] else []) ++
  (if ext.enhancedStatusCodes then [ascii "ENHANCEDSTATUSCODES"] else []) ++
  (if ext.smtputf8 then [ascii "SMTPUTF8"] else []) ++
  (if ext.help then [ascii "HELP"] else [])

/-- `handleEHLO`. -/
def handleEHLO (e : Engine) (cmd : Command) : Engine × Response :=
  match parseHeloHostname cmd.argument with
  | .error _ => (e, responseSyntaxErrorParams)
  | .ok hostname =>
    let e := { e with state := { e.state with clientHostname := hostname },
                      sm := (StateMachine.transitionForCommand e.sm .ehlo true).1 }
    let e := (e.setState .identified).resetTransaction
    (e, newMultilineResponse reply250OK
      ((e.config.serverHostname ++ ascii " Hello " ++ hostname) :: e.ehloExtensions))

/-- The metadata `handleMAIL` gives a new envelope. -/
def envelopeMetadata (e : Engine) : EnvelopeMetadata where
  sessionID := e.sessionID
  clientHostname := e.state.clientHostname
  clientIP := e.clientIP
  serverHostname := e.config.serverHostname
  tlsActive := e.state.tlsActive
  tlsVersion := (e.state.tlsState.map TLSConnectionState.versionString).getD []
  tlsCipherSuite := (e.state.tlsState.map TLSConnectionState.cipherSuite).getD 0
  authenticatedUser := e.state.authenticatedUser

/-- Whether a `SIZE` parameter exceeds the limit (the SIZE check of `handleMAIL`). -/
def sizeExceeded (e : Engine) (cmd : Command) : Bool :=
  e.config.extensions.size && 0 < e.config.limits.maxMessageSize &&
    (cmd.params.get? (ascii "SIZE")).any fun s => e.config.limits.maxMessageSize < sscanfInt64 s

/-- The SenderPolicy check of `handleMAIL`, when one is configured: the refusal to
    answer with, if any. -/
def validateSender (e : Engine) : Engine × Option Response :=
  if e.config.senderPolicy then
    let r := w.sender e.clock
    (e.tick, if r.accepted then none else some r.response)
  else (e, none)

/-- The end of `handleMAIL`: a new standard builder with the sender, and `mailFrom`. -/
def acceptSender (e : Engine) (path : MailPath) (params : ESMTPParams) : Engine × Response :=
  let b := StandardEnvelopeBuilder.new (w.envelopeID e.clock) e.envelopeMetadata
  let e := { e.tick with envelope := some b }
  match b.setMailFrom path params with
  | .error _ => (e, responseTransactionFailed)
  | .ok b =>
    let e := { e with envelope := some b,
                      sm := (StateMachine.transitionForCommand e.sm .mail true).1 }
    ((e.setState .mailFrom).hook (.onMailFrom path), responseOK)

/-- `handleMAIL`. -/
def handleMAIL (e : Engine) (cmd : Command) : Engine × Response :=
  if e.config.tlsPolicy = .required ∧ !e.state.tlsActive then
    (e, newResponse reply530AuthRequired (ascii "Must issue STARTTLS first"))
  else if 0 < e.config.limits.maxTransactions ∧
      e.config.limits.maxTransactions ≤ e.stats.transactionCount then
    (e, newResponse reply421ServiceNotAvailable (ascii "Too many transactions"))
  else match parseMailPath cmd.argument (ascii "FROM") with
  | .error _ => (e, responseSyntaxErrorParams)
  | .ok path =>
    if e.sizeExceeded cmd then
      (e, newResponse reply552ExceededStorage
        (ascii "Message size exceeds fixed maximum message size"))
    else match e.validateSender w with
      | (e, some resp) => (e, resp)
      | (e, none) => e.acceptSender w path cmd.params

/-- The recipient-limit check of `handleRCPT`; `none` where it dereferences a nil
    envelope. -/
def recipientLimitReached (e : Engine) : Option Bool :=
  if 0 < e.config.limits.maxRecipients then
    e.envelope.map fun b => decide (e.config.limits.maxRecipients ≤ b.build.recipientCount)
  else some false

/-- The end of `handleRCPT`: add the recipient, and `rcptTo`; `none` on a nil envelope. -/
def acceptRecipient (e : Engine) (path : MailPath) : Option (Engine × Response) := do
  let b ← e.envelope
  match b.addRecipient path with
  | .error _ => return (e, responseTransactionFailed)
  | .ok b =>
    let e := { e with envelope := some b,
                      sm := (StateMachine.transitionForCommand e.sm .rcpt true).1 }
    return ((e.setState .rcptTo).hook (.onRcptTo path), responseOK)

/-- `handleRCPT`. -/
def handleRCPT (e : Engine) (cmd : Command) : Option (Engine × Response) :=
  match parseMailPath cmd.argument (ascii "TO") with
  | .error _ => some (e, responseSyntaxErrorParams)
  | .ok path =>
    match e.recipientLimitReached with
    | none => none
    | some true => some (e, newResponse reply452InsufficientStorage (ascii "Too many recipients"))
    | some false =>
      let result := w.mailbox e.clock
      if result.status ≠ .accepted then some (e.tick, result.response)
      else e.tick.acceptRecipient path

/-- `handleRSET`. -/
def handleRSET (e : Engine) : Engine × Response :=
  let e := { e.resetTransaction with sm := StateMachine.reset e.sm }
  (e.setState (if e.sm = .greeted ∨ e.sm = .identified then e.sm else .identified), responseOK)

/-- `handleQUIT`: the session state is left as it is. -/
def handleQUIT (e : Engine) : Engine × Response :=
  let sm := (StateMachine.transitionForCommand e.sm .quit true).1
  ({ e with sm := (StateMachine.terminate sm).1 }, responseBye)

/-- `handleVRFY`. -/
def handleVRFY (e : Engine) : Response :=
  if !e.config.extensions.vrfy then responseCommandNotImplemented
  else newResponse reply252CannotVRFY (ascii "Cannot VRFY user; try RCPT to attempt delivery")

/-- `handleHELP`: STARTTLS is listed under the EHLO conditions and a configured
    TLSProvider. -/
def handleHELP (e : Engine) : Response :=
  if !e.config.extensions.help then responseCommandNotImplemented
  else
    let additional := ascii "RSET NOOP QUIT HELP" ++
      (if e.config.extensions.starttls ∧ e.config.tlsPolicy ≠ .disabled ∧ e.config.tlsProvider ∧
          !e.state.tlsActive then ascii " STARTTLS" else [])
    newMultilineResponse reply214HelpMessage
      [ascii "Supported commands:", ascii "HELO EHLO MAIL RCPT DATA", additional,
        ascii "For more information, consult RFC 5321"]

/-- `handleSTARTTLS`: the upgrade itself runs on the next loop iteration. -/
def handleSTARTTLS (e : Engine) : Engine × Response :=
  if e.config.tlsPolicy = .disabled then (e, responseCommandNotImplemented)
  else if e.state.tlsActive then (e, newResponse reply503BadSequence (ascii "TLS already active"))
  else if !e.config.tlsProvider then
    (e, newResponse reply454TLSNotAvailable (ascii "TLS not available"))
  else
    let e := { e with sm := (StateMachine.transitionForCommand e.sm .starttls true).1 }
    (e.setState .startTLS, newResponse reply220ServiceReady (ascii "Ready to start TLS"))

end Engine

end Icesmtp
