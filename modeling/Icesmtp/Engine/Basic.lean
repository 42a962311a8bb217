/-
  icesmtp formalization — the protocol engine's state and environment
  (`Engine` in `engine.go`, the deadline-aware variant).

  * `World`: everything outside the engine, as the answers it gives; the
    engine numbers its calls to the outside with `clock`, and the `n`-th call
    gets the answer at `n`.  Any behaviour of the context, the connection's
    writes and TLS upgrade, the hooks, the Mailbox, the SenderPolicy, the
    Storage and the TLSProvider is one `World`.
  * `Event`: what the engine does that can be observed (a reply written, a line
    passed to the parser, a hook or collaborator called); `Engine.log` is the
    run so far.
  * `Engine`: the session; `Engine.new` is `NewEngineWithConn`.
-/
import Icesmtp.Session

namespace Icesmtp

/-- The environment's answers, by the position of the call. -/
structure World where
  /-- `ctx.Done()`: `ctx.Err()` once the context is cancelled -/
  ctxErr : Nat → Option Error
  /-- `Conn.Write` -/
  writeErr : Nat → Option Error
  /-- `Hooks.OnCommand`: a veto -/
  onCommand : Nat → Option Error
  /-- `SenderPolicy.ValidateSender` -/
  sender : Nat → SenderResult
  /-- `Mailbox.ValidateRecipient` -/
  mailbox : Nat → RecipientResult
  /-- `Storage.Store` -/
  store : Nat → Option Error
  /-- `TLSProvider.GetConfig` -/
  tlsConfig : Nat → Option Error
  /-- `Conn.UpgradeTLS` -/
  upgrade : Nat → Except Error TLSSession
  /-- `generateEnvelopeID` -/
  envelopeID : Nat → Bytes

/-- What the engine does that can be observed. -/
inductive Event where
  | onConnect
  /-- `writeResponse(r)` -/
  | reply (r : Response)
  /-- `Parser.ParseCommand(line)` and its result -/
  | command (line : Bytes) (parsed : Except ParseError Command)
  | onCommand (cmd : Command)
  | onMailFrom (path : MailPath)
  | onRcptTo (path : MailPath)
  | onDataStart
  /-- `Storage.Store(env)` and its error -/
  | store (env : Envelope) (err : Option Error)
  | onDataEnd (env : Envelope)
  /-- `Conn.UpgradeTLS` and whether it succeeded -/
  | upgradeTLS (ok : Bool)
  | onTLSUpgrade (st : TLSConnectionState)
  | onDisconnect (reason : DisconnectReason)
  deriving DecidableEq, Repr

/-- `Engine`. -/
structure Engine where
  config : SessionConfig
  conn : Reader
  parser : Parser
  sm : State
  state : SessionState
  stats : SessionStats
  sessionID : Bytes
  clientIP : Bytes
  envelope : Option StandardEnvelopeBuilder
  closed : Bool
  clock : Nat
  log : List Event

/-- How one iteration of the command loop ends. -/
inductive Step where
  /-- the loop goes on -/
  | next
  /-- the loop ends with `handleDisconnect(reason, err)` -/
  | exit (reason : DisconnectReason) (err : Option Error)
  /-- a nil pointer is dereferenced -/
  | panic
  deriving DecidableEq, Repr

/-- How `Run` ends, or that it is still running when the fuel is used up. -/
inductive Outcome where
  | running
  | returned (err : Option Error)
  | panicked
  deriving DecidableEq, Repr

namespace Engine

/-- `NewEngineWithConn`: the parser's limit defaults to 512. -/
def new (config : SessionConfig) (conn : Reader) (sessionID clientIP : Bytes) : Engine where
  config := config
  conn := conn
  parser := ⟨if config.limits.maxCommandLength = 0 then 512 else config.limits.maxCommandLength⟩
  sm := .disconnected
  state := { state := .disconnected }
  stats := {}
  sessionID := sessionID
  clientIP := clientIP
  envelope := none
  closed := false
  clock := 0
  log := []

/-- Record an event. -/
def emit (e : Engine) (ev : Event) : Engine := { e with log := e.log ++ [ev] }

/-- Record a hook call, when hooks are configured. -/
def hook (e : Engine) (ev : Event) : Engine := if e.config.hooks then e.emit ev else e

/-- Move to the next call of the environment. -/
def tick (e : Engine) : Engine := { e with clock := e.clock + 1 }

/-- Set the session state. -/
def setState (e : Engine) (s : State) : Engine := { e with state := { e.state with state := s } }

section
variable (w : World)

/-- `writeResponse`. -/
def writeResponse (e : Engine) (r : Response) : Engine × Option Error :=
  ((e.emit (.reply r)).tick, w.writeErr e.clock)

/-- `resetTransaction`: drop the envelope (its `Reset` is not observable, since the
    builder is dropped with it). -/
def resetTransaction (e : Engine) : Engine := { e with envelope := none }

/-- `checkErrorLimit`. -/
def checkErrorLimit (e : Engine) : Option Error :=
  checkErrorCount e.config.limits e.state.consecutiveErrors

/-- `handleDisconnect`: `OnDisconnect` unless the engine is already closed. -/
def handleDisconnect (e : Engine) (reason : DisconnectReason) (err : Option Error) :
    Engine × Option Error :=
  if e.closed then (e, none) else ({ e with closed := true }.hook (.onDisconnect reason), err)

/-- `Close`, called from another goroutine: the closed flag, `Abort`, and `Conn.Close`,
    after which the connection's reads fail with `err` (bytes already buffered are kept). -/
def close (e : Engine) (err : Error) : Engine :=
  { e with closed := true, sm := (StateMachine.abort e.sm).1,
           conn := { e.conn with src := [], final := err } }

/-- `buildGreeting`. -/
def buildGreeting (e : Engine) : Response :=
  newResponse reply220ServiceReady (e.config.serverHostname ++ ascii " ESMTP icesmtp")

/-- `readLine`. -/
def readLine (e : Engine) : Except Error Bytes × Engine :=
  let (res, conn) := e.conn.readBytes
  (res, { e with conn })

end

/-! ## Field lemmas -/

@[simp] theorem emit_sm (e : Engine) (ev) : (e.emit ev).sm = e.sm := rfl
@[simp] theorem emit_state (e : Engine) (ev) : (e.emit ev).state = e.state := rfl
@[simp] theorem emit_envelope (e : Engine) (ev) : (e.emit ev).envelope = e.envelope := rfl
@[simp] theorem emit_stats (e : Engine) (ev) : (e.emit ev).stats = e.stats := rfl
@[simp] theorem emit_config (e : Engine) (ev) : (e.emit ev).config = e.config := rfl
@[simp] theorem emit_conn (e : Engine) (ev) : (e.emit ev).conn = e.conn := rfl
@[simp] theorem emit_closed (e : Engine) (ev) : (e.emit ev).closed = e.closed := rfl
@[simp] theorem emit_log (e : Engine) (ev) : (e.emit ev).log = e.log ++ [ev] := rfl

@[simp] theorem tick_sm (e : Engine) : e.tick.sm = e.sm := rfl
@[simp] theorem tick_state (e : Engine) : e.tick.state = e.state := rfl
@[simp] theorem tick_envelope (e : Engine) : e.tick.envelope = e.envelope := rfl
@[simp] theorem tick_stats (e : Engine) : e.tick.stats = e.stats := rfl
@[simp] theorem tick_config (e : Engine) : e.tick.config = e.config := rfl
@[simp] theorem tick_conn (e : Engine) : e.tick.conn = e.conn := rfl
@[simp] theorem tick_closed (e : Engine) : e.tick.closed = e.closed := rfl
@[simp] theorem tick_log (e : Engine) : e.tick.log = e.log := rfl
@[simp] theorem tick_clock (e : Engine) : e.tick.clock = e.clock + 1 := rfl

@[simp] theorem setState_sm (e : Engine) (s) : (e.setState s).sm = e.sm := rfl
@[simp] theorem setState_state (e : Engine) (s) :
    (e.setState s).state = { e.state with state := s } := rfl
@[simp] theorem setState_envelope (e : Engine) (s) : (e.setState s).envelope = e.envelope := rfl
@[simp] theorem setState_stats (e : Engine) (s) : (e.setState s).stats = e.stats := rfl
@[simp] theorem setState_config (e : Engine) (s) : (e.setState s).config = e.config := rfl
@[simp] theorem setState_conn (e : Engine) (s) : (e.setState s).conn = e.conn := rfl
@[simp] theorem setState_log (e : Engine) (s) : (e.setState s).log = e.log := rfl
@[simp] theorem setState_clock (e : Engine) (s) : (e.setState s).clock = e.clock := rfl
@[simp] theorem setState_closed (e : Engine) (s) : (e.setState s).closed = e.closed := rfl

@[simp] theorem resetTransaction_envelope (e : Engine) : e.resetTransaction.envelope = none := rfl
@[simp] theorem resetTransaction_sm (e : Engine) : e.resetTransaction.sm = e.sm := rfl
@[simp] theorem resetTransaction_state (e : Engine) : e.resetTransaction.state = e.state := rfl
@[simp] theorem resetTransaction_stats (e : Engine) : e.resetTransaction.stats = e.stats := rfl
@[simp] theorem resetTransaction_config (e : Engine) : e.resetTransaction.config = e.config := rfl
@[simp] theorem resetTransaction_log (e : Engine) : e.resetTransaction.log = e.log := rfl
@[simp] theorem resetTransaction_closed (e : Engine) : e.resetTransaction.closed = e.closed := rfl

@[simp] theorem hook_sm (e : Engine) (ev) : (e.hook ev).sm = e.sm := by unfold hook; split <;> rfl
@[simp] theorem hook_state (e : Engine) (ev) : (e.hook ev).state = e.state := by
  unfold hook; split <;> rfl
@[simp] theorem hook_envelope (e : Engine) (ev) : (e.hook ev).envelope = e.envelope := by
  unfold hook; split <;> rfl
@[simp] theorem hook_stats (e : Engine) (ev) : (e.hook ev).stats = e.stats := by
  unfold hook; split <;> rfl
@[simp] theorem hook_config (e : Engine) (ev) : (e.hook ev).config = e.config := by
  unfold hook; split <;> rfl
@[simp] theorem hook_conn (e : Engine) (ev) : (e.hook ev).conn = e.conn := by
  unfold hook; split <;> rfl
@[simp] theorem hook_clock (e : Engine) (ev) : (e.hook ev).clock = e.clock := by
  unfold hook; split <;> rfl
@[simp] theorem hook_closed (e : Engine) (ev) : (e.hook ev).closed = e.closed := by
  unfold hook; split <;> rfl
theorem hook_log (e : Engine) (ev) :
    (e.hook ev).log = if e.config.hooks then e.log ++ [ev] else e.log := by
  unfold hook; split <;> rfl

theorem readLine_eq (e : Engine) :
    e.readLine = (e.conn.readBytes.1, { e with conn := e.conn.readBytes.2 }) := rfl

@[simp] theorem writeResponse_fst (w : World) (e : Engine) (r : Response) :
    (e.writeResponse w r).1 = (e.emit (.reply r)).tick := rfl
@[simp] theorem writeResponse_snd (w : World) (e : Engine) (r : Response) :
    (e.writeResponse w r).2 = w.writeErr e.clock := rfl

end Engine

end Icesmtp
