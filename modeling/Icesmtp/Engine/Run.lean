/-
  icesmtp formalization — the command loop (`Engine.Run`,
  `Engine.processOneCommand`, `Engine.performTLSUpgrade`).

  `loopStep` is one iteration of the `for` loop of `Run`; `loop` runs it with
  fuel, and `run` is `Run`: connect, greet, loop, disconnect.  `Reachable w e`:
  the loop reaches `e` at the top of an iteration in the world `w`.
-/
import Icesmtp.Engine.Data

namespace Icesmtp

namespace Engine

variable (w : World)

/-- `handleCommand`. -/
def handleCommand (e : Engine) (cmd : Command) : Option (Engine × Response) :=
  match cmd.verb with
  | .helo => some (e.handleHELO cmd)
  | .ehlo => some (e.handleEHLO cmd)
  | .mail => some (e.handleMAIL w cmd)
  | .rcpt => e.handleRCPT w cmd
  | .data => e.handleDATA w
  | .rset => some e.handleRSET
  | .noop => some (e, responseOK)
  | .quit => some e.handleQUIT
  | .vrfy => some (e, e.handleVRFY)
  | .help => some (e, e.handleHELP)
  | .starttls => some e.handleSTARTTLS
  | _ => some (e, responseCommandNotImplemented)

/-- Count one more consecutive error. -/
def bumpErrors (e : Engine) : Engine :=
  { e with state := { e.state with consecutiveErrors := e.state.consecutiveErrors + 1 } }

/-- The error-budget answer to a line that does not parse. -/
def syntaxFailure (e : Engine) (perr : ParseError) : Engine × Option Error :=
  let e := e.bumpErrors
  match e.checkErrorLimit with
  | some checkErr =>
    let e := (e.writeResponse w
      (newResponse reply421ServiceNotAvailable (ascii "Too many errors, closing connection"))).1
    ({ e with sm := (StateMachine.abort e.sm).1 }, some checkErr)
  | none => ((e.writeResponse w responseSyntaxError).1, some (.parse perr))

/-- The end of `processOneCommand`: write the handler's response; a positive response that
    was written resets the error count. -/
def writeReply (e : Engine) (resp : Response) : Engine × Option Error :=
  match e.writeResponse w resp with
  | (e, some err) => (e, some err)
  | (e, none) =>
    (if resp.code.isPositive then { e with state := { e.state with consecutiveErrors := 0 } }
      else e, none)

/-- The steps of `processOneCommand` after the hook: the state check, the handler and
    the reply. -/
def dispatch (e : Engine) (cmd : Command) : Option (Engine × Option Error) :=
  if !isCommandAllowed e.sm cmd.verb then
    some ((e.bumpErrors.writeResponse w responseBadSequence).1, none)
  else (e.handleCommand w cmd).map fun (e, resp) => e.writeReply w resp

/-- `Hooks.OnCommand`, when hooks are configured: the engine after the call and its veto. -/
def onCommandHook (e : Engine) (cmd : Command) : Engine × Option Error :=
  if e.config.hooks then ((e.emit (.onCommand cmd)).tick, w.onCommand e.clock) else (e, none)

/-- `processOneCommand` once a line is read. -/
def processLine (e : Engine) (line : Bytes) : Option (Engine × Option Error) :=
  let parsed := e.parser.parseCommand line
  let e := e.emit (.command line parsed)
  match parsed with
  | .error perr => some (e.syntaxFailure w perr)
  | .ok cmd =>
    match e.onCommandHook w cmd with
    | (e, some err) => some ((e.writeResponse w responseTransactionFailed).1, some err)
    | (e, none) => e.dispatch w cmd

/-- `processOneCommand`; `none` is a panic of a handler. -/
def processOneCommand (e : Engine) : Option (Engine × Option Error) :=
  match e.readLine with
  | (.error err, e) => some (e, some err)
  | (.ok line, e) => e.processLine w line

/-- `performTLSUpgrade`. -/
def performTLSUpgrade (e : Engine) : Engine × Option Error :=
  match w.tlsConfig e.clock with
  | some err => (e.tick, some (.wrap (ascii "failed to get TLS config") err))
  | none =>
    let e := e.tick
    match w.upgrade e.clock with
    | .error err =>
      ((e.emit (.upgradeTLS false)).tick, some (.wrap (ascii "TLS handshake failed") err))
    | .ok sess =>
      let e := (e.emit (.upgradeTLS true)).tick
      let e := { e with state := { e.state with tlsActive := true, tlsState := some sess.state },
                        conn := { e.conn with src := sess.src, final := sess.final } }
      let e := { e with conn := e.conn.resetReader, sm := (StateMachine.tlsComplete e.sm).1 }
      let e := (e.setState .greeted).resetTransaction
      ({ e with state := { e.state with clientHostname := [] } }.hook (.onTLSUpgrade sess.state),
        none)

/-- One iteration of the command loop of `Run`. -/
def loopStep (e : Engine) : Engine × Step :=
  match w.ctxErr e.clock with
  | some err => (e.tick, .exit .timeout (some err))
  | none =>
    let e := e.tick
    if e.sm.isTerminal then (e, .exit .normal none)
    else if e.state.state = .startTLS then
      match e.performTLSUpgrade w with
      | (e, some err) => (e, .exit .tlsFailure (some err))
      | (e, none) => (e, .next)
    else
      match e.processOneCommand w with
      | none => (e, .panic)
      | some (e, none) => (e, .next)
      | some (e, some err) =>
        if e.sm.isTerminal then (e, .exit .normal none)
        else if err.isTimeout then (e, .exit .timeout (some err))
        else if err.isIOError then (e, .exit .error (some err))
        else (e, .next)

/-- The command loop for at most `fuel` iterations, then `handleDisconnect`. -/
def loop : Nat → Engine → Engine × Outcome
  | 0, e => (e, .running)
  | fuel + 1, e =>
    match e.loopStep w with
    | (e, .next) => loop fuel e
    | (e, .exit reason err) => let (e, r) := e.handleDisconnect reason err; (e, .returned r)
    | (e, .panic) => (e, .panicked)

/-- The start of `Run`: `Connect`, `OnConnect`, the greeting and `Greet`; either the
    engine at the top of the loop or how `Run` returned. -/
def startup (e : Engine) : Engine × Option Outcome :=
  match StateMachine.connect e.sm with
  | (sm, some err) => ({ e with sm }, some (.returned (some (.transition err))))
  | (sm, none) =>
    let e := { e with sm }.hook .onConnect
    match e.writeResponse w e.buildGreeting with
    | (e, some err) => let (e, r) := e.handleDisconnect .error (some err); (e, some (.returned r))
    | (e, none) =>
      match StateMachine.greet e.sm with
      | (sm, some err) => ({ e with sm }, some (.returned (some (.transition err))))
      | (sm, none) => ({ e with sm }.setState .greeted, none)

/-- `Run`, for at most `fuel` loop iterations. -/
def run (fuel : Nat) (e : Engine) : Engine × Outcome :=
  match e.startup w with
  | (e, some o) => (e, o)
  | (e, none) => e.loop w fuel

/-- The engines at the top of a loop iteration of a session started by `Engine.new`. -/
inductive Reachable : Engine → Prop
  | start {config conn sid ip e} :
      (Engine.new config conn sid ip).startup w = (e, none) → Reachable e
  | step {e e'} : Reachable e → e.loopStep w = (e', .next) → Reachable e'

theorem startup_outcome {e e' : Engine} {o : Outcome} (h : e.startup w = (e', some o)) :
    ∃ err, o = .returned err := by
  unfold startup at h
  split at h
  · cases h; exact ⟨_, rfl⟩
  · dsimp only at h
    split at h
    · cases h; exact ⟨_, rfl⟩
    · split at h <;> cases h; exact ⟨_, rfl⟩

/-- The loop-top engines of a loop that is still running. -/
theorem Reachable.loop {e : Engine} (h : Reachable w e) :
    ∀ fuel, (e.loop w fuel).2 = .running → Reachable w (e.loop w fuel).1 := by
  intro fuel
  induction fuel generalizing e with
  | zero => intro _; exact h
  | succ fuel ih =>
    intro hr
    simp only [Engine.loop] at hr ⊢
    rcases hs : e.loopStep w with ⟨e', s⟩
    rw [hs] at hr
    cases s with
    | next => exact ih (h.step hs) hr
    | exit => simp at hr
    | panic => simp at hr

/-- A session that is still running after `fuel` iterations is at a reachable loop top. -/
theorem reachable_of_run {config conn sid ip} {fuel : Nat}
    (h : ((Engine.new config conn sid ip).run w fuel).2 = .running) :
    Reachable w ((Engine.new config conn sid ip).run w fuel).1 := by
  unfold run at h ⊢
  rcases hs : (Engine.new config conn sid ip).startup w with ⟨e, o⟩
  rw [hs] at h
  cases o with
  | none => exact (Reachable.start hs).loop w fuel h
  | some o => obtain ⟨err, rfl⟩ := startup_outcome w hs; simp at h

end Engine

end Icesmtp
