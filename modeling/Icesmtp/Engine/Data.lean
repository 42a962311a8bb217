/-
  icesmtp formalization — the DATA phase (`Engine.readData`,
  `Engine.handleDATA`).

  `readData` reads body lines until the terminator line, checking each wire
  line against `MaxLineLength` and the unstuffed bytes so far plus the wire
  line against `MaxMessageSize`, and unstuffs what it keeps.  `handleDATA`
  commits the body through the standard builder and the Storage; each of its
  failure paths calls `sm.Reset()`, which cannot leave `data`.
-/
import Icesmtp.Engine.Handlers

namespace Icesmtp

namespace Engine

variable (w : World)

/-- The loop of `readData` with the body read so far, for at most `fuel` lines.  `readData`
    gives it more fuel than the connection can deliver lines, so `0` is not reached. -/
def readDataLoop : Nat → Bytes → Engine → Except Error Bytes × Engine
  | 0, _, e => (.error e.conn.final, e)
  | fuel + 1, buf, e =>
    match w.ctxErr e.clock with
    | some err => (.error err, e.tick)
    | none =>
      match e.tick.readLine with
      | (.error err, e) => (.error err, e)
      | (.ok line, e) =>
        if isTerminator line then (.ok buf, e)
        else if 0 < e.config.limits.maxLineLength ∧
            e.config.limits.maxLineLength < line.length then (.error .lineTooLong, e)
        else if 0 < e.config.limits.maxMessageSize ∧
            e.config.limits.maxMessageSize < (buf.length + line.length : Nat) then
          (.error .messageTooLarge, e)
        else readDataLoop fuel (buf ++ unstuffLine line) e

/-- `readData` only reads: it changes the connection and the clock. -/
theorem readDataLoop_snd (fuel : Nat) (buf : Bytes) (e : Engine) :
    ∃ conn clock, (readDataLoop w fuel buf e).2 = { e with conn, clock } := by
  induction fuel generalizing buf e with
  | zero => exact ⟨e.conn, e.clock, rfl⟩
  | succ fuel ih =>
    unfold readDataLoop
    split
    · exact ⟨e.conn, e.clock + 1, rfl⟩
    · rw [readLine_eq, tick_conn]
      obtain ⟨res, conn⟩ := e.conn.readBytes
      cases res with
      | error err => exact ⟨_, _, rfl⟩
      | ok line =>
        dsimp only
        split
        · exact ⟨_, _, rfl⟩
        split
        · exact ⟨_, _, rfl⟩
        split
        · exact ⟨_, _, rfl⟩
        · obtain ⟨conn, clock, h⟩ := ih (buf ++ unstuffLine line) { e.tick with conn }
          exact ⟨conn, clock, h⟩

/-- `readData`. -/
def readData (e : Engine) : Except Error Bytes × Engine :=
  readDataLoop w (e.conn.size + 1) [] e

section
variable (e : Engine)

@[simp] theorem readData_sm : (e.readData w).2.sm = e.sm := by
  obtain ⟨_, _, h⟩ := readDataLoop_snd w (e.conn.size + 1) [] e; rw [readData, h]
@[simp] theorem readData_state : (e.readData w).2.state = e.state := by
  obtain ⟨_, _, h⟩ := readDataLoop_snd w (e.conn.size + 1) [] e; rw [readData, h]
@[simp] theorem readData_envelope : (e.readData w).2.envelope = e.envelope := by
  obtain ⟨_, _, h⟩ := readDataLoop_snd w (e.conn.size + 1) [] e; rw [readData, h]
@[simp] theorem readData_stats : (e.readData w).2.stats = e.stats := by
  obtain ⟨_, _, h⟩ := readDataLoop_snd w (e.conn.size + 1) [] e; rw [readData, h]
@[simp] theorem readData_config : (e.readData w).2.config = e.config := by
  obtain ⟨_, _, h⟩ := readDataLoop_snd w (e.conn.size + 1) [] e; rw [readData, h]
@[simp] theorem readData_log : (e.readData w).2.log = e.log := by
  obtain ⟨_, _, h⟩ := readDataLoop_snd w (e.conn.size + 1) [] e; rw [readData, h]
@[simp] theorem readData_closed : (e.readData w).2.closed = e.closed := by
  obtain ⟨_, _, h⟩ := readDataLoop_snd w (e.conn.size + 1) [] e; rw [readData, h]

end

/-- A failure path of `handleDATA`: `sm.Reset()`, state `identified`, no envelope. -/
def dataFailure (e : Engine) (code : ReplyCode) (text : String) : Engine × Response :=
  ({ e.setState .identified with sm := StateMachine.reset e.sm, envelope := none },
    newResponse code (ascii text))

@[simp] theorem dataFailure_sm (e : Engine) (c t) : (e.dataFailure c t).1.sm = StateMachine.reset e.sm :=
  rfl
@[simp] theorem dataFailure_state (e : Engine) (c t) :
    (e.dataFailure c t).1.state = { e.state with state := .identified } := rfl
@[simp] theorem dataFailure_envelope (e : Engine) (c t) : (e.dataFailure c t).1.envelope = none :=
  rfl
@[simp] theorem dataFailure_stats (e : Engine) (c t) : (e.dataFailure c t).1.stats = e.stats := rfl
@[simp] theorem dataFailure_config (e : Engine) (c t) : (e.dataFailure c t).1.config = e.config :=
  rfl
@[simp] theorem dataFailure_log (e : Engine) (c t) : (e.dataFailure c t).1.log = e.log := rfl
@[simp] theorem dataFailure_closed (e : Engine) (c t) : (e.dataFailure c t).1.closed = e.closed :=
  rfl

/-- The commit of `handleDATA` once the envelope is finalized: `Storage.Store` (when
    configured), the counters, `DataComplete` and `Reset`, and `OnDataEnd`. -/
def commit (e : Engine) (env : Envelope) : Engine × Response :=
  let (e, storeErr) :=
    if e.config.storage then
      let err := w.store e.clock
      ((e.emit (.store env err)).tick, err)
    else (e, none)
  match storeErr with
  | some _ => e.dataFailure reply451LocalError "Unable to store message"
  | none =>
    let e := { e with stats := { transactionCount := e.stats.transactionCount + 1,
                                  messageCount := e.stats.messageCount + 1,
                                  recipientCount := e.stats.recipientCount + env.recipientCount },
                      sm := StateMachine.reset (StateMachine.dataComplete e.sm).1,
                      envelope := none }
    ((e.setState .identified).hook (.onDataEnd env),
      newResponse reply250OK (ascii "OK, message " ++ env.id ++ ascii " accepted"))

/-- The end of `handleDATA`: write the body through a data writer, finalize, and commit;
    `none` where it dereferences a nil envelope. -/
def acceptBody (e : Engine) (data : Bytes) : Option (Engine × Response) := do
  let b ← e.envelope
  match b.dataWriterOpen with
  | .error _ => return e.dataFailure reply451LocalError "Unable to accept message"
  | .ok (wr, b) =>
    match b.write wr data with
    | .error _ => return e.dataFailure reply451LocalError "Error writing message data"
    | .ok (n, b) =>
      if n ≠ data.length then
        return e.dataFailure reply451LocalError "Error writing message data"
      else
        match (b.close wr).finalize with
        | .error _ => return e.dataFailure reply451LocalError "Unable to finalize message"
        | .ok (env, b) => return { e with envelope := some b }.commit w env

/-- The start of `handleDATA`: `data`, `OnDataStart` and the `354` reply. -/
def startData (e : Engine) : Engine × Option Error :=
  let e := { e with sm := (StateMachine.transitionForCommand e.sm .data true).1 }
  ((e.setState .data).hook .onDataStart).writeResponse w responseStartMailInput

section
variable (e : Engine)

@[simp] theorem startData_sm :
    (e.startData w).1.sm = (StateMachine.transitionForCommand e.sm .data true).1 := by
  simp [startData]
@[simp] theorem startData_state : (e.startData w).1.state = { e.state with state := .data } := by
  simp [startData]
@[simp] theorem startData_envelope : (e.startData w).1.envelope = e.envelope := by
  simp [startData]
@[simp] theorem startData_stats : (e.startData w).1.stats = e.stats := by simp [startData]
@[simp] theorem startData_config : (e.startData w).1.config = e.config := by simp [startData]
@[simp] theorem startData_snd : (e.startData w).2 = w.writeErr e.clock := by simp [startData]

end

/-- `handleDATA`.  A failed `354` write aborts and returns the zero `Response{}`. -/
def handleDATA (e : Engine) : Option (Engine × Response) :=
  match e.startData w with
  | (e, some _) => some ({ e with sm := (StateMachine.abort e.sm).1 }, { code := 0 })
  | (e, none) =>
    match e.readData w with
    | (.error err, e) =>
      some (e.dataFailure reply451LocalError
        (if err.isTimeout then "Timeout receiving message data" else "Error receiving message data"))
    | (.ok data, e) =>
      if 0 < e.config.limits.maxMessageSize ∧ e.config.limits.maxMessageSize < data.length then
        some (e.dataFailure reply552ExceededStorage "Message size exceeds limit")
      else e.acceptBody w data

end Engine

end Icesmtp
