/-
  icesmtp formalization — what each step of the engine can do.

  One inversion lemma per handler (`handleMAIL_cases`, `handleRCPT_cases`,
  `handleDATA_cases`, ...) lists every way the handler can end, with the
  guards that lead there and the engine and reply it returns.  The invariants
  of the `Proof` modules are derived from these lemmas and never unfold a
  handler again.
-/
import Icesmtp.Engine.Run

namespace Icesmtp

/-- A builder in the middle of a transaction: the sender is set, no data was written,
    no writer was handed out and it is not finalized. -/
structure OpenBuilder (b : StandardEnvelopeBuilder) : Prop where
  mailFrom_isSome : b.mailFrom.isSome
  data_nil : b.data = []
  dataWriter_none : b.dataWriter = none
  writers_nil : b.writers = []
  not_finalized : b.finalized = false

namespace StandardEnvelopeBuilder

/-- The builder `handleMAIL` leaves: a new one with the sender set. -/
def withSender (id : Bytes) (md : EnvelopeMetadata) (path : MailPath) (params : ESMTPParams) :
    StandardEnvelopeBuilder :=
  { id, metadata := md, mailFrom := some path, esmtpParams := params }

theorem addRecipient_of_open {b : StandardEnvelopeBuilder} (h : OpenBuilder b) (p : MailPath) :
    b.addRecipient p = .ok { b with recipients := b.recipients ++ [p] } := by
  simp [addRecipient, h.not_finalized]

/-- The envelope `Finalize` returns once `data` was written through a fresh writer. -/
def sealWith (b : StandardEnvelopeBuilder) (data : Bytes) : Envelope :=
  { b.build with data, finalized := true }

/-- The builder after the writer, the write, `Close` and `Finalize` of `handleDATA`. -/
def sealedWith (b : StandardEnvelopeBuilder) (data : Bytes) : StandardEnvelopeBuilder :=
  { b with data, dataWriter := some 0, writers := [true], finalized := true }

/-- On an open builder with a recipient, the writer steps of `handleDATA` cannot fail. -/
theorem finalize_of_open {b : StandardEnvelopeBuilder} (h : OpenBuilder b) (hr : b.recipients ≠ [])
    (data : Bytes) :
    b.dataWriterOpen = .ok (0, { b with dataWriter := some 0, writers := [false] }) ∧
    ({ b with dataWriter := some 0, writers := [false] } : StandardEnvelopeBuilder).write 0 data =
      .ok (data.length, { b with dataWriter := some 0, writers := [false], data }) ∧
    (({ b with dataWriter := some 0, writers := [false], data } : StandardEnvelopeBuilder).close
      0).finalize = .ok (b.sealWith data, b.sealedWith data) := by
  obtain ⟨hm, hd, hw, hws, hf⟩ := h
  obtain ⟨m, hm⟩ := Option.isSome_iff_exists.1 hm
  refine ⟨?_, ?_, ?_⟩
  · simp [dataWriterOpen, hf, hw, hws]
  · simp [write, writerIsClosed, hd]
  · simp [finalize, close, writerIsClosed, sealWith, sealedWith, build, hf, hm, hr]

end StandardEnvelopeBuilder

open StandardEnvelopeBuilder

theorem OpenBuilder.withSender (id md path params) : OpenBuilder (withSender id md path params) :=
  ⟨rfl, rfl, rfl, rfl, rfl⟩

theorem OpenBuilder.addRecipient {b : StandardEnvelopeBuilder} (h : OpenBuilder b) (p : MailPath) :
    OpenBuilder { b with recipients := b.recipients ++ [p] } :=
  ⟨h.mailFrom_isSome, h.data_nil, h.dataWriter_none, h.writers_nil, h.not_finalized⟩

/-- The events of reading and answering a line: the line given to the parser, `OnCommand`
    and a reply. -/
def Event.isExchange : Event → Bool
  | .command .. | .onCommand _ | .reply _ => true
  | _ => false

/-- The result of a call of `Conn.UpgradeTLS`, for the event that records one. -/
def Event.upgrade? : Event → Option Bool
  | .upgradeTLS ok => some ok
  | _ => none

/-- The reason of a call of `Hooks.OnDisconnect`, for the event that records one. -/
def Event.disconnect? : Event → Option DisconnectReason
  | .onDisconnect reason => some reason
  | _ => none

namespace Engine

/-! ## Frames

`Frame e e'`: `e'` differs from `e` only in what reading and answering a line changes —
the connection, the clock, the error count and the log, which only gains exchange events. -/

/-- `e'` is `e` after reading and answering lines, with no handler run. -/
structure Frame (e e' : Engine) : Prop where
  sm : e'.sm = e.sm
  state : e'.state = { e.state with consecutiveErrors := e'.state.consecutiveErrors }
  envelope : e'.envelope = e.envelope
  stats : e'.stats = e.stats
  config : e'.config = e.config
  closed : e'.closed = e.closed
  log : ∃ evs, e'.log = e.log ++ evs ∧ ∀ ev ∈ evs, ev.isExchange

namespace Frame

theorem refl (e : Engine) : Frame e e := ⟨rfl, rfl, rfl, rfl, rfl, rfl, [], by simp, by simp⟩

theorem trans {e₁ e₂ e₃ : Engine} (h₁ : Frame e₁ e₂) (h₂ : Frame e₂ e₃) : Frame e₁ e₃ := by
  obtain ⟨hs₁, ht₁, he₁, hst₁, hc₁, hcl₁, evs₁, hl₁, hx₁⟩ := h₁
  obtain ⟨hs₂, ht₂, he₂, hst₂, hc₂, hcl₂, evs₂, hl₂, hx₂⟩ := h₂
  refine ⟨hs₂.trans hs₁, ?_, he₂.trans he₁, hst₂.trans hst₁, hc₂.trans hc₁, hcl₂.trans hcl₁,
    evs₁ ++ evs₂,
    by rw [hl₂, hl₁, List.append_assoc], fun ev hev => ?_⟩
  · rw [ht₂, ht₁]
  · rcases List.mem_append.1 hev with h | h
    exacts [hx₁ ev h, hx₂ ev h]

theorem state_state {e e' : Engine} (h : Frame e e') : e'.state.state = e.state.state := by
  rw [h.state]

theorem tlsActive {e e' : Engine} (h : Frame e e') : e'.state.tlsActive = e.state.tlsActive := by
  rw [h.state]

theorem of_eq_with (e : Engine) (conn : Reader) (clock : Nat) (n : Nat) (evs : List Event)
    (hx : ∀ ev ∈ evs, ev.isExchange) :
    Frame e { e with conn, clock, log := e.log ++ evs,
                     state := { e.state with consecutiveErrors := n } } :=
  ⟨rfl, rfl, rfl, rfl, rfl, rfl, evs, rfl, hx⟩

end Frame

/-- The calls of `Conn.UpgradeTLS` so far, with whether each succeeded. -/
def upgrades (e : Engine) : List Bool := e.log.filterMap Event.upgrade?

/-- A view of the log that sees no exchange event is the same after a frame. -/
theorem Frame.filterMap_log {α : Type} {e e' : Engine} (h : Frame e e') {f : Event → Option α}
    (hf : ∀ ev, ev.isExchange → f ev = none) : e'.log.filterMap f = e.log.filterMap f := by
  obtain ⟨evs, hl, hx⟩ := h.log
  rw [hl, List.filterMap_append, List.filterMap_eq_nil_iff.2 fun ev hev => hf ev (hx ev hev),
    List.append_nil]

theorem Frame.upgrades {e e' : Engine} (h : Frame e e') : e'.upgrades = e.upgrades :=
  h.filterMap_log fun ev hx => by cases ev <;> simp_all [Event.isExchange, Event.upgrade?]

/-- The calls of `Hooks.OnDisconnect` so far, with their reasons. -/
def disconnects (e : Engine) : List DisconnectReason := e.log.filterMap Event.disconnect?

theorem Frame.disconnects {e e' : Engine} (h : Frame e e') : e'.disconnects = e.disconnects :=
  h.filterMap_log fun ev hx => by cases ev <;> simp_all [Event.isExchange, Event.disconnect?]

@[simp] theorem filterMap_cons_toList {α β : Type} (f : α → Option β) (a : α) (l : List α) :
    (a :: l).filterMap f = (f a).toList ++ l.filterMap f := by
  cases h : f a <;> simp [h]

/-- A view of the log after a hook call. -/
@[simp] theorem filterMap_hook_log {α : Type} (e : Engine) (ev : Event) (f : Event → Option α) :
    (e.hook ev).log.filterMap f =
      e.log.filterMap f ++ if e.config.hooks then (f ev).toList else [] := by
  unfold hook; split <;> cases h : f ev <;> simp [h]


section
variable (w : World) (e : Engine)

theorem frame_tick : Frame e e.tick := ⟨rfl, rfl, rfl, rfl, rfl, rfl, [], by simp, by simp⟩

theorem frame_emit (ev : Event) (hx : ev.isExchange) : Frame e (e.emit ev) :=
  ⟨rfl, rfl, rfl, rfl, rfl, rfl, [ev], rfl, by simpa using hx⟩

theorem frame_readLine : Frame e e.readLine.2 :=
  ⟨rfl, rfl, rfl, rfl, rfl, rfl, [], by simp [readLine_eq], by simp⟩

theorem frame_readData : Frame e (e.readData w).2 := by
  obtain ⟨conn, clock, h⟩ := readDataLoop_snd w (e.conn.size + 1) [] e
  rw [readData, h]
  exact ⟨rfl, rfl, rfl, rfl, rfl, rfl, [], by simp, by simp⟩

theorem frame_bumpErrors : Frame e e.bumpErrors :=
  ⟨rfl, rfl, rfl, rfl, rfl, rfl, [], by simp [bumpErrors], by simp⟩

theorem frame_writeResponse (r : Response) : Frame e (e.writeResponse w r).1 :=
  (frame_emit e (.reply r) rfl).trans (frame_tick _)

theorem frame_writeReply (r : Response) : Frame e (e.writeReply w r).1 := by
  unfold writeReply
  split
  · rename_i h; obtain rfl := congrArg Prod.fst h; exact frame_writeResponse w e r
  · rename_i e₁ h
    have hf : Frame e e₁ := by obtain rfl := congrArg Prod.fst h; exact frame_writeResponse w e r
    split
    · exact hf.trans ⟨rfl, rfl, rfl, rfl, rfl, rfl, [], by simp, by simp⟩
    · exact hf

theorem frame_onCommandHook (cmd : Command) : Frame e (e.onCommandHook w cmd).1 := by
  unfold onCommandHook
  split
  · exact (frame_emit e (.onCommand cmd) rfl).trans (frame_tick _)
  · exact Frame.refl e

/-- The answer to a line that does not parse: a frame, and `Abort` once the error budget
    is spent. -/
theorem syntaxFailure_cases (perr : ParseError) :
    Frame e (e.syntaxFailure w perr).1 ∨
    ∃ e₁, Frame e e₁ ∧ (e.syntaxFailure w perr).1 = { e₁ with sm := (StateMachine.abort e₁.sm).1 } := by
  unfold syntaxFailure
  dsimp only
  split
  · exact .inr ⟨_, (frame_bumpErrors e).trans (frame_writeResponse w _ _), rfl⟩
  · exact .inl ((frame_bumpErrors e).trans (frame_writeResponse w _ _))

end

section
variable (w : World) (e : Engine) (cmd : Command)

/-! ## MAIL -/

theorem validateSender_fst : (e.validateSender w).1 = e ∨ (e.validateSender w).1 = e.tick := by
  unfold validateSender; split <;> simp

theorem acceptSender_eq (path : MailPath) (params : ESMTPParams) :
    e.acceptSender w path params =
      (({ e.tick with
          envelope := some (withSender (w.envelopeID e.clock) e.envelopeMetadata path params),
          sm := (StateMachine.transitionForCommand e.sm .mail true).1 }.setState .mailFrom).hook
        (.onMailFrom path), responseOK) := rfl

/-- `handleMAIL` answers without touching the engine, refuses after the SenderPolicy, or
    opens a transaction. -/
theorem handleMAIL_cases :
    (∃ r, e.handleMAIL w cmd = (e, r)) ∨ (∃ r, e.handleMAIL w cmd = (e.tick, r)) ∨
    ∃ path e₁, ¬(e.config.tlsPolicy = .required ∧ !e.state.tlsActive) ∧
      ¬(0 < e.config.limits.maxTransactions ∧
        e.config.limits.maxTransactions ≤ e.stats.transactionCount) ∧
      parseMailPath cmd.argument (ascii "FROM") = .ok path ∧ (e₁ = e ∨ e₁ = e.tick) ∧
      e.handleMAIL w cmd = e₁.acceptSender w path cmd.params := by
  unfold handleMAIL
  split; · exact .inl ⟨_, rfl⟩
  rename_i h1
  split; · exact .inl ⟨_, rfl⟩
  rename_i h2
  split; · exact .inl ⟨_, rfl⟩
  rename_i path hp
  split; · exact .inl ⟨_, rfl⟩
  rcases hv : e.validateSender w with ⟨e₁, _ | r⟩
  · have := validateSender_fst w e
    rw [hv] at this
    exact .inr (.inr ⟨path, e₁, h1, h2, hp, this, rfl⟩)
  · rcases validateSender_fst w e with h | h <;> rw [hv] at h <;> subst h
    · exact .inl ⟨r, rfl⟩
    · exact .inr (.inl ⟨r, rfl⟩)

/-! ## RCPT -/

/-- `handleRCPT` on an open transaction: it answers without touching the engine, forwards a
    refusal of the Mailbox, or adds the recipient. -/
theorem handleRCPT_cases {b : StandardEnvelopeBuilder} (henv : e.envelope = some b)
    (hb : OpenBuilder b) {e' : Engine} {r : Response} (h : e.handleRCPT w cmd = some (e', r)) :
    (e' = e ∧ ((∃ err, parseMailPath cmd.argument (ascii "TO") = .error err) ∧
        r = responseSyntaxErrorParams ∨
      (0 < e.config.limits.maxRecipients ∧ e.config.limits.maxRecipients ≤ b.recipients.length) ∧
        r = newResponse reply452InsufficientStorage (ascii "Too many recipients"))) ∨
    (e' = e.tick ∧ (w.mailbox e.clock).status ≠ .accepted ∧ r = (w.mailbox e.clock).response) ∨
    ∃ path, parseMailPath cmd.argument (ascii "TO") = .ok path ∧
      ¬(0 < e.config.limits.maxRecipients ∧
        e.config.limits.maxRecipients ≤ b.recipients.length) ∧
      (w.mailbox e.clock).status = .accepted ∧ r = responseOK ∧
      e' = ({ e.tick with
              envelope := some ({ b with recipients := b.recipients ++ [path] } : StandardEnvelopeBuilder),
              sm := (StateMachine.transitionForCommand e.sm .rcpt true).1 }.setState .rcptTo).hook
        (.onRcptTo path) := by
  unfold handleRCPT at h
  split at h
  · rename_i err herr; cases h; exact .inl ⟨rfl, .inl ⟨⟨err, herr⟩, rfl⟩⟩
  rename_i path hp
  have hlim : e.recipientLimitReached =
      some (decide (0 < e.config.limits.maxRecipients ∧
        e.config.limits.maxRecipients ≤ b.recipients.length)) := by
    unfold recipientLimitReached; split <;> simp_all [build, Envelope.recipientCount]
  rw [hlim] at h
  split at h
  · cases h
  · rename_i hfull; cases h; exact .inl ⟨rfl, .inr ⟨by simpa using hfull, rfl⟩⟩
  rename_i hfull
  simp only [Option.some.injEq, decide_eq_false_iff_not] at hfull
  dsimp only at h
  split at h
  · cases h; exact .inr (.inl ⟨rfl, ‹_›, rfl⟩)
  rename_i hacc
  simp only [acceptRecipient, tick_envelope, henv, Option.bind_eq_bind, Option.some_bind,
    addRecipient_of_open hb, pure, Option.some.injEq, Prod.mk.injEq] at h
  obtain ⟨rfl, rfl⟩ := h
  exact .inr (.inr ⟨path, hp, hfull, not_not.1 hacc, rfl, rfl⟩)

/-! ## DATA -/

theorem acceptBody_of_open {b : StandardEnvelopeBuilder} (henv : e.envelope = some b)
    (hb : OpenBuilder b) (hr : b.recipients ≠ []) (data : Bytes) :
    e.acceptBody w data = some ({ e with envelope := some (b.sealedWith data) }.commit w
      (b.sealWith data)) := by
  obtain ⟨h1, h2, h3⟩ := finalize_of_open hb hr data
  simp only [acceptBody, henv, Option.bind_eq_bind, Option.some_bind, h1, h2, h3, ne_eq,
    not_true_eq_false, if_false, pure]

/-- `commit`: a failed `Store`, or the counters, `DataComplete`, `Reset` and `OnDataEnd`. -/
theorem commit_cases (env : Envelope) :
    (∃ err, e.config.storage ∧ w.store e.clock = some err ∧
      e.commit w env = ((e.emit (.store env (some err))).tick.dataFailure reply451LocalError
        "Unable to store message")) ∨
    ∃ e₁, ((e.config.storage = false ∧ e₁ = e) ∨
        (e.config.storage ∧ w.store e.clock = none ∧ e₁ = (e.emit (.store env none)).tick)) ∧
      e.commit w env =
        (({ e₁ with stats := { transactionCount := e₁.stats.transactionCount + 1,
                               messageCount := e₁.stats.messageCount + 1,
                               recipientCount := e₁.stats.recipientCount + env.recipientCount },
                    sm := StateMachine.reset (StateMachine.dataComplete e₁.sm).1,
                    envelope := none }.setState .identified).hook (.onDataEnd env),
          newResponse reply250OK (ascii "OK, message " ++ env.id ++ ascii " accepted")) := by
  unfold commit
  cases hs : e.config.storage
  · exact .inr ⟨e, .inl ⟨rfl, rfl⟩, rfl⟩
  · cases hw : w.store e.clock
    · exact .inr ⟨_, .inr ⟨rfl, rfl, rfl⟩, rfl⟩
    · exact .inl ⟨_, rfl, rfl, rfl⟩

/-- `handleDATA`: the `354` write fails, the body cannot be read, it is too large, or the
    body goes to the builder. -/
theorem handleDATA_cases {e' : Engine} {r : Response} (h : e.handleDATA w = some (e', r)) :
    (∃ err, (e.startData w).2 = some err ∧
      e' = { (e.startData w).1 with sm := (StateMachine.abort (e.startData w).1.sm).1 } ∧
      r = { code := 0 }) ∨
    (e.startData w).2 = none ∧
    ((∃ err e₂, (e.startData w).1.readData w = (.error err, e₂) ∧
      (e', r) = e₂.dataFailure reply451LocalError (if err.isTimeout
        then "Timeout receiving message data" else "Error receiving message data")) ∨
    (∃ data e₂, (e.startData w).1.readData w = (.ok data, e₂) ∧
      0 < e.config.limits.maxMessageSize ∧ e.config.limits.maxMessageSize < data.length ∧
      (e', r) = e₂.dataFailure reply552ExceededStorage "Message size exceeds limit") ∨
    (∃ data e₂, (e.startData w).1.readData w = (.ok data, e₂) ∧
      ¬(0 < e.config.limits.maxMessageSize ∧ e.config.limits.maxMessageSize < data.length) ∧
      e₂.acceptBody w data = some (e', r))) := by
  unfold handleDATA at h
  rcases hs : e.startData w with ⟨e₁, _ | err⟩ <;> rw [hs] at h
  · refine .inr ⟨rfl, ?_⟩
    dsimp only at h
    rcases hd : e₁.readData w with ⟨_ | data, e₂⟩ <;> rw [hd] at h
    · cases h; exact .inl ⟨_, _, rfl, rfl⟩
    · have hc : e₂.config = e.config := by
        rw [show e₂ = (e₁.readData w).2 by rw [hd], readData_config,
          show e₁ = (e.startData w).1 by rw [hs], startData_config]
      dsimp only at h
      rw [hc] at h
      split at h
      · rename_i hsz; cases h; exact .inr (.inl ⟨data, e₂, rfl, hsz.1, hsz.2, rfl⟩)
      · exact .inr (.inr ⟨data, e₂, rfl, ‹_›, h⟩)
  · cases h; exact .inl ⟨err, rfl, rfl, rfl⟩

end

/-! ## What the handlers leave alone -/

theorem fst_of_some {x : Engine × Response} {e' : Engine} {r : Response}
    (h : some x = some (e', r)) : x.1 = e' :=
  congrArg Prod.fst (Option.some.inj h)

/-- What no handler touches: the configuration, TLS, the error count, the TLS handshakes,
    the closed flag and the calls of `OnDisconnect`. -/
structure KeepsSession (e e' : Engine) : Prop where
  config : e'.config = e.config
  tlsActive : e'.state.tlsActive = e.state.tlsActive
  consecutiveErrors : e'.state.consecutiveErrors = e.state.consecutiveErrors
  upgrades : e'.upgrades = e.upgrades
  closed : e'.closed = e.closed
  disconnects : e'.disconnects = e.disconnects

section
variable (w : World) {e : Engine}

theorem acceptBody_keepsSession {data : Bytes} {e' : Engine} {r : Response}
    (h : e.acceptBody w data = some (e', r)) : KeepsSession e e' := by
  unfold acceptBody at h
  cases hb : e.envelope with
  | none => simp [hb] at h
  | some b =>
    simp only [hb, Option.bind_eq_bind, Option.some_bind] at h
    split at h
    · cases h; exact ⟨rfl, rfl, rfl, rfl, rfl, rfl⟩
    split at h
    · cases h; exact ⟨rfl, rfl, rfl, rfl, rfl, rfl⟩
    split at h
    · cases h; exact ⟨rfl, rfl, rfl, rfl, rfl, rfl⟩
    split at h
    · cases h; exact ⟨rfl, rfl, rfl, rfl, rfl, rfl⟩
    obtain rfl := congrArg Prod.fst (Option.some.inj h)
    rcases commit_cases w { e with envelope := some _ } _ with ⟨_, -, -, hc⟩ | ⟨e₁, he₁, hc⟩ <;>
      rw [hc]
    · exact ⟨rfl, rfl, rfl, by simp [upgrades, Event.upgrade?], by simp,
          by simp [disconnects, Event.disconnect?]⟩
    · rcases he₁ with ⟨-, rfl⟩ | ⟨-, -, rfl⟩ <;>
        exact ⟨by simp, by simp, by simp, by simp [upgrades, Event.upgrade?], by simp,
          by simp [disconnects, Event.disconnect?]⟩

theorem handleRCPT_keepsSession (cmd : Command) {e' : Engine} {r : Response}
    (h : e.handleRCPT w cmd = some (e', r)) : KeepsSession e e' := by
  unfold handleRCPT at h
  split at h
  · cases h; exact ⟨rfl, rfl, rfl, rfl, rfl, rfl⟩
  split at h
  · cases h
  · cases h; exact ⟨rfl, rfl, rfl, rfl, rfl, rfl⟩
  dsimp only at h
  split at h
  · cases h; exact ⟨rfl, rfl, rfl, rfl, rfl, rfl⟩
  unfold acceptRecipient at h
  cases hb : e.envelope with
  | none => simp [hb, Option.bind_eq_bind] at h
  | some b =>
    simp only [tick_envelope, hb, Option.bind_eq_bind, Option.some_bind] at h
    split at h <;> cases h <;> exact ⟨by simp, by simp, by simp, by simp [upgrades, Event.upgrade?],
      by simp, by simp [disconnects, Event.disconnect?]⟩

theorem startData_upgrades : (e.startData w).1.upgrades = e.upgrades := by
  simp [upgrades, startData, Event.upgrade?]

theorem startData_disconnects : (e.startData w).1.disconnects = e.disconnects := by
  simp [disconnects, startData, Event.disconnect?]

theorem handleDATA_keepsSession {e' : Engine} {r : Response} (h : e.handleDATA w = some (e', r)) :
    KeepsSession e e' := by
  rcases handleDATA_cases w e h with ⟨_, -, rfl, -⟩ | ⟨-, ⟨_, e₂, hd, he⟩ | ⟨_, e₂, hd, -, -, he⟩ |
      ⟨_, e₂, hd, -, he⟩⟩
  · exact ⟨by simp, by simp, by simp, startData_upgrades w, by simp [startData],
      startData_disconnects w⟩
  all_goals
    have h₂ : e₂.state = (e.startData w).1.state := by
      have := readData_state w (e.startData w).1; rwa [hd] at this
    have hc : e₂.config = (e.startData w).1.config := by
      have := readData_config w (e.startData w).1; rwa [hd] at this
    have hcl : e₂.closed = e.closed := by
      have := readData_closed w (e.startData w).1; rw [hd] at this; rw [this]; simp [startData]
    have hl : e₂.log = (e.startData w).1.log := by
      have := readData_log w (e.startData w).1; rwa [hd] at this
    have hu : e₂.upgrades = e.upgrades := by rw [upgrades, hl]; exact startData_upgrades w
    have hdc : e₂.disconnects = e.disconnects := by
      rw [disconnects, hl]; exact startData_disconnects w
  · obtain rfl := congrArg Prod.fst he
    exact ⟨by simp [hc], by simp [h₂], by simp [h₂], by simpa [upgrades] using hu,
      by simpa using hcl, by simpa [disconnects] using hdc⟩
  · obtain rfl := congrArg Prod.fst he
    exact ⟨by simp [hc], by simp [h₂], by simp [h₂], by simpa [upgrades] using hu,
      by simpa using hcl, by simpa [disconnects] using hdc⟩
  · have h₃ := acceptBody_keepsSession w he
    exact ⟨by rw [h₃.1, hc]; simp, by rw [h₃.2, h₂]; simp, by rw [h₃.3, h₂]; simp, h₃.4.trans hu,
      h₃.closed.trans hcl, h₃.disconnects.trans hdc⟩

/-- No handler changes the configuration, TLS, the error count or the closed flag, or calls
    `Conn.UpgradeTLS` or `OnDisconnect`. -/
theorem handleCommand_keepsSession (cmd : Command) {e' : Engine} {r : Response}
    (h : e.handleCommand w cmd = some (e', r)) : KeepsSession e e' := by
  unfold handleCommand at h
  split at h
  case h_4 => exact handleRCPT_keepsSession w cmd h
  case h_5 => exact handleDATA_keepsSession w h
  all_goals obtain rfl := fst_of_some h
  case h_1 => unfold handleHELO; split <;> exact ⟨rfl, rfl, rfl, rfl, rfl, rfl⟩
  case h_2 => unfold handleEHLO; split <;> exact ⟨rfl, rfl, rfl, rfl, rfl, rfl⟩
  case h_3 =>
    rcases handleMAIL_cases w e cmd with ⟨_, hm⟩ | ⟨_, hm⟩ | ⟨_, e₁, -, -, -, rfl | rfl, hm⟩ <;>
      exact ⟨by simp [hm, acceptSender_eq], by simp [hm, acceptSender_eq],
        by simp [hm, acceptSender_eq], by simp [hm, acceptSender_eq, upgrades, Event.upgrade?],
        by simp [hm, acceptSender_eq], by simp [hm, acceptSender_eq, disconnects, Event.disconnect?]⟩
  case h_6 => exact ⟨rfl, rfl, rfl, rfl, rfl, rfl⟩
  case h_8 => exact ⟨rfl, rfl, rfl, rfl, rfl, rfl⟩
  case h_11 =>
    unfold handleSTARTTLS
    split_ifs <;> exact ⟨by simp, by simp, by simp, by simp [upgrades], by simp, by simp [disconnects]⟩
  all_goals exact ⟨rfl, rfl, rfl, rfl, rfl, rfl⟩

/-- What a handler other than DATA does to the state machine: nothing, the transition for
    its command, `Reset`, or `Terminate`. -/
theorem handleCommand_sm (cmd : Command) (hv : cmd.verb ≠ .data) {e' : Engine} {r : Response}
    (h : e.handleCommand w cmd = some (e', r)) :
    e'.sm = e.sm ∨ e'.sm = (StateMachine.transitionForCommand e.sm cmd.verb true).1 ∨
      e'.sm = StateMachine.reset e.sm ∨
      e'.sm = (StateMachine.terminate (StateMachine.transitionForCommand e.sm cmd.verb true).1).1 := by
  unfold handleCommand at h
  split at h <;> rename_i hc
  case h_4 =>
    unfold handleRCPT at h
    split at h
    · cases h; exact .inl rfl
    split at h
    · cases h
    · cases h; exact .inl rfl
    dsimp only at h
    split at h
    · cases h; exact .inl rfl
    unfold acceptRecipient at h
    cases hb : e.envelope with
    | none => simp [hb, Option.bind_eq_bind] at h
    | some b =>
      simp only [tick_envelope, hb, Option.bind_eq_bind, Option.some_bind] at h
      split at h <;> cases h
      · exact .inl rfl
      · exact .inr (.inl (by simp [hc]))
  case h_5 => exact absurd hc hv
  all_goals obtain rfl := fst_of_some h
  case h_1 => unfold handleHELO; split; exacts [.inl rfl, .inr (.inl (by simp [hc]))]
  case h_2 => unfold handleEHLO; split; exacts [.inl rfl, .inr (.inl (by simp [hc]))]
  case h_3 =>
    rcases handleMAIL_cases w e cmd with ⟨_, hm⟩ | ⟨_, hm⟩ | ⟨_, e₁, -, -, -, rfl | rfl, hm⟩ <;>
      rw [hm]
    · exact .inl rfl
    · exact .inl rfl
    all_goals exact .inr (.inl (by simp [acceptSender_eq, hc]))
  case h_6 => exact .inr (.inr (.inl (by simp [handleRSET])))
  case h_8 => exact .inr (.inr (.inr (by simp [handleQUIT, hc])))
  case h_11 =>
    unfold handleSTARTTLS; split_ifs
    exacts [.inl rfl, .inl rfl, .inl rfl, .inr (.inl (by simp [hc]))]
  all_goals exact .inl rfl

end

/-! ## The ways an iteration ends -/

section
variable (w : World) {e : Engine}

theorem processOneCommand_cases {e' : Engine} {err : Option Error}
    (h : e.processOneCommand w = some (e', err)) :
    (Frame e e' ∧ e'.log = e.log) ∨
      ∃ line, e.readLine.1 = .ok line ∧ e.readLine.2.processLine w line = some (e', err) := by
  unfold processOneCommand at h
  split at h
  · rename_i heq; cases h
    rw [show e' = e.readLine.2 by rw [heq]]
    exact .inl ⟨frame_readLine e, rfl⟩
  · rename_i line e₀ heq
    exact .inr ⟨line, by rw [heq], by rw [heq]; exact h⟩

/-- `processOneCommand` once the line is read: the line is answered without a handler, and
    the session aborted once the error budget is spent; or the command it parses goes to
    its handler in a frame of `e`, and the handler's reply is written. -/
theorem processLine_cases {line : Bytes} {e' : Engine} {err : Option Error}
    (h : e.processLine w line = some (e', err)) :
    (∃ e₁, Frame e e₁ ∧ (e' = e₁ ∨ e' = { e₁ with sm := (StateMachine.abort e₁.sm).1 })) ∨
    ∃ cmd e₁ e₂ resp, e.parser.parseCommand line = .ok cmd ∧ Frame e e₁ ∧
      isCommandAllowed e₁.sm cmd.verb = true ∧ e₁.handleCommand w cmd = some (e₂, resp) ∧
      e₂.writeReply w resp = (e', err) := by
  unfold processLine at h
  dsimp only at h
  have h₁ := frame_emit e (.command line (e.parser.parseCommand line)) rfl
  split at h
  · obtain rfl := congrArg Prod.fst (Option.some.inj h)
    rcases syntaxFailure_cases w _ _ with hf | ⟨e₂, hf, heq⟩
    exacts [.inl ⟨_, h₁.trans hf, .inl rfl⟩, .inl ⟨e₂, h₁.trans hf, .inr heq⟩]
  rename_i cmd hp
  have h₂ := h₁.trans (frame_onCommandHook w _ cmd)
  split at h
  · rename_i e₂ _ heq
    cases h
    rw [heq] at h₂
    exact .inl ⟨_, h₂.trans (frame_writeResponse w _ _), .inl rfl⟩
  rename_i e₂ heq
  rw [heq] at h₂
  unfold dispatch at h
  split at h
  · cases h
    exact .inl ⟨_, h₂.trans ((frame_bumpErrors _).trans (frame_writeResponse w _ _)), .inl rfl⟩
  rename_i ha
  simp only [Bool.not_eq_true', Bool.not_eq_false] at ha
  obtain ⟨⟨e₃, resp⟩, hc, hw⟩ := Option.map_eq_some'.1 h
  exact .inr ⟨cmd, e₂, e₃, resp, hp, h₂, ha, hc, hw⟩

/-- An iteration of the loop stops before reading a line (a frame that logs nothing), runs
    the TLS upgrade, or reads a line and processes it. -/
theorem loopStep_cases {e' : Engine} {st : Step} (hs : e.loopStep w = (e', st)) :
    (Frame e e' ∧ e'.log = e.log ∧ (st = .next → e.state.state ≠ .startTLS)) ∨
    (e.sm.isTerminal = false ∧ e.state.state = .startTLS ∧
      ∃ err, e.tick.performTLSUpgrade w = (e', err) ∧ (st = .next → err = none)) ∨
    (e.sm.isTerminal = false ∧ e.state.state ≠ .startTLS ∧ ∃ line err,
      e.tick.readLine.1 = .ok line ∧ e.tick.readLine.2.processLine w line = some (e', err)) := by
  unfold loopStep at hs
  split at hs
  · cases hs; exact .inl ⟨frame_tick e, rfl, nofun⟩
  dsimp only at hs
  split at hs
  · cases hs; exact .inl ⟨frame_tick e, rfl, nofun⟩
  rename_i hterm
  have hterm' : e.sm.isTerminal = false := by simpa using hterm
  split at hs
  · rename_i hst
    split at hs <;> rename_i heq <;> cases hs
    all_goals exact .inr (.inl ⟨hterm', hst, _, heq, by simp⟩)
  rename_i hst
  have hst' : e.state.state ≠ .startTLS := by simpa using hst
  have hone : ∀ {err}, e.tick.processOneCommand w = some (e', err) →
      (Frame e e' ∧ e'.log = e.log ∧ (st = .next → e.state.state ≠ .startTLS)) ∨
      (e.sm.isTerminal = false ∧ e.state.state ≠ .startTLS ∧ ∃ line err,
        e.tick.readLine.1 = .ok line ∧ e.tick.readLine.2.processLine w line = some (e', err)) :=
    fun heq => (processOneCommand_cases w heq).imp
      (fun ⟨hf, hl⟩ => ⟨(frame_tick e).trans hf, hl, fun _ => hst'⟩)
      fun ⟨line, h₁, h₂⟩ => ⟨hterm', hst', line, _, h₁, h₂⟩
  split at hs
  · cases hs; exact .inl ⟨frame_tick e, rfl, nofun⟩
  · rename_i heq; cases hs; exact (hone heq).imp id .inr
  · rename_i heq
    split_ifs at hs <;> cases hs <;> exact (hone heq).imp id .inr

end

/-! ## One loop iteration

`loopStep_preserves`: a property that frames keep, that `Abort` keeps, that every handler
keeps when its command is allowed, and that the TLS upgrade keeps, holds after every
iteration, however it ends. -/

section
variable (w : World) {P : Engine → Prop}

theorem processLine_preserves (hframe : ∀ {e e'}, P e → Frame e e' → P e')
    (habort : ∀ {e}, P e → P { e with sm := (StateMachine.abort e.sm).1 })
    (hcmd : ∀ {e cmd e₁ resp}, P e → isCommandAllowed e.sm cmd.verb = true →
      e.handleCommand w cmd = some (e₁, resp) → P e₁)
    {e e' : Engine} {line : Bytes} {err : Option Error} (h : P e)
    (hp : e.processLine w line = some (e', err)) : P e' := by
  rcases processLine_cases w hp with ⟨e₁, hf, rfl | rfl⟩ | ⟨cmd, e₁, e₂, resp, -, hf, ha, hc, hw⟩
  · exact hframe h hf
  · exact habort (hframe h hf)
  · obtain rfl := congrArg Prod.fst hw
    exact hframe (hcmd (hframe h hf) ha hc) (frame_writeReply w e₂ resp)

/-- A property that frames keep, that `Abort` keeps, that every handler keeps when its
    command is allowed, and that the TLS upgrade keeps, holds after every loop iteration,
    however it ends. -/
theorem loopStep_preserves (hframe : ∀ {e e'}, P e → Frame e e' → P e')
    (habort : ∀ {e}, P e → P { e with sm := (StateMachine.abort e.sm).1 })
    (hcmd : ∀ {e cmd e₁ resp}, P e → isCommandAllowed e.sm cmd.verb = true →
      e.handleCommand w cmd = some (e₁, resp) → P e₁)
    (hup : ∀ {e e' err}, P e → e.sm.isTerminal = false → e.state.state = .startTLS →
      e.performTLSUpgrade w = (e', err) → P e')
    {e e' : Engine} {st : Step} (h : P e) (hs : e.loopStep w = (e', st)) : P e' := by
  rcases loopStep_cases w hs with ⟨hf, -, -⟩ | ⟨hterm, hst, _, hu, -⟩ | ⟨-, -, line, _, -, hp⟩
  · exact hframe h hf
  · exact hup (hframe h (frame_tick e)) (by simpa using hterm) (by simpa using hst) hu
  · exact processLine_preserves w hframe habort hcmd
      (hframe (hframe h (frame_tick e)) (frame_readLine _)) hp

/-- A property of the loop tops that every iteration keeps, whose weakening `Q` holds of
    `Run`'s exits and survives `handleDisconnect`, holds of the engine `Run` ends with. -/
theorem run_invariant {Q : Engine → Prop} {config : SessionConfig} {conn : Reader}
    {sid ip : Bytes} (hstart : ∀ {e}, (Engine.new config conn sid ip).startup w = (e, none) → P e)
    (hexit : ∀ {e o}, (Engine.new config conn sid ip).startup w = (e, some o) → Q e)
    (hstep : ∀ {e e' st}, P e → e.loopStep w = (e', st) → P e')
    (hPQ : ∀ {e}, P e → Q e) (hdisc : ∀ {e reason err}, P e → Q (e.handleDisconnect reason err).1)
    (fuel : Nat) : Q ((Engine.new config conn sid ip).run w fuel).1 := by
  unfold run
  rcases hs : (Engine.new config conn sid ip).startup w with ⟨e, _ | o⟩
  · have h := hstart hs
    clear hs
    dsimp only
    induction fuel generalizing e with
    | zero => exact hPQ h
    | succ fuel ih =>
      unfold loop
      rcases hl : e.loopStep w with ⟨e', _ | ⟨reason, err⟩ | _⟩ <;> dsimp only
      · exact ih e' (hstep h hl)
      · exact hdisc (hstep h hl)
      · exact hPQ (hstep h hl)
  · exact hexit hs

end

end Engine

/-- A world in which the context is never cancelled and every write succeeds. -/
def quietWorld : World where
  ctxErr _ := none
  writeErr _ := none
  onCommand _ := none
  sender _ := { accepted := true, response := responseOK }
  mailbox _ := { status := .accepted, response := responseOK }
  store _ := none
  tlsConfig _ := none
  upgrade _ := .error .eof
  envelopeID _ := []

end Icesmtp
