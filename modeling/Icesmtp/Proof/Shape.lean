/-
  icesmtp formalization — the shape of a session at the top of the command loop.

  `Engine.Shape` lists what `e.sm`, `e.state.State` and the envelope can be
  when the loop is about to read a command line.  Besides the five shapes
  where the two states agree, there is a sixth, `wedged`: every failure path
  of `handleDATA` calls `sm.Reset()` from `data`, `data → identified` is not in
  `validTransitions`, and the machine stays in `data` while the session state
  says `identified`.  In an open transaction the builder also keeps what
  `handleMAIL` and `handleRCPT` checked (`Engine.Txn`).

  * `Engine.Reachable.shapeInv`: every reachable loop top is terminal or has a shape;
  * `Engine.wedged_not_allowed`: in the wedged shape no command is allowed.
-/
import Icesmtp.Proof.Steps

namespace Icesmtp

open StandardEnvelopeBuilder

namespace Engine

/-- An open transaction of `e` with the builder `b`: what `handleMAIL` checked and set
    up, and `handleRCPT` kept. -/
structure Txn (e : Engine) (b : StandardEnvelopeBuilder) : Prop where
  isOpen : OpenBuilder b
  tlsActive : b.metadata.tlsActive = e.state.tlsActive
  tlsRequired : e.config.tlsPolicy = .required → e.state.tlsActive = true
  recipients_le : 0 < e.config.limits.maxRecipients →
    (b.recipients.length : Int) ≤ e.config.limits.maxRecipients
  transactions_lt : 0 < e.config.limits.maxTransactions →
    (e.stats.transactionCount : Int) < e.config.limits.maxTransactions

/-- The shapes of a session at the top of the command loop: `sm`, the session state and
    the envelope. -/
inductive Shape (e : Engine) : Prop
  | greeted : e.sm = .greeted → e.state.state = .greeted → e.envelope = none → Shape e
  | identified : e.sm = .identified → e.state.state = .identified → e.envelope = none → Shape e
  | mailFrom (b : StandardEnvelopeBuilder) : e.sm = .mailFrom → e.state.state = .mailFrom →
      e.envelope = some b → Txn e b → b.recipients = [] → Shape e
  | rcptTo (b : StandardEnvelopeBuilder) : e.sm = .rcptTo → e.state.state = .rcptTo →
      e.envelope = some b → Txn e b → b.recipients ≠ [] → Shape e
  | startTLS : e.sm = .startTLS → e.state.state = .startTLS → e.envelope = none → Shape e
  /-- after a failed DATA: `sm.Reset()` cannot leave `data` -/
  | wedged : e.sm = .data → e.state.state = .identified → e.envelope = none → Shape e

/-- The loop-top invariant: the machine is terminal or the session has a shape. -/
def ShapeInv (e : Engine) : Prop := e.sm.isTerminal = true ∨ e.Shape

/-! ## Frames keep the shape -/

theorem Txn.frame {e e' : Engine} {b : StandardEnvelopeBuilder} (h : Txn e b) (hf : Frame e e') :
    Txn e' b where
  isOpen := h.isOpen
  tlsActive := by rw [hf.tlsActive]; exact h.tlsActive
  tlsRequired := by rw [hf.tlsActive, hf.config]; exact h.tlsRequired
  recipients_le := by rw [hf.config]; exact h.recipients_le
  transactions_lt := by rw [hf.config, hf.stats]; exact h.transactions_lt

theorem Shape.frame {e e' : Engine} (h : e.Shape) (hf : Frame e e') : e'.Shape := by
  have hsm := hf.sm
  have hst := hf.state_state
  have henv := hf.envelope
  cases h with
  | greeted h1 h2 h3 => exact .greeted (hsm.trans h1) (hst.trans h2) (henv.trans h3)
  | identified h1 h2 h3 => exact .identified (hsm.trans h1) (hst.trans h2) (henv.trans h3)
  | mailFrom b h1 h2 h3 h4 h5 =>
    exact .mailFrom b (hsm.trans h1) (hst.trans h2) (henv.trans h3) (h4.frame hf) h5
  | rcptTo b h1 h2 h3 h4 h5 =>
    exact .rcptTo b (hsm.trans h1) (hst.trans h2) (henv.trans h3) (h4.frame hf) h5
  | startTLS h1 h2 h3 => exact .startTLS (hsm.trans h1) (hst.trans h2) (henv.trans h3)
  | wedged h1 h2 h3 => exact .wedged (hsm.trans h1) (hst.trans h2) (henv.trans h3)

theorem ShapeInv.frame {e e' : Engine} (h : e.ShapeInv) (hf : Frame e e') : e'.ShapeInv :=
  h.imp (fun h => hf.sm ▸ h) (·.frame hf)

/-- `Abort` from a shape ends the session. -/
theorem ShapeInv.abort {e : Engine} (h : e.ShapeInv) :
    ({ e with sm := (StateMachine.abort e.sm).1 } : Engine).ShapeInv := by
  have : e.sm ≠ .disconnected ∧ e.sm ≠ .terminating := by
    rcases h with h | h
    · rcases State.isTerminal_iff.1 h with h | h <;> simp [h]
    · cases h <;> simp_all
  exact .inl (StateMachine.abort_isTerminal this.1 this.2)

/-! ## The handlers keep the shape -/

section
variable (w : World) {e : Engine} (cmd : Command)

theorem handleHELO_shape (h : e.Shape) (ha : e.sm = .greeted ∨ e.sm = .identified) :
    (e.handleHELO cmd).1.Shape := by
  unfold handleHELO; split
  · exact h
  · exact .identified (by rcases ha with ha | ha <;> simp [ha] <;> rfl) rfl rfl

theorem handleEHLO_shape (h : e.Shape) (ha : e.sm = .greeted ∨ e.sm = .identified) :
    (e.handleEHLO cmd).1.Shape := by
  unfold handleEHLO; split
  · exact h
  · exact .identified (by rcases ha with ha | ha <;> simp [ha] <;> rfl) rfl rfl

theorem handleMAIL_shape (h : e.Shape) (ha : e.sm = .identified) : (e.handleMAIL w cmd).1.Shape := by
  rcases handleMAIL_cases w e cmd with ⟨r, hr⟩ | ⟨r, hr⟩ | ⟨path, e₁, h1, h2, -, he₁, hr⟩ <;>
    rw [hr]
  · exact h
  · exact h.frame (frame_tick e)
  · have hf : Frame e e₁ := by rcases he₁ with rfl | rfl; exacts [Frame.refl _, frame_tick _]
    rw [acceptSender_eq]
    refine .mailFrom (withSender (w.envelopeID e₁.clock) e₁.envelopeMetadata path cmd.params)
      (by simp [hf.sm, ha]; rfl) (by simp) (by simp) ⟨OpenBuilder.withSender .., ?_, ?_, ?_, ?_⟩ rfl
    · simp [withSender, envelopeMetadata]
    · have : e.config.tlsPolicy = .required → e.state.tlsActive = true := by simpa using h1
      simpa [hf.config, hf.tlsActive] using this
    · intro hpos; simp [withSender] at hpos ⊢; omega
    · have : 0 < e.config.limits.maxTransactions →
          e.stats.transactionCount < e.config.limits.maxTransactions :=
        fun _ => by omega
      simpa [hf.config, hf.stats] using this

/-- The builder of a shape in a transaction. -/
theorem Shape.txn (h : e.Shape) (ha : e.sm = .mailFrom ∨ e.sm = .rcptTo) :
    ∃ b, e.envelope = some b ∧ Txn e b ∧ (e.sm = .rcptTo → b.recipients ≠ []) := by
  cases h with
  | mailFrom b _ _ h3 h4 _ => exact ⟨b, h3, h4, by simp_all⟩
  | rcptTo b _ _ h3 h4 h5 => exact ⟨b, h3, h4, fun _ => h5⟩
  | _ => simp_all

theorem handleRCPT_shape (h : e.Shape) (ha : e.sm = .mailFrom ∨ e.sm = .rcptTo) {e' : Engine}
    {r : Response} (hr : e.handleRCPT w cmd = some (e', r)) : e'.Shape := by
  obtain ⟨b, henv, ht, -⟩ := h.txn ha
  rcases handleRCPT_cases w e cmd henv ht.isOpen hr with ⟨rfl, -⟩ | ⟨rfl, -⟩ |
    ⟨path, -, hlim, -, -, rfl⟩
  · exact h
  · exact h.frame (frame_tick e)
  · refine .rcptTo { b with recipients := b.recipients ++ [path] } ?_ (by simp) (by simp)
      ⟨ht.isOpen.addRecipient path, ?_, ?_, ?_, ?_⟩ (by simp)
    · rcases ha with ha | ha <;> simp [ha] <;> rfl
    · simpa using ht.tlsActive
    · simpa using ht.tlsRequired
    · intro hpos; simp at hpos ⊢; omega
    · simpa using ht.transactions_lt

/-- The failure paths of `handleDATA` leave the machine in `data`: the wedged shape. -/
theorem dataFailure_wedged {e₂ : Engine} (hsm : e₂.sm = .data) (c : ReplyCode) (t : String) :
    (e₂.dataFailure c t).1.Shape :=
  .wedged (by simp [hsm]) (by simp) (by simp)

/-- DATA ends the session, or leaves it in `identified` by the session state. -/
theorem handleDATA_shapeInv (h : e.Shape) (ha : e.sm = .rcptTo) {e' : Engine} {r : Response}
    (hr : e.handleDATA w = some (e', r)) :
    e'.sm.isTerminal = true ∨ (e'.Shape ∧ e'.state.state = .identified) := by
  obtain ⟨b, henv, ht, hne⟩ := h.txn (.inr ha)
  have hsd : (StateMachine.transitionForCommand e.sm .data true).1 = .data := by rw [ha]; rfl
  rcases handleDATA_cases w e hr with ⟨_, -, rfl, -⟩ |
    ⟨-, ⟨_, e₂, hd, he⟩ | ⟨_, e₂, hd, -, -, he⟩ | ⟨data, e₂, hd, -, hb⟩⟩
  · exact .inl (by simp [hsd, StateMachine.validTransitions]; rfl)
  all_goals
    have hf := frame_readData w (e.startData w).1
    rw [hd] at hf
    dsimp only at hf
  · obtain rfl := congrArg Prod.fst he
    exact .inr ⟨dataFailure_wedged (by simp [hf.sm, hsd]) _ _, by simp⟩
  · obtain rfl := congrArg Prod.fst he
    exact .inr ⟨dataFailure_wedged (by simp [hf.sm, hsd]) _ _, by simp⟩
  · have henv₂ : e₂.envelope = some b := by rw [hf.envelope]; simp [henv]
    rw [acceptBody_of_open w e₂ henv₂ ht.isOpen (hne ha) data] at hb
    obtain rfl := congrArg Prod.fst (Option.some.inj hb)
    rcases commit_cases w _ (b.sealWith data) with ⟨err, -, -, hc⟩ | ⟨e₃, he₃, hc⟩ <;> rw [hc]
    · exact .inr ⟨dataFailure_wedged (by simp [hf.sm, hsd]) _ _, by simp⟩
    · have : e₃.sm = .data := by rcases he₃ with ⟨-, rfl⟩ | ⟨-, -, rfl⟩ <;> simp [hf.sm, hsd]
      exact .inr ⟨.identified (by simp [this]) (by simp) (by simp), by simp⟩

theorem handleRSET_shape (ha : e.sm = .greeted ∨ e.sm = .identified ∨ e.sm = .mailFrom ∨
    e.sm = .rcptTo) : e.handleRSET.1.Shape := by
  rcases ha with ha | ha | ha | ha
  · exact .greeted (by simp [handleRSET, ha]) (by simp [handleRSET, ha]) rfl
  all_goals exact .identified (by simp [handleRSET, ha]) (by simp [handleRSET, ha]) rfl

theorem handleQUIT_terminal (ha : e.sm = .greeted ∨ e.sm = .identified ∨ e.sm = .mailFrom ∨
    e.sm = .rcptTo) : e.handleQUIT.1.sm.isTerminal = true := by
  rcases ha with ha | ha | ha | ha <;> simp [handleQUIT, ha] <;> rfl

theorem handleSTARTTLS_shape (h : e.Shape) (ha : e.sm = .identified) :
    e.handleSTARTTLS.1.Shape := by
  unfold handleSTARTTLS
  split_ifs
  · exact h
  · exact h
  · exact h
  · refine .startTLS (by simp [ha]; rfl) rfl ?_
    cases h <;> simp_all

/-- Every handler keeps the invariant when its command is allowed. -/
theorem handleCommand_shapeInv (h : e.ShapeInv) (ha : isCommandAllowed e.sm cmd.verb = true)
    {e' : Engine} {r : Response} (hr : e.handleCommand w cmd = some (e', r)) : e'.ShapeInv := by
  have hs : e.Shape := h.resolve_left <| by
    rcases isCommandAllowed_states ha with h | h | h | h <;> simp [h, State.isTerminal]
  unfold handleCommand at hr
  cases hv : cmd.verb <;> rw [hv] at ha hr
  case helo => obtain rfl := fst_of_some hr; exact .inr (handleHELO_shape cmd hs (isCommandAllowed_helo ha))
  case ehlo => obtain rfl := fst_of_some hr; exact .inr (handleEHLO_shape cmd hs (isCommandAllowed_ehlo ha))
  case mail =>
    obtain rfl := fst_of_some hr; exact .inr (handleMAIL_shape w cmd hs (isCommandAllowed_mail ha))
  case rcpt => exact .inr (handleRCPT_shape w cmd hs (isCommandAllowed_rcpt ha) hr)
  case data => exact (handleDATA_shapeInv w hs (isCommandAllowed_data ha) hr).imp_right And.left
  case rset => obtain rfl := fst_of_some hr; exact .inr (handleRSET_shape (isCommandAllowed_states ha))
  case quit => obtain rfl := fst_of_some hr; exact .inl (handleQUIT_terminal (isCommandAllowed_states ha))
  case starttls =>
    obtain rfl := fst_of_some hr; exact .inr (handleSTARTTLS_shape hs (isCommandAllowed_starttls ha))
  all_goals obtain rfl := fst_of_some hr; exact h

/-- A successful upgrade starts over in `greeted`, with no envelope; a failed one leaves
    the shape as it is. -/
theorem performTLSUpgrade_shape (h : e.Shape) (hst : e.state.state = .startTLS) {e' : Engine}
    {err : Option Error} (hu : e.performTLSUpgrade w = (e', err)) : e'.Shape := by
  have hsm : e.sm = .startTLS := by cases h <;> simp_all
  have henv : e.envelope = none := by cases h <;> simp_all
  unfold performTLSUpgrade at hu
  split at hu
  · obtain rfl := congrArg Prod.fst hu; exact .startTLS hsm hst henv
  dsimp only at hu
  split at hu
  · obtain rfl := congrArg Prod.fst hu; exact .startTLS hsm hst henv
  obtain rfl := congrArg Prod.fst hu
  exact .greeted (by simp [hsm]) (by simp) (by simp)

end

/-! ## Every reachable loop top -/

/-- `Run` enters the loop in `greeted`, with no envelope. -/
theorem startup_greeted (w : World) {config conn sid ip} {e : Engine}
    (h : (Engine.new config conn sid ip).startup w = (e, none)) :
    e.sm = .greeted ∧ e.state.state = .greeted ∧ e.envelope = none := by
  unfold startup at h
  split at h
  · cases h
  rename_i sm heq
  have hsm : sm = .connected := (congrArg Prod.fst heq).symm
  dsimp only at h
  split at h
  · cases h
  rename_i e₁ hw
  obtain rfl := congrArg Prod.fst hw
  split at h
  · cases h
  rename_i sm' heq'
  obtain rfl := congrArg Prod.fst h
  have : sm' = .greeted := by
    have := congrArg Prod.fst heq'; simp only [writeResponse_fst, tick_sm, emit_sm, hook_sm, hsm] at this
    exact this.symm
  exact ⟨by simp [this], by simp, by simp; rfl⟩

theorem startup_shape (w : World) {config conn sid ip} {e : Engine}
    (h : (Engine.new config conn sid ip).startup w = (e, none)) : e.Shape :=
  have ⟨h₁, h₂, h₃⟩ := startup_greeted w h
  .greeted h₁ h₂ h₃

theorem Reachable.shapeInv {w : World} {e : Engine} (h : Reachable w e) : e.ShapeInv := by
  induction h with
  | start h => exact .inr (startup_shape w h)
  | step _ hs ih =>
    refine loopStep_preserves w (fun h hf => h.frame hf) (fun h => h.abort)
      (fun h ha hr => handleCommand_shapeInv w _ h ha hr) ?_ ih hs
    intro e e' err h hterm hst hu
    exact .inr (performTLSUpgrade_shape w (h.resolve_left (by simp [hterm])) hst hu)

/-- In the wedged shape no command is allowed: every command is answered `503` (or vetoed). -/
theorem wedged_not_allowed {e : Engine} (h : e.sm = .data) (c : CommandVerb) :
    isCommandAllowed e.sm c = false := by
  rw [h]; rfl

/-! ## A failed `Store` wedges the session -/

/-- Collaborators that accept every sender and recipient and fail every `Store`. -/
def storeFailureWorld : World where
  ctxErr _ := none
  writeErr _ := none
  onCommand _ := none
  sender _ := { accepted := true, response := responseOK }
  mailbox _ := { status := .accepted, response := responseOK }
  store _ := some (.other 0)
  tlsConfig _ := none
  upgrade _ := .error .eof
  envelopeID _ := ascii "id1"

/-- A client that sends one message and QUIT, to a server with a Storage. -/
def storeFailureSession : Engine :=
  Engine.new { serverHostname := ascii "mx", storage := true }
    { buf := [], final := .eof,
      src := [.data (ascii "HELO c\r\nMAIL FROM:<a@b>\r\nRCPT TO:<u@x>\r\nDATA\r\nhi\r\n.\r\nQUIT\r\n")] }
    [] []

/-- After the failed `Store` the loop reads the next command with `sm` in `data` and the
    session state `identified`, where no command is allowed: QUIT is answered `503`. -/
theorem store_failure_wedges_session :
    Reachable storeFailureWorld (storeFailureSession.run storeFailureWorld 4).1 ∧
      (storeFailureSession.run storeFailureWorld 4).1.sm = .data ∧
      (storeFailureSession.run storeFailureWorld 4).1.state.state = .identified ∧
      (storeFailureSession.run storeFailureWorld 5).1.log.getLast? =
        some (.reply responseBadSequence) :=
  ⟨reachable_of_run _ (by decide), by decide, by decide, by decide⟩

end Engine

end Icesmtp
