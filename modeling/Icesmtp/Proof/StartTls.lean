/-
  icesmtp formalization — the sequencing of STARTTLS over whole runs.

  `handleSTARTTLS` answers `220` only in `identified`, with TLS not disabled
  and not active yet, and moves the session to `startTLS`; the next iteration
  of the loop runs `performTLSUpgrade`, which calls `Conn.UpgradeTLS` and,
  when the handshake succeeds, starts the session over in `greeted` with TLS
  active.  A failed upgrade ends the loop.  The calls of `Conn.UpgradeTLS` are
  read off the log (`Engine.upgrades`).

  * `Engine.UpgradeInv`: at every loop top, `Conn.UpgradeTLS` was called once
    exactly when TLS is active, and `startTLS` is only reached without TLS;
  * `Engine.StartTlsSequencing`, with `Engine.starttls_sequencing`: at every
    loop top, the upgrade happens at most once per session and only in the
    iteration after an accepted STARTTLS; it starts the session over; and
    until HELO or EHLO, MAIL, RCPT, DATA and a second STARTTLS are refused
    with `503`, or with the `554` of an `OnCommand` veto;
  * `Engine.later_starttls_vetoed`: a vetoed STARTTLS after the upgrade is
    answered `554`.
-/
import Icesmtp.Proof.ErrorBudget
import Icesmtp.Proof.Tls

namespace Icesmtp

namespace Engine

/-! ## The handlers -/

section
variable (w : World) {e : Engine}

/-- With TLS active, STARTTLS is refused with `503`, unless TLS is disabled. -/
theorem handleSTARTTLS_active (hp : e.config.tlsPolicy ≠ .disabled)
    (ht : e.state.tlsActive = true) :
    e.handleSTARTTLS = (e, newResponse reply503BadSequence (ascii "TLS already active")) := by
  simp [handleSTARTTLS, hp, ht]

/-- `handleSTARTTLS` moves the machine only where it answers `220`: TLS is not disabled and
    not active yet. -/
theorem handleSTARTTLS_moves (h : e.handleSTARTTLS.1.sm ≠ e.sm) :
    e.config.tlsPolicy ≠ .disabled ∧ e.state.tlsActive = false ∧
      e.handleSTARTTLS.2 = newResponse reply220ServiceReady (ascii "Ready to start TLS") := by
  unfold handleSTARTTLS at h ⊢
  split_ifs at h ⊢ with h₁ h₂
  all_goals first | exact absurd rfl h | exact ⟨h₁, by simpa using h₂, rfl⟩

/-- Only STARTTLS, accepted in `identified` without TLS, enters `startTLS`. -/
theorem handleCommand_enters_startTLS (hs : e.Shape) {cmd : Command}
    (ha : isCommandAllowed e.sm cmd.verb = true) {e' : Engine} {r : Response}
    (hc : e.handleCommand w cmd = some (e', r)) (h : e'.sm = .startTLS) :
    cmd.verb = .starttls ∧ e.sm = .identified ∧ e.state.tlsActive = false ∧
      e.config.tlsPolicy ≠ .disabled ∧
      r = newResponse reply220ServiceReady (ascii "Ready to start TLS") := by
  have hne : e.sm ≠ .startTLS := by
    rcases isCommandAllowed_states ha with h | h | h | h <;> rw [h] <;> decide
  by_cases hv : cmd.verb = .data
  · rw [handleCommand, hv] at hc
    rcases handleDATA_shapeInv w hs (isCommandAllowed_data (hv ▸ ha)) hc with ht | ⟨hs', hst⟩
    · rw [h] at ht; cases ht
    · cases hs' <;> simp_all
  have hv' : cmd.verb = .starttls := by
    rcases handleCommand_sm w cmd hv hc with h' | h' | h' | h' <;> rw [h'] at h
    · exact absurd h hne
    · exact (StateMachine.transitionForCommand_startTLS h).resolve_left hne
    · exact absurd (StateMachine.reset_startTLS h) hne
    · exact (StateMachine.transitionForCommand_startTLS
        (StateMachine.terminate_startTLS h)).resolve_left hne
  have hsm := isCommandAllowed_starttls (hv' ▸ ha)
  rw [handleCommand, hv'] at hc
  have hc' := Option.some.inj hc
  obtain rfl : e' = e.handleSTARTTLS.1 := by rw [hc']
  obtain rfl : r = e.handleSTARTTLS.2 := by rw [hc']
  obtain ⟨h₁, h₂, h₃⟩ := handleSTARTTLS_moves (e := e) (by rw [h, hsm]; decide)
  exact ⟨hv', hsm, h₂, h₁, h₃⟩

/-- The TLS upgrade calls `Conn.UpgradeTLS` at most once, and the call succeeds exactly
    when the upgrade does. -/
theorem performTLSUpgrade_upgrades {e' : Engine} {err : Option Error}
    (h : e.performTLSUpgrade w = (e', err)) :
    e'.upgrades = e.upgrades ∨ e'.upgrades = e.upgrades ++ [err.isNone] := by
  unfold performTLSUpgrade at h
  split at h
  · cases h; exact .inl rfl
  dsimp only at h
  split at h <;> cases h <;> exact .inr (by simp [upgrades, Event.upgrade?])

/-- A successful upgrade starts the session over: `greeted` for the machine and the
    session, no client name, no envelope, and TLS active. -/
theorem performTLSUpgrade_ok (hsm : e.sm = .startTLS) {e' : Engine}
    (h : e.performTLSUpgrade w = (e', none)) :
    e'.sm = .greeted ∧ e'.state.state = .greeted ∧ e'.state.clientHostname = [] ∧
      e'.envelope = none ∧ e'.state.tlsActive = true ∧ e'.upgrades = e.upgrades ++ [true] := by
  unfold performTLSUpgrade at h
  split at h
  · cases h
  dsimp only at h
  split at h <;> cases h
  simp [hsm, upgrades, Event.upgrade?]

theorem handleDisconnect_upgrades (e : Engine) (reason : DisconnectReason) (err : Option Error) :
    (e.handleDisconnect reason err).1.upgrades = e.upgrades := by
  unfold handleDisconnect; split <;> simp [upgrades, Event.upgrade?]

end

/-! ## The upgrade invariant -/

/-- What STARTTLS keeps at the top of the loop: `Conn.UpgradeTLS` was called once, and
    succeeded, exactly when TLS is active; TLS is only active where it is not disabled;
    and `startTLS` is only reached without TLS and with TLS not disabled. -/
structure UpgradeInv (e : Engine) : Prop where
  upgrades : e.upgrades = if e.state.tlsActive then [true] else []
  enabled : e.state.tlsActive = true → e.config.tlsPolicy ≠ .disabled
  startTLS : e.sm = .startTLS → e.state.tlsActive = false ∧ e.config.tlsPolicy ≠ .disabled

theorem UpgradeInv.frame {e e' : Engine} (h : e.UpgradeInv) (hf : Frame e e') : e'.UpgradeInv := by
  refine ⟨?_, ?_, ?_⟩
  · rw [hf.upgrades, hf.tlsActive]; exact h.upgrades
  · rw [hf.tlsActive, hf.config]; exact h.enabled
  · rw [hf.sm, hf.tlsActive, hf.config]; exact h.startTLS

theorem UpgradeInv.abort {e : Engine} (h : e.UpgradeInv) :
    UpgradeInv { e with sm := (StateMachine.abort e.sm).1 } := by
  refine ⟨h.upgrades, h.enabled, fun hsm => h.startTLS ?_⟩
  simp only [StateMachine.abort_fst] at hsm
  split at hsm
  · cases hsm
  · exact hsm

section
variable (w : World) {e : Engine}

/-- A handler keeps the upgrade invariant when its command is allowed. -/
theorem handleCommand_upgradeInv (hs : e.Shape) (h : e.UpgradeInv) {cmd : Command}
    (ha : isCommandAllowed e.sm cmd.verb = true) {e' : Engine} {r : Response}
    (hc : e.handleCommand w cmd = some (e', r)) : e'.UpgradeInv := by
  have hk := handleCommand_keepsSession w cmd hc
  refine ⟨?_, ?_, fun hsm => ?_⟩
  · rw [hk.upgrades, hk.tlsActive]; exact h.upgrades
  · rw [hk.tlsActive, hk.config]; exact h.enabled
  · obtain ⟨-, -, ht, hp, -⟩ := handleCommand_enters_startTLS w hs ha hc hsm
    rw [hk.tlsActive, hk.config]; exact ⟨ht, hp⟩

/-- The shape of the iteration from `startTLS`: `e` is in `startTLS`, without TLS. -/
theorem startTLS_of_state (h : e.ShapeInv ∧ e.UpgradeInv) (hterm : e.sm.isTerminal = false)
    (hst : e.state.state = .startTLS) :
    e.sm = .startTLS ∧ e.upgrades = [] ∧ e.config.tlsPolicy ≠ .disabled := by
  have hsm : e.sm = .startTLS := by
    cases h.1.resolve_left (by simp [hterm]) <;> simp_all
  obtain ⟨ht, hp⟩ := h.2.startTLS hsm
  exact ⟨hsm, by rw [h.2.upgrades, ht]; rfl, hp⟩

/-- Every iteration that goes on keeps the shape and the upgrade invariant. -/
theorem loopStep_upgradeInv (h : e.ShapeInv ∧ e.UpgradeInv) {e' : Engine}
    (hs : e.loopStep w = (e', .next)) : e'.ShapeInv ∧ e'.UpgradeInv := by
  rcases loopStep_cases w hs with ⟨hf, -, -⟩ | ⟨hterm, hst, err, hu, hok⟩ | ⟨-, -, line, _, -, hp⟩
  · exact ⟨h.1.frame hf, h.2.frame hf⟩
  · obtain rfl := hok rfl
    obtain ⟨hsm, h₀, hpol⟩ := startTLS_of_state (e := e) h hterm hst
    obtain ⟨h₁, -, -, -, h₅, h₆⟩ := performTLSUpgrade_ok w (by simpa using hsm) hu
    have hshape : e.tick.Shape := (h.1.frame (frame_tick e)).resolve_left (by simpa using hterm)
    refine ⟨.inr (performTLSUpgrade_shape w hshape (by simpa using hst) hu), ⟨?_, ?_, ?_⟩⟩
    · rw [h₆, h₅, show e.tick.upgrades = e.upgrades from rfl, h₀]; rfl
    · rw [(performTLSUpgrade_quiet w hu).config]; exact fun _ => hpol
    · rw [h₁]; nofun
  · refine processLine_preserves w (P := fun x => x.ShapeInv ∧ x.UpgradeInv)
      (fun h hf => ⟨h.1.frame hf, h.2.frame hf⟩) (fun h => ⟨h.1.abort, h.2.abort⟩)
      (fun h ha hr => ⟨handleCommand_shapeInv w _ h.1 ha hr, ?_⟩)
      ⟨h.1.frame ((frame_tick e).trans (frame_readLine _)),
        h.2.frame ((frame_tick e).trans (frame_readLine _))⟩ hp
    refine handleCommand_upgradeInv w (h.1.resolve_left ?_) h.2 ha hr
    rcases isCommandAllowed_states ha with h | h | h | h <;> simp [h, State.isTerminal]

/-- `Run` enters the loop without TLS and without a call of `Conn.UpgradeTLS`. -/
theorem startup_upgrades {config conn sid ip} {e : Engine}
    (h : (Engine.new config conn sid ip).startup w = (e, none)) :
    e.upgrades = [] ∧ e.state.tlsActive = false := by
  unfold startup at h
  split at h
  · cases h
  dsimp only at h
  split at h
  · cases h
  rename_i e₁ hw
  obtain rfl := congrArg Prod.fst hw
  split at h
  · cases h
  cases h
  simp [upgrades, Engine.new, Event.upgrade?]

theorem Reachable.upgradeInv {e : Engine} (h : Reachable w e) : e.ShapeInv ∧ e.UpgradeInv := by
  induction h with
  | start h =>
    obtain ⟨hsm, -, -⟩ := startup_greeted w h
    obtain ⟨hu, ht⟩ := startup_upgrades w h
    exact ⟨.inr (startup_shape w h), by rw [hu, ht]; rfl, by simp [ht], by simp [hsm]⟩
  | step _ hs ih => exact loopStep_upgradeInv w ih hs

end

/-! ## What one iteration does with STARTTLS -/

section
variable (w : World) {e : Engine}

/-- An iteration calls `Conn.UpgradeTLS` only from `startTLS`, where it was never called. -/
theorem loopStep_upgrades (h : e.ShapeInv ∧ e.UpgradeInv) {e' : Engine} {st : Step}
    (hs : e.loopStep w = (e', st)) :
    e'.upgrades = e.upgrades ∨ (e.sm = .startTLS ∧ ∃ ok, e'.upgrades = [ok]) := by
  rcases loopStep_cases w hs with ⟨hf, -, -⟩ | ⟨hterm, hst, err, hu, -⟩ | ⟨-, -, line, _, -, hp⟩
  · exact .inl hf.upgrades
  · obtain ⟨hsm, h₀, -⟩ := startTLS_of_state (e := e) h hterm hst
    rcases performTLSUpgrade_upgrades w hu with h' | h'
    · exact .inl h'
    · exact .inr ⟨hsm, _, by rw [h', show e.tick.upgrades = e.upgrades from rfl, h₀]; rfl⟩
  · exact .inl <| processLine_preserves w (P := fun x => x.upgrades = e.upgrades)
      (fun h hf => hf.upgrades.trans h) (fun h => h)
      (fun h _ hr => (handleCommand_keepsSession w _ hr).upgrades.trans h)
      (show e.tick.readLine.2.upgrades = e.upgrades from rfl) hp

/-- From a loop top, the rest of the session calls `Conn.UpgradeTLS` at most once in all. -/
theorem Reachable.upgrades_le_one {e : Engine} (hr : Reachable w e) (fuel : Nat) :
    (e.loop w fuel).1.upgrades.length ≤ 1 := by
  have htop : ∀ {e}, Reachable w e → e.upgrades.length ≤ 1 := fun hr => by
    rw [(hr.upgradeInv w).2.upgrades]; split <;> simp
  have hlast : ∀ {e e' st}, Reachable w e → e.loopStep w = (e', st) → e'.upgrades.length ≤ 1 :=
    fun hr hs => by
      rcases loopStep_upgrades w (hr.upgradeInv w) hs with h | ⟨-, _, h⟩ <;> rw [h]
      exacts [htop hr, le_refl 1]
  induction fuel generalizing e with
  | zero => exact htop hr
  | succ fuel ih =>
    unfold Engine.loop
    rcases hl : e.loopStep w with ⟨e', _ | ⟨reason, err⟩ | _⟩ <;> dsimp only
    · exact ih (hr.step hl)
    · rw [handleDisconnect_upgrades]; exact hlast hr hl
    · exact hlast hr hl

/-- `startTLS` is entered only by an iteration that reads a STARTTLS in `identified`
    without TLS and answers it `220`. -/
theorem loopStep_enters_startTLS (h : e.ShapeInv) (hne : e.sm ≠ .startTLS) {e' : Engine}
    {st : Step} (hs : e.loopStep w = (e', st)) (h' : e'.sm = .startTLS) :
    e.sm = .identified ∧ e.state.tlsActive = false ∧ ∃ line cmd err,
      e.tick.readLine.1 = .ok line ∧ e.parser.parseCommand line = .ok cmd ∧
      cmd.verb = .starttls ∧ e.tick.readLine.2.processLine w line = some (e', err) ∧
      e'.log.getLast? = some (.reply (newResponse reply220ServiceReady
        (ascii "Ready to start TLS"))) := by
  rcases loopStep_cases w hs with ⟨hf, -, -⟩ | ⟨hterm, hst, -⟩ | ⟨hterm, -, line, err, hl, hp⟩
  · exact absurd (hf.sm.symm.trans h') hne
  · cases h.resolve_left (by simp [hterm]) <;> simp_all
  have hf₀ : Frame e e.tick.readLine.2 := (frame_tick e).trans (frame_readLine _)
  have hs₀ : e.tick.readLine.2.Shape := (h.frame hf₀).resolve_left (by simp [hf₀.sm, hterm])
  cases budgetStep_of_processLine w hs₀ hp with
  | exhausted _ _ _ _ habort => rw [habort] at h'; cases h'
  | unparsable _ _ _ hsm => exact absurd (hf₀.sm.symm.trans (hsm.symm.trans h')) hne
  | vetoed _ _ _ hsm => exact absurd (hf₀.sm.symm.trans (hsm.symm.trans h')) hne
  | outOfSequence _ _ _ hsm => exact absurd (hf₀.sm.symm.trans (hsm.symm.trans h')) hne
  | @handled cmd e₁ e₂ _ _ _ hpc ha hf hc hw hlast =>
    have hf₁ := hf₀.trans hf
    rw [(writeReply_budget w hw).2.1] at h'
    obtain ⟨hv, hsm, ht, -, rfl⟩ :=
      handleCommand_enters_startTLS w (hs₀.frame hf) (by rwa [hf.sm]) hc h'
    exact ⟨hf₁.sm ▸ hsm, hf₁.tlsActive ▸ ht, line, cmd, err, hl, hpc, hv, hp, hlast⟩

/-- An iteration from `startTLS` that goes on has upgraded, and starts the session over. -/
theorem loopStep_from_startTLS (h : e.ShapeInv) (hsm : e.sm = .startTLS) {e' : Engine}
    (hs : e.loopStep w = (e', .next)) :
    e'.sm = .greeted ∧ e'.state.state = .greeted ∧ e'.state.clientHostname = [] ∧
      e'.envelope = none ∧ e'.state.tlsActive = true := by
  have hst : e.state.state = .startTLS := by
    cases h.resolve_left (by simp [hsm, State.isTerminal]) <;> simp_all
  rcases loopStep_cases w hs with ⟨-, -, hnot⟩ | ⟨-, -, err, hu, hok⟩ | ⟨-, hnot, -⟩
  · exact absurd hst (hnot rfl)
  · obtain rfl := hok rfl
    obtain ⟨h₁, h₂, h₃, h₄, h₅, -⟩ := performTLSUpgrade_ok w (by simpa using hsm) hu
    exact ⟨h₁, h₂, h₃, h₄, h₅⟩
  · exact absurd hst hnot

end

/-! ## Commands refused in sequence -/

/-- `e'` answered the line it read with `503`, or, when hooks are configured, with the
    `554` of an `OnCommand` veto. -/
def Refused (hooks : Bool) (e' : Engine) : Prop :=
  ∃ r, e'.log.getLast? = some (.reply r) ∧
    (r.code = reply503BadSequence ∨ hooks = true ∧ r = responseTransactionFailed)

section
variable (w : World) {e : Engine}

/-- A command that is not allowed in the current state is refused and leaves the machine
    alone. -/
theorem processLine_not_allowed (hs : e.Shape) {line : Bytes} {cmd : Command}
    (hp : e.parser.parseCommand line = .ok cmd) (ha : isCommandAllowed e.sm cmd.verb = false)
    {e' : Engine} {err : Option Error} (h : e.processLine w line = some (e', err)) :
    e'.sm = e.sm ∧ Refused e.config.hooks e' := by
  cases budgetStep_of_processLine w hs h with
  | exhausted hp' => rw [hp] at hp'; cases hp'
  | unparsable hp' => rw [hp] at hp'; cases hp'
  | vetoed _ hh _ hsm hl => exact ⟨hsm, _, hl, .inr ⟨hh, rfl⟩⟩
  | outOfSequence _ _ _ hsm hl => exact ⟨hsm, _, hl, .inl rfl⟩
  | handled hp' ha' =>
    rw [hp] at hp'; cases hp'
    rw [ha] at ha'; cases ha'

/-- With TLS active, STARTTLS is refused. -/
theorem processLine_starttls_refused (hs : e.Shape) (ht : e.state.tlsActive = true)
    (hpol : e.config.tlsPolicy ≠ .disabled) {line : Bytes} {cmd : Command}
    (hp : e.parser.parseCommand line = .ok cmd) (hv : cmd.verb = .starttls) {e' : Engine}
    {err : Option Error} (h : e.processLine w line = some (e', err)) : Refused e.config.hooks e' := by
  cases ha : isCommandAllowed e.sm cmd.verb
  · exact (processLine_not_allowed w hs hp ha h).2
  cases budgetStep_of_processLine w hs h with
  | exhausted hp' => rw [hp] at hp'; cases hp'
  | unparsable hp' => rw [hp] at hp'; cases hp'
  | vetoed _ hh _ _ hl => exact ⟨_, hl, .inr ⟨hh, rfl⟩⟩
  | outOfSequence _ _ _ _ hl => exact ⟨_, hl, .inl rfl⟩
  | handled hp' _ hf hc _ hl =>
    rw [hp] at hp'; cases hp'
    rw [handleCommand, hv, handleSTARTTLS_active (by rwa [hf.config]) (by rwa [hf.tlsActive])] at hc
    cases hc
    exact ⟨_, hl, .inl rfl⟩

/-- From `greeted`, a handler keeps `greeted`, ends the session, or is a HELO or EHLO that
    moves the machine to `identified`. -/
theorem handleCommand_from_greeted (hsm : e.sm = .greeted) {cmd : Command}
    (ha : isCommandAllowed e.sm cmd.verb = true) {e' : Engine} {r : Response}
    (hc : e.handleCommand w cmd = some (e', r)) :
    e'.sm = .greeted ∨ e'.sm.isTerminal = true ∨
      (e'.sm = .identified ∧ (cmd.verb = .helo ∨ cmd.verb = .ehlo)) := by
  by_cases hq : cmd.verb = .quit
  · rw [handleCommand, hq] at hc
    obtain rfl := fst_of_some hc
    exact .inr (.inl (handleQUIT_terminal (.inl hsm)))
  have hvd : cmd.verb ≠ .data := by intro hv; rw [hv, hsm] at ha; cases ha
  have key := StateMachine.transitionForCommand_greeted cmd.verb true
  rcases handleCommand_sm w cmd hvd hc with h' | h' | h' | h' <;> rw [h', hsm]
  · exact .inl rfl
  · rcases key with ht | ⟨ht, hv⟩ | ⟨-, hv⟩
    exacts [.inl ht, .inr (.inr ⟨ht, hv⟩), absurd hv hq]
  · exact .inl rfl
  · rcases key with ht | ⟨ht, hv⟩ | ⟨-, hv⟩
    exacts [.inl (by rw [ht]; decide), .inr (.inr ⟨by rw [ht]; decide, hv⟩), absurd hv hq]

/-- In `greeted`, a line leaves the machine in `greeted`, ends the session, or is a HELO
    or EHLO that moves it to `identified`. -/
theorem processLine_from_greeted (hs : e.Shape) (hsm : e.sm = .greeted) {line : Bytes}
    {e' : Engine} {err : Option Error} (h : e.processLine w line = some (e', err)) :
    e'.sm = .greeted ∨ e'.sm.isTerminal = true ∨
      (e'.sm = .identified ∧ ∃ cmd, e.parser.parseCommand line = .ok cmd ∧
        (cmd.verb = .helo ∨ cmd.verb = .ehlo)) := by
  cases budgetStep_of_processLine w hs h with
  | exhausted _ _ _ _ habort => exact .inr (.inl (by rw [habort]; rfl))
  | unparsable _ _ _ hsm' => exact .inl (hsm'.trans hsm)
  | vetoed _ _ _ hsm' => exact .inl (hsm'.trans hsm)
  | outOfSequence _ _ _ hsm' => exact .inl (hsm'.trans hsm)
  | @handled cmd e₁ e₂ _ _ _ hp ha hf hc hw =>
    rw [(writeReply_budget w hw).2.1]
    rcases handleCommand_from_greeted w (hf.sm.trans hsm) (by rwa [hf.sm]) hc with h' | h' | ⟨h', hv⟩
    exacts [.inl h', .inr (.inl h'), .inr (.inr ⟨h', cmd, hp, hv⟩)]

end

/-! ## STARTTLS over whole runs -/

/-- The sequencing of STARTTLS at a loop top `e` of a run in the world `w`. -/
structure StartTlsSequencing (w : World) (e : Engine) : Prop where
  /-- `Conn.UpgradeTLS` was called once, and succeeded, exactly when TLS is active -/
  upgrades : e.upgrades = if e.state.tlsActive then [true] else []
  /-- however the session goes on, `Conn.UpgradeTLS` is called at most once in all -/
  upgrades_le_one : ∀ fuel, (e.loop w fuel).1.upgrades.length ≤ 1
  /-- an iteration calls it only from `startTLS` -/
  upgrade_from_startTLS : ∀ e' st, e.loopStep w = (e', st) → e'.upgrades ≠ e.upgrades →
    e.sm = .startTLS
  /-- `startTLS` is entered only by an iteration that reads a STARTTLS in `identified`
      without TLS and answers it `220` -/
  enters_startTLS : ∀ e' st, e.loopStep w = (e', st) → e.sm ≠ .startTLS → e'.sm = .startTLS →
    e.sm = .identified ∧ e.state.tlsActive = false ∧ ∃ line cmd err,
      e.tick.readLine.1 = .ok line ∧ e.parser.parseCommand line = .ok cmd ∧
      cmd.verb = .starttls ∧ e.tick.readLine.2.processLine w line = some (e', err) ∧
      e'.log.getLast? = some (.reply (newResponse reply220ServiceReady
        (ascii "Ready to start TLS")))
  /-- the iteration from `startTLS` goes on only after a successful upgrade, which starts
      the session over in `greeted`, with no client name, no envelope and TLS active -/
  upgraded : ∀ e', e.loopStep w = (e', .next) → e.sm = .startTLS →
    e'.sm = .greeted ∧ e'.state.state = .greeted ∧ e'.state.clientHostname = [] ∧
      e'.envelope = none ∧ e'.state.tlsActive = true
  /-- TLS stays active -/
  tlsActive : ∀ e' st, e.loopStep w = (e', st) → e.state.tlsActive = true →
    e'.state.tlsActive = true
  /-- in `greeted`, a line keeps `greeted`, ends the session, or is a HELO or EHLO that
      moves the machine to `identified` -/
  greeted : e.sm = .greeted → ∀ e₁ line e' err, Frame e e₁ →
    e₁.processLine w line = some (e', err) →
    e'.sm = .greeted ∨ e'.sm.isTerminal = true ∨
      (e'.sm = .identified ∧ ∃ cmd, e₁.parser.parseCommand line = .ok cmd ∧
        (cmd.verb = .helo ∨ cmd.verb = .ehlo))
  /-- in `greeted`, MAIL, RCPT and DATA are refused -/
  greeted_refuses : e.sm = .greeted → ∀ e₁ line cmd e' err, Frame e e₁ →
    e₁.parser.parseCommand line = .ok cmd →
    (cmd.verb = .mail ∨ cmd.verb = .rcpt ∨ cmd.verb = .data) →
    e₁.processLine w line = some (e', err) → e'.sm = .greeted ∧ Refused e.config.hooks e'
  /-- with TLS active, STARTTLS is refused -/
  starttls_refused : e.sm.isTerminal = false → e.state.tlsActive = true →
    ∀ e₁ line cmd e' err, Frame e e₁ → e₁.parser.parseCommand line = .ok cmd →
    cmd.verb = .starttls → e₁.processLine w line = some (e', err) → Refused e.config.hooks e'

/-- STARTTLS is sequenced at every loop top of every run. -/
theorem starttls_sequencing {w : World} {e : Engine} (hr : Reachable w e) :
    StartTlsSequencing w e := by
  obtain ⟨hs, hu⟩ := hr.upgradeInv w
  have hshape : ∀ {e₁}, Frame e e₁ → e.sm.isTerminal = false → e₁.Shape := fun hf ht =>
    (hs.frame hf).resolve_left (by simp [hf.sm, ht])
  refine ⟨hu.upgrades, hr.upgrades_le_one w, fun e' st hst hne => ?_,
    fun e' st hst hne h' => loopStep_enters_startTLS w hs hne hst h',
    fun e' hst hsm => loopStep_from_startTLS w hs hsm hst,
    fun e' st hst ht => loopStep_tlsActive w hst ht,
    fun hsm e₁ line e' err hf hp => ?_, fun hsm e₁ line cmd e' err hf hpc hv hp => ?_,
    fun hterm ht e₁ line cmd e' err hf hpc hv hp => ?_⟩
  · rcases loopStep_upgrades w ⟨hs, hu⟩ hst with h | ⟨hsm, -⟩
    exacts [absurd h hne, hsm]
  · exact processLine_from_greeted w (hshape hf (by simp [hsm]; rfl)) (hf.sm.trans hsm) hp
  · have ha : isCommandAllowed e₁.sm cmd.verb = false := by
      rw [hf.sm, hsm]; rcases hv with hv | hv | hv <;> rw [hv] <;> rfl
    obtain ⟨h₁, h₂⟩ := processLine_not_allowed w (hshape hf (by simp [hsm]; rfl)) hpc ha hp
    rw [hf.config] at h₂
    exact ⟨h₁.trans (hf.sm.trans hsm), h₂⟩
  · have h := processLine_starttls_refused w (hshape hf hterm) (hf.tlsActive.trans ht)
      (by rw [hf.config]; exact hu.enabled ht) hpc hv hp
    rwa [hf.config] at h

/-- A client of a session with hooks that sends STARTTLS once TLS is up. -/
def starttlsAgainSession : TLSSession where
  state := { version := 772, cipherSuite := 4865 }
  src := [.data (ascii "STARTTLS\r\n")]
  final := .eof

/-- Collaborators with a working TLS provider, whose `OnCommand` hook vetoes every command
    from the tenth call of the environment on. -/
def vetoWorld : World :=
  { quietWorld with
    upgrade := fun _ => .ok starttlsAgainSession,
    onCommand := fun n => if n < 10 then none else some (.other 0) }

/-- A session with hooks whose client sends EHLO and STARTTLS before the upgrade. -/
def vetoSession : Engine :=
  Engine.new
    { serverHostname := ascii "mx", tlsPolicy := .optional, tlsProvider := true, hooks := true }
    { buf := [], final := .eof, src := [.data (ascii "EHLO c\r\nSTARTTLS\r\n")] } [] []

theorem starttls_sequencing_after_upgrade :
    StartTlsSequencing vetoWorld (vetoSession.run vetoWorld 3).1 :=
  starttls_sequencing (reachable_of_run _ (by decide))

/-- Once TLS is up, a STARTTLS that the `OnCommand` hook vetoes is answered `554`. -/
theorem later_starttls_vetoed :
    Reachable vetoWorld (vetoSession.run vetoWorld 3).1 ∧
      (vetoSession.run vetoWorld 3).1.state.tlsActive = true ∧
      (vetoSession.run vetoWorld 4).1.log.drop 10 =
        [.command (ascii "STARTTLS\r\n")
            (.ok { verb := .starttls, raw := ascii "STARTTLS", argument := [] }),
          .onCommand { verb := .starttls, raw := ascii "STARTTLS", argument := [] },
          .reply responseTransactionFailed] :=
  ⟨reachable_of_run _ (by decide), by decide, by decide⟩

end Engine

end Icesmtp
