/-
  icesmtp formalization — STARTTLS and `TLSRequired` over whole runs.

  `handleMAIL` refuses MAIL with `530` while TLS is required and not active,
  and every later step of a transaction needs the one MAIL opened.  Only
  `performTLSUpgrade` touches `TLSActive`, and it only sets it.

  * `Engine.TlsInv`: under `TLSRequired` every envelope handed over was built
    with TLS active, and `data` is only reached with TLS active;
  * `Engine.tls_required_enforced`: at every loop top of a run under
    `TLSRequired`, no transaction is open without TLS, no MAIL is answered
    `250` without TLS, and each iteration hands over only envelopes built with
    TLS active and never clears `TLSActive`.
-/
import Icesmtp.Proof.Handover

namespace Icesmtp

namespace Engine

section
variable (w : World) {e : Engine}

/-- The TLS upgrade: it fails and leaves the machine and TLS alone, or it completes the
    handshake and sets `TLSActive`. -/
theorem performTLSUpgrade_tls {e' : Engine} {err : Option Error}
    (h : e.performTLSUpgrade w = (e', err)) :
    (e'.sm = e.sm ∧ e'.state.tlsActive = e.state.tlsActive) ∨
      (e'.sm = (StateMachine.tlsComplete e.sm).1 ∧ e'.state.tlsActive = true) := by
  unfold performTLSUpgrade at h
  split at h
  · cases h; exact .inl ⟨rfl, rfl⟩
  dsimp only at h
  split at h <;> cases h
  · exact .inl ⟨rfl, rfl⟩
  · exact .inr ⟨by simp, by simp⟩

/-- `TLSActive` is never cleared. -/
theorem loopStep_tlsActive {e' : Engine} {st : Step} (hs : e.loopStep w = (e', st))
    (h : e.state.tlsActive = true) : e'.state.tlsActive = true :=
  loopStep_preserves w (P := fun x => x.state.tlsActive = true)
    (fun h hf => hf.tlsActive.trans h) (fun h => h)
    (fun h _ hr => (handleCommand_keepsSession w _ hr).tlsActive.trans h)
    (fun h _ _ hu => by rcases performTLSUpgrade_tls w hu with ⟨-, h'⟩ | ⟨-, h'⟩; exacts [h'.trans h, h'])
    h hs

end

/-! ## The TLS-required invariant -/

/-- Under `TLSRequired`, every envelope handed over was built with TLS active, and the
    machine is in `data` only with TLS active. -/
structure TlsInv (e : Engine) : Prop where
  handovers : e.config.tlsPolicy = .required → ∀ env ∈ e.handovers, env.metadata.tlsActive = true
  data : e.config.tlsPolicy = .required → e.sm = .data → e.state.tlsActive = true

theorem TlsInv.frame {e e' : Engine} (h : e.TlsInv) (hf : Frame e e') : e'.TlsInv := by
  refine ⟨?_, ?_⟩
  · rw [hf.config, hf.quiet.handovers]; exact h.handovers
  · rw [hf.config, hf.sm, hf.tlsActive]; exact h.data

theorem TlsInv.abort {e : Engine} (h : e.TlsInv) :
    TlsInv { e with sm := (StateMachine.abort e.sm).1 } := by
  refine ⟨h.handovers, fun hreq hsm => h.data hreq ?_⟩
  simp only [StateMachine.abort_fst] at hsm
  split at hsm
  · cases hsm
  · exact hsm

section
variable (w : World) {e : Engine}

/-- A handler keeps the TLS-required invariant when its command is allowed. -/
theorem handleCommand_tlsInv (hs : e.ShapeInv) (h : e.TlsInv) {cmd : Command}
    (ha : isCommandAllowed e.sm cmd.verb = true) {e' : Engine} {r : Response}
    (hc : e.handleCommand w cmd = some (e', r)) : e'.TlsInv := by
  have hk := handleCommand_keepsSession w cmd hc
  by_cases hv : cmd.verb = .data
  · have hsm := isCommandAllowed_data (hv ▸ ha)
    have hshape : e.Shape := hs.resolve_left (by simp [hsm, State.isTerminal])
    rw [handleCommand, hv] at hc
    obtain ⟨b, -, htx, -, hcf, hho, -⟩ := handleDATA_handover w hshape hsm hc
    refine ⟨fun hreq env hm => ?_, fun hreq _ => ?_⟩
    · rw [hcf] at hreq
      rcases hho env hm with hm | hm
      · exact h.handovers hreq env hm
      · obtain ⟨_, _, _, -, -, -, -, rfl⟩ := hm.body
        exact htx.tlsActive.trans (htx.tlsRequired hreq)
    · rw [hcf] at hreq
      exact hk.tlsActive.trans (htx.tlsRequired hreq)
  · have hq := handleCommand_quiet w cmd hv hc
    have hne : e.sm ≠ .data := by
      rcases isCommandAllowed_states ha with h | h | h | h <;> rw [h] <;> decide
    refine ⟨fun hreq => ?_, fun _ hsm => absurd hsm ?_⟩
    · rw [hq.handovers]; exact h.handovers (hq.config ▸ hreq)
    · rcases handleCommand_sm w cmd hv hc with h' | h' | h' | h' <;> rw [h']
      · exact hne
      · exact StateMachine.transitionForCommand_ne_data hne hv true
      · exact StateMachine.reset_ne_data hne
      · exact StateMachine.terminate_ne_data (StateMachine.transitionForCommand_ne_data hne hv true)

/-- The TLS upgrade keeps the TLS-required invariant. -/
theorem performTLSUpgrade_tlsInv (hs : e.Shape) (h : e.TlsInv) (hst : e.state.state = .startTLS)
    {e' : Engine} {err : Option Error} (hu : e.performTLSUpgrade w = (e', err)) : e'.TlsInv := by
  have hsm : e.sm = .startTLS := by cases hs <;> simp_all
  have hq := performTLSUpgrade_quiet w hu
  refine ⟨fun hreq => ?_, fun _ hd => ?_⟩
  · rw [hq.handovers]; exact h.handovers (hq.config ▸ hreq)
  · rcases performTLSUpgrade_tls w hu with ⟨h', -⟩ | ⟨h', -⟩ <;> rw [h', hsm] at hd <;> cases hd

/-- Every loop iteration keeps the shape and the TLS-required invariant. -/
theorem loopStep_tlsInv {e' : Engine} {st : Step} (h : e.ShapeInv ∧ e.TlsInv)
    (hs : e.loopStep w = (e', st)) : e'.ShapeInv ∧ e'.TlsInv :=
  loopStep_preserves w (P := fun x => x.ShapeInv ∧ x.TlsInv)
    (fun h hf => ⟨h.1.frame hf, h.2.frame hf⟩) (fun h => ⟨h.1.abort, h.2.abort⟩)
    (fun h ha hr => ⟨handleCommand_shapeInv w _ h.1 ha hr, handleCommand_tlsInv w h.1 h.2 ha hr⟩)
    (fun h hterm hst hu =>
      have hshape := h.1.resolve_left (by simp [hterm])
      ⟨.inr (performTLSUpgrade_shape w hshape hst hu), performTLSUpgrade_tlsInv w hshape h.2 hst hu⟩)
    h hs

theorem Reachable.tlsInv {e : Engine} (h : Reachable w e) : e.ShapeInv ∧ e.TlsInv := by
  induction h with
  | start h =>
    refine ⟨.inr (startup_shape w h), fun _ => ?_, fun _ hd => ?_⟩
    · rw [(startup_quiet w h).handovers]; simp [handovers, Engine.new]
    · simp [(startup_greeted w h).1] at hd
  | step _ hs ih => exact loopStep_tlsInv w ih hs

end

/-- `TLSRequired` is enforced at every loop top of every run: without TLS no transaction
    is open and RCPT and DATA are not allowed, no MAIL is answered `250`, and every
    iteration hands over only envelopes built with TLS active and never clears
    `TLSActive`. -/
theorem tls_required_enforced {w : World} {e : Engine} (hr : Reachable w e)
    (hreq : e.config.tlsPolicy = .required) :
    (e.sm.isTerminal = false → e.state.tlsActive = false →
      e.envelope = none ∧ isCommandAllowed e.sm .rcpt = false ∧
        isCommandAllowed e.sm .data = false) ∧
    (∀ e₁ cmd, Frame e e₁ → (e₁.handleMAIL w cmd).2.code = reply250OK →
      e.state.tlsActive = true) ∧
    (∀ e' st, e.loopStep w = (e', st) →
      (∀ env ∈ e'.handovers, env.metadata.tlsActive = true) ∧
        (e.state.tlsActive = true → e'.state.tlsActive = true)) := by
  obtain ⟨hs, ht⟩ := hr.tlsInv w
  refine ⟨fun hterm hoff => ?_, fun e₁ cmd hf h250 => ?_, fun e' st hst =>
    ⟨fun env hm => ?_, loopStep_tlsActive w hst⟩⟩
  · have hshape := hs.resolve_left (by simp [hterm])
    cases hshape with
    | greeted hsm _ henv => exact ⟨henv, by simp [hsm]; decide, by simp [hsm]; decide⟩
    | identified hsm _ henv => exact ⟨henv, by simp [hsm]; decide, by simp [hsm]; decide⟩
    | mailFrom b _ _ _ htx _ => simp [htx.tlsRequired hreq] at hoff
    | rcptTo b _ _ _ htx _ => simp [htx.tlsRequired hreq] at hoff
    | startTLS hsm _ henv => exact ⟨henv, by simp [hsm]; decide, by simp [hsm]; decide⟩
    | wedged hsm _ _ => simp [ht.data hreq hsm] at hoff
  · rw [← hf.tlsActive]
    unfold handleMAIL at h250
    split at h250
    · simp only [newResponse] at h250
      exact absurd h250 (by decide)
    · rename_i hno
      rw [hf.config, hreq] at hno
      simpa using hno
  · obtain ⟨_, ht'⟩ := loopStep_tlsInv w ⟨hs, ht⟩ hst
    exact ht'.handovers (by rw [loopStep_config w hst, hreq]) env hm

/-! ## The upgrade forgets the plaintext buffer -/

section
variable (w : World) {e : Engine}

/-- A successful upgrade does not read the line buffer it replaces. -/
theorem performTLSUpgrade_buf {e' : Engine} (hu : e.performTLSUpgrade w = (e', none)) (buf : Bytes) :
    { e with conn := { e.conn with buf } }.performTLSUpgrade w = (e', none) := by
  unfold performTLSUpgrade at hu ⊢
  split at hu
  · cases hu
  rename_i hcfg
  dsimp only at hu ⊢
  split at hu
  · cases hu
  rename_i sess hup
  simp only [tick_clock] at hcfg hup ⊢
  rw [hcfg]
  dsimp only
  rw [hup]
  rw [← hu]
  rfl

/-- An iteration that starts in `startTLS` and goes on is the same whatever plaintext was
    left in the line buffer. -/
theorem loopStep_buf (hst : e.state.state = .startTLS) {e' : Engine}
    (hs : e.loopStep w = (e', .next)) (buf : Bytes) :
    { e with conn := { e.conn with buf } }.loopStep w = (e', .next) := by
  have htick : ({ e with conn := { e.conn with buf } } : Engine).tick =
      { e.tick with conn := { e.tick.conn with buf } } := rfl
  unfold loopStep at hs ⊢
  rw [htick]
  split at hs
  · cases hs
  rename_i hc
  rw [show ({ e with conn := { e.conn with buf } } : Engine).clock = e.clock from rfl, hc]
  dsimp only at hs ⊢
  split at hs
  · cases hs
  rename_i hterm
  rw [if_pos (by simpa using hst)] at hs
  rw [if_neg hterm, if_pos (by simpa using hst)]
  split at hs
  · cases hs
  rename_i e₁ hu
  cases hs
  rw [performTLSUpgrade_buf w hu]

end

/-- Two runs that differ only in the plaintext left in the line buffer after STARTTLS are
    the same from a successful upgrade on: every later command and reply is read from the
    upgraded stream. -/
theorem upgrade_forgets_plaintext {w : World} {e e' : Engine} (hst : e.state.state = .startTLS)
    (hs : e.loopStep w = (e', .next)) (buf : Bytes) (fuel : Nat) :
    { e with conn := { e.conn with buf } }.loop w (fuel + 1) = e.loop w (fuel + 1) := by
  rw [loop, loop, loopStep_buf w hst hs buf, hs]

/-- A TLS session whose stream carries EHLO and QUIT. -/
def upgradedSession : TLSSession where
  state := { version := 772, cipherSuite := 4865 }
  src := [.data (ascii "EHLO c\r\nQUIT\r\n")]
  final := .eof

/-- Collaborators with a working TLS provider. -/
def upgradeWorld : World := { quietWorld with upgrade := fun _ => .ok upgradedSession }

/-- A client that sends a MAIL in the same read as its STARTTLS, stopped where the loop
    is about to upgrade: the MAIL is in the line buffer. -/
def injectedSession : Engine :=
  (Engine.new { serverHostname := ascii "mx", tlsPolicy := .optional, tlsProvider := true }
    { buf := [], final := .eof,
      src := [.data (ascii "EHLO c\r\nSTARTTLS\r\nMAIL FROM:<evil@x>\r\n")] } [] []).run
    upgradeWorld 2 |>.1

theorem upgrade_forgets_injected_mail :
    { injectedSession with conn := { injectedSession.conn with buf := [] } }.loop upgradeWorld 3 =
      injectedSession.loop upgradeWorld 3 :=
  upgrade_forgets_plaintext (by decide) (Prod.ext rfl (by decide)) [] 2

/-- A session under `TLSRequired` after EHLO, before STARTTLS. -/
def ehloWithoutTls : Engine :=
  (Engine.new { serverHostname := ascii "mx", tlsPolicy := .required }
    { buf := [], src := [.data (ascii "EHLO c\r\nMAIL FROM:<a@b>\r\n")], final := .eof } [] []).run
    quietWorld 1 |>.1

theorem tls_required_enforced_after_ehlo :
    (ehloWithoutTls.sm.isTerminal = false → ehloWithoutTls.state.tlsActive = false →
      ehloWithoutTls.envelope = none ∧ isCommandAllowed ehloWithoutTls.sm .rcpt = false ∧
        isCommandAllowed ehloWithoutTls.sm .data = false) ∧
    (∀ e₁ cmd, Frame ehloWithoutTls e₁ → (e₁.handleMAIL quietWorld cmd).2.code = reply250OK →
      ehloWithoutTls.state.tlsActive = true) ∧
    (∀ e' st, ehloWithoutTls.loopStep quietWorld = (e', st) →
      (∀ env ∈ e'.handovers, env.metadata.tlsActive = true) ∧
        (ehloWithoutTls.state.tlsActive = true → e'.state.tlsActive = true)) :=
  tls_required_enforced (reachable_of_run _ (by decide)) (by decide)

end Engine

end Icesmtp
