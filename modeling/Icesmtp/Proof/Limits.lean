/-
  icesmtp formalization — the resource limits of `SessionLimits` over whole
  runs.

  `handleRCPT` refuses a recipient once the builder holds `MaxRecipients`,
  `handleMAIL` refuses a transaction once `MaxTransactions` are committed, and
  `readData` and `handleDATA` bound the lines and the size of the body.  An
  open transaction records the first two (`Txn`), and `Handover` the last.

  * `WithinLimits`: what the limits ask of an envelope handed over;
  * `Engine.LimitsInv`: every envelope handed over is within the limits, and
    the committed transactions are at most `MaxTransactions`;
  * `Engine.run_within_limits`: `LimitsInv` holds of every run.
-/
import Icesmtp.Proof.Handover

namespace Icesmtp

/-- What `SessionLimits` asks of an envelope handed to `Store` or `OnDataEnd`: each limit
    that is set bounds the recipients, the size and every line of the data. -/
structure WithinLimits (limits : SessionLimits) (env : Envelope) : Prop where
  recipients_le : 0 < limits.maxRecipients → (env.recipientCount : Int) ≤ limits.maxRecipients
  dataSize_le : 0 < limits.maxMessageSize → (env.dataSize : Int) ≤ limits.maxMessageSize
  lines_le : 0 < limits.maxLineLength → ∃ ls : List Bytes, env.data = ls.flatten ∧
    ∀ l ∈ ls, IsLine l ∧ (l.length : Int) ≤ limits.maxLineLength

namespace Engine

/-- The limits invariant of a session. -/
structure LimitsInv (e : Engine) : Prop where
  handovers : ∀ env ∈ e.handovers, WithinLimits e.config.limits env
  transactions_le : 0 < e.config.limits.maxTransactions →
    (e.stats.transactionCount : Int) ≤ e.config.limits.maxTransactions

theorem LimitsInv.quiet {e e' : Engine} (h : e.LimitsInv) (hq : Quiet e e') : e'.LimitsInv := by
  refine ⟨?_, ?_⟩
  · rw [hq.handovers, hq.config]; exact h.handovers
  · rw [hq.stats, hq.config]; exact h.transactions_le

/-- An envelope DATA hands over from an open transaction is within the limits. -/
theorem Handover.withinLimits {e : Engine} {b : StandardEnvelopeBuilder} {env : Envelope}
    (ht : e.Txn b) (h : Handover e b env) : WithinLimits e.config.limits env := by
  obtain ⟨ls, -, -, hls, -, -, -, rfl⟩ := h.body
  refine ⟨fun hpos => ?_, h.size_le, fun hpos => ⟨ls.map unstuffLine, rfl, ?_⟩⟩
  · simpa [Envelope.recipientCount, StandardEnvelopeBuilder.sealWith,
      StandardEnvelopeBuilder.build] using
      ht.recipients_le hpos
  · simp only [List.mem_map]
    rintro _ ⟨l, hl, rfl⟩
    have := (hls l hl).length_le hpos
    have := length_unstuffLine_le l
    exact ⟨(hls l hl).isLine.unstuffLine, by omega⟩

section
variable (w : World) {e : Engine}

/-- A handler keeps the configuration and the limits invariant when its command is
    allowed. -/
theorem handleCommand_limitsInv (hs : e.ShapeInv) (h : e.LimitsInv) {cmd : Command}
    (ha : isCommandAllowed e.sm cmd.verb = true) {e' : Engine} {r : Response}
    (hc : e.handleCommand w cmd = some (e', r)) : e'.config = e.config ∧ e'.LimitsInv := by
  by_cases hv : cmd.verb = .data
  · have hsm := isCommandAllowed_data (hv ▸ ha)
    have hshape : e.Shape := hs.resolve_left (by simp [hsm, State.isTerminal])
    rw [handleCommand, hv] at hc
    obtain ⟨b, -, htx, -, hcf, hho, hst⟩ := handleDATA_handover w hshape hsm hc
    refine ⟨hcf, fun env hm => ?_, fun hpos => ?_⟩
    · rw [hcf]
      rcases hho env hm with hm | hm
      exacts [h.handovers env hm, hm.withinLimits htx]
    · rw [hcf] at hpos ⊢
      rcases hst with hst | ⟨env, -, hst⟩
      · rw [hst]; exact h.transactions_le hpos
      · have := htx.transactions_lt hpos
        rw [hst, SessionStats.commit]; push_cast; omega
  · have hq := handleCommand_quiet w cmd hv hc
    exact ⟨hq.config, h.quiet hq⟩

/-- Every loop iteration keeps the configuration, the shape and the limits invariant. -/
theorem loopStep_limitsInv {config : SessionConfig} {e' : Engine} {st : Step}
    (h : e.config = config ∧ e.ShapeInv ∧ e.LimitsInv) (hs : e.loopStep w = (e', st)) :
    e'.config = config ∧ e'.ShapeInv ∧ e'.LimitsInv := by
  refine loopStep_preserves w (P := fun x => x.config = config ∧ x.ShapeInv ∧ x.LimitsInv)
    (fun h hf => ⟨hf.config.trans h.1, h.2.1.frame hf, h.2.2.quiet hf.quiet⟩)
    (fun h => ⟨h.1, h.2.1.abort, h.2.2.quiet (quiet_with_sm _)⟩)
    (fun h ha hr => ?_) (fun h hterm hst hu => ?_) h hs
  · obtain ⟨hc, hl⟩ := handleCommand_limitsInv w h.2.1 h.2.2 ha hr
    exact ⟨hc.trans h.1, handleCommand_shapeInv w _ h.2.1 ha hr, hl⟩
  · have hq := performTLSUpgrade_quiet w hu
    exact ⟨hq.config.trans h.1,
      .inr (performTLSUpgrade_shape w (h.2.1.resolve_left (by simp [hterm])) hst hu), h.2.2.quiet hq⟩

end

/-- Every run stays within the limits of its configuration: each envelope handed to `Store`
    or `OnDataEnd` is within them, and at most `MaxTransactions` are committed. -/
theorem run_within_limits (w : World) (config : SessionConfig) (conn : Reader) (sid ip : Bytes)
    (fuel : Nat) :
    (∀ env ∈ ((Engine.new config conn sid ip).run w fuel).1.handovers,
        WithinLimits config.limits env) ∧
      (0 < config.limits.maxTransactions →
        (((Engine.new config conn sid ip).run w fuel).1.stats.transactionCount : Int) ≤
          config.limits.maxTransactions) := by
  have h₀ : (Engine.new config conn sid ip).LimitsInv := ⟨by simp [handovers, Engine.new], by
    simp [Engine.new]; omega⟩
  have hq : ∀ {e o}, (Engine.new config conn sid ip).startup w = (e, o) →
      e.config = config ∧ e.LimitsInv := fun hs =>
    ⟨(startup_quiet w hs).config, h₀.quiet (startup_quiet w hs)⟩
  have hrun := run_invariant w
    (P := fun e => e.config = config ∧ e.ShapeInv ∧ e.LimitsInv)
    (Q := fun e => e.config = config ∧ e.LimitsInv)
    (fun hs => ⟨(hq hs).1, .inr (startup_shape w hs), (hq hs).2⟩) hq
    (fun h hs => loopStep_limitsInv w h hs)
    (fun h => ⟨h.1, h.2.2⟩)
    (fun h => ⟨(handleDisconnect_quiet _ _ _).config.trans h.1,
      h.2.2.quiet (handleDisconnect_quiet _ _ _)⟩) fuel
  obtain ⟨hc, hinv⟩ := hrun
  have h₁ := hinv.handovers
  have h₂ := hinv.transactions_le
  rw [hc] at h₁ h₂
  exact ⟨h₁, h₂⟩

end Engine

end Icesmtp
