/-
  icesmtp formalization — the error budget (`SessionState.ConsecutiveErrors`,
  `Engine.checkErrorLimit`).

  `processOneCommand` counts a line that does not parse and a command that is
  not allowed in the current state, and zeroes the count when the handler's
  reply is positive and written.  Only the parse-error path checks the limit.

  * `Engine.BudgetStep`: the effect of one command line on the count and the
    reply, with `Engine.processLine_budget`: every line read at the top of the
    loop is one of its cases;
  * `Engine.bad_sequence_passes_budget`: `MaxErrors` replies `503` in a row
    leave the count at `MaxErrors` with no `421`.
-/
import Icesmtp.Proof.Shape

namespace Icesmtp

namespace Engine

/-! ## One command line -/

/-- The error-budget effect of one command line, and the reply it gets, as
    `processOneCommand` has it once the line is read; the last index is what it returns. -/
inductive BudgetStep (w : World) (e : Engine) (line : Bytes) : Engine → Option Error → Prop
  /-- an unparsable line that brings the count to `MaxErrors`: `421`, then `Abort` -/
  | exhausted {perr e'} : e.parser.parseCommand line = .error perr →
      0 < e.config.limits.maxErrors → e.config.limits.maxErrors ≤ e.state.consecutiveErrors + 1 →
      e'.state.consecutiveErrors = e.state.consecutiveErrors + 1 → e'.sm = .aborted →
      e'.log.getLast? = some (.reply (newResponse reply421ServiceNotAvailable
        (ascii "Too many errors, closing connection"))) →
      BudgetStep w e line e' (some .tooManyErrors)
  /-- an unparsable line below the limit: `500` -/
  | unparsable {perr e'} : e.parser.parseCommand line = .error perr →
      ¬(0 < e.config.limits.maxErrors ∧
        e.config.limits.maxErrors ≤ e.state.consecutiveErrors + 1) →
      e'.state.consecutiveErrors = e.state.consecutiveErrors + 1 → e'.sm = e.sm →
      e'.log.getLast? = some (.reply responseSyntaxError) →
      BudgetStep w e line e' (some (.parse perr))
  /-- a command the `OnCommand` hook vetoes: `554`, the count unchanged -/
  | vetoed {cmd e' err} : e.parser.parseCommand line = .ok cmd → e.config.hooks = true →
      e'.state.consecutiveErrors = e.state.consecutiveErrors → e'.sm = e.sm →
      e'.log.getLast? = some (.reply responseTransactionFailed) →
      BudgetStep w e line e' (some err)
  /-- a command not allowed in the current state: `503`, counted, with no limit check -/
  | outOfSequence {cmd e'} : e.parser.parseCommand line = .ok cmd →
      isCommandAllowed e.sm cmd.verb = false →
      e'.state.consecutiveErrors = e.state.consecutiveErrors + 1 → e'.sm = e.sm →
      e'.log.getLast? = some (.reply responseBadSequence) →
      BudgetStep w e line e' none
  /-- a command passed to its handler: the handler's reply resets the count when it is
      positive and written -/
  | handled {cmd e₁ e₂ e' resp err} : e.parser.parseCommand line = .ok cmd →
      isCommandAllowed e.sm cmd.verb = true → Frame e e₁ →
      e₁.handleCommand w cmd = some (e₂, resp) → e₂.writeReply w resp = (e', err) →
      e'.log.getLast? = some (.reply resp) →
      e'.state.consecutiveErrors =
        (if err = none ∧ resp.code.isPositive then 0 else e.state.consecutiveErrors) →
      BudgetStep w e line e' err

section
variable (w : World) {e : Engine}

theorem Shape.abort_fst (h : e.Shape) : (StateMachine.abort e.sm).1 = .aborted := by
  cases h <;> simp_all [StateMachine.validTransitions]

theorem getLast?_writeResponse (r : Response) :
    (e.writeResponse w r).1.log.getLast? = some (.reply r) := by
  simp

theorem writeReply_budget {resp : Response} {e' : Engine} {err : Option Error}
    (h : e.writeReply w resp = (e', err)) :
    e'.log.getLast? = some (.reply resp) ∧ e'.sm = e.sm ∧
      e'.state.consecutiveErrors =
        (if err = none ∧ resp.code.isPositive then 0 else e.state.consecutiveErrors) := by
  unfold writeReply at h
  split at h <;> rename_i e₁ hw <;> obtain rfl := congrArg Prod.fst hw
  · cases h; simp
  · obtain ⟨rfl, rfl⟩ := Prod.mk.inj h
    split <;> rename_i hpos <;> simp [hpos]

theorem onCommandHook_fst (e : Engine) (cmd : Command) :
    (e.onCommandHook w cmd).1.state = e.state ∧ (e.onCommandHook w cmd).1.sm = e.sm ∧
      (e.onCommandHook w cmd).1.config = e.config := by
  unfold onCommandHook; split <;> simp

theorem budgetStep_of_processLine {line : Bytes} (hs : e.Shape) {e' : Engine} {err : Option Error}
    (h : e.processLine w line = some (e', err)) : BudgetStep w e line e' err := by
  unfold processLine at h
  dsimp only at h
  rcases hp : e.parser.parseCommand line with perr | cmd <;> rw [hp] at h
  · simp only [Option.some.injEq, syntaxFailure] at h
    split at h
    · rename_i checkErr hc
      simp only [checkErrorLimit, checkErrorCount, bumpErrors, emit_state, emit_config] at hc
      split_ifs at hc with hlim
      cases hc
      obtain ⟨rfl, rfl⟩ := Prod.mk.inj h
      exact .exhausted hp hlim.1 hlim.2 (by simp [bumpErrors]) (by simpa using hs.abort_fst)
        (by simp)
    · rename_i hc
      simp only [checkErrorLimit, checkErrorCount, bumpErrors, emit_state, emit_config] at hc
      split_ifs at hc with hlim
      obtain ⟨rfl, rfl⟩ := Prod.mk.inj h
      exact .unparsable hp hlim (by simp [bumpErrors]) (by simp [bumpErrors]) (by simp)
  · obtain ⟨hst, hsm, -⟩ := onCommandHook_fst w (e.emit (.command line (.ok cmd))) cmd
    dsimp only at h
    rcases hk : (e.emit (.command line (.ok cmd))).onCommandHook w cmd with ⟨e₁, _ | herr⟩ <;>
      rw [hk] at h hst hsm <;> simp only [emit_state, emit_sm] at hst hsm <;> dsimp only at h
    · unfold dispatch at h
      split at h
      · rename_i ha
        obtain ⟨rfl, rfl⟩ := Prod.mk.inj (Option.some.inj h)
        exact .outOfSequence hp (by simpa [hsm] using ha) (by simp [bumpErrors, hst])
          (by simp [bumpErrors, hsm]) (by simp)
      · rename_i ha
        obtain ⟨⟨e₂, resp⟩, hc, hw⟩ := Option.map_eq_some'.1 h
        obtain ⟨hl, -, hcnt⟩ := writeReply_budget w hw
        have hf : Frame e e₁ := (frame_emit e (.command line (.ok cmd)) rfl).trans
          (by simpa [hk] using frame_onCommandHook w (e.emit (.command line (.ok cmd))) cmd)
        refine .handled hp (by simpa [hsm] using ha) hf hc hw hl ?_
        rw [hcnt, (handleCommand_keepsSession w cmd hc).consecutiveErrors, hst]
    · obtain ⟨rfl, rfl⟩ := Prod.mk.inj (Option.some.inj h)
      have hh : e.config.hooks = true := by
        by_contra hn; simp [onCommandHook, hn] at hk
      exact .vetoed hp hh (by simp [hst]) (by simp [hsm]) (by simp)

/-- Every command line read at the top of the loop is one of the cases of `BudgetStep`. -/
theorem processLine_budget {line : Bytes} (hs : e.Shape) {e' : Engine} {err : Option Error}
    (h : e.processLine w line = some (e', err)) : BudgetStep w e line e' err :=
  budgetStep_of_processLine w hs h

/-- A session in `greeted` with a budget of one error. -/
def oneErrorSession : Engine :=
  { Engine.new { serverHostname := ascii "mx", limits := { maxErrors := 1 } }
      { buf := [], src := [], final := .eof } [] [] with
    sm := .greeted, state := { state := .greeted } }

theorem processLine_budget_unknown_verb :
    ∃ e' err, oneErrorSession.processLine quietWorld (ascii "XYZZY\r\n") = some (e', err) ∧
      BudgetStep quietWorld oneErrorSession (ascii "XYZZY\r\n") e' err := by
  obtain ⟨⟨e', err⟩, h⟩ : ∃ r, oneErrorSession.processLine quietWorld (ascii "XYZZY\r\n") = some r :=
    ⟨_, rfl⟩
  exact ⟨e', err, h, processLine_budget quietWorld (.greeted rfl rfl rfl) h⟩

end

/-! ## Out-of-sequence commands are not limited -/

/-- A client that sends MAIL twice before HELO, with `MaxErrors = 2`. -/
def outOfSequenceSession : Engine :=
  Engine.new { serverHostname := ascii "mx", limits := { maxErrors := 2 } }
    { buf := [], final := .eof,
      src := [.data (ascii "MAIL FROM:<a@b>\r\nMAIL FROM:<a@b>\r\nNOOP\r\n")] }
    [] []

/-- Two `503` replies in a row: the loop reads the next line with the count at `MaxErrors`,
    and no `421` was sent. -/
theorem bad_sequence_passes_budget :
    Reachable quietWorld (outOfSequenceSession.run quietWorld 2).1 ∧
      outOfSequenceSession.config.limits.maxErrors = 2 ∧
      (outOfSequenceSession.run quietWorld 2).1.state.consecutiveErrors = 2 ∧
      (outOfSequenceSession.run quietWorld 2).1.sm = .greeted ∧
      ((outOfSequenceSession.run quietWorld 2).1.log.filter fun ev => ev matches .reply _) =
        [.reply outOfSequenceSession.buildGreeting, .reply responseBadSequence,
          .reply responseBadSequence] :=
  ⟨reachable_of_run _ (by decide), rfl, by decide, by decide, by decide⟩

end Engine

end Icesmtp
