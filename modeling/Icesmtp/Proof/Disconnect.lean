/-
  icesmtp formalization — `Hooks.OnDisconnect` and `Engine.Close`.

  `Close` is called from outside the command loop, between two of its iterations.
  `loopWith` runs the loop of `Run` with such calls, following a schedule of actions.
  `handleDisconnect` calls `OnDisconnect` only while the closed flag is clear, and `Close`
  sets it.

  * `loopWith_steps`: without `Close`, `loopWith` is the loop of `Run`;
  * `loopStep_open`: an iteration keeps the closed flag and calls no `OnDisconnect`;
  * `disconnect_law`: from a loop top of a session past its greeting, with hooks, a run
    that returns calls `OnDisconnect` exactly once, as its last event, when `Close` was not
    called before it returned; after a `Close` it never calls it and returns nil.
-/
import Icesmtp.Proof.Handover

namespace Icesmtp

/-- What happens next to a session in its loop. -/
inductive Action where
  /-- one iteration of the command loop -/
  | step
  /-- `Engine.Close` from another goroutine; the connection's reads then fail with `err` -/
  | close (err : Error)
  deriving DecidableEq, Repr

namespace Engine

variable (w : World)

/-- The command loop of `Run`, with `Close` calls between its iterations as the schedule
    `as` says; `.running` once the schedule is used up. -/
def loopWith : List Action → Engine → Engine × Outcome
  | [], e => (e, .running)
  | .close err :: as, e => loopWith as (e.close err)
  | .step :: as, e =>
    match e.loopStep w with
    | (e, .next) => loopWith as e
    | (e, .exit reason err) => let (e, r) := e.handleDisconnect reason err; (e, .returned r)
    | (e, .panic) => (e, .panicked)

/-- Without `Close`, `loopWith` is the loop of `Run`. -/
theorem loopWith_steps (fuel : Nat) (e : Engine) :
    e.loopWith w (List.replicate fuel .step) = e.loop w fuel := by
  induction fuel generalizing e with
  | zero => rfl
  | succ fuel ih =>
    rw [List.replicate_succ, loopWith, loop]
    rcases e.loopStep w with ⟨e', _ | _ | _⟩
    · exact ih e'
    all_goals rfl

/-- A schedule whose first part leaves the loop running goes on from where it stopped. -/
theorem loopWith_append {pre : List Action} {e e₁ : Engine}
    (h : e.loopWith w pre = (e₁, .running)) (rest : List Action) :
    e.loopWith w (pre ++ rest) = e₁.loopWith w rest := by
  induction pre generalizing e with
  | nil => cases h; rfl
  | cons a pre ih =>
    cases a with
    | close err => exact ih h
    | step =>
      rw [loopWith] at h
      rw [List.cons_append, loopWith]
      rcases hs : e.loopStep w with ⟨e', _ | _ | _⟩ <;> rw [hs] at h
      · exact ih h
      all_goals cases h

/-! ## The closed flag and the `OnDisconnect` calls -/

@[simp] theorem close_closed (e : Engine) (err : Error) : (e.close err).closed = true := rfl
@[simp] theorem close_config (e : Engine) (err : Error) : (e.close err).config = e.config := rfl
@[simp] theorem close_disconnects (e : Engine) (err : Error) :
    (e.close err).disconnects = e.disconnects := rfl

theorem performTLSUpgrade_open {e e' : Engine} {err : Option Error}
    (h : e.performTLSUpgrade w = (e', err)) :
    e'.closed = e.closed ∧ e'.disconnects = e.disconnects := by
  unfold performTLSUpgrade at h
  split at h
  · cases h; exact ⟨rfl, rfl⟩
  dsimp only at h
  split at h <;> cases h <;> exact ⟨by simp, by simp [disconnects, Event.disconnect?]⟩

/-- An iteration of the loop keeps the closed flag and calls no `OnDisconnect`. -/
theorem loopStep_open {e e' : Engine} {st : Step} (hs : e.loopStep w = (e', st)) :
    e'.closed = e.closed ∧ e'.disconnects = e.disconnects :=
  loopStep_preserves w (P := fun x => x.closed = e.closed ∧ x.disconnects = e.disconnects)
    (fun h hf => ⟨hf.closed.trans h.1, hf.disconnects.trans h.2⟩) (fun h => h)
    (fun h _ hr => ⟨(handleCommand_keepsSession w _ hr).closed.trans h.1,
      (handleCommand_keepsSession w _ hr).disconnects.trans h.2⟩)
    (fun h _ _ hu => ⟨(performTLSUpgrade_open w hu).1.trans h.1,
      (performTLSUpgrade_open w hu).2.trans h.2⟩)
    ⟨rfl, rfl⟩ hs

theorem startup_open {e e' : Engine} (h : e.startup w = (e', none)) :
    e'.closed = e.closed ∧ e'.disconnects = e.disconnects := by
  unfold startup at h
  split at h
  · cases h
  dsimp only at h
  split at h
  · cases h
  rename_i hw
  obtain rfl := congrArg Prod.fst hw
  split at h <;> cases h
  exact ⟨by simp, by simp [disconnects, Event.disconnect?]⟩

/-- At a loop top the session is open and `OnDisconnect` was never called. -/
theorem Reachable.open {e : Engine} (h : Reachable w e) : e.closed = false ∧ e.disconnects = [] := by
  induction h with
  | start hs => exact startup_open w hs
  | step _ hs ih =>
    obtain ⟨h₁, h₂⟩ := loopStep_open w hs
    exact ⟨h₁.trans ih.1, h₂.trans ih.2⟩

/-! ## Runs -/

/-- A part of a run that leaves the loop running calls no `OnDisconnect`. -/
theorem loopWith_running {as : List Action} {e e' : Engine}
    (h : e.loopWith w as = (e', .running)) : e'.disconnects = e.disconnects := by
  induction as generalizing e with
  | nil => cases h; rfl
  | cons a as ih =>
    cases a with
    | close err => exact (ih h).trans (close_disconnects e err)
    | step =>
      rw [loopWith] at h
      rcases hs : e.loopStep w with ⟨e₁, _ | _ | _⟩ <;> rw [hs] at h
      · exact (ih h).trans (loopStep_open w hs).2
      all_goals cases h

/-- Once closed, a run that returns calls no `OnDisconnect` and returns nil. -/
theorem loopWith_closed {as : List Action} {e e' : Engine} {r : Option Error}
    (hc : e.closed = true) (h : e.loopWith w as = (e', .returned r)) :
    e'.disconnects = e.disconnects ∧ r = none := by
  induction as generalizing e with
  | nil => cases h
  | cons a as ih =>
    cases a with
    | close err => exact (ih rfl h).imp_left (·.trans (close_disconnects e err))
    | step =>
      rw [loopWith] at h
      rcases hs : e.loopStep w with ⟨e₁, _ | ⟨reason, err⟩ | _⟩ <;> rw [hs] at h
      · exact (ih ((loopStep_open w hs).1.trans hc) h).imp_left (·.trans (loopStep_open w hs).2)
      · have hc₁ : e₁.closed = true := (loopStep_open w hs).1.trans hc
        simp only [handleDisconnect, hc₁, if_true, Prod.mk.injEq, Outcome.returned.injEq] at h
        obtain ⟨rfl, rfl⟩ := h
        exact ⟨(loopStep_open w hs).2, rfl⟩
      · cases h

/-- `Close` is called while the loop is still running: after a part of the schedule that
    leaves it running. -/
def ClosedWhileRunning (as : List Action) (e : Engine) : Prop :=
  ∃ pre err post e₁, as = pre ++ .close err :: post ∧ e.loopWith w pre = (e₁, .running)

/-- A run of an open session with hooks that returns, with no `Close` while it ran, calls
    `OnDisconnect` once, as its last event. -/
theorem loopWith_open {as : List Action} {e e' : Engine} (has : ¬ClosedWhileRunning w as e)
    {r : Option Error} (hh : e.config.hooks = true) (ho : e.closed = false)
    (h : e.loopWith w as = (e', .returned r)) :
    ∃ reason, e'.disconnects = e.disconnects ++ [reason] ∧
      e'.log.getLast? = some (.onDisconnect reason) := by
  induction as generalizing e with
  | nil => cases h
  | cons a as ih =>
    cases a with
    | close err => exact absurd ⟨[], err, as, e, rfl, rfl⟩ has
    | step =>
      rw [loopWith] at h
      rcases hs : e.loopStep w with ⟨e₁, _ | ⟨reason, err⟩ | _⟩ <;> rw [hs] at h
      · have has' : ¬ClosedWhileRunning w as e₁ := fun ⟨pre, err, post, e₂, hp, hr⟩ =>
          has ⟨.step :: pre, err, post, e₂, by rw [hp]; rfl, by rw [loopWith, hs]; exact hr⟩
        obtain ⟨reason, h₁, h₂⟩ := ih has' (by rw [loopStep_config w hs]; exact hh)
          ((loopStep_open w hs).1.trans ho) h
        exact ⟨reason, h₁.trans (by rw [(loopStep_open w hs).2]), h₂⟩
      · have hc₁ : e₁.closed = false := (loopStep_open w hs).1.trans ho
        have hh₁ : e₁.config.hooks = true := by rw [loopStep_config w hs]; exact hh
        simp only [handleDisconnect, hc₁, Bool.false_eq_true, if_false, Prod.mk.injEq,
          Outcome.returned.injEq] at h
        obtain ⟨rfl, -⟩ := h
        refine ⟨reason, ?_, ?_⟩
        · rw [disconnects, filterMap_hook_log]
          simp only [hh₁, if_true, Event.disconnect?, Option.toList_some]
          rw [← (loopStep_open w hs).2]; rfl
        · simp [hook, hh₁]
      · cases h

/-- **`OnDisconnect`** in a run from a loop top of a session with hooks, past its greeting:
    a run that returns calls it exactly once, as its last event, unless `Close` was called
    while the loop ran; then it never calls it, and `Run` returns nil. -/
theorem disconnect_law {e : Engine} (hh : e.config.hooks = true) (he : Reachable w e)
    {as : List Action} {e' : Engine} {r : Option Error} (h : e.loopWith w as = (e', .returned r)) :
    (ClosedWhileRunning w as e → e'.disconnects = [] ∧ r = none) ∧
      (¬ClosedWhileRunning w as e →
        ∃ reason, e'.disconnects = [reason] ∧ e'.log.getLast? = some (.onDisconnect reason)) := by
  obtain ⟨ho, hd⟩ := he.open
  refine ⟨fun ⟨pre, err, post, e₁, has, hpre⟩ => ?_, fun has => ?_⟩
  · rw [has, loopWith_append w hpre, loopWith] at h
    obtain ⟨h₁, rfl⟩ := loopWith_closed w (close_closed e₁ err) h
    exact ⟨by rw [h₁, close_disconnects, loopWith_running w hpre, hd], rfl⟩
  · obtain ⟨reason, h₁, h₂⟩ := loopWith_open w has hh ho h
    exact ⟨reason, by rw [h₁, hd]; rfl, h₂⟩

/-- A session with hooks whose client sends QUIT. -/
def hookedSession : Engine :=
  Engine.new { serverHostname := ascii "mx", hooks := true }
    { buf := [], final := .eof, src := [.data (ascii "QUIT\r\n")] } [] []

/-- The first loop top of `hookedSession`, after its greeting. -/
def hookedTop : Engine := (hookedSession.run quietWorld 0).1

theorem disconnect_law_close_first :
    hookedTop.config.hooks = true ∧ Reachable quietWorld hookedTop ∧
      hookedTop.loopWith quietWorld [.close .closedPipe, .step] =
        ((hookedTop.loopWith quietWorld [.close .closedPipe, .step]).1, .returned none) ∧
      (ClosedWhileRunning quietWorld [.close .closedPipe, .step] hookedTop →
        (hookedTop.loopWith quietWorld [.close .closedPipe, .step]).1.disconnects = [] ∧
          (none : Option Error) = none) ∧
      (¬ClosedWhileRunning quietWorld [.close .closedPipe, .step] hookedTop →
        ∃ reason, (hookedTop.loopWith quietWorld [.close .closedPipe, .step]).1.disconnects =
            [reason] ∧
          (hookedTop.loopWith quietWorld [.close .closedPipe, .step]).1.log.getLast? =
            some (.onDisconnect reason)) :=
  have hr : Reachable quietWorld hookedTop := reachable_of_run _ (by decide)
  have hq : hookedTop.loopWith quietWorld [.close .closedPipe, .step] =
      ((hookedTop.loopWith quietWorld [.close .closedPipe, .step]).1, .returned none) :=
    Prod.ext rfl (by decide)
  ⟨by decide, hr, hq, disconnect_law quietWorld (by decide) hr hq⟩

/-- QUIT and then an iteration that returns: `OnDisconnect` once with the reason `normal`.
    With `Close` first, `Run` returns nil and `OnDisconnect` is never called. -/
theorem close_skips_onDisconnect :
    (hookedTop.loopWith quietWorld [.step, .step]).2 = .returned none ∧
      (hookedTop.loopWith quietWorld [.step, .step]).1.disconnects = [.normal] ∧
      (hookedTop.loopWith quietWorld [.close .closedPipe, .step]).2 = .returned none ∧
      (hookedTop.loopWith quietWorld [.close .closedPipe, .step]).1.disconnects = [] := by
  decide

end Engine

end Icesmtp
