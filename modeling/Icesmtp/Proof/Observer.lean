/-
  icesmtp formalization — what a `StateObserver` is told, over any sequence of calls of
  a `StateMachine`.

  * `ObservedMachine.call_cases`: a call leaves the machine, or takes one `Transition`;
  * `ObservedMachine.walk_run`: after any calls, the notifications are a walk of
    `validTransitions` from `Disconnected` to the current state (`Walk`), each with
    `Success` set and no `Command`: a refused transition is never reported, and an
    observer that replays the notifications knows the state.
-/
import Icesmtp.StateMachine

namespace Icesmtp

namespace ObservedMachine

/-! ## One call -/

section
variable (m : ObservedMachine)

/-- What one call can do to the machine: nothing, or one `Transition`. -/
theorem call_cases (c : Call) : (m.call c).1 = m ∨ ∃ t, (m.call c).1 = (m.transition t).1 := by
  cases c with
  | transitionForCommand cmd ok =>
    simp only [call, transitionForCommand]
    split_ifs
    exacts [.inl rfl, .inl rfl, .inr ⟨_, rfl⟩]
  | reset =>
    simp only [call, reset]
    split_ifs
    exacts [.inr ⟨_, rfl⟩, .inl rfl]
  | connect | greet | dataComplete | tlsComplete =>
    simp only [call, connect, greet, dataComplete, tlsComplete, guarded]
    split_ifs
    exacts [.inl rfl, .inr ⟨_, rfl⟩]
  | transition t | terminate | abort => exact .inr ⟨_, rfl⟩

end

/-! ## The notifications -/

/-- `ts` is a walk of `validTransitions` from `s` to `u`, every step reported with
    `Success` set and no command. -/
inductive Walk (s : State) : List StateTransition → State → Prop
  | nil : Walk s [] s
  | snoc {ts : List StateTransition} {u v : State} : Walk s ts u →
      v ∈ StateMachine.validTransitions u →
      Walk s (ts ++ [{ «from» := u, «to» := v, success := true }]) v

theorem Walk.transition {s : State} {m : ObservedMachine} (h : Walk s m.notified m.state)
    (t : State) : Walk s (m.transition t).1.notified (m.transition t).1.state := by
  unfold ObservedMachine.transition
  split
  · exact h.snoc (List.elem_iff.1 ‹_›)
  · exact h

theorem Walk.call {s : State} {m : ObservedMachine} (h : Walk s m.notified m.state) (c : Call) :
    Walk s (m.call c).1.notified (m.call c).1.state := by
  rcases call_cases m c with hc | ⟨t, hc⟩ <;> rw [hc]
  exacts [h, h.transition t]

/-- After any calls from `NewStateMachineWithObserver`, the observer has been told a walk of
    `validTransitions` from `Disconnected` to the current state, one notification per
    transition taken, each with `Success` set and no `Command`. -/
theorem walk_run (calls : List Call) : Walk .disconnected (run calls).notified (run calls).state := by
  suffices ∀ m : ObservedMachine, Walk .disconnected m.notified m.state →
      Walk .disconnected (calls.foldl (fun m c => (m.call c).1) m).notified
        (calls.foldl (fun m c => (m.call c).1) m).state from this new .nil
  induction calls with
  | nil => exact fun _ h => h
  | cons c calls ih => exact fun m h => ih _ (h.call c)

end ObservedMachine

end Icesmtp
