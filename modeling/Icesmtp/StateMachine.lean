/-
  icesmtp formalization — the protocol state machine (`statemachine.go`).

  The machine is its current `State`; every operation returns the state it
  leaves and the error it returns.  An attempted transition outside
  `validTransitions` fails and leaves the state unchanged.
-/
import Icesmtp.State

namespace Icesmtp

/-- `StateTransitionError`. -/
structure StateTransitionError where
  current : State
  attempted : State
  message : Bytes := []
  deriving DecidableEq, Repr

namespace StateMachine

/-- `validTransitions`. -/
def validTransitions : State → List State
  | .disconnected => [.connected]
  | .connected => [.greeted, .terminated, .aborted]
  | .greeted => [.identified, .terminating, .aborted]
  | .identified => [.identified, .mailFrom, .startTLS, .terminating, .aborted]
  | .mailFrom => [.rcptTo, .identified, .terminating, .aborted]
  | .rcptTo => [.rcptTo, .data, .identified, .terminating, .aborted]
  | .data => [.dataDone, .aborted]
  | .dataDone => [.identified, .terminating, .aborted]
  | .startTLS => [.greeted, .aborted]
  | .terminating => [.terminated]
  | .terminated => []
  | .aborted => []

/-- `StateMachine.Transition`. -/
def transition (s new : State) : State × Option StateTransitionError :=
  if (validTransitions s).contains new then (new, none)
  else (s, some { current := s, attempted := new })

/-- `StateMachine.nextStateForCommand`: the state after a successful command. -/
def nextStateForCommand (s : State) : CommandVerb → State
  | .helo | .ehlo => .identified
  | .mail => .mailFrom
  | .rcpt => .rcptTo
  | .data => .data
  | .rset => if s.inTransaction then .identified else s
  | .quit => .terminating
  | .starttls => .startTLS
  | _ => s

/-- `StateMachine.TransitionForCommand`. -/
def transitionForCommand (s : State) (cmd : CommandVerb) (success : Bool) :
    State × Option StateTransitionError :=
  if !success then (s, none) else
  let new := nextStateForCommand s cmd
  if new = s then (s, none) else transition s new

/-- `StateMachine.Reset`: back to `identified` after RSET or DATA completion. -/
def reset (s : State) : State :=
  if s.inTransaction || s == .dataDone then (transition s .identified).1 else s

/-- `StateMachine.Connect`. -/
def connect (s : State) : State × Option StateTransitionError :=
  if s ≠ .disconnected then
    (s, some { current := s, attempted := .connected, message := ascii "already connected" })
  else transition s .connected

/-- `StateMachine.Greet`. -/
def greet (s : State) : State × Option StateTransitionError :=
  if s ≠ .connected then
    (s, some { current := s, attempted := .greeted, message := ascii "not in connected state" })
  else transition s .greeted

/-- `StateMachine.DataComplete`. -/
def dataComplete (s : State) : State × Option StateTransitionError :=
  if s ≠ .data then
    (s, some { current := s, attempted := .dataDone, message := ascii "not in data state" })
  else transition s .dataDone

/-- `StateMachine.TLSComplete`. -/
def tlsComplete (s : State) : State × Option StateTransitionError :=
  if s ≠ .startTLS then
    (s, some { current := s, attempted := .greeted, message := ascii "not in STARTTLS state" })
  else transition s .greeted

/-- `StateMachine.Terminate`. -/
def terminate (s : State) : State × Option StateTransitionError := transition s .terminated

/-- `StateMachine.Abort`. -/
def abort (s : State) : State × Option StateTransitionError := transition s .aborted

/-! ## The transitions the engine takes -/

theorem transition_of_mem {s new : State} (h : new ∈ validTransitions s) :
    transition s new = (new, none) := by
  simp [transition, h]

theorem transition_of_not_mem {s new : State} (h : new ∉ validTransitions s) :
    (transition s new).1 = s := by
  simp [transition, h]

/-- A successful transition only goes along the table. -/
theorem transition_fst_mem (s new : State) :
    (transition s new).1 = s ∨ (transition s new).1 ∈ validTransitions s := by
  unfold transition; split <;> simp_all

theorem transition_fst_eq (s new : State) :
    (transition s new).1 = s ∨ (transition s new).1 = new := by
  unfold transition; split <;> simp

/-- Only DATA enters `data`. -/
theorem transitionForCommand_ne_data {s : State} {c : CommandVerb} (hs : s ≠ .data)
    (hc : c ≠ .data) (ok : Bool) : (transitionForCommand s c ok).1 ≠ .data := by
  have hn : nextStateForCommand s c ≠ .data := by
    cases c <;> simp_all [nextStateForCommand]
    split <;> simp_all
  unfold transitionForCommand
  split
  · exact hs
  · dsimp only; split
    · exact hs
    · rcases transition_fst_eq s (nextStateForCommand s c) with h | h <;> rw [h] <;> assumption

theorem reset_ne_data {s : State} (hs : s ≠ .data) : reset s ≠ .data := by
  unfold reset; split
  · rcases transition_fst_eq s .identified with h | h <;> rw [h]; exacts [hs, by decide]
  · exact hs

theorem terminate_ne_data {s : State} (hs : s ≠ .data) : (terminate s).1 ≠ .data := by
  rcases transition_fst_eq s .terminated with h | h <;> rw [terminate, h]; exacts [hs, by decide]

/-- Only STARTTLS enters `startTLS`. -/
theorem transitionForCommand_startTLS {s : State} {c : CommandVerb} {ok : Bool}
    (h : (transitionForCommand s c ok).1 = .startTLS) : s = .startTLS ∨ c = .starttls := by
  unfold transitionForCommand at h
  split at h
  · exact .inl h
  dsimp only at h
  split at h
  · exact .inl h
  rcases transition_fst_eq s (nextStateForCommand s c) with h' | h' <;> rw [h'] at h
  · exact .inl h
  · cases c <;> simp_all [nextStateForCommand]

theorem reset_startTLS {s : State} (h : reset s = .startTLS) : s = .startTLS := by
  unfold reset at h; split at h
  · rcases transition_fst_eq s .identified with h' | h' <;> rw [h'] at h
    exacts [h, by cases h]
  · exact h

theorem terminate_startTLS {s : State} (h : (terminate s).1 = .startTLS) : s = .startTLS := by
  rcases transition_fst_eq s .terminated with h' | h' <;> rw [terminate, h'] at h
  exacts [h, by cases h]

/-- From `greeted`, a command moves the machine only to `identified` (HELO, EHLO) or to
    `terminating` (QUIT). -/
theorem transitionForCommand_greeted (c : CommandVerb) (ok : Bool) :
    (transitionForCommand .greeted c ok).1 = .greeted ∨
      ((transitionForCommand .greeted c ok).1 = .identified ∧ (c = .helo ∨ c = .ehlo)) ∨
      ((transitionForCommand .greeted c ok).1 = .terminating ∧ c = .quit) := by
  cases c <;> cases ok <;> decide

/-- `Abort` reaches `aborted` from every state that lists it. -/
@[simp] theorem abort_fst (s : State) :
    (abort s).1 = if .aborted ∈ validTransitions s then .aborted else s := by
  unfold abort transition; split <;> simp_all

/-- `Abort` ends the session from every state but `disconnected` and `terminating`. -/
theorem abort_isTerminal {s : State} (h₁ : s ≠ .disconnected) (h₂ : s ≠ .terminating) :
    (abort s).1.isTerminal = true := by
  cases s <;> first | contradiction | rfl

@[simp] theorem terminate_fst (s : State) :
    (terminate s).1 = if .terminated ∈ validTransitions s then .terminated else s := by
  unfold terminate transition; split <;> simp_all

@[simp] theorem dataComplete_data : dataComplete .data = (.dataDone, none) := rfl
@[simp] theorem tlsComplete_startTLS : tlsComplete .startTLS = (.greeted, none) := rfl

@[simp] theorem reset_greeted : reset .greeted = .greeted := rfl
@[simp] theorem reset_identified : reset .identified = .identified := rfl
@[simp] theorem reset_mailFrom : reset .mailFrom = .identified := rfl
@[simp] theorem reset_rcptTo : reset .rcptTo = .identified := rfl
/-- `Data → Identified` is not in the table: `Reset` leaves `data` as it is. -/
@[simp] theorem reset_data : reset .data = .data := rfl
@[simp] theorem reset_dataDone : reset .dataDone = .identified := rfl

end StateMachine

/-! ## The machine with its observer -/

/-- `StateTransition`; the zero `Command` is `.unknown`, the empty verb. -/
structure StateTransition where
  «from» : State
  «to» : State
  command : CommandVerb := .unknown
  success : Bool := false
  deriving DecidableEq, Repr

/-- A `StateMachine` with its `StateObserver`: the state, and the transitions
    `OnStateChange` was called with, in order.  The machine the engine makes with
    `NewStateMachine` has the `NullStateObserver`, so the engine's model keeps the state
    only. -/
structure ObservedMachine where
  state : State
  notified : List StateTransition
  deriving DecidableEq, Repr

namespace ObservedMachine

/-- `NewStateMachineWithObserver`. -/
def new : ObservedMachine := { state := .disconnected, notified := [] }

/-- `Transition`: a valid transition moves the machine and is reported to the observer. -/
def transition (m : ObservedMachine) (newState : State) :
    ObservedMachine × Option StateTransitionError :=
  if (StateMachine.validTransitions m.state).contains newState then
    ({ state := newState,
       notified := m.notified ++ [{ «from» := m.state, «to» := newState, success := true }] }, none)
  else (m, some { current := m.state, attempted := newState })

/-- `TransitionForCommand`. -/
def transitionForCommand (m : ObservedMachine) (cmd : CommandVerb) (success : Bool) :
    ObservedMachine × Option StateTransitionError :=
  if !success then (m, none) else
  let newState := StateMachine.nextStateForCommand m.state cmd
  if newState = m.state then (m, none) else m.transition newState

/-- `Reset`. -/
def reset (m : ObservedMachine) : ObservedMachine :=
  if m.state.inTransaction || m.state == .dataDone then (m.transition .identified).1 else m

/-- `Connect`, `Greet`, `DataComplete` and `TLSComplete`: from `required` only, to
    `target`, else the error `message`. -/
def guarded (m : ObservedMachine) (required target : State) (message : Bytes) :
    ObservedMachine × Option StateTransitionError :=
  if m.state ≠ required then (m, some { current := m.state, attempted := target, message })
  else m.transition target

/-- `Connect`. -/
def connect (m : ObservedMachine) : ObservedMachine × Option StateTransitionError :=
  m.guarded .disconnected .connected (ascii "already connected")

/-- `Greet`. -/
def greet (m : ObservedMachine) : ObservedMachine × Option StateTransitionError :=
  m.guarded .connected .greeted (ascii "not in connected state")

/-- `DataComplete`. -/
def dataComplete (m : ObservedMachine) : ObservedMachine × Option StateTransitionError :=
  m.guarded .data .dataDone (ascii "not in data state")

/-- `TLSComplete`. -/
def tlsComplete (m : ObservedMachine) : ObservedMachine × Option StateTransitionError :=
  m.guarded .startTLS .greeted (ascii "not in STARTTLS state")

/-- `Terminate`. -/
def terminate (m : ObservedMachine) : ObservedMachine × Option StateTransitionError :=
  m.transition .terminated

/-- `Abort`. -/
def abort (m : ObservedMachine) : ObservedMachine × Option StateTransitionError :=
  m.transition .aborted

/-- The calls that change a `StateMachine` (`SetObserver` only swaps the observer). -/
inductive Call where
  | transition (newState : State)
  | transitionForCommand (cmd : CommandVerb) (success : Bool)
  | reset | connect | greet | dataComplete | tlsComplete | terminate | abort
  deriving DecidableEq, Repr

/-- One call: the machine after it and the error it returns. -/
def call (m : ObservedMachine) : Call → ObservedMachine × Option StateTransitionError
  | .transition s => m.transition s
  | .transitionForCommand c ok => m.transitionForCommand c ok
  | .reset => (m.reset, none)
  | .connect => m.connect
  | .greet => m.greet
  | .dataComplete => m.dataComplete
  | .tlsComplete => m.tlsComplete
  | .terminate => m.terminate
  | .abort => m.abort

/-- The machine after `calls`, from `NewStateMachineWithObserver`. -/
def run (calls : List Call) : ObservedMachine := calls.foldl (fun m c => (m.call c).1) new

end ObservedMachine

/-! ## The state table of `statemachine.go` -/

/-- `CommandStateRequirements`; `none` for a verb that is not a key. -/
def commandStateRequirements : CommandVerb → Option (List State)
  | .helo | .ehlo => some [.greeted, .identified]
  | .mail => some [.identified]
  | .rcpt => some [.mailFrom, .rcptTo]
  | .data => some [.rcptTo]
  | .rset | .noop | .quit | .help => some [.greeted, .identified, .mailFrom, .rcptTo]
  | .vrfy | .expn | .starttls | .auth => some [.identified]
  | .unknown => none

/-- `IsStateValidForCommand`. -/
def isStateValidForCommand (s : State) (c : CommandVerb) : Bool :=
  match commandStateRequirements c with
  | none => false
  | some states => states.contains s

end Icesmtp
