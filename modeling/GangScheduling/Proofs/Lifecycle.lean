import GangScheduling.Lifecycle
import GangScheduling.Proofs.TransitionTable

set_option autoImplicit false

namespace GangScheduling

/-- The states of an application that may have pods without having asked for their clean-up. -/
def ApplicationState.mayHoldPods : ApplicationState → Bool
  | .reserving | .running | .killing | .killed => true
  | _ => false

/-- How far along its life an application in that state is. -/
def ApplicationState.stage : ApplicationState → Nat
  | .new => 0
  | .submitted | .recovering => 1
  | .accepted | .rejected => 2
  | .reserving => 3
  | .running => 4
  | .completed | .failed | .killing => 5
  | .killed => 6

namespace Lifecycle

@[simp]
def route : ApplicationState → EventKind → Option ApplicationState
  | .new, .submit => some .submitted
  | .new, .recover => some .recovering
  | .submitted, .accept | .recovering, .accept => some .accepted
  | .accepted, .tryReserve => some .reserving
  | .reserving, .updateReservation => some .reserving
  | .accepted, .run | .reserving, .run | .running, .run => some .running
  | .running, .releaseAllocation => some .running
  | .accepted, .releaseAllocationAsk | .reserving, .releaseAllocationAsk
  | .running, .releaseAllocationAsk => some .running
  | .failed, .releaseAllocation | .failed, .releaseAllocationAsk => some .failed
  | .running, .complete => some .completed
  | .submitted, .reject => some .rejected
  | .submitted, .fail | .rejected, .fail | .accepted, .fail | .running, .fail
  | .reserving, .fail => some .failed
  | .accepted, .kill | .running, .kill | .reserving, .kill => some .killing
  | .killing, .killed => some .killed
  | _, _ => none

theorem next_eq_route (state : ApplicationState) (kind : EventKind) :
    next state kind = route state kind := by
  cases state <;> cases kind <;> decide

theorem ofRules_rules : TransitionTable.ofRules rules = .ok table := by
  have taken : (TransitionTable.ofRules rules).toOption = some table := (Option.some_get _).symm
  cases built : TransitionTable.ofRules rules with
  | error fault => simp [built, Except.toOption] at taken
  | ok found => simpa [built, Except.toOption] using taken

theorem next_iff_rule (state after : ApplicationState) (kind : EventKind) :
    next state kind = some after ↔
      ∃ rule ∈ rules, rule.event = kind ∧ state ∈ rule.sources ∧ rule.destination = after :=
  TransitionTable.destination_ofRules ofRules_rules state after kind

theorem next_stage {state after : ApplicationState} {kind : EventKind}
    (h : next state kind = some after) : after = state ∨ state.stage < after.stage := by
  rw [next_eq_route] at h
  cases state <;> cases kind <;> simp at h <;> subst h <;> simp [ApplicationState.stage]

theorem next_running {state : ApplicationState} {kind : EventKind}
    (h : next state kind = some .running) :
    state = .running ∨ kind = .run ∨
      kind = .releaseAllocationAsk ∧ (state = .accepted ∨ state = .reserving) := by
  rw [next_eq_route] at h
  cases state <;> cases kind <;> simp at h ⊢

theorem next_reserving {state : ApplicationState} {kind : EventKind}
    (h : next state kind = some .reserving) (moved : .reserving ≠ state) :
    kind = .tryReserve := by
  rw [next_eq_route] at h
  cases state <;> cases kind <;> simp at h moved ⊢

theorem state_of_updateReservation {state after : ApplicationState}
    (h : next state .updateReservation = some after) : state = .reserving := by
  rw [next_eq_route] at h
  cases state <;> simp at h ⊢

theorem state_of_tryReserve {state after : ApplicationState}
    (h : next state .tryReserve = some after) : state = .accepted := by
  rw [next_eq_route] at h
  cases state <;> simp at h ⊢

theorem next_tryReserve {state after : ApplicationState}
    (h : next state .tryReserve = some after) : after = .reserving := by
  rw [next_eq_route] at h
  cases state <;> simp at h ⊢
  exact h.symm

theorem next_of_mayHoldPods {state after : ApplicationState} {kind : EventKind}
    (h : next state kind = some after) (held : state.mayHoldPods = true)
    (given : after.mayHoldPods = false) : kind = .complete ∨ kind = .fail := by
  rw [next_eq_route] at h
  cases state <;> cases kind <;> simp at h ⊢ <;> subst h <;>
    simp [ApplicationState.mayHoldPods] at held given

theorem next_new {kind : EventKind} {after : ApplicationState} (h : next .new kind = some after) :
    kind = .submit ∧ after = .submitted ∨ kind = .recover ∧ after = .recovering := by
  rw [next_eq_route] at h
  cases kind <;> simp at h ⊢ <;> exact h.symm

theorem new_iff_of_next {state after : ApplicationState} {kind : EventKind}
    (h : next state kind = some after) : state = .new ↔ kind = .submit ∨ kind = .recover := by
  rw [next_eq_route] at h
  cases state <;> cases kind <;> simp at h ⊢

theorem ne_new_of_next {state after : ApplicationState} {kind : EventKind}
    (h : next state kind = some after) : after ≠ .new := by
  rw [next_eq_route] at h
  cases state <;> cases kind <;> simp at h <;> subst h <;> decide

theorem next_submitted {kind : EventKind} {after : ApplicationState}
    (h : next .submitted kind = some after) :
    kind = .accept ∨ kind = .reject ∧ after = .rejected ∨ kind = .fail ∧ after = .failed := by
  rw [next_eq_route] at h
  cases kind <;> simp at h ⊢ <;> exact h.symm

theorem next_rejected {kind : EventKind} {after : ApplicationState}
    (h : next .rejected kind = some after) : kind = .fail ∧ after = .failed := by
  rw [next_eq_route] at h
  cases kind <;> simp at h ⊢
  exact h.symm

theorem next_failed {kind : EventKind} {after : ApplicationState}
    (h : next .failed kind = some after) : after = .failed := by
  rw [next_eq_route] at h
  cases kind <;> simp at h ⊢ <;> exact h.symm

theorem next_ended {state after : ApplicationState} {kind : EventKind}
    (h : next state kind = some after) (ended : after = .completed ∨ after = .failed) :
    (state = .completed ∨ state = .failed) ∨ kind = .complete ∨ kind = .fail := by
  rw [next_eq_route] at h
  cases state <;> cases kind <;> simp at h ⊢ <;> subst h <;> simp at ended

theorem next_recovering {kind : EventKind} {after : ApplicationState}
    (h : next .recovering kind = some after) : kind = .accept := by
  rw [next_eq_route] at h
  cases kind <;> simp at h ⊢

end Lifecycle

end GangScheduling
