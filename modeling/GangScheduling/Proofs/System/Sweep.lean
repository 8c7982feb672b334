import GangScheduling.Proofs.ResourceManager.CarryOut
import GangScheduling.Proofs.ResourceManager.Pods
import GangScheduling.Proofs.System.Quiet

set_option autoImplicit false

namespace GangScheduling

namespace System

open ResourceManager (Swept)

def podsOf (s : System) (id : String) : List Pod :=
  s.manager.placeholders.client.podsOf id

def tracked (s : System) (id : String) : List Pod :=
  s.manager.placeholders.tracked id

def Idle (id : String) (s : System) : Prop :=
  ∀ job ∈ s.manager.jobs, job.application? ≠ some id

def BeginsCleanUp (id : String) (s : System) : Move → Prop
  | .work index => ∃ thenRun, s.manager.jobs[index]? = some (.cleanUp id thenRun)
  | _ => False

instance (id : String) (s : System) (move : Move) : Decidable (BeginsCleanUp id s move) :=
  match move with
  | .work index =>
    inferInstanceAs (Decidable (∃ thenRun, s.manager.jobs[index]? = some (.cleanUp id thenRun)))
  | .create _ | .register _ | .unregister _ | .edit .. | .handle .. | .schedule _ | .dispatch _
  | .respond _ | .advance | .install | .start | .stop | .replaceScheduler _ | .replaceClient _ =>
    inferInstanceAs (Decidable False)

structure Cleared (id : String) (s : System) : Prop where
  untracked : s.tracked id = []
  deleted : ∀ pod ∈ s.podsOf id, pod ∈ s.manager.placeholders.client.deleted

variable {s : System} {id : String} {taken : List Pod} {move : Move} {job : Job}

def Move.changesPods : Move → Bool
  | .work _ | .replaceClient _ => true
  | _ => false

structure Leaves (s later : System) : Prop where
  placeholders : later.manager.placeholders = s.manager.placeholders
  jobs : ∀ job ∈ s.manager.jobs, job ∈ later.manager.jobs

theorem Leaves.refl (s : System) : Leaves s s where
  placeholders := rfl
  jobs _ held := held

theorem Leaves.tracked {later : System} (leaves : Leaves s later) :
    later.tracked id = s.tracked id := by
  rw [System.tracked, leaves.placeholders, System.tracked]

theorem Leaves.podsOf {later : System} (leaves : Leaves s later) :
    later.podsOf id = s.podsOf id := by
  rw [System.podsOf, leaves.placeholders, System.podsOf]

theorem leaves_apply (s : System) (holder : Holder) (after : Application)
    (effects : List Effect) : Leaves s (s.apply holder (after, effects)) where
  placeholders := by
    have put : (s.put holder after).manager.placeholders = s.manager.placeholders := by
      cases holder <;> rfl
    exact (ResourceManager.carriesOut_performAll _ _).placeholders.trans put
  jobs job held := by
    refine (extends_apply s holder after effects).kept_job ?_
    rw [(put_frame s holder after).2.1]
    exact held

theorem leaves_handle (s : System) (holder : Holder) (event : ApplicationEvent) :
    Leaves s (s.handle holder event) := by
  rcases handle_cases s holder event with ⟨same, -⟩ | ⟨app, after, effects, -, -, moved, -⟩
  next =>
    rw [same]
    exact .refl s
  next =>
    rw [moved]
    exact leaves_apply s holder after effects

theorem leaves_schedule (s : System) (holder : Holder) : Leaves s (s.schedule holder) := by
  rcases schedule_cases s holder with ⟨same, -⟩ | ⟨app, -, ⟨-, moved, -⟩ | ⟨-, moved, -⟩⟩
  next =>
    rw [same]
    exact .refl s
  next =>
    rw [moved]
    exact leaves_handle s holder _
  next =>
    rw [moved]
    exact leaves_apply s holder app _

theorem leaves_advance (s : System) : Leaves s (s.step .advance) where
  placeholders := s.manager.advance_frame.1
  jobs job held := by
    have way := goes_of_advance s
    generalize s.observe .advance = seen, s.step .advance = later at way ⊢
    cases way with
    | still later alike => exact alike.jobs ▸ held
    | skips entry later alike => exact alike.jobs ▸ held
    | hands event taken later before first after =>
      rw [after.jobs]
      exact (leaves_handle taken _ event).jobs job (before.jobs ▸ held)

theorem leaves_quiet (s : System) (quiet : move.isQuiet = true)
    (keeps : move.changesPods = false) : Leaves s (s.step move) where
  jobs job held := (quiet_step s move quiet).jobs ▸ held
  placeholders := by
    cases move with
    | unregister id =>
      simp only [step, unregister]
      split <;> rfl
    | edit holder edit =>
      simp only [step]
      split
      next => rfl
      next => cases holder <;> rfl
    | start =>
      obtain ⟨dispatcher, notices, started, -⟩ := s.manager.startDispatcher_frame
      simp only [step, onManager, started]
    | replaceClient client => cases keeps
    | create | register | install | stop | replaceScheduler => rfl
    | _ => cases quiet

theorem leaves_step (s : System) (keeps : move.changesPods = false) :
    Leaves s (s.step move) := by
  cases move with
  | handle holder event => exact leaves_handle s holder event
  | schedule holder => exact leaves_schedule s holder
  | dispatch event => exact ⟨rfl, fun _ held => held⟩
  | respond response =>
    have extended := ResourceManager.extends_respond s.manager response fun _ => False
    exact ⟨(s.manager.carriesOut_respond response).placeholders, fun _ held => extended.kept_job held⟩
  | advance => exact leaves_advance s
  | work index => cases keeps
  | _ => exact leaves_quiet s rfl keeps

def KeepsClient : System → List Move → Prop
  | _, [] => True
  | s, move :: rest =>
    (∀ client, move = .replaceClient client →
        ∃ limit, client = { s.manager.placeholders.client with limit }) ∧
      KeepsClient (s.step move) rest

section Sweeping

variable {moves : List Move}

theorem podsOf_of_swept {later : System} (swept : Swept id taken later.manager) :
    later.podsOf id = taken ++ later.tracked id :=
  swept.created

theorem swept_of_begins (swept : Swept id taken s.manager) (begins : BeginsCleanUp id s move) :
    Swept id (s.podsOf id) (s.step move).manager := by
  cases move with
  | work index =>
    obtain ⟨thenRun, held⟩ := begins
    exact ResourceManager.swept_work_begun swept held
  | _ => cases begins

theorem swept_of_leaves {later : System} (swept : Swept id taken s.manager)
    (leaves : Leaves s later) : Swept id taken later.manager :=
  swept.of_kept _ leaves.placeholders leaves.jobs

theorem swept_step (swept : Swept id taken s.manager)
    (client : ∀ client, move = .replaceClient client →
      ∃ limit, client = { s.manager.placeholders.client with limit })
    (further : ¬ BeginsCleanUp id s move) : Swept id taken (s.step move).manager := by
  cases move with
  | work index =>
    exact ResourceManager.swept_work swept fun thenRun held => further ⟨thenRun, held⟩
  | replaceClient client =>
    obtain ⟨limit, rfl⟩ := client _ rfl
    exact swept.of_kept limit rfl fun _ held => held
  | _ => exact swept_of_leaves swept (leaves_step s rfl)

theorem KeepsClient.of_append {before after : List Move}
    (keeps : s.KeepsClient (before ++ after)) :
    s.KeepsClient before ∧ (s.run before).KeepsClient after := by
  induction before generalizing s with
  | nil => exact ⟨trivial, keeps⟩
  | cons move rest ih =>
    obtain ⟨first, later⟩ := ih keeps.2
    exact ⟨⟨keeps.1, first⟩, later⟩

theorem swept_run (swept : Swept id taken s.manager) (keeps : s.KeepsClient moves) :
    ∃ last, taken <+: last ∧ Swept id last (s.run moves).manager ∧
      (last = taken ∨ ∃ before move after, moves = before ++ move :: after ∧
        BeginsCleanUp id (s.run before) move ∧ last = (s.run before).podsOf id) := by
  induction moves generalizing s taken with
  | nil => exact ⟨taken, List.prefix_rfl, swept, .inl rfl⟩
  | cons move rest ih =>
    by_cases begins : BeginsCleanUp id s move
    next =>
      obtain ⟨last, further, sweptLast, origin⟩ := ih (swept_of_begins swept begins) keeps.2
      refine ⟨last, ?_, sweptLast, .inr ?_⟩
      next => exact (podsOf_of_swept swept ▸ List.prefix_append taken _).trans further
      next =>
        rcases origin with rfl | ⟨before, latest, after, split, begun, same⟩
        next => exact ⟨[], move, rest, rfl, begins, rfl⟩
        next => exact ⟨move :: before, latest, after, congrArg (move :: ·) split, begun, same⟩
    next =>
      obtain ⟨last, further, sweptLast, origin⟩ := ih (swept_step swept keeps.1 begins) keeps.2
      refine ⟨last, further, sweptLast, origin.imp (fun same => same) ?_⟩
      rintro ⟨before, latest, after, split, begun, same⟩
      exact ⟨move :: before, latest, after, congrArg (move :: ·) split, begun, same⟩

structure Untouched (id : String) (s : System) : Prop where
  fresh : ∀ app ∈ s.applications, app.id = id → app.state = .new
  idle : Idle id s
  created : s.podsOf id = []
  tracked : s.tracked id = []
  -- Deletions succeed.
  faultless : s.manager.placeholders.client.deletionFault = none

theorem Untouched.swept (untouched : Untouched id s) : Swept id [] s.manager where
  created := untouched.created.trans untouched.tracked.symm
  deleted _ member := nomatch member

theorem cleared_of_untracked {later : System} (swept : Swept id taken later.manager)
    (idle : Idle id later) (untracked : later.tracked id = []) : Cleared id later where
  untracked := untracked
  deleted pod member := by
    rw [podsOf_of_swept swept, untracked, List.append_nil] at member
    refine (swept.deleted pod member).resolve_right ?_
    rintro ⟨pods, thenRun, pending, -⟩
    exact idle _ pending rfl

theorem cleared_iff_podsOf {later : System} (swept : Swept id taken later.manager)
    (idle : Idle id later) : Cleared id later ↔ later.podsOf id = taken := by
  rw [podsOf_of_swept swept, List.append_right_eq_self]
  exact ⟨fun cleared => cleared.untracked, cleared_of_untracked swept idle⟩

def UpToDate (id : String) (s : System) (moves : List Move) : Prop :=
  (s.run moves).podsOf id = [] ∨ ∃ before move after, moves = before ++ move :: after ∧
    BeginsCleanUp id (s.run before) move ∧ (s.run moves).podsOf id = (s.run before).podsOf id

theorem cleared_iff_upToDate (untouched : Untouched id s) (keeps : s.KeepsClient moves)
    (idle : Idle id (s.run moves)) : Cleared id (s.run moves) ↔ UpToDate id s moves := by
  constructor
  next =>
    obtain ⟨last, -, swept, origin⟩ := swept_run untouched.swept keeps
    intro cleared
    obtain rfl := (cleared_iff_podsOf swept idle).mp cleared
    refine origin.imp (fun none => none) ?_
    rintro ⟨before, move, after, split, begins, same⟩
    exact ⟨before, move, after, split, begins, same⟩
  next =>
    rintro (none | ⟨before, move, after, rfl, begins, same⟩)
    next =>
      obtain ⟨last, -, swept, -⟩ := swept_run untouched.swept keeps
      have created := podsOf_of_swept swept
      refine (cleared_iff_podsOf swept idle).mpr ?_
      rw [none] at created ⊢
      exact (List.append_eq_nil_iff.mp created.symm).1.symm
    next =>
      -- The clean-up takes over all pods, and nothing was created from then on.
      obtain ⟨sofar, further⟩ := keeps.of_append
      obtain ⟨earlier, -, sweptThen, -⟩ := swept_run untouched.swept sofar
      obtain ⟨last, longer, swept, -⟩ := swept_run (swept_of_begins sweptThen begins) further.2
      rw [run_append] at idle same ⊢
      have created : ((s.run before).run (move :: after)).podsOf id = last ++ _ :=
        podsOf_of_swept swept
      refine (cleared_iff_podsOf swept idle).mpr ?_
      rw [← same, created] at longer
      exact created.trans (longer.eq_of_length_le (by simp))

end Sweeping

end System

end GangScheduling
