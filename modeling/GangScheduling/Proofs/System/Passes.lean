import GangScheduling.Proofs.System.Standing

set_option autoImplicit false

namespace GangScheduling

namespace System

inductive Pass : List String → List Move → Prop
  | done : Pass [] []
  | goesOn {ids : List String} {rest : List Move} (move : Move)
      (internal : move.isInternal = true) (further : Pass ids rest) : Pass ids (move :: rest)
  | calls {ids : List String} {rest : List Move} (id : String) (further : Pass ids rest) :
      Pass (id :: ids) (.schedule (.registered id) :: rest)

def PassOver (s : System) (moves : List Move) : Prop :=
  ∃ order : List String, order.Perm s.manager.registry.ids ∧ Pass order moves

structure Steady (base : System) (submitted : List Application) (s : System) : Prop where
  working : s.Working
  unlimited : s.manager.placeholders.client.limit = none
  draws : s.manager.placeholders.draws = base.manager.placeholders.draws
  config : s.manager.config = base.manager.config
  ids : s.manager.registry.ids = base.manager.registry.ids
  scheduler : s.manager.scheduler =
    { base.manager.scheduler with
      updates := base.manager.scheduler.updates ++ submitted.map base.request }

/-- In a pass an application that was called is ahead of the others, by two places at most. -/
def InPass (low : Nat) (called : List String) (id : String) (rank : Nat) : Prop :=
  if id ∈ called then low < rank ∧ rank ≤ low + 2 else rank = low

/-- The system in the middle of a pass. All that is under way is for one of the applications. -/
structure Driven (base : System) (low : Nat) (called : List String)
    (submitted : List Application) (s : System) : Prop where
  steady : Steady base submitted s
  queued : ∀ entry ∈ s.queue, ∃ app ∈ base.manager.registry.toList,
    (entry.kind? app.id).isSome = true
  pending : ∀ job ∈ s.manager.jobs, ∃ app ∈ base.manager.registry.toList,
    job.application? = some app.id
  standing : ∀ app ∈ base.manager.registry.toList, ∃ rank,
    Standing app (base.createdFor app.id) s rank ∧ InPass low called app.id rank

variable {s later base : System} {app after : Application} {low rank : Nat} {id : String}
  {called order : List String} {submitted : List Application} {moves : List Move}

theorem Driven.next (driven : Driven base low called submitted s)
    (member : app ∈ base.manager.registry.toList) (about : About app.id s later)
    {known : List Application} {now : List String} (steady : Steady base known later)
    (same : ∀ key, key ≠ app.id → (key ∈ now ↔ key ∈ called))
    (own : ∃ rank, Standing app (base.createdFor app.id) later rank ∧ InPass low now app.id rank) :
    Driven base low now known later where
  steady := steady
  queued entry present :=
    (about.queued entry present).elim (fun own => ⟨app, member, own⟩) (driven.queued entry)
  pending job listed :=
    (about.pending job listed).elim (fun own => ⟨app, member, own⟩) (driven.pending job)
  standing other present := by
    by_cases sameId : other.id = app.id
    next =>
      cases Registry.eq_of_id_eq present member sameId
      exact own
    next =>
      obtain ⟨rank, standing, place⟩ := driven.standing other present
      refine ⟨rank, standing.of_same (about.others other.id sameId), ?_⟩
      simpa [InPass, same other.id sameId] using place

theorem InPass.next (place : InPass low called id rank) (even : low % 2 = 0) (odd : rank % 2 = 1) :
    InPass low called id (rank + 1) := by
  unfold InPass at place ⊢
  split at place
  next listed =>
    rw [if_pos listed]
    omega
  next => omega

theorem Driven.rests (driven : Driven base low called submitted s) (even : low % 2 = 0)
    (settled : s.Settled) (all : ∀ app ∈ base.manager.registry.toList, app.id ∈ called)
    (member : app ∈ base.manager.registry.toList) :
    Standing app (base.createdFor app.id) s (low + 2) := by
  obtain ⟨rank, standing, place⟩ := driven.standing app member
  rw [InPass, if_pos (all app member)] at place
  have rested := standing.even settled
  obtain rfl : rank = low + 2 := by omega
  exact standing

theorem Driven.again (driven : Driven base low called submitted s) (even : low % 2 = 0)
    (settled : s.Settled) (all : ∀ app ∈ base.manager.registry.toList, app.id ∈ called) :
    Driven base (low + 2) [] submitted s where
  steady := driven.steady
  queued := driven.queued
  pending := driven.pending
  standing app member := by
    refine ⟨low + 2, driven.rests even settled all member, ?_⟩
    simp [InPass]

theorem Pass.append (pass : Pass order moves) {more : List Move}
    (internal : ∀ move ∈ more, move.isInternal = true) : Pass order (moves ++ more) := by
  induction pass with
  | done =>
    induction more with
    | nil => exact .done
    | cons move rest ih =>
      rw [List.forall_mem_cons] at internal
      exact .goesOn move internal.1 (ih internal.2)
  | goesOn move own further ih => exact .goesOn move own ih
  | calls id further ih => exact .calls id ih

theorem Driven.completes (driven : Driven base low called submitted (s.run moves))
    (passing : s.PassOver moves) :
    ∃ more, s.PassOver (moves ++ more) ∧ (s.run (moves ++ more)).Settled := by
  obtain ⟨order, perm, pass⟩ := passing
  obtain ⟨more, completes⟩ := completes_of_working driven.steady.working
  refine ⟨more, ⟨order, perm, pass.append completes.internal⟩, ?_⟩
  rw [run_append]
  exact completes.settled

structure Ready (s : System) : Prop where
  fresh : ∀ app ∈ s.manager.registry.toList, app.state = .new
  attentive : s.manager.dispatcher.Attentive
  settled : s.Settled
  obliging : s.manager.scheduler.Obliging
  unlimited : s.manager.placeholders.client.limit = none

theorem Ready.driven (ready : s.Ready) : Driven s 0 [] [] s where
  steady := ⟨⟨ready.attentive, by simp [ready.settled.2]⟩, ready.unlimited, rfl, rfl, rfl, by simp⟩
  queued entry present := by
    rw [ready.settled.1] at present
    cases present
  pending job listed := by
    rw [ready.settled.2] at listed
    cases listed
  standing app member := by
    refine ⟨0, .fresh (ready.fresh app member) ⟨Registry.find?_of_mem member, ?_, ?_, ?_⟩, ?_⟩
    next =>
      rw [ready.settled.1]
      rfl
    next => simp [jobsFor, ready.settled.2]
    next => exact ⟨[], (List.append_nil _).symm, .nil⟩
    next => simp [InPass]

end System

end GangScheduling
