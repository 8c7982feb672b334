import GangScheduling.Proofs.ResourceManager.CarryOut
import GangScheduling.Proofs.System.Degradation

set_option autoImplicit false

namespace GangScheduling

namespace ResourceManager

inductive Runs : ResourceManager → Job → ResourceManager → Prop
  | ends {m last : ResourceManager} {job : Job} (stepped : m.stepJob job = (last, none)) :
      Runs m job last
  | goesOn {m middle last : ResourceManager} {job rest : Job}
      (stepped : m.stepJob job = (middle, some rest)) (further : Runs middle rest last) :
      Runs m job last

variable {m next last : ResourceManager} {job : Job}

theorem runs_delete (m : ResourceManager) (application : String) (pods : List Pod)
    (thenRun : Bool) :
    Runs m (.delete application pods thenRun) (m.runJob (.delete application pods thenRun)) := by
  induction pods generalizing m with
  | nil =>
    have same : m.note [] = m := by simp [note]
    refine .ends ?_
    simp only [stepJob, runJob, PlaceholderManager.deletePods, same]
  | cons pod rest ih =>
    refine .goesOn rfl ?_
    -- What the deletions have to say is written down one by one, or all in the end.
    have said (notices more : List Notice) (placeholders : PlaceholderManager) :
        { { m with placeholders := (m.placeholders.deletePod application pod).1 }.note notices with
          placeholders }.note more = { m with placeholders }.note (notices ++ more) := by
      simp [note]
    have further := ih ({ m with
      placeholders := (m.placeholders.deletePod application pod).1 }.note
        (m.placeholders.deletePod application pod).2)
    simp only [runJob, PlaceholderManager.deletePods, said] at further ⊢
    exact further

theorem runs_cleanUp (m : ResourceManager) (application : String) (thenRun : Bool) :
    Runs m (.cleanUp application thenRun) (m.finishCleanUp application thenRun) :=
  .goesOn rfl (runs_delete _ application _ thenRun)

theorem createPlan_succ (reservation : Reservation) (group : TaskGroup) (missing : Nat)
    (rest : List (TaskGroup × Nat)) (manager : PlaceholderManager) :
    PlaceholderManager.createPlan reservation ((group, missing + 1) :: rest) manager =
      match manager.createMember reservation group with
      | (next, .ok ()) =>
        PlaceholderManager.createPlan reservation ((group, missing) :: rest) next
      | (next, .error fault) => (next, .error fault) := by
  simp only [PlaceholderManager.createPlan, PlaceholderManager.createMembers]
  cases manager.createMember reservation group with
  | mk next outcome => cases outcome <;> rfl

theorem runs_reserve (m : ResourceManager) (reservation : Reservation)
    (plan : List (TaskGroup × Nat)) :
    Runs m (.reserve reservation plan) (m.runJob (.reserve reservation plan)) := by
  induction plan generalizing m with
  | nil => exact .ends rfl
  | cons entry rest ih =>
    obtain ⟨group, missing⟩ := entry
    induction missing generalizing m with
    | zero => exact .goesOn rfl (ih m)
    | succ missing more =>
      simp only [runJob, createPlan_succ]
      cases created : m.placeholders.createMember reservation group with
      | mk placeholders outcome =>
        cases outcome with
        | ok =>
          exact .goesOn (by simp only [stepJob, created]) (more { m with placeholders })
        | error fault =>
          exact .goesOn (by simp only [stepJob, created]) (runs_cleanUp _ _ true)

theorem runs_runJob (m : ResourceManager) (job : Job) : Runs m job (m.runJob job) := by
  cases job with
  | reserve reservation plan => exact runs_reserve m reservation plan
  | cleanUp application thenRun => exact runs_cleanUp m application thenRun
  | delete application pods thenRun => exact runs_delete m application pods thenRun
  | beginLoop =>
    refine .ends ?_
    simp only [runJob, stepJob]
    split <;> rfl

theorem Runs.unique (runs : Runs m job last) (others : Runs m job next) : last = next := by
  induction runs with
  | ends stepped =>
    cases others with
    | ends other => exact congrArg Prod.fst (stepped.symm.trans other)
    | goesOn other => cases stepped.symm.trans other
  | goesOn stepped further ih =>
    cases others with
    | ends other => cases stepped.symm.trans other
    | goesOn other rest =>
      cases stepped.symm.trans other
      exact ih rest

theorem stepJob_jobs (m : ResourceManager) (own : job ≠ .beginLoop) (jobs : List Job) :
    { m with jobs }.stepJob job = ({ (m.stepJob job).1 with jobs }, (m.stepJob job).2) := by
  cases job with
  | beginLoop => exact absurd rfl own
  | cleanUp application thenRun => rfl
  | reserve reservation plan =>
    match plan with
    | [] => rfl
    | (group, 0) :: rest => rfl
    | (group, missing + 1) :: rest =>
      simp only [stepJob]
      split <;> rfl
  | delete application pods thenRun =>
    cases pods with
    | nil => cases thenRun <;> rfl
    | cons pod rest => rfl

theorem ne_beginLoop_of_stepJob {rest : Job} (own : job ≠ .beginLoop)
    (stepped : m.stepJob job = (next, some rest)) : rest ≠ .beginLoop := by
  have works := works_of_stepJob m own
  rw [stepped] at works
  generalize m.milestone? job = milestone at works
  rintro rfl
  cases works

theorem Runs.with_jobs (runs : Runs m job last) (own : job ≠ .beginLoop) (jobs : List Job) :
    Runs { m with jobs } job { last with jobs } := by
  induction runs with
  | ends stepped => exact .ends (by rw [stepJob_jobs _ own, stepped])
  | goesOn stepped further ih =>
    exact .goesOn (by rw [stepJob_jobs _ own, stepped]) (ih (ne_beginLoop_of_stepJob own stepped))

theorem runJob_jobs (m : ResourceManager) (own : job ≠ .beginLoop) (jobs : List Job) :
    { m with jobs }.runJob job = { m.runJob job with jobs } :=
  (runs_runJob _ job).unique ((runs_runJob m job).with_jobs own jobs)

theorem work_first {others : List Job} (own : job ≠ .beginLoop) :
    { m with jobs := job :: others }.work 0 =
      { (m.stepJob job).1 with jobs := (m.stepJob job).2.toList ++ others } := by
  have held : { m with jobs := job :: others }.jobs[0]? = some job := rfl
  rw [work_of_held held own, stepJob_jobs m own]
  cases (m.stepJob job).2 <;> rfl

end ResourceManager

namespace System

open ResourceManager (Runs)

def Reaches (s later : System) : Prop :=
  ∃ moves, (∀ move ∈ moves, move.isInternal = true) ∧ s.run moves = later

-- No schedule loop is kept or about to begin.
structure Loopless (s : System) : Prop where
  kept : s.manager.loop = none
  own : .beginLoop ∉ s.manager.jobs

variable {s middle later : System} {m last : ResourceManager} {job : Job}

theorem Reaches.refl (s : System) : s.Reaches s :=
  ⟨[], by simp, rfl⟩

theorem Reaches.cons (move : Move) (internal : move.isInternal = true)
    (further : (s.step move).Reaches later) : s.Reaches later := by
  obtain ⟨moves, others, same⟩ := further
  exact ⟨move :: moves, List.forall_mem_cons.mpr ⟨internal, others⟩, same⟩

theorem Reaches.trans (first : s.Reaches middle) (second : middle.Reaches later) :
    s.Reaches later := by
  obtain ⟨moves, internal, rfl⟩ := first
  obtain ⟨more, others, rfl⟩ := second
  exact ⟨moves ++ more, List.forall_mem_append.mpr ⟨internal, others⟩, run_append s moves more⟩

theorem Loopless.advance (loopless : s.Loopless) : (s.step .advance).Loopless := by
  refine ⟨s.manager.advance_frame.2.trans loopless.kept, ?_⟩
  have goes := goes_of_advance s
  generalize s.observe .advance = seen at goes
  generalize s.step .advance = later at goes
  cases goes with
  | still later alike => exact alike.jobs ▸ loopless.own
  | skips entry later alike => exact alike.jobs ▸ loopless.own
  | hands event taken later before first after =>
    have own := loopless.own
    rw [← before.jobs] at own
    rw [after.jobs]
    rcases handle_cases taken (.registered event.application) event with
      ⟨same, -⟩ | ⟨app, after, effects, -, handled, same, -⟩
    next => rwa [same]
    next =>
      intro begins
      rw [same] at begins
      cases mem_jobs_apply begins with
      | inl held => exact own held
      | inr spawned => cases (Application.handle_ok handled).2.2 _ spawned

theorem Loopless.work (loopless : s.Loopless) (index : Nat) :
    (s.step (.work index)).Loopless := by
  simp only [step, onManager]
  rcases s.manager.work_cases index with ⟨same, -⟩ | ⟨job, jobs, -, own, same, -, origin⟩
  next => rwa [same]
  next =>
    rw [same]
    refine ⟨(s.manager.stepJob_frame own).2.2.trans loopless.kept, fun begins => ?_⟩
    cases origin _ begins with
    | inl held => exact loopless.own held
    | inr left =>
      exact ResourceManager.ne_beginLoop_of_stepJob own (Prod.ext rfl left) rfl

theorem Loopless.reaches (loopless : s.Loopless) (reaches : s.Reaches later) : later.Loopless := by
  obtain ⟨moves, internal, rfl⟩ := reaches
  induction moves generalizing s with
  | nil => exact loopless
  | cons move rest ih =>
    rw [List.forall_mem_cons] at internal
    refine ih ?_ internal.2
    cases move with
    | advance => exact loopless.advance
    | work index => exact loopless.work index
    | _ => cases internal.1

theorem reaches_advanceUpTo (s : System) (count : Nat) :
    s.Reaches (s.onManager (·.advanceUpTo (fun _ => false) count)) := by
  induction count generalizing s with
  | zero => exact .refl s
  | succ count ih =>
    simp only [onManager, ResourceManager.advanceUpTo]
    cases advanced : s.manager.advance fun _ => false with
    | none => exact .refl s
    | some next =>
      refine .cons .advance rfl ?_
      have stepped : s.step .advance = { s with manager := next } := by
        simp [step, onManager, advanced]
      rw [stepped]
      exact ih { s with manager := next }

theorem reaches_of_runs (runs : Runs m job last) (own : job ≠ .beginLoop) {others : List Job}
    (same : s.manager = { m with jobs := job :: others }) :
    s.Reaches { s with manager := { last with jobs := others } } := by
  induction runs generalizing s with
  | @ends m last job stepped =>
    have worked : s.step (.work 0) = { s with manager := { last with jobs := others } } := by
      rw [step, onManager, same, ResourceManager.work_first own, stepped]
      rfl
    exact .cons (.work 0) rfl (worked ▸ .refl _)
  | @goesOn m middle last job rest stepped further ih =>
    have worked : s.step (.work 0) =
        { s with manager := { middle with jobs := rest :: others } } := by
      rw [step, onManager, same, ResourceManager.work_first own, stepped]
      rfl
    refine .cons (.work 0) rfl ?_
    rw [worked]
    exact ih (ResourceManager.ne_beginLoop_of_stepJob own stepped) rfl

theorem reaches_runJobs {jobs : List Job} (own : .beginLoop ∉ jobs) (idle : m.jobs = [])
    (same : s.manager = { m with jobs }) :
    s.Reaches { s with manager := jobs.foldl ResourceManager.runJob m } := by
  induction jobs generalizing s m with
  | nil =>
    have still : s.manager = m := by rw [same, ← idle]
    rw [List.foldl_nil, ← still]
    exact .refl s
  | cons job rest ih =>
    simp only [List.mem_cons, not_or] at own
    have first := reaches_of_runs (ResourceManager.runs_runJob m job) (Ne.symm own.1) same
    refine first.trans (ih (m := m.runJob job) own.2 ?_ rfl)
    have idle : { m with jobs := [] } = m := by rw [← idle]
    have kept := ResourceManager.runJob_jobs m (Ne.symm own.1) []
    rw [idle] at kept
    exact congrArg ResourceManager.jobs kept

theorem reaches_runBackground (loopless : s.Loopless) :
    s.Reaches (s.onManager (·.runBackground)) := by
  have worked := reaches_runJobs (m := { s.manager with jobs := [] }) loopless.own rfl rfl
  have kept := (loopless.reaches worked).kept
  simp only [onManager, ResourceManager.runBackground, ResourceManager.pollLoop]
  simp only at kept
  rwa [kept]

/-- Without a schedule loop, delivering and working until nothing is left is a run of moves. -/
theorem reaches_settle (loopless : s.Loopless) (background : Bool) :
    s.Reaches (s.onManager (·.settle (fun _ => false) background)) := by
  simp only [onManager, ResourceManager.settle]
  generalize 2 * (s.manager.dispatcher.pending + s.manager.jobs.length) + 4 = rounds
  induction rounds generalizing s with
  | zero => exact .refl s
  | succ rounds ih =>
    let next := s.onManager fun m =>
      if background then (m.drain fun _ => false).runBackground else m.drain fun _ => false
    have drained := s.reaches_advanceUpTo (2 * s.manager.dispatcher.pending + 2)
    have reached : s.Reaches next := by
      cases background with
      | false => exact drained
      | true => exact drained.trans (reaches_runBackground (loopless.reaches drained))
    have unfolded : s.manager.settleUpTo (fun _ => false) background (rounds + 1) =
        if next.manager.dispatcher.isBusy then
          next.manager.settleUpTo (fun _ => false) background rounds
        else next.manager := rfl
    rw [unfolded]
    split
    next => exact reached.trans (ih (loopless.reaches reached))
    next => exact reached

end System

end GangScheduling
