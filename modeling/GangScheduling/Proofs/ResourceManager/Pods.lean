import GangScheduling.Proofs.Placeholder
import GangScheduling.Proofs.ResourceManager.Step

set_option autoImplicit false

namespace GangScheduling

def Job.application? : Job → Option String
  | .reserve reservation _ => some reservation.application
  | .cleanUp application _ | .delete application _ _ => some application
  | .beginLoop => none

def Job.Creates (application : String) : Job → Prop
  | .reserve reservation _ => reservation.application = application
  | _ => False

instance (application : String) (job : Job) : Decidable (job.Creates application) :=
  match job with
  | .reserve reservation _ => inferInstanceAs (Decidable (reservation.application = application))
  | .cleanUp .. | .delete .. | .beginLoop => inferInstanceAs (Decidable False)

namespace ResourceManager

variable {m next : ResourceManager}

theorem Extends.kept_job {raised : Event → Prop} {spawned : Job → Prop}
    (extended : Extends raised spawned m next) {job : Job} (held : job ∈ m.jobs) :
    job ∈ next.jobs := by
  obtain ⟨added, same, -⟩ := extended.jobs
  rw [same]
  exact List.mem_append_left _ held

theorem mem_jobs_performAll (m : ResourceManager) {effects : List Effect} {job : Job}
    (member : .spawn job ∈ effects) : job ∈ (m.performAll effects).jobs := by
  obtain ⟨before, after, rfl⟩ := List.append_of_mem member
  simp only [performAll, List.foldl_append, List.foldl_cons]
  exact (extends_performAll _ after).kept_job (List.mem_append_right _ List.mem_cons_self)

theorem work_keeps {index : Nat} {job : Job} (held : m.jobs[index]? = some job)
    (own : job ≠ .beginLoop) :
    ∃ jobs, m.work index = { (m.stepJob job).1 with jobs } ∧
      (∀ rest, (m.stepJob job).2 = some rest → rest ∈ jobs) ∧
      ∀ other ∈ m.jobs, other ∈ jobs ∨ other = job := by
  have apart (other : Job) (member : other ∈ m.jobs) (different : other ≠ job) :
      ∃ place, place ≠ index ∧ m.jobs[place]? = some other := by
    obtain ⟨place, found⟩ := List.mem_iff_getElem?.mp member
    refine ⟨place, ?_, found⟩
    rintro rfl
    exact different (Option.some.inj (found.symm.trans held))
  rw [work_of_held held own]
  cases stepped : m.stepJob job with
  | mk next left =>
    cases left with
    | none =>
      refine ⟨_, rfl, by simp, fun other member => ?_⟩
      by_cases same : other = job
      next => exact .inr same
      next =>
        obtain ⟨place, elsewhere, found⟩ := apart other member same
        exact .inl (List.mem_eraseIdx_iff_getElem?.mpr ⟨place, elsewhere, found⟩)
    | some rest =>
      refine ⟨_, rfl, ?_, fun other member => ?_⟩
      next =>
        rintro _ ⟨⟩
        exact List.mem_set (List.getElem?_eq_some_iff.mp held).1 rest
      next =>
        by_cases same : other = job
        next => exact .inr same
        next =>
          obtain ⟨place, elsewhere, found⟩ := apart other member same
          refine .inl (List.mem_of_getElem? (i := place) ?_)
          rw [List.getElem?_set_ne (Ne.symm elsewhere)]
          exact found

theorem mem_jobs_work {job : Job} (held : job ∈ m.jobs) (index : Nat) :
    job ∈ (m.work index).jobs ∨ m.jobs[index]? = some job := by
  cases here : m.jobs[index]? with
  | none =>
    rw [(work_idle (.inl here)).1]
    exact .inl held
  | some other =>
    by_cases own : other = .beginLoop
    next =>
      rw [(work_idle (.inr (own ▸ here))).1]
      exact .inl held
    next =>
      obtain ⟨jobs, same, -, kept⟩ := work_keeps here own
      rw [same]
      exact (kept job held).imp (fun still => still) fun now => congrArg some now.symm

/-- Of the pods that were created for the application the first ones are deleted, or a clean-up has
taken them over, and the others are tracked. -/
structure Swept (id : String) (taken : List Pod) (m : ResourceManager) : Prop where
  created : m.placeholders.client.podsOf id = taken ++ m.placeholders.tracked id
  deleted : ∀ pod ∈ taken, pod ∈ m.placeholders.client.deleted ∨
    ∃ pods thenRun, .delete id pods thenRun ∈ m.jobs ∧ pod ∈ pods

structure PodsAfter (id : String) (m : ResourceManager) (job : Job) (next : ResourceManager)
    (left : Option Job) : Prop where
  created : ∃ added,
    next.placeholders.client.podsOf id = m.placeholders.client.podsOf id ++ added ∧
      next.placeholders.tracked id = m.placeholders.tracked id ++ added ∧
      (added = [] ∨ job.Creates id)
  kept : ∀ pod ∈ m.placeholders.client.deleted, pod ∈ next.placeholders.client.deleted
  deleted : ∀ pods thenRun, job = .delete id pods thenRun → ∀ pod ∈ pods,
    pod ∈ next.placeholders.client.deleted ∨ ∃ rest, left = some (.delete id rest thenRun) ∧ pod ∈ rest

variable {id : String} {taken : List Pod} {job : Job}

theorem podsAfter_of_same {left : Option Job} (client : next.placeholders.client = m.placeholders.client)
    (tracked : next.placeholders.tracked id = m.placeholders.tracked id)
    (idle : ∀ pods thenRun, job = .delete id pods thenRun → pods = []) :
    PodsAfter id m job next left where
  created := ⟨[], by rw [client, List.append_nil], by rw [tracked, List.append_nil], .inl rfl⟩
  kept pod gone := client ▸ gone
  deleted pods thenRun same pod member := by
    rw [idle pods thenRun same] at member
    cases member

theorem podsAfter_stepJob (m : ResourceManager) (id : String) (own : job ≠ .beginLoop)
    (further : ∀ thenRun, job ≠ .cleanUp id thenRun) :
    PodsAfter id m job (m.stepJob job).1 (m.stepJob job).2 := by
  cases job with
  | beginLoop => exact absurd rfl own
  | reserve reservation plan =>
    match plan with
    | [] => exact podsAfter_of_same rfl rfl (by simp)
    | (group, 0) :: rest => exact podsAfter_of_same rfl rfl (by simp)
    | (group, missing + 1) :: rest =>
      simp only [stepJob]
      rcases m.placeholders.createMember_cases reservation group with
        ⟨later, member, placed⟩ | ⟨fault, refused⟩
      next =>
        rw [member]
        exact
          { created := placed.podsOf id
            kept := by
              intro pod gone
              simp only [placed.client]
              exact gone
            deleted := by simp }
      next =>
        rw [refused]
        exact podsAfter_of_same rfl rfl (by simp)
  | cleanUp application thenRun =>
    refine podsAfter_of_same rfl ?_ (by simp)
    simp only [stepJob, PlaceholderManager.tracked_forget]
    rw [if_neg]
    rintro rfl
    exact further thenRun rfl
  | delete application pods thenRun =>
    cases pods with
    | nil =>
      cases thenRun with
      | true => exact podsAfter_of_same rfl rfl (by simp)
      | false => exact podsAfter_of_same rfl rfl (by simp)
    | cons pod rest =>
      simp only [stepJob, note, PlaceholderManager.deletePod_eq]
      refine ⟨⟨[], ?_, ?_, .inl rfl⟩, ?_, ?_⟩
      next => simp [PodClient.podsOf]
      next => simp [PlaceholderManager.tracked]
      next => exact fun other gone => List.mem_append_left _ gone
      next =>
        rintro _ _ ⟨⟩ other member
        cases List.mem_cons.mp member with
        | inl same => exact .inl (List.mem_append_right _ (List.mem_singleton.mpr same))
        | inr later => exact .inr ⟨rest, rfl, later⟩

theorem podsOf_stepJob (m : ResourceManager) (own : job ≠ .beginLoop) (idle : ¬ job.Creates id) :
    (m.stepJob job).1.placeholders.client.podsOf id = m.placeholders.client.podsOf id := by
  by_cases cleanUp : ∃ thenRun, job = .cleanUp id thenRun
  next =>
    obtain ⟨thenRun, rfl⟩ := cleanUp
    rfl
  next =>
    obtain ⟨added, created, -, origin⟩ :=
      (podsAfter_stepJob m id own fun thenRun begun => cleanUp ⟨thenRun, begun⟩).created
    rw [created, origin.resolve_right idle, List.append_nil]

theorem tracked_stepJob (m : ResourceManager) (own : job ≠ .beginLoop)
    (tracked : (m.stepJob job).1.placeholders.tracked id ≠ []) :
    m.placeholders.tracked id ≠ [] ∨ job.Creates id := by
  by_cases cleanUp : ∃ thenRun, job = .cleanUp id thenRun
  next =>
    obtain ⟨thenRun, rfl⟩ := cleanUp
    exact absurd (by simp [stepJob, PlaceholderManager.tracked_forget]) tracked
  next =>
    obtain ⟨added, -, same, origin⟩ :=
      (podsAfter_stepJob m id own fun thenRun begun => cleanUp ⟨thenRun, begun⟩).created
    refine origin.imp ?_ fun creates => creates
    rintro rfl
    rwa [same, List.append_nil] at tracked

theorem swept_work_begun {index : Nat} {thenRun : Bool} (swept : Swept id taken m)
    (held : m.jobs[index]? = some (.cleanUp id thenRun)) :
    Swept id (m.placeholders.client.podsOf id) (m.work index) := by
  obtain ⟨jobs, same, left, kept⟩ := work_keeps held (by simp)
  rw [same]
  constructor
  next =>
    have none : (m.placeholders.forget id).1.tracked id = [] := by
      rw [PlaceholderManager.tracked_forget, if_pos rfl]
    simp only [stepJob, none, List.append_nil]
    rfl
  next =>
    intro pod member
    rw [swept.created, List.mem_append] at member
    cases member with
    | inl before =>
      refine (swept.deleted pod before).imp (fun gone => gone) ?_
      rintro ⟨pods, resumes, pending, listed⟩
      refine ⟨pods, resumes, ?_, listed⟩
      exact (kept _ pending).resolve_right (by simp)
    | inr tracked => exact .inr ⟨_, thenRun, left _ rfl, tracked⟩

theorem swept_work {index : Nat} (swept : Swept id taken m)
    (further : ∀ thenRun, m.jobs[index]? ≠ some (.cleanUp id thenRun)) :
    Swept id taken (m.work index) := by
  cases held : m.jobs[index]? with
  | none =>
    rw [(work_idle (.inl held)).1]
    exact swept
  | some job =>
    by_cases own : job = .beginLoop
    next =>
      rw [(work_idle (.inr (own ▸ held))).1]
      exact swept
    next =>
      obtain ⟨jobs, same, left, kept⟩ := work_keeps held own
      have after := podsAfter_stepJob m id own (by
        rintro thenRun rfl
        exact further thenRun held)
      rw [same]
      constructor
      next =>
        obtain ⟨added, created, tracked, -⟩ := after.created
        change (m.stepJob job).1.placeholders.client.podsOf id =
          taken ++ (m.stepJob job).1.placeholders.tracked id
        rw [created, tracked, swept.created, List.append_assoc]
      next =>
        intro pod member
        rcases swept.deleted pod member with gone | ⟨pods, thenRun, pending, listed⟩
        next => exact .inl (after.kept pod gone)
        next =>
          cases kept _ pending with
          | inl waiting => exact .inr ⟨pods, thenRun, waiting, listed⟩
          | inr now =>
            refine (after.deleted pods thenRun now.symm pod listed).imp (fun gone => gone) ?_
            rintro ⟨rest, goesOn, still⟩
            exact ⟨rest, thenRun, left _ goesOn, still⟩

theorem Swept.of_kept (swept : Swept id taken m) (limit : Option Nat)
    (placeholders : next.placeholders =
      { m.placeholders with client := { m.placeholders.client with limit } })
    (jobs : ∀ job ∈ m.jobs, job ∈ next.jobs) : Swept id taken next where
  created := by
    rw [placeholders]
    exact swept.created
  deleted pod member := by
    rw [placeholders]
    refine (swept.deleted pod member).imp (fun gone => gone) ?_
    rintro ⟨pods, thenRun, pending, listed⟩
    exact ⟨pods, thenRun, jobs _ pending, listed⟩

end ResourceManager

end GangScheduling
