import GangScheduling.Proofs.System.Origin
import GangScheduling.Proofs.System.Sweep

set_option autoImplicit false

namespace GangScheduling

namespace System

def Ends (id : String) (log : List Observation) : Prop :=
  ∃ holder app event, .handled holder app event ∈ log ∧ app.id = id ∧
    (event.kind = .complete ∨ event.kind = .fail)

def Asked (id : String) (log : List Observation) : Prop :=
  Ends id log ∨ .worked (.creationFailed id) ∈ log

variable {s : System} {id : String} {move : Move}

structure Attributed (id : String) (log : List Observation) (s : System) : Prop where
  ended : ∀ app ∈ s.applications, app.id = id →
    app.state = .completed ∨ app.state = .failed → Ends id log
  cleaning : ∀ thenRun, .cleanUp id thenRun ∈ s.manager.jobs → Asked id log

section Attribution

variable {log more : List Observation} {moves : List Move}

theorem Ends.mono (ends : Ends id log) (wider : ∀ call ∈ log, call ∈ more) : Ends id more := by
  obtain ⟨holder, app, event, met, own, kind⟩ := ends
  exact ⟨holder, app, event, wider _ met, own, kind⟩

theorem Asked.mono (asked : Asked id log) (wider : ∀ call ∈ log, call ∈ more) : Asked id more :=
  asked.imp (fun ends => ends.mono wider) (wider _)

theorem Untouched.attributed (untouched : Untouched id s) : Attributed id [] s where
  ended app member own ended := by
    rw [untouched.fresh app member own] at ended
    simp at ended
  cleaning thenRun held := absurd rfl (untouched.idle _ held)

theorem attributed_step (attributed : Attributed id log s) (move : Move) :
    Attributed id (log ++ s.observe move) (s.step move) := by
  have origins := origins_step s move
  have before (call : Observation) (met : call ∈ log) : call ∈ log ++ s.observe move :=
    List.mem_append_left _ met
  have now (call : Observation) (met : call ∈ s.observe move) : call ∈ log ++ s.observe move :=
    List.mem_append_right _ met
  constructor
  next =>
    intro app member own ended
    cases origins.applications app member with
    | known known =>
      rcases known with fresh | ⟨earlier, present, sameId, sameState⟩
      next => simp [fresh] at ended
      next =>
        rw [← sameState] at ended
        exact (attributed.ended earlier present (sameId.trans own) ended).mono before
    | handled holder earlier event effects met result =>
      obtain ⟨route, sameId, -⟩ := Application.handle_ok result
      cases Lifecycle.next_ended route ended with
      | inl already =>
        -- The call does not say that the application is one of the system, but observing it does.
        have present : earlier ∈ s.applications := subject_mem met rfl
        exact (attributed.ended earlier present (sameId ▸ own) already).mono before
      | inr kind => exact ⟨holder, earlier, event, now _ met, sameId ▸ own, kind⟩
  next =>
    intro thenRun held
    cases origins.jobs _ held with
    | held present => exact (attributed.cleaning thenRun present).mono before
    | spawned holder app after event effects met result member =>
      cases (Application.handle_ok result).2.2 _ member with
      | cleanUp ended => exact .inl ⟨holder, app, event, now _ met, rfl, ended⟩
    | goesOn earlier milestone present works met =>
      cases works with
      | failing => exact .inr (now _ (met _ rfl))

theorem attributed_run (attributed : Attributed id log s) (moves : List Move) :
    Attributed id (log ++ s.observed moves) (s.run moves) := by
  induction moves generalizing s log with
  | nil => simpa [run, observed] using attributed
  | cons move rest ih =>
    simp only [observed, ← List.append_assoc]
    exact ih (attributed_step attributed move)

theorem asked_of_begins (attributed : Attributed id log s) (begins : BeginsCleanUp id s move) :
    Asked id log := by
  cases move with
  | work index =>
    obtain ⟨thenRun, held⟩ := begins
    exact attributed.cleaning thenRun (List.mem_of_getElem? held)
  | _ => cases begins

end Attribution

section Pending

theorem result_handle {holder source : Holder} {app : Application}
    {event sent : ApplicationEvent}
    (met : .handled holder app event ∈ s.observeHandle source sent) :
    ∃ after effects, app.handle event = .ok (after, effects) ∧
      after ∈ (s.handle source sent).applications ∧
      ∀ job, .spawn job ∈ effects → job ∈ (s.handle source sent).manager.jobs := by
  rcases handle_cases s source sent with
    ⟨-, silent, -⟩ | ⟨app, after, effects, found, result, moved, observed⟩
  next => simp [silent] at met
  next =>
    rw [observed, List.mem_singleton] at met
    cases met
    rw [moved]
    refine ⟨after, effects, result, ?_, ?_⟩
    next =>
      rw [applications_apply]
      exact mem_put_self found (Application.handle_ok result).2.1
    next => exact fun job member => ResourceManager.mem_jobs_performAll _ member

theorem result_step {holder : Holder} {app : Application} {event : ApplicationEvent}
    (met : .handled holder app event ∈ s.observe move) :
    ∃ after effects, app.handle event = .ok (after, effects) ∧
      after ∈ (s.step move).applications ∧
      ∀ job, .spawn job ∈ effects → job ∈ (s.step move).manager.jobs := by
  cases move with
  | handle source sent => exact result_handle met
  | schedule source =>
    rcases schedule_cases s source with
      ⟨-, silent, -⟩ | ⟨found, -, ⟨-, moved, observed⟩ | ⟨-, -, observed⟩⟩
    next => simp [observe, silent] at met
    next =>
      simp only [observe, observed, List.mem_cons, reduceCtorEq, false_or] at met
      simp only [step, moved]
      exact result_handle met
    next => simp [observe, observed] at met
  | advance =>
    have way := goes_of_advance s
    generalize s.observe .advance = seen, s.step .advance = later at way met ⊢
    cases way with
    | still => cases met
    | skips => cases met
    | hands sent taken later before first after =>
      rw [after.jobs, after.applications]
      exact result_handle met
  | respond response =>
    simp only [observe] at met
    split at met
    next => cases List.mem_singleton.mp met
    next => cases met
  | work index => simp [observe] at met
  | _ => cases met

theorem pending_of_ends (ends : Ends id (s.observe move)) :
    .cleanUp id false ∈ (s.step move).manager.jobs := by
  obtain ⟨holder, app, event, met, rfl, kind⟩ := ends
  obtain ⟨after, effects, result, -, spawned⟩ := result_step met
  exact spawned _ (Application.cleanUp_of_handle result kind)

theorem begins_or_pending {thenRun : Bool} (pending : .cleanUp id thenRun ∈ s.manager.jobs)
    (move : Move) :
    BeginsCleanUp id s move ∨ .cleanUp id thenRun ∈ (s.step move).manager.jobs := by
  cases move with
  | work index =>
    exact (ResourceManager.mem_jobs_work pending index).symm.imp (fun held => ⟨thenRun, held⟩)
      fun still => still
  | replaceClient client => exact .inr pending
  | _ => exact .inr ((leaves_step s rfl).jobs _ pending)

theorem begins_of_pending {thenRun : Bool} (moves : List Move)
    (pending : .cleanUp id thenRun ∈ s.manager.jobs) (idle : Idle id (s.run moves)) :
    ∃ before move after, moves = before ++ move :: after ∧ BeginsCleanUp id (s.run before) move := by
  induction moves generalizing s with
  | nil => exact absurd rfl (idle _ pending)
  | cons move rest ih =>
    cases begins_or_pending pending move with
    | inl begins => exact ⟨[], move, rest, rfl, begins⟩
    | inr still =>
      obtain ⟨before, later, after, split, begins⟩ := ih still idle
      exact ⟨move :: before, later, after, congrArg (move :: ·) split, begins⟩

end Pending

def HasPods (id : String) (s : System) : Prop :=
  s.tracked id ≠ [] ∨ ∃ job ∈ s.manager.jobs, job.Creates id

def Provided (id : String) (s : System) : Prop :=
  (∃ app ∈ s.applications, app.id = id ∧ app.state.mayHoldPods = true) ∨
    ∃ thenRun, .cleanUp id thenRun ∈ s.manager.jobs

def InOrder (id : String) : System → List Move → Prop
  | _, [] => True
  | s, move :: rest =>
    (BeginsCleanUp id s move → ∀ job ∈ s.manager.jobs, ¬ job.Creates id) ∧
      InOrder id (s.step move) rest

instance InOrder.decidable (id : String) :
    (s : System) → (moves : List Move) → Decidable (InOrder id s moves)
  | _, [] => inferInstanceAs (Decidable True)
  | s, move :: rest =>
    have := InOrder.decidable id (s.step move) rest
    inferInstanceAs (Decidable (_ ∧ _))

section Providing

theorem Untouched.not_hasPods (untouched : Untouched id s) : ¬ HasPods id s := by
  rintro (tracked | ⟨job, held, creates⟩)
  next => exact tracked untouched.tracked
  next =>
    refine untouched.idle job held ?_
    cases job with
    | reserve reservation plan => exact congrArg some creates
    | _ => cases creates

theorem creates_of_works {earlier job : Job} {milestone : Option ResourceManager.Milestone}
    (works : ResourceManager.Works earlier milestone (some job)) (creates : job.Creates id) :
    earlier.Creates id := by
  cases works with
  | creating => exact creates
  | _ => cases creates

theorem not_hasPods_of_begins (begins : BeginsCleanUp id s move)
    (order : ∀ job ∈ s.manager.jobs, ¬ job.Creates id) : ¬ HasPods id (s.step move) := by
  rintro (tracked | ⟨job, held, creates⟩)
  next =>
    cases move with
    | work index =>
      obtain ⟨thenRun, here⟩ := begins
      obtain ⟨jobs, same, -⟩ := ResourceManager.work_keeps here (by simp)
      refine tracked ?_
      simp only [System.tracked, step, onManager, same, ResourceManager.stepJob,
        PlaceholderManager.tracked_forget, if_true]
    | _ => cases begins
  next =>
    cases (origins_step s move).jobs job held with
    | held before => exact order job before creates
    | spawned holder app after event effects met =>
      cases move with
      | work index => simp [observe] at met
      | _ => cases begins
    | goesOn earlier milestone present works =>
      exact order earlier present (creates_of_works works creates)

theorem provided_of_live {app : Application} (member : app ∈ s.applications) (own : app.id = id)
    (holds : app.state.mayHoldPods = true) (move : Move) : Provided id (s.step move) := by
  cases becomes_step member move with
  | kept other present sameId sameState =>
    exact .inl ⟨other, present, sameId.trans own, sameState ▸ holds⟩
  | handled holder event after effects met result present =>
    obtain ⟨route, sameId, -⟩ := Application.handle_ok result
    cases still : after.state.mayHoldPods with
    | true => exact .inl ⟨after, present, sameId.trans own, still⟩
    | false =>
      have kind := Lifecycle.next_of_mayHoldPods route holds still
      exact .inr ⟨false, pending_of_ends ⟨holder, app, event, met, own, kind⟩⟩

theorem tracked_of_step (tracked : (s.step move).tracked id ≠ []) : HasPods id s := by
  cases move with
  | work index =>
    rcases ResourceManager.work_cases s.manager index with
      ⟨same, -⟩ | ⟨job, jobs, present, own, same, -⟩
    next =>
      simp only [System.tracked, step, onManager, same] at tracked
      exact .inl tracked
    next =>
      simp only [System.tracked, step, onManager, same] at tracked
      exact (ResourceManager.tracked_stepJob s.manager own tracked).imp (fun before => before)
        fun creates => ⟨job, present, creates⟩
  | replaceClient client => exact .inl tracked
  | _ => exact .inl fun none => tracked ((leaves_step s rfl).tracked.trans none)

theorem live_of_hasPods (before : ¬ HasPods id s) (has : HasPods id (s.step move)) :
    ∃ app ∈ (s.step move).applications, app.id = id ∧ app.state.mayHoldPods = true := by
  rcases has with tracked | ⟨job, held, creates⟩
  next => exact absurd (tracked_of_step tracked) before
  next =>
    cases (origins_step s move).jobs job held with
    | held present => exact absurd (.inr ⟨job, present, creates⟩) before
    | goesOn earlier milestone present works =>
      exact absurd (.inr ⟨earlier, present, creates_of_works works creates⟩) before
    | spawned holder app after event effects met result member =>
      obtain ⟨route, sameId, asks⟩ := Application.handle_ok result
      obtain ⟨other, effects, same, present, -⟩ := result_step met
      rw [result] at same
      cases same
      cases asks _ member with
      | cleanUp => cases creates
      | reserve entered =>
        rw [entered] at route
        refine ⟨after, present, sameId.trans creates, ?_⟩
        rw [Lifecycle.next_tryReserve route]
        rfl

theorem provided_step (provided : HasPods id s → Provided id s)
    (order : BeginsCleanUp id s move → ∀ job ∈ s.manager.jobs, ¬ job.Creates id)
    (has : HasPods id (s.step move)) : Provided id (s.step move) := by
  by_cases before : HasPods id s
  next =>
    rcases provided before with ⟨app, member, own, holds⟩ | ⟨thenRun, pending⟩
    next => exact provided_of_live member own holds move
    next =>
      cases begins_or_pending pending move with
      | inl begins => exact absurd has (not_hasPods_of_begins begins (order begins))
      | inr still => exact .inr ⟨thenRun, still⟩
  next => exact .inl (live_of_hasPods before has)

theorem provided_run {moves : List Move} (provided : HasPods id s → Provided id s)
    (order : InOrder id s moves) : HasPods id (s.run moves) → Provided id (s.run moves) := by
  induction moves generalizing s with
  | nil => exact provided
  | cons move rest ih => exact ih (provided_step provided order.1) order.2

theorem untracked_of_inOrder {moves : List Move} (untouched : Untouched id s)
    (order : InOrder id s moves) (idle : Idle id (s.run moves))
    (ended : ∀ app ∈ (s.run moves).applications, app.id = id → app.state.mayHoldPods = false) :
    (s.run moves).tracked id = [] := by
  by_contra tracked
  have provided := provided_run (fun has => absurd has untouched.not_hasPods) order
  rcases provided (.inl tracked) with ⟨app, member, own, holds⟩ | ⟨thenRun, pending⟩
  next =>
    rw [ended app member own] at holds
    cases holds
  next => exact idle _ pending rfl

end Providing

theorem ends_of_observed {moves : List Move} (ends : Ends id (s.observed moves)) :
    ∃ before move after, moves = before ++ move :: after ∧ Ends id ((s.run before).observe move) := by
  obtain ⟨holder, app, event, met, own, kind⟩ := ends
  obtain ⟨before, move, after, split, now⟩ := mem_observed met
  exact ⟨before, move, after, split, holder, app, event, now, own, kind⟩

def CleanedUpAfterEnd (id : String) (s : System) (moves : List Move) : Prop :=
  ∃ before move after, moves = before ++ move :: after ∧
    Ends id (s.observed before) ∧ BeginsCleanUp id (s.run before) move

theorem cleanedUp_of_ends {moves : List Move} (ends : Ends id (s.observed moves))
    (idle : Idle id (s.run moves)) : CleanedUpAfterEnd id s moves := by
  obtain ⟨before, move, after, rfl, now⟩ := ends_of_observed ends
  rw [run_append] at idle
  obtain ⟨between, later, rest, rfl, begins⟩ :=
    begins_of_pending after (pending_of_ends now) idle
  refine ⟨before ++ move :: between, later, rest, by simp, ?_, ?_⟩
  next =>
    rw [observed_append]
    exact now.mono fun call met => List.mem_append_right _ (List.mem_append_left _ met)
  next =>
    rw [run_append]
    exact begins

/-- When no work on an application is left, its pods are gone unless some were created after the
latest clean-up had begun. That does not happen to applications that complete or fail, as long as no
clean-up overtakes a creation. Only an end of that kind and a creation that failed bring a clean-up
about, so that a kill leaves all pods behind. -/
theorem cleared_iff {moves : List Move} (untouched : Untouched id s) (keeps : s.KeepsClient moves)
    (idle : Idle id (s.run moves)) :
    (Cleared id (s.run moves) ↔ UpToDate id s moves) ∧
      (InOrder id s moves → (∀ app ∈ (s.run moves).applications, app.id = id →
        app.state.mayHoldPods = false) → Cleared id (s.run moves)) ∧
      (∀ app ∈ (s.run moves).applications, app.id = id →
        app.state = .completed ∨ app.state = .failed → CleanedUpAfterEnd id s moves) ∧
      ∀ before move after, moves = before ++ move :: after → BeginsCleanUp id (s.run before) move →
        Asked id (s.observed before) := by
  refine ⟨cleared_iff_upToDate untouched keeps idle, ?_, ?_, ?_⟩
  next =>
    intro order ended
    obtain ⟨last, -, swept, -⟩ := swept_run untouched.swept keeps
    exact cleared_of_untracked swept idle (untracked_of_inOrder untouched order idle ended)
  next =>
    intro app member own ended
    have attributed := attributed_run untouched.attributed moves
    exact cleanedUp_of_ends (attributed.ended app member own ended) idle
  next =>
    rintro before move after - begins
    exact asked_of_begins (attributed_run untouched.attributed before) begins

theorem untouched_roomy : Untouched "app-1" roomy where
  fresh := by decide
  idle := by
    intro job held
    cases held
  created := rfl
  tracked := rfl
  faultless := rfl

def untilReserving : List Move :=
  [.install, .start, .schedule (.registered "app-1"), .advance, .schedule (.registered "app-1"),
   .advance]

def sent (kind : EventKind) : List Move :=
  [.dispatch (.application { application := "app-1", kind, arguments := ["r"] }), .advance]

def untilReserved : List Move :=
  untilReserving ++ [.work 0, .work 0, .work 0]

def completed : List Move :=
  untilReserved ++ sent .run ++ sent .complete ++ [.work 0, .work 0, .work 0]

theorem cleared_iff_completed :
    Untouched "app-1" roomy ∧ roomy.KeepsClient completed ∧ Idle "app-1" (roomy.run completed) ∧
      InOrder "app-1" roomy completed ∧ (roomy.run completed).podsOf "app-1" ≠ [] ∧
      Cleared "app-1" (roomy.run completed) := by
  have keeps : roomy.KeepsClient completed := by
    simp [completed, untilReserved, untilReserving, sent, KeepsClient]
  have idle : Idle "app-1" (roomy.run completed) := by
    intro job held
    cases held
  have order : InOrder "app-1" roomy completed := by decide
  have ended : ∀ app ∈ (roomy.run completed).applications, app.id = "app-1" →
      app.state.mayHoldPods = false := by decide
  exact ⟨untouched_roomy, keeps, idle, order, by decide,
    (cleared_iff untouched_roomy keeps idle).2.1 order ended⟩

def killed : List Move :=
  untilReserved ++ sent .kill ++ sent .killed

theorem killed_keeps_pods :
    Untouched "app-1" roomy ∧ roomy.KeepsClient killed ∧
      ((roomy.run killed).find? (.registered "app-1")).map (·.state) = some .killed ∧
      (roomy.run killed).queue = [] ∧ (roomy.run killed).manager.jobs = [] ∧
      InOrder "app-1" roomy killed ∧ ¬ Cleared "app-1" (roomy.run killed) := by
  have keeps : roomy.KeepsClient killed := by
    simp [killed, untilReserved, untilReserving, sent, KeepsClient]
  have tracked : (roomy.run killed).tracked "app-1" ≠ [] := by decide
  exact ⟨untouched_roomy, keeps, rfl, rfl, rfl, by decide,
    fun cleared => tracked cleared.untracked⟩

def overtaken : List Move :=
  untilReserving ++ sent .fail ++ [.work 1, .work 1, .work 0, .work 0, .work 0]

theorem overtaken_keeps_pods :
    ((roomy.run overtaken).find? (.registered "app-1")).map (·.state) = some .failed ∧
      (roomy.run overtaken).queue = [] ∧ (roomy.run overtaken).manager.jobs = [] ∧
      ¬ InOrder "app-1" roomy overtaken ∧ ¬ Cleared "app-1" (roomy.run overtaken) := by
  have tracked : (roomy.run overtaken).tracked "app-1" ≠ [] := by decide
  exact ⟨rfl, rfl, rfl, by decide, fun cleared => tracked cleared.untracked⟩

end System

end GangScheduling
