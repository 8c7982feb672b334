import GangScheduling.Proofs.Application.History
import GangScheduling.Proofs.Recorder
import GangScheduling.Proofs.ResourceManager.Step

set_option autoImplicit false

namespace GangScheduling

def Notice.isReport : Notice → Bool
  | .submissionFailed .. | .podEvent _ => true
  | _ => false

def Scheduler.keep {R : Type} (scheduler : Scheduler R) (requests : List UpdateRequest) :
    Scheduler R :=
  match scheduler.available with
  | .ok () => { scheduler with updates := scheduler.updates ++ requests }
  | .error _ => scheduler

theorem Scheduler.keep_nil {R : Type} (scheduler : Scheduler R) : scheduler.keep [] = scheduler := by
  unfold keep
  split
  next => rw [List.append_nil]
  next => rfl

theorem Scheduler.keep_append {R : Type} (scheduler : Scheduler R)
    (first second : List UpdateRequest) :
    (scheduler.keep first).keep second = scheduler.keep (first ++ second) := by
  have still (updates : List UpdateRequest) :
      { scheduler with updates }.available = scheduler.available := rfl
  unfold keep
  cases available : scheduler.available with
  | ok => simp only [still, available, List.append_assoc]
  | error fault => simp only [available]

theorem Scheduler.available_keep {R : Type} (scheduler : Scheduler R)
    (requests : List UpdateRequest) : (scheduler.keep requests).available = scheduler.available := by
  unfold keep
  split <;> rfl

namespace ResourceManager

def reports (m : ResourceManager) : List Notice :=
  m.notices.filter Notice.isReport

def reported (m : ResourceManager) : Effect → List Notice
  | .submit description =>
    match m.scheduler.available with
    | .ok () => []
    | .error fault => [.submissionFailed description.application fault]
  | .record event => (m.recorder.record event).2
  | .note notice => [notice].filter Notice.isReport
  | _ => []

/-- Each effect is carried out once and in order, and nothing else of the kind is done. The scheduler
keeps a request or the log says that it has refused it. -/
structure CarriesOut (m : ResourceManager) (effects : List Effect) (next : ResourceManager) :
    Prop where
  config : next.config = m.config
  scheduler : next.scheduler =
    m.scheduler.keep ((effects.filterMap Effect.description?).map m.request)
  jobs : next.jobs = m.jobs ++ effects.filterMap Effect.job?
  recorder : next.recorder = (m.recorder.recordAll (effects.flatMap (·.recorded))).1
  placeholders : next.placeholders = m.placeholders
  loop : next.loop = m.loop
  reports : next.reports = m.reports ++ effects.flatMap m.reported

variable {m middle next : ResourceManager} {effects more : List Effect}

theorem CarriesOut.refl (m : ResourceManager) : CarriesOut m [] m where
  config := rfl
  scheduler := m.scheduler.keep_nil.symm
  jobs := (List.append_nil _).symm
  recorder := rfl
  placeholders := rfl
  loop := rfl
  reports := (List.append_nil _).symm

theorem CarriesOut.request (first : CarriesOut m effects middle) : middle.request = m.request := by
  funext description
  rw [ResourceManager.request, ResourceManager.request, first.config]

theorem CarriesOut.reported (first : CarriesOut m effects middle) : middle.reported = m.reported := by
  have available : middle.scheduler.available = m.scheduler.available := by
    rw [first.scheduler, Scheduler.available_keep]
  funext effect
  cases effect with
  | submit description => simp only [ResourceManager.reported, available]
  | record event =>
    simp only [ResourceManager.reported, first.recorder]
    exact Recorder.record_recordAll _ _ event
  | _ => rfl

theorem CarriesOut.trans (first : CarriesOut m effects middle)
    (second : CarriesOut middle more next) : CarriesOut m (effects ++ more) next where
  config := second.config.trans first.config
  scheduler := by
    rw [second.scheduler, first.scheduler, first.request, Scheduler.keep_append, ← List.map_append,
      List.filterMap_append]
  jobs := by rw [second.jobs, first.jobs, List.filterMap_append, List.append_assoc]
  recorder := by
    rw [second.recorder, first.recorder, List.flatMap_append, Recorder.recordAll_append]
  placeholders := second.placeholders.trans first.placeholders
  loop := second.loop.trans first.loop
  reports := by
    rw [second.reports, first.reports, first.reported, List.flatMap_append, List.append_assoc]

theorem carriesOut_notes (m : ResourceManager) {notices : List Notice}
    (silent : ∀ notice ∈ notices, notice.isReport = false) : CarriesOut m [] (m.note notices) :=
  { CarriesOut.refl m with
    reports := by
      have none : notices.filter Notice.isReport = [] := by simpa using silent
      simp [ResourceManager.reports, note, none] }

theorem carriesOut_note (m : ResourceManager) {notice : Notice} (silent : notice.isReport = false) :
    CarriesOut m [] (m.note [notice]) :=
  carriesOut_notes m (by simpa using silent)

theorem carriesOut_dispatch (m : ResourceManager) (event : Event) :
    CarriesOut m [] (m.dispatch event) := by
  have silent : (m.dispatcher.dispatch event).2.filter Notice.isReport = [] := by
    unfold Dispatcher.dispatch Dispatcher.checkBacklog
    split
    next =>
      split
      next => split <;> rfl
      next => rfl
    next => rfl
  exact
    { CarriesOut.refl m with
      reports := by
        simp only [ResourceManager.reports, dispatch, note, List.filter_append, silent]
        rfl }

theorem carriesOut_announce (m : ResourceManager) (kind : EventKind) (id : String) :
    CarriesOut m [] (m.announce kind id) := by
  unfold announce
  split
  next => exact carriesOut_dispatch m _
  next => exact carriesOut_note m rfl

theorem carriesOut_foldl {A : Type} {step : ResourceManager → A → ResourceManager}
    (idle : ∀ m item, CarriesOut m [] (step m item)) (items : List A) (m : ResourceManager) :
    CarriesOut m [] (items.foldl step m) := by
  induction items generalizing m with
  | nil => exact .refl m
  | cons item rest ih => exact (idle m item).trans (ih (step m item))

theorem carriesOut_receive (m : ResourceManager) (response : UpdateResponse) :
    CarriesOut m [] (m.receive response) :=
  (carriesOut_foldl (fun m id => carriesOut_announce m .accept id) _ _).trans
    (carriesOut_foldl (fun m (rejection : Rejection) =>
      carriesOut_announce m .reject rejection.application) _ _)

theorem carriesOut_submit (m : ResourceManager) (description : AddApplication) :
    CarriesOut m [.submit description] (m.submit description) := by
  unfold submit
  simp only [Scheduler.update]
  cases available : m.scheduler.available with
  | error fault =>
    have refused : CarriesOut m [.submit description]
        (m.note [.submissionFailed description.application fault]) :=
      { CarriesOut.refl m with
        scheduler := by simp [Scheduler.keep, available, note]
        reports := by
          simp [ResourceManager.reports, note, ResourceManager.reported, available,
            Notice.isReport] }
    exact refused.trans (carriesOut_dispatch _ _)
  | ok =>
    have kept : CarriesOut m [.submit description] { m with scheduler :=
        { m.scheduler with updates := m.scheduler.updates ++ [m.request description] } } :=
      { CarriesOut.refl m with
        scheduler := by simp [Scheduler.keep, available, Effect.description?]
        reports := by simp [ResourceManager.reports, ResourceManager.reported, available] }
    -- The scheduler keeps the request before it answers.
    cases answer : m.scheduler.answer (m.request description) with
    | none => exact kept
    | some told => exact kept.trans (carriesOut_receive _ told.2)

theorem carriesOut_perform (m : ResourceManager) (effect : Effect) :
    CarriesOut m [effect] (m.perform effect) := by
  cases effect with
  | submit description => exact carriesOut_submit m description
  | dispatch event => exact { carriesOut_dispatch m event with }
  | record event =>
    exact
      { CarriesOut.refl m with
        recorder := rfl
        reports := by
          have own : (m.recorder.record event).2.filter Notice.isReport =
              (m.recorder.record event).2 := by cases m.recorder <;> rfl
          simp [ResourceManager.reports, perform, record, note, ResourceManager.reported, own] }
  | spawn job => exact { CarriesOut.refl m with jobs := rfl }
  | note notice =>
    exact
      { CarriesOut.refl m with
        reports := by
          simp [ResourceManager.reports, perform, note, ResourceManager.reported] }

theorem carriesOut_performAll (m : ResourceManager) (effects : List Effect) :
    CarriesOut m effects (m.performAll effects) := by
  induction effects generalizing m with
  | nil => exact .refl m
  | cons effect rest ih => exact (carriesOut_perform m effect).trans (ih (m.perform effect))

-- What happens to the queue meanwhile does not matter.
theorem CarriesOut.of_dispatcher {taken left : Dispatcher Unit}
    (carries : CarriesOut { m with dispatcher := taken } effects next) :
    CarriesOut m effects { next with dispatcher := left } :=
  { carries with }

theorem carriesOut_update (m : ResourceManager) (after : Application) (effects : List Effect) :
    CarriesOut m effects ((m.update after).performAll effects) :=
  { carriesOut_performAll (m.update after) effects with }

theorem carriesOut_deliver {app : Application} {event : ApplicationEvent}
    (found : m.registry.find? event.application = some app) :
    CarriesOut m (app.call (.handle event)).2 (m.deliver (.application event)) := by
  cases handled : app.handle event with
  | ok result =>
    simp only [deliver, handle, Registry.lookup, found, handled, Application.call]
    exact carriesOut_update m result.1 result.2
  | error fault =>
    simp only [deliver, handle, Registry.lookup, found, handled, Application.call]
    exact carriesOut_note m rfl

theorem carriesOut_delivery (m : ResourceManager) (event : Event) :
    ∃ effects, CarriesOut m effects (m.deliver event) := by
  cases event with
  | task event => exact ⟨[], { CarriesOut.refl m with }⟩
  | application event =>
    cases found : m.registry.find? event.application with
    | none =>
      simp only [deliver, handle, Registry.lookup, found]
      exact ⟨[], carriesOut_note m rfl⟩
    | some app => exact ⟨_, carriesOut_deliver found⟩

theorem carriesOut_respond (m : ResourceManager) (response : UpdateResponse) :
    CarriesOut m [] ((m.respond response).toOption.getD m) := by
  unfold respond
  cases m.scheduler.registered with
  | error fault => exact .refl m
  | ok => exact carriesOut_receive m response

theorem advance_frame (m : ResourceManager) :
    ((m.advance fun _ => false).getD m).placeholders = m.placeholders ∧
      ((m.advance fun _ => false).getD m).loop = m.loop := by
  cases advanced : m.advance fun _ => false with
  | none => exact ⟨rfl, rfl⟩
  | some next =>
    have way := advances_of_advance advanced
    generalize m.delivery? = delivery at way
    cases way with
    | left => exact ⟨rfl, rfl⟩
    | passed => exact ⟨rfl, rfl⟩
    | delivered event dispatcher =>
      obtain ⟨effects, carries⟩ := carriesOut_delivery { m with dispatcher } event
      exact ⟨carries.placeholders, carries.loop⟩

end ResourceManager

end GangScheduling
