import GangScheduling.Proofs.System.CleanUp
import GangScheduling.Proofs.System.Degradation

set_option autoImplicit false

namespace GangScheduling

namespace System

def SentToReserve (id : String) (log : List Observation) : Prop :=
  ∃ holder app, .scheduled holder app ∈ log ∧ app.id = id ∧ app.state = .accepted ∧ app.MustReserve

structure Unreserved (id : String) (s : System) : Prop where
  reserving : ∀ app ∈ s.applications, app.id = id → app.state ≠ .reserving
  queued : ∀ event, .event (.application event) ∈ s.queue → event.application = id →
    event.kind ≠ .tryReserve
  creating : ∀ job ∈ s.manager.jobs, ¬ job.Creates id

structure Backed (id : String) (log : List Observation) (s : System) : Prop where
  reserving : ∀ app ∈ s.applications, app.id = id → app.state = .reserving → SentToReserve id log
  queued : ∀ event, .event (.application event) ∈ s.queue → event.application = id →
    event.kind = .tryReserve → SentToReserve id log
  creating : ∀ job ∈ s.manager.jobs, job.Creates id → SentToReserve id log

def Always (id : String) (holds : Application → Prop) : System → List Move → Prop
  | s, [] => ∀ app ∈ s.applications, app.id = id → holds app
  | s, move :: rest =>
    (∀ app ∈ s.applications, app.id = id → holds app) ∧ Always id holds (s.step move) rest

instance Always.decidable (id : String) (holds : Application → Prop) [DecidablePred holds] :
    (s : System) → (moves : List Move) → Decidable (Always id holds s moves)
  | s, [] => inferInstanceAs (Decidable (∀ app ∈ s.applications, app.id = id → holds app))
  | s, move :: rest =>
    have := Always.decidable id holds (s.step move) rest
    inferInstanceAs (Decidable (_ ∧ _))

variable {s : System} {id : String} {log more : List Observation} {moves : List Move} {move : Move}

theorem SentToReserve.mono (sent : SentToReserve id log) (wider : ∀ call ∈ log, call ∈ more) :
    SentToReserve id more := by
  obtain ⟨holder, app, seen, own, accepted, must⟩ := sent
  exact ⟨holder, app, wider _ seen, own, accepted, must⟩

theorem Unreserved.backed (unreserved : Unreserved id s) : Backed id [] s where
  reserving app member own reserving := absurd reserving (unreserved.reserving app member own)
  queued event queued own kind := absurd kind (unreserved.queued event queued own)
  creating job held creates := absurd creates (unreserved.creating job held)

theorem Backed.of_handled (backed : Backed id log s) (spares : ¬ s.sends .tryReserve id move)
    {holder : Holder} {app : Application} {event : ApplicationEvent}
    (met : .handled holder app event ∈ s.observe move) (own : app.id = id)
    (kind : event.kind = .tryReserve) : SentToReserve id log := by
  rcases source_of_handled met with ⟨rfl, found⟩ | ⟨queued, addressed⟩ | rfl
  next => exact absurd ⟨kind, app, found, own⟩ spares
  next => exact backed.queued event queued (addressed.trans own) kind
  next => cases kind

theorem backed_step (backed : Backed id log s) (spares : ¬ s.sends .tryReserve id move) :
    Backed id (log ++ s.observe move) (s.step move) := by
  have origins := origins_step s move
  have before (sent : SentToReserve id log) : SentToReserve id (log ++ s.observe move) :=
    sent.mono fun _ => List.mem_append_left _
  constructor
  next =>
    intro app member own reserving
    cases origins.applications app member with
    | known known =>
      rcases known with fresh | ⟨earlier, present, sameId, sameState⟩
      next => simp [fresh] at reserving
      next =>
        exact before (backed.reserving earlier present (sameId.trans own)
          (sameState.trans reserving))
    | handled holder earlier event effects met result =>
      obtain ⟨route, sameId, -⟩ := Application.handle_ok result
      have earlierOwn : earlier.id = id := sameId.symm.trans own
      rw [reserving] at route
      by_cases already : earlier.state = .reserving
      next => exact before (backed.reserving earlier (subject_mem met rfl) earlierOwn already)
      next =>
        have kind := Lifecycle.next_reserving route (Ne.symm already)
        exact before (backed.of_handled spares met earlierOwn kind)
  next =>
    intro event queued own kind
    rcases eventOrigin_step move queued with rfl | origin
    next => exact absurd ⟨own, kind⟩ spares
    next =>
      cases origin with
      | waiting queued => exact before (backed.queued event queued own kind)
      | further holder app met accepted same =>
        -- This is the pass on which it is decided.
        subst same
        rw [Application.kind_afterAccepted] at kind
        split at kind
        next must =>
          exact ⟨holder, app, List.mem_append_right _ met, own, accepted, must⟩
        next => cases kind
      | raised holder app after source effects met result raised =>
        cases raised with
        | sent _ member => cases (Application.handle_ok result).2.2 _ member <;> cases kind
        | accepted => cases kind
        | refused => cases kind
      | answered response answers => cases answers <;> cases kind
      | finished job present finishes =>
        cases finishes
        cases kind
  next =>
    intro job held creates
    cases origins.jobs job held with
    | held present => exact before (backed.creating job present creates)
    | goesOn earlier milestone present works =>
      exact before (backed.creating earlier present (creates_of_works works creates))
    | spawned holder app after event effects met result member =>
      cases (Application.handle_ok result).2.2 _ member with
      | cleanUp => cases creates
      | reserve entered => exact before (backed.of_handled spares met creates entered)

theorem Backed.not_reserving (backed : Backed id log s)
    (never : ¬ SentToReserve id (log ++ more)) :
    ∀ app ∈ s.applications, app.id = id → app.state ≠ .reserving := by
  intro app member own reserving
  refine never ((backed.reserving app member own reserving).mono ?_)
  exact fun call seen => List.mem_append_left _ seen

theorem never_reserving (backed : Backed id log s) (without : s.Without .tryReserve id moves)
    (never : ¬ SentToReserve id (log ++ s.observed moves)) :
    s.Always id (fun app => app.state ≠ .reserving) moves := by
  induction moves generalizing s log with
  | nil => exact backed.not_reserving never
  | cons move rest ih =>
    refine ⟨backed.not_reserving never, ih (backed_step backed without.1) without.2 ?_⟩
    rw [List.append_assoc]
    exact never

theorem not_sentToReserve (spared : s.Always id (fun app => ¬ app.MustReserve) moves) :
    ¬ SentToReserve id (s.observed moves) := by
  induction moves generalizing s with
  | nil =>
    rintro ⟨holder, app, seen, -⟩
    cases seen
  | cons move rest ih =>
    rintro ⟨holder, app, seen, own, accepted, must⟩
    cases List.mem_append.mp seen with
    | inl now => exact spared.1 app (subject_mem now rfl) own must
    | inr later => exact ih spared.2 ⟨holder, app, later, own, accepted, must⟩

theorem Always.mono {holds weaker : Application → Prop} (always : s.Always id holds moves)
    (implied : ∀ app, holds app → weaker app) : s.Always id weaker moves := by
  induction moves generalizing s with
  | nil => exact fun app member own => implied app (always app member own)
  | cons move rest ih =>
    exact ⟨fun app member own => implied app (always.1 app member own), ih always.2⟩

theorem podsOf_step (client : ∀ client, move = .replaceClient client →
      ∃ limit, client = { s.manager.placeholders.client with limit })
    (idle : ∀ job ∈ s.manager.jobs, ¬ job.Creates id) : (s.step move).podsOf id = s.podsOf id := by
  cases move with
  | work index =>
    rcases ResourceManager.work_cases s.manager index with
      ⟨same, -⟩ | ⟨job, jobs, present, own, same, -⟩
    next => simp only [podsOf, step, onManager, same]
    next =>
      simp only [podsOf, step, onManager, same]
      exact ResourceManager.podsOf_stepJob s.manager own (idle job present)
  | replaceClient client =>
    obtain ⟨limit, rfl⟩ := client _ rfl
    rfl
  | _ => exact (leaves_step s rfl).podsOf

theorem podsOf_run (backed : Backed id log s) (without : s.Without .tryReserve id moves)
    (keeps : s.KeepsClient moves) (never : ¬ SentToReserve id (log ++ s.observed moves)) :
    (s.run moves).podsOf id = s.podsOf id := by
  induction moves generalizing s log with
  | nil => rfl
  | cons move rest ih =>
    simp only [observed, ← List.append_assoc] at never
    refine (ih (backed_step backed without.1) without.2 keeps.2 never).trans ?_
    apply podsOf_step keeps.1
    intro job held creates
    refine never ((backed.creating job held creates).mono ?_)
    exact fun call seen => List.mem_append_left _ (List.mem_append_left _ seen)

theorem At.decided {app : Application} (here : At s app [] []) (accepted : app.state = .accepted) :
    At (s.run [.schedule (.registered app.id), .advance])
      { app with state := if app.MustReserve then .reserving else .running } []
      (if app.MustReserve then [.reserve app.reservation app.reservation.plan] else []) := by
  have asked := (here.schedule accepted).1
  have kind := app.kind_afterAccepted
  by_cases must : app.MustReserve
  next =>
    simp only [must, if_true] at kind ⊢
    exact (asked.advance [_] rfl (Application.handle_tryReserve accepted kind)).1
  next =>
    simp only [must, if_false] at kind ⊢
    exact (asked.advance [] rfl (Application.handle_run_of_accepted accepted kind)).1

/-- Without events from outside that tell it to, an application reserves only if no task of it was
allocated on some pass that found it accepted, and then it does. One allocated task at a time is
enough to keep it from reserving, while tasks in any other state do not count. -/
theorem reserves_when_unallocated (id : String) (s : System) (moves : List Move)
    (unreserved : Unreserved id s) (without : s.Without .tryReserve id moves) :
    (s.Always id (fun app => ∃ task ∈ app.tasks.toList, task.state = .allocated) moves →
      s.Always id (fun app => app.state ≠ .reserving) moves ∧
        (s.KeepsClient moves → (s.run moves).podsOf id = s.podsOf id)) ∧
      (¬ SentToReserve id (s.observed moves) →
        s.Always id (fun app => app.state ≠ .reserving) moves ∧
          (s.KeepsClient moves → (s.run moves).podsOf id = s.podsOf id)) ∧
      ∀ app, At (s.run moves) app [] [] → app.id = id → app.state = .accepted →
        At (s.run (moves ++ [.schedule (.registered id), .advance]))
          { app with state := if app.MustReserve then .reserving else .running } []
          (if app.MustReserve then [.reserve app.reservation app.reservation.plan] else []) := by
  have unsent (never : ¬ SentToReserve id (s.observed moves)) :
      s.Always id (fun app => app.state ≠ .reserving) moves ∧
        (s.KeepsClient moves → (s.run moves).podsOf id = s.podsOf id) :=
    ⟨never_reserving unreserved.backed without never,
      fun keeps => podsOf_run unreserved.backed without keeps never⟩
  refine ⟨?_, unsent, ?_⟩
  next =>
    intro allocated
    apply unsent
    apply not_sentToReserve
    refine allocated.mono ?_
    rintro app ⟨task, present, held⟩ must
    exact must.2 task present held
  next =>
    rintro app here rfl accepted
    rw [run_append]
    exact here.decided accepted

def withTask (state : TaskState) : System :=
  roomy.run [.install, .start, .edit (.registered "app-1")
    (.addTask { id := "t-1", pod := { space := "default", name := "t-1", uid := "1" }, state })]

def recovered : List Move :=
  [.handle (.registered "app-1") { application := "app-1", kind := .recover }, .advance,
   .schedule (.registered "app-1"), .advance, .work 0, .work 0, .work 0]

theorem unreserved_withTask (state : TaskState) : Unreserved "app-1" (withTask state) where
  reserving := by
    cases state <;> decide
  queued := by
    intro event queued
    cases queued
  creating := by
    intro job held
    cases held

theorem without_recovered (state : TaskState) :
    (withTask state).Without .tryReserve "app-1" recovered := by
  simp [Without, recovered, sends]

theorem reserves_when_unallocated_recovered :
    Unreserved "app-1" (withTask .allocated) ∧
      (withTask .allocated).Without .tryReserve "app-1" recovered ∧
      (withTask .allocated).Always "app-1"
        (fun app => ∃ task ∈ app.tasks.toList, task.state = .allocated) recovered ∧
      (withTask .allocated).Always "app-1" (fun app => app.state ≠ .reserving) recovered ∧
      (((withTask .allocated).run recovered).find? (.registered "app-1")).map (·.state) =
        some .running := by
  have unreserved := unreserved_withTask .allocated
  have without := without_recovered .allocated
  have allocated : (withTask .allocated).Always "app-1"
      (fun app => ∃ task ∈ app.tasks.toList, task.state = .allocated) recovered := by decide
  exact ⟨unreserved, without, allocated,
    ((reserves_when_unallocated "app-1" _ recovered unreserved without).1 allocated).1, rfl⟩

theorem bound_task_reserves :
    Unreserved "app-1" (withTask .bound) ∧
      (withTask .bound).Without .tryReserve "app-1" recovered ∧
      (withTask .bound).Always "app-1"
        (fun app => ∃ task ∈ app.tasks.toList, task.state = .bound) recovered ∧
      ¬ (withTask .bound).Always "app-1" (fun app => app.state ≠ .reserving) recovered ∧
      (withTask .bound).podsOf "app-1" = [] ∧
      ((withTask .bound).run recovered).podsOf "app-1" ≠ [] := by
  exact ⟨unreserved_withTask .bound, without_recovered .bound, by decide, by decide, rfl,
    by decide⟩

end System

end GangScheduling
