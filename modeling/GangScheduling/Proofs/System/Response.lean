import GangScheduling.Proofs.System.Feedback

set_option autoImplicit false

namespace GangScheduling

def Entry.kind? (id : String) : Entry → Option EventKind
  | .event (.application sent) => if sent.application = id then some sent.kind else none
  | _ => none

def kindsFor (id : String) (queue : List Entry) : List EventKind :=
  queue.filterMap (Entry.kind? id)

theorem Entry.kind?_some {id : String} {entry : Entry} {kind : EventKind}
    (own : entry.kind? id = some kind) :
    ∃ sent : ApplicationEvent, entry = .event (.application sent) ∧ sent.application = id ∧
      sent.kind = kind := by
  unfold kind? at own
  split at own
  next sent =>
    simp only [Option.ite_none_right_eq_some, Option.some.injEq] at own
    exact ⟨sent, rfl, own.1, own.2⟩
  next => cases own

section Answers

variable {app : Application} {kind : EventKind} {raised : List Event} {spawned : List Job}

theorem Application.Follows.failures (follows : Follows app kind raised spawned)
    (answer : kind = .accept ∨ kind = .reject ∨ kind = .fail) :
    (∀ event ∈ raised, ∃ reason, event = .application (.fail app.id reason)) ∧
      ∀ job ∈ spawned, job.followUps = 0 := by
  cases follows with
  | nothing => simp
  | failure reason => simp
  | cleanUp => simp [Job.followUps]
  | acceptance fresh => rcases answer with rfl | rfl | rfl <;> simp at fresh
  | run changed => rcases answer with rfl | rfl | rfl <;> cases changed
  | reserve entered => rcases answer with rfl | rfl | rfl <;> cases entered

theorem Application.Follows.kindsFor_other (follows : Follows app kind raised spawned)
    {id : String} (other : app.id ≠ id) : kindsFor id (raised.map .event) = [] := by
  cases follows <;>
    simp [kindsFor, Entry.kind?, ApplicationEvent.fail, ApplicationEvent.run, other]

end Answers

/-- What a step means for one application: it hears of an event that waits for it, or not. -/
inductive Hears : ApplicationState → List EventKind → ApplicationState → List EventKind → Prop
  | nothing (state : ApplicationState) (kinds : List EventKind) : Hears state kinds state kinds
  | illegal (state : ApplicationState) (kind : EventKind) (rest : List EventKind)
      (route : Lifecycle.next state kind = none) : Hears state (kind :: rest) state rest
  | legal (state next : ApplicationState) (kind : EventKind) (rest raised : List EventKind)
      (route : Lifecycle.next state kind = some next)
      (failing : kind = .reject → raised = [.fail])
      (final : kind.followUps = 0 → raised = []) : Hears state (kind :: rest) next (rest ++ raised)

theorem Hears.of_follows {app : Application} {next : ApplicationState} {kind : EventKind}
    {raised : List Event} {spawned : List Job} (rest : List EventKind)
    (route : Lifecycle.next app.state kind = some next)
    (follows : Application.Follows app kind raised spawned) :
    Hears app.state (kind :: rest) next (rest ++ kindsFor app.id (raised.map .event)) := by
  refine .legal app.state next kind rest _ route ?_ ?_
  next =>
    rintro rfl
    cases follows with
    | nothing silent => exact absurd rfl silent
    | failure => simp [kindsFor, Entry.kind?, ApplicationEvent.fail]
    | acceptance fresh => simp at fresh
    | run changed => cases changed
    | reserve entered => cases entered
    | cleanUp ended => simp at ended
  next =>
    intro none
    have nobody : raised = [] := List.eq_nil_of_length_eq_zero (by
      have paid := follows.paid
      omega)
    rw [nobody]
    rfl

inductive Progress (accepted rejected : Prop) : ApplicationState → List EventKind → Prop
  | submitted (accepts rejects : Nat) (kinds : List EventKind)
      (waiting : kinds = List.replicate accepts .accept ++ List.replicate rejects .reject)
      (some : 0 < accepts ↔ accepted) (others : 0 < rejects ↔ rejected) :
      Progress accepted rejected .submitted kinds
  | accepted (yes : accepted) (kinds : List EventKind)
      (waiting : ∀ kind ∈ kinds, kind = .accept ∨ kind = .reject) :
      Progress accepted rejected .accepted kinds
  | rejected (no : ¬ accepted) (yes : rejected) (rejects : Nat) (kinds : List EventKind)
      (waiting : kinds = List.replicate rejects .reject ++ [.fail]) :
      Progress accepted rejected .rejected kinds
  | failed (no : ¬ accepted) (yes : rejected) : Progress accepted rejected .failed []

section Steps

variable {accepted rejected : Prop} {state next : ApplicationState}
  {before after : List EventKind}

theorem Progress.hears_submitted {accepts rejects : Nat} (hears : Hears .submitted before next after)
    (waiting : before = List.replicate accepts .accept ++ List.replicate rejects .reject)
    (some : 0 < accepts ↔ accepted) (others : 0 < rejects ↔ rejected) :
    Progress accepted rejected next after := by
  cases hears with
  | nothing => exact .submitted accepts rejects before waiting some others
  | illegal kind rest route =>
    -- Both kinds that wait are legal still.
    have present : kind ∈ kind :: after := List.mem_cons_self
    rw [waiting, List.mem_append, List.mem_replicate, List.mem_replicate] at present
    rcases present with ⟨-, rfl⟩ | ⟨-, rfl⟩
    next => exact absurd route (by decide)
    next => exact absurd route (by decide)
  | legal next kind rest raised route failing final =>
    cases accepts with
    | succ accepts =>
      simp only [List.replicate_succ, List.cons_append, List.cons.injEq] at waiting
      obtain ⟨rfl, rfl⟩ := waiting
      have moved : Lifecycle.next .submitted .accept = .some .accepted := by decide
      cases moved.symm.trans route
      refine .accepted (some.mp (Nat.succ_pos _)) _ ?_
      intro kind member
      rw [final rfl, List.append_nil, List.mem_append, List.mem_replicate,
        List.mem_replicate] at member
      exact member.imp And.right And.right
    | zero =>
      cases rejects with
      | zero => cases waiting
      | succ rejects =>
        simp only [List.replicate_zero, List.nil_append, List.replicate_succ,
          List.cons.injEq] at waiting
        obtain ⟨rfl, rfl⟩ := waiting
        have moved : Lifecycle.next .submitted .reject = .some .rejected := by decide
        cases moved.symm.trans route
        rw [failing rfl]
        exact .rejected (fun yes => Nat.lt_irrefl 0 (some.mpr yes)) (others.mp (Nat.succ_pos _))
          rejects _ rfl

theorem Progress.hears_rejected {rejects : Nat} (hears : Hears .rejected before next after)
    (no : ¬ accepted) (yes : rejected)
    (waiting : before = List.replicate rejects .reject ++ [.fail]) :
    Progress accepted rejected next after := by
  cases hears with
  | nothing => exact .rejected no yes rejects before waiting
  | illegal kind rest route =>
    cases rejects with
    | zero =>
      obtain ⟨rfl, -⟩ := List.cons.inj waiting
      exact absurd route (by decide)
    | succ rejects => exact .rejected no yes rejects after (List.cons.inj waiting).2
  | legal next kind rest raised route failing final =>
    cases rejects with
    | zero =>
      obtain ⟨rfl, rfl⟩ := List.cons.inj waiting
      have moved : Lifecycle.next .rejected .fail = some .failed := by decide
      cases moved.symm.trans route
      rw [final rfl]
      exact .failed no yes
    | succ rejects =>
      obtain ⟨rfl, -⟩ := List.cons.inj waiting
      have kept : Lifecycle.next .rejected .reject = none := by decide
      cases kept.symm.trans route

theorem Hears.unmoved (hears : Hears state before next after) (other : state ≠ .submitted)
    (settled : state ≠ .recovering) (waiting : ∀ kind ∈ before, kind = .accept ∨ kind = .reject) :
    next = state ∧ ∀ kind ∈ after, kind = .accept ∨ kind = .reject := by
  cases hears with
  | nothing => exact ⟨rfl, waiting⟩
  | illegal kind rest route => exact ⟨rfl, fun kind member => waiting kind (.tail _ member)⟩
  | legal next kind rest raised route failing final =>
    rw [Lifecycle.next_eq_route] at route
    rcases waiting kind List.mem_cons_self with rfl | rfl
    next => cases state <;> simp at other settled route
    next => cases state <;> simp at other route

theorem Progress.hears (progress : Progress accepted rejected state before)
    (hears : Hears state before next after) : Progress accepted rejected next after := by
  cases progress with
  | submitted accepts rejects kinds waiting some others =>
    exact hears_submitted hears waiting some others
  | accepted yes kinds waiting =>
    obtain ⟨rfl, still⟩ := hears.unmoved (by decide) (by decide) waiting
    exact .accepted yes after still
  | rejected no yes rejects kinds waiting => exact hears_rejected hears no yes waiting
  | failed no yes =>
    cases hears
    exact .failed no yes

theorem Progress.outcome [Decidable accepted] [Decidable rejected]
    (progress : Progress accepted rejected state []) :
    state = if accepted then .accepted else if rejected then .failed else .submitted := by
  cases progress with
  | submitted accepts rejects kinds waiting some others =>
    obtain ⟨noAccepts, noRejects⟩ := List.append_eq_nil_iff.mp waiting.symm
    rw [List.replicate_eq_nil_iff] at noAccepts noRejects
    rw [if_neg (by rw [← some]; omega), if_neg (by rw [← others]; omega)]
  | accepted yes => rw [if_pos yes]
  | rejected no yes rejects kinds waiting => simp at waiting
  | failed no yes => rw [if_neg no, if_pos yes]

inductive Course (accepted rejected : Prop) : ApplicationState → ApplicationState →
    List EventKind → Prop
  | answered (state : ApplicationState) (kinds : List EventKind)
      (progress : Progress accepted rejected state kinds) :
      Course accepted rejected .submitted state kinds
  | recovering (state : ApplicationState) (kinds : List EventKind) :
      Course accepted rejected .recovering state kinds
  | unmoved (state : ApplicationState) (kinds : List EventKind) (other : state ≠ .submitted)
      (settled : state ≠ .recovering)
      (waiting : ∀ kind ∈ kinds, kind = .accept ∨ kind = .reject) :
      Course accepted rejected state state kinds

theorem Course.hears {first : ApplicationState} (course : Course accepted rejected first state before)
    (hears : Hears state before next after) : Course accepted rejected first next after := by
  cases course with
  | answered state kinds progress => exact .answered next after (progress.hears hears)
  | recovering => exact .recovering next after
  | unmoved state kinds other settled waiting =>
    obtain ⟨rfl, still⟩ := hears.unmoved other settled waiting
    exact .unmoved _ after other settled still

end Steps

theorem kindsFor_sent {A : Type} {knows : String → Bool} {id : String} (known : knows id = true)
    (kind : EventKind) (name : A → String) (items : List A) :
    kindsFor id (((items.filter fun item => knows (name item)).map fun item =>
        Event.application { application := name item, kind }).map .event) =
      List.replicate ((items.map name).count id) kind := by
  induction items with
  | nil => rfl
  | cons first rest ih =>
    rw [List.map_cons]
    cases listed : knows (name first) with
    | true =>
      rw [List.filter_cons_of_pos (by simp [listed]), List.map_cons, List.map_cons, kindsFor, List.filterMap_cons, Entry.kind?]
      by_cases same : name first = id
      next =>
        rw [if_pos same, same, List.count_cons_self, List.replicate_succ]
        exact congrArg (kind :: ·) ih
      next =>
        rw [if_neg same, List.count_cons_of_ne same]
        exact ih
    | false =>
      have other : name first ≠ id := by
        rintro same
        rw [same, known] at listed
        cases listed
      rw [List.filter_cons_of_neg (by simp [listed]), List.count_cons_of_ne other]
      exact ih

theorem UpdateResponse.kindsFor_announced (response : UpdateResponse) {knows : String → Bool}
    {id : String} (known : knows id = true) :
    kindsFor id ((response.announced knows).map .event) =
      List.replicate (response.accepted.count id) .accept ++
        List.replicate ((response.rejected.map (·.application)).count id) .reject := by
  have accepted := kindsFor_sent known .accept (fun id => id) response.accepted
  have rejected := kindsFor_sent known .reject (·.application) response.rejected
  rw [List.map_id'] at accepted
  rw [← accepted, ← rejected, announced, List.map_append, kindsFor, List.filterMap_append]
  rfl

namespace System

variable {s later : System} {response : UpdateResponse} {id : String} {app : Application}
  {move : Move} {moves : List Move}

theorem queue_of_quiet_work {job : Job} {jobs : List Job} (working : s.Working)
    (own : job ≠ .beginLoop) (quiet : job.followUps = 0)
    (same : later.manager = { (s.manager.stepJob job).1 with jobs }) : later.queue = s.queue := by
  have adds := ResourceManager.adds_stepJob working.attentive.running own
  have silent : ResourceManager.closing job = [] := by
    unfold ResourceManager.closing
    split
    next => cases quiet
    next => rfl
  rw [System.queue, same]
  simpa [silent, System.queue] using adds.queue

theorem hears_of_proceeds (working : s.Working)
    (quiet : ∀ job ∈ s.manager.jobs, job.followUps = 0)
    (found : s.find? (.registered id) = some app) (proceeds : Proceeds s later) :
    ∃ next, later.find? (.registered id) = some next ∧
      Hears app.state (kindsFor id s.queue) next.state (kindsFor id later.queue) := by
  cases proceeds with
  | consumes entry rest first around consumed =>
    cases consumed with
    | passes registry queue jobs illegal =>
      have left : later.queue = rest := queue
      refine ⟨app, by rw [find?, registry]; exact found, ?_⟩
      rw [first, left]
      simp only [kindsFor, List.filterMap_cons]
      cases own : entry.kind? id with
      | none => exact .nothing _ _
      | some kind =>
        obtain ⟨sent, rfl, rfl, rfl⟩ := Entry.kind?_some own
        refine .illegal _ _ _ ?_
        simpa [Application.canHandle] using illegal sent rfl app found
    | handles event handler after effects raised spawned same present handled registry queue jobs
        follows =>
      subst same
      have left : later.queue = rest ++ raised.map .event := queue
      obtain ⟨route, sameId, -⟩ := Application.handle_ok handled
      have taken : s.find? (.registered event.application) = some handler := present
      have placed := registered_put taken sameId found
      have lookup : later.find? (.registered id) =
          (s.put (.registered event.application) after).find? (.registered id) := by
        simp only [find?, put, registry]
      rw [placed] at lookup
      have handlerId := Registry.id_of_find? present
      rw [first, left]
      simp only [kindsFor, List.filterMap_cons, List.filterMap_append, Entry.kind?]
      by_cases own : event.application = id
      next =>
        subst own
        cases present.symm.trans found
        rw [if_pos rfl] at lookup
        refine ⟨after, lookup, ?_⟩
        rw [if_pos rfl]
        have heard := Hears.of_follows (rest.filterMap (Entry.kind? event.application)) route follows
        rwa [handlerId] at heard
      next =>
        rw [if_neg (by simpa using own)] at lookup
        refine ⟨app, lookup, ?_⟩
        have silent := follows.kindsFor_other (handlerId ▸ own)
        rw [kindsFor] at silent
        rw [if_neg own, silent, List.append_nil]
        exact .nothing _ _
  | works job jobs others own same held kept =>
    have frame := ResourceManager.extends_stepJob s.manager own fun _ => False
    have none := quiet job (held.mem_iff.mpr List.mem_cons_self)
    have left := queue_of_quiet_work working own none same
    refine ⟨app, ?_, left ▸ .nothing _ _⟩
    rw [find?, same]
    exact (congrArg (·.find? id) frame.registry).trans found

def Informs (s : System) (entry : Entry) : Prop :=
  ∃ sent : ApplicationEvent, entry = .event (.application sent) ∧
    (s.find? (.registered sent.application)).isSome = true ∧
      (sent.kind = .accept ∨ sent.kind = .reject ∨ sent.kind = .fail)

/-- Since the response came nobody has been told anything but what it says and what follows. -/
structure Hearing (s : System) (response : UpdateResponse) (later : System) : Prop where
  known : ∀ entry ∈ later.queue, s.Informs entry
  quiet : ∀ job ∈ later.manager.jobs, job.followUps = 0
  course : ∀ id app, s.find? (.registered id) = some app →
    ∃ now, later.find? (.registered id) = some now ∧
      Course (id ∈ response.accepted) (id ∈ response.rejected.map (·.application)) app.state
        now.state (kindsFor id later.queue)

theorem Hearing.known_step {next : System} (hearing : Hearing s response later)
    (working : later.Working) (proceeds : Proceeds later next) :
    (∀ entry ∈ next.queue, s.Informs entry) ∧ ∀ job ∈ next.manager.jobs, job.followUps = 0 := by
  cases proceeds with
  | consumes entry rest first around consumed =>
    have others (entry : Entry) (member : entry ∈ rest) : s.Informs entry :=
      hearing.known entry (first ▸ .tail _ member)
    cases consumed with
    | passes registry queue jobs =>
      have left : next.queue = rest := queue
      exact ⟨left ▸ others, jobs ▸ hearing.quiet⟩
    | handles event app after effects raised spawned same found handled registry queue jobs follows =>
      have left : next.queue = rest ++ raised.map .event := queue
      obtain ⟨_, rfl, registered, answer⟩ := hearing.known entry (first ▸ List.mem_cons_self)
      cases same
      obtain ⟨failures, quiet⟩ := follows.failures answer
      rw [left, jobs]
      constructor
      next =>
        intro entry member
        cases List.mem_append.mp member with
        | inl before => exact others entry before
        | inr added =>
          obtain ⟨event, among, rfl⟩ := List.mem_map.mp added
          obtain ⟨reason, rfl⟩ := failures event among
          rw [← Registry.id_of_find? found] at registered
          exact ⟨_, rfl, registered, .inr (.inr rfl)⟩
      next =>
        intro job member
        exact (List.mem_append.mp member).elim (hearing.quiet job) (quiet job)
  | works job jobs others own same held kept =>
    have none := hearing.quiet job (held.mem_iff.mpr List.mem_cons_self)
    have left := queue_of_quiet_work working own none same
    refine ⟨left ▸ hearing.known, ?_⟩
    rw [same]
    intro other member
    cases List.mem_append.mp (kept.mem_iff.mp member) with
    | inl further =>
      have paid := paid_stepJob later.manager own
      have most := List.le_sum_of_mem (List.mem_map_of_mem (f := Job.followUps) further)
      omega
    | inr before => exact hearing.quiet other (held.mem_iff.mpr (.tail _ before))

theorem Hearing.step {next : System} (hearing : Hearing s response later)
    (working : later.Working) (proceeds : Proceeds later next) : Hearing s response next := by
  obtain ⟨known, quiet⟩ := hearing.known_step working proceeds
  refine ⟨known, quiet, ?_⟩
  intro id app found
  obtain ⟨now, here, course⟩ := hearing.course id app found
  obtain ⟨after, there, hears⟩ := hears_of_proceeds working hearing.quiet here proceeds
  exact ⟨after, there, course.hears hears⟩

theorem hearing_receive (running : s.manager.dispatcher.running = true) (settled : s.Settled)
    (response : UpdateResponse) : Hearing s response (s.onManager (·.receive response)) := by
  have adds := ResourceManager.adds_receive running response
  have frame := ResourceManager.extends_receive s.manager response fun _ => False
  have queue : (s.onManager (·.receive response)).queue =
      (response.announced s.manager.registry.knows).map .event := by
    have empty : s.manager.dispatcher.queue = [] := settled.1
    rw [System.queue, onManager, adds.queue, empty, List.nil_append]
  have same (id : String) : (s.onManager (·.receive response)).find? (.registered id) =
      s.find? (.registered id) := by
    simp only [find?, onManager, frame.registry]
  constructor
  next =>
    intro entry member
    simp only [queue, UpdateResponse.announced, List.map_append, List.map_map, List.mem_append,
      List.mem_map, List.mem_filter] at member
    rcases member with ⟨id, ⟨-, known⟩, rfl⟩ | ⟨rejection, ⟨-, known⟩, rfl⟩
    next => exact ⟨_, rfl, known, .inl rfl⟩
    next => exact ⟨_, rfl, known, .inr (.inl rfl)⟩
  next =>
    intro job member
    have none : (s.onManager (·.receive response)).manager.jobs = [] := by
      rw [onManager, adds.jobs, settled.2, List.append_nil]
    rw [none] at member
    cases member
  next =>
    intro id app found
    refine ⟨app, (same id).trans found, ?_⟩
    have known : s.manager.registry.knows id = true := by
      rw [Registry.knows, show s.manager.registry.find? id = some app from found]
      rfl
    have waiting := response.kindsFor_announced known
    rw [← queue] at waiting
    by_cases submitted : app.state = .submitted
    next =>
      rw [submitted]
      exact .answered _ _ (.submitted _ _ _ waiting List.count_pos_iff List.count_pos_iff)
    next =>
      by_cases recovering : app.state = .recovering
      next =>
        rw [recovering]
        exact .recovering _ _
      next =>
        refine .unmoved _ _ submitted recovering ?_
        intro kind member
        rw [waiting, List.mem_append, List.mem_replicate, List.mem_replicate] at member
        exact member.imp And.right And.right

/-- However often a response names an application, and in whichever lists, the first acceptance
counts, or else the first rejection. Nothing that it says moves any other application. -/
theorem response_outcome (attentive : s.manager.dispatcher.Attentive) (settled : s.Settled)
    (response : UpdateResponse) :
    (∃ moves, (s.onManager (·.receive response)).Completes moves) ∧
      ∀ moves : List Move, (∀ move ∈ moves, move.isInternal = true) →
        (∀ event, .event event ∈ ((s.onManager (·.receive response)).run moves).queue →
          (s.find? (.registered event.applicationId)).isSome = true) ∧
        (((s.onManager (·.receive response)).run moves).queue = [] →
          ∀ id app, s.find? (.registered id) = some app →
            ∃ final, ((s.onManager (·.receive response)).run moves).find? (.registered id) =
                some final ∧
              (app.state = .submitted → final.state =
                if id ∈ response.accepted then .accepted
                else if id ∈ response.rejected.map (·.application) then .failed else .submitted) ∧
              (app.state ≠ .submitted → app.state ≠ .recovering → final.state = app.state)) := by
  have frame := ResourceManager.extends_receive s.manager response fun _ => False
  have started := hearing_receive attentive.running settled response
  have working : (s.onManager (·.receive response)).Working := by
    refine ⟨attentive.of_same frame.running frame.consumers frame.handlers, ?_⟩
    intro loop
    exact (frame.mem_jobs loop).elim (by simp [settled.2]) id
  refine ⟨completes_of_working working, ?_⟩
  intro moves internal
  obtain ⟨-, hearing⟩ := working_run (P := Hearing s response)
    (fun later next working hearing proceeds => hearing.step working proceeds) working started internal
  constructor
  next =>
    intro event queued
    obtain ⟨sent, same, known, -⟩ := hearing.known _ queued
    cases same
    exact known
  next =>
    intro drained id app found
    obtain ⟨final, here, course⟩ := hearing.course id app found
    rw [drained] at course
    refine ⟨final, here, ?_⟩
    generalize app.state = first, final.state = last at course
    refine ⟨?_, ?_⟩
    next =>
      rintro rfl
      cases course with
      | answered state kinds progress => exact progress.outcome
      | unmoved state kinds other => exact absurd rfl other
    next =>
      intro other settled
      cases course with
      | answered => exact absurd rfl other
      | recovering => exact absurd rfl settled
      | unmoved => rfl

def fourApps : System :=
  { manager :=
      { config := { workerThreads := 1 }
        registry := ["app-1", "app-2", "app-3", "app-4"].foldl
          (fun registry id => registry.add { id, queue := "root.q", user := "u" }) .empty
        dispatcher := {} } }

def untilThreeSubmitted : List Move :=
  [.install, .start, .schedule (.registered "app-1"), .schedule (.registered "app-2"),
   .schedule (.registered "app-3")]

def contradictory : UpdateResponse :=
  { accepted := ["app-1", "ghost", "app-4", "app-1"]
    rejected := [⟨"app-2", ""⟩, ⟨"app-1", ""⟩, ⟨"app-4", ""⟩, ⟨"app-2", ""⟩, ⟨"ghost", ""⟩] }

theorem response_outcome_contradictory :
    ∃ moves final,
      final = ((fourApps.run untilThreeSubmitted).onManager (·.receive contradictory)).run moves ∧
        final.Settled ∧
        (final.find? (.registered "app-1")).map (·.state) = some .accepted ∧
        (final.find? (.registered "app-2")).map (·.state) = some .failed ∧
        (final.find? (.registered "app-3")).map (·.state) = some .submitted ∧
        (final.find? (.registered "app-4")).map (·.state) = some .new := by
  have attentive : (fourApps.run untilThreeSubmitted).manager.dispatcher.Attentive :=
    ⟨rfl, ⟨0, rfl⟩, rfl⟩
  obtain ⟨⟨moves, completes⟩, outcome⟩ := response_outcome attentive ⟨rfl, rfl⟩ contradictory
  have ended := (outcome moves completes.internal).2 completes.settled.1
  obtain ⟨first, foundFirst, accepted, -⟩ := ended "app-1" _ rfl
  obtain ⟨second, foundSecond, failed, -⟩ := ended "app-2" _ rfl
  obtain ⟨third, foundThird, submitted, -⟩ := ended "app-3" _ rfl
  obtain ⟨fourth, foundFourth, -, kept⟩ := ended "app-4" _ rfl
  refine ⟨moves, _, rfl, completes.settled, ?_, ?_, ?_, ?_⟩
  next =>
    rw [foundFirst, Option.map_some, accepted rfl]
    rfl
  next =>
    rw [foundSecond, Option.map_some, failed rfl]
    rfl
  next =>
    rw [foundThird, Option.map_some, submitted rfl]
    rfl
  next =>
    rw [foundFourth, Option.map_some, kept (by decide) (by decide)]
    rfl

end System

end GangScheduling
