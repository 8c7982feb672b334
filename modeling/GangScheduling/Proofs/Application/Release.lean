import GangScheduling.Proofs.Application.Handle

set_option autoImplicit false

namespace GangScheduling

namespace TerminationType

inductive Means (text : String) : TerminationType → Prop
  | named (termination : TerminationType) (name : termination.wireName = text) :
      Means text termination
  | unnamed (foreign : ∀ termination : TerminationType, termination.wireName ≠ text) :
      Means text .unknown

theorem means_iff {text : String} {termination : TerminationType} :
    Means text termination ↔ ofWireName text = termination := by
  constructor
  next =>
    intro means
    cases means with
    | named termination name => simp [ofWireName, ← name, ofWireName?_wireName]
    | unnamed foreign =>
      have absent : ofWireName? text = none := by
        simpa [ofWireName?] using fun other _ => foreign other
      simp [ofWireName, absent]
  next =>
    rintro rfl
    unfold ofWireName
    cases found : ofWireName? text with
    | some termination => exact .named termination (wireName_of_ofWireName? found)
    | none =>
      refine .unnamed fun termination same => ?_
      simp [← same, ofWireName?_wireName] at found

theorem means_wireName {termination other : TerminationType} :
    Means termination.wireName other ↔ other = termination := by
  rw [means_iff, ofWireName, ofWireName?_wireName]
  exact eq_comm

end TerminationType

open TerminationType (Means)

inductive Release
  | allocation (id : String)
  | ask (task : String)
deriving DecidableEq, Repr

namespace Release

def Targets : Release → Task → Prop
  | .allocation id, task => task.allocation = some id
  | .ask id, task => task.id = id

instance (release : Release) (task : Task) : Decidable (release.Targets task) :=
  match release with
  | .allocation id => inferInstanceAs (Decidable (task.allocation = some id))
  | .ask id => inferInstanceAs (Decidable (task.id = id))

/-- How often the deletion of a target's pod is requested. A task that asks for a node without being
a placeholder keeps its pod. -/
def requests : Release → Task → Nat
  | .allocation _, _ => 1
  | .ask _, task => if task.placeholder then 1 else 0

def apply (release : Release) (termination : TerminationType) (task : Task) : Task :=
  if release.Targets task then
    { task with
      termination := some termination
      deletions := task.deletions + release.requests task }
  else task

end Release

namespace ApplicationEvent

inductive Orders (event : ApplicationEvent) : Release → TerminationType → Prop
  | allocation (id text : String) (termination : TerminationType)
      (kind : event.kind = .releaseAllocation) (arguments : event.arguments = [id, text])
      (means : Means text termination) : Orders event (.allocation id) termination
  | ask (id text : String) (termination : TerminationType)
      (kind : event.kind = .releaseAllocationAsk) (arguments : event.arguments = [id, text])
      (means : Means text termination) : Orders event (.ask id) termination

theorem orders_releaseAllocation {application id : String} {termination other : TerminationType}
    {release : Release} :
    (ApplicationEvent.releaseAllocation application termination id).Orders release other ↔
      release = .allocation id ∧ other = termination := by
  constructor
  next =>
    intro orders
    cases orders with
    | allocation found text other kind arguments means =>
      cases arguments
      exact ⟨rfl, TerminationType.means_wireName.mp means⟩
    | ask found text other kind => cases kind
  next =>
    rintro ⟨rfl, rfl⟩
    exact .allocation id _ _ rfl rfl (.named _ rfl)

theorem orders_releaseAllocationAsk {application id : String} {termination other : TerminationType}
    {release : Release} :
    (ApplicationEvent.releaseAllocationAsk application id termination).Orders release other ↔
      release = .ask id ∧ other = termination := by
  constructor
  next =>
    intro orders
    cases orders with
    | allocation found text other kind => cases kind
    | ask found text other kind arguments means =>
      cases arguments
      exact ⟨rfl, TerminationType.means_wireName.mp means⟩
  next =>
    rintro ⟨rfl, rfl⟩
    exact .ask id _ _ rfl rfl (.named _ rfl)

theorem exists_orders {event : ApplicationEvent}
    (releases : event.kind = .releaseAllocation ∨ event.kind = .releaseAllocationAsk)
    (two : event.arguments.length = 2) : ∃ release termination, event.Orders release termination := by
  obtain ⟨id, text, arguments⟩ := List.length_eq_two.mp two
  have means : Means text (.ofWireName text) := TerminationType.means_iff.mpr rfl
  cases releases with
  | inl kind => exact ⟨_, _, .allocation id text _ kind arguments means⟩
  | inr kind => exact ⟨_, _, .ask id text _ kind arguments means⟩

end ApplicationEvent

namespace Application

variable {app : Application} {event : ApplicationEvent}

theorem releaseArguments_of_two {id text : String} (arguments : event.arguments = [id, text]) :
    ∃ notices, releaseArguments event = (some (id, .ofWireName text), notices) := by
  simp [releaseArguments, arguments]

theorem releaseArguments_of_other (count : event.arguments.length ≠ 2) :
    ∃ notices, releaseArguments event = (none, notices) := by
  unfold releaseArguments
  split
  next target text arguments => simp [arguments] at count
  next => exact ⟨_, rfl⟩

theorem onReleaseAllocation_of_two (app : Application) {id text : String}
    (arguments : event.arguments = [id, text]) :
    ∃ notices : List Notice, (app.onReleaseAllocation event).2 = notices.map .note ∧
      (app.onReleaseAllocation event).1.tasks.toList =
        app.tasks.toList.map ((Release.allocation id).apply (.ofWireName text)) := by
  obtain ⟨notices, read⟩ := releaseArguments_of_two arguments
  simp only [onReleaseAllocation, read]
  refine ⟨_, rfl, List.map_congr_left fun task _ => ?_⟩
  by_cases held : task.allocation = some id <;>
    simp [Release.apply, Release.Targets, Release.requests, holds, held, Task.release,
      Task.requestDeletion]

theorem onReleaseAllocationAsk_of_two (app : Application) {id text : String}
    (arguments : event.arguments = [id, text]) :
    ∃ notices : List Notice, (app.onReleaseAllocationAsk event).2 = notices.map .note ∧
      (app.onReleaseAllocationAsk event).1.tasks.toList =
        app.tasks.toList.map ((Release.ask id).apply (.ofWireName text)) := by
  obtain ⟨notices, read⟩ := releaseArguments_of_two arguments
  simp only [onReleaseAllocationAsk, read]
  cases found : app.tasks.find? id with
  | none =>
    -- Nobody has that id, so nothing is hit.
    have others : ∀ task ∈ app.tasks.toList, task.id ≠ id := by simpa [TaskSet.find?] using found
    refine ⟨_, rfl, (List.map_id _).symm.trans (List.map_congr_left fun task member => ?_)⟩
    simp [Release.apply, Release.Targets, others task member]
  | some target =>
    refine ⟨_, rfl, List.map_congr_left fun task _ => ?_⟩
    by_cases hit : task.id = id
    next =>
      by_cases placeholder : task.placeholder = true <;>
        simp [Release.apply, Release.Targets, Release.requests, hit, placeholder, Task.release,
          Task.requestDeletion]
    next => simp [Release.apply, Release.Targets, hit]

theorem respond_of_orders (app : Application) {release : Release} {termination : TerminationType}
    (orders : event.Orders release termination) :
    ∃ notices : List Notice, (app.respond event).2 = notices.map .note ∧
      (app.respond event).1.tasks.toList =
        app.tasks.toList.map (release.apply termination) := by
  cases orders with
  | allocation id text termination kind arguments means =>
    rw [← TerminationType.means_iff.mp means, respond, kind]
    exact app.onReleaseAllocation_of_two arguments
  | ask id text termination kind arguments means =>
    rw [← TerminationType.means_iff.mp means, respond, kind]
    exact app.onReleaseAllocationAsk_of_two arguments

theorem respond_of_wrongCount (app : Application)
    (releases : event.kind = .releaseAllocation ∨ event.kind = .releaseAllocationAsk)
    (count : event.arguments.length ≠ 2) :
    ∃ notices : List Notice, app.respond event = (app, notices.map .note) := by
  obtain ⟨notices, read⟩ := releaseArguments_of_other count
  refine ⟨notices, ?_⟩
  cases releases with
  | inl kind => simp [respond, kind, onReleaseAllocation, read]
  | inr kind => simp [respond, kind, onReleaseAllocationAsk, read]

/-- A legal release hits exactly the tasks that it is meant for, whether or not the deletion of some
pod fails, and no task at all with another number of arguments than two. -/
theorem release_exact (app : Application) (event : ApplicationEvent)
    (releases : event.kind = .releaseAllocation ∨ event.kind = .releaseAllocationAsk)
    (legal : app.canHandle event.kind = true) :
    (∃ (after : Application) (notices : List Notice),
      app.handle event = .ok (after, notices.map .note) ∧
      (∀ release termination, event.Orders release termination →
        after.tasks.toList = app.tasks.toList.map (release.apply termination)) ∧
      (event.arguments.length = 2 → ∃ release termination, event.Orders release termination) ∧
      (event.arguments.length ≠ 2 → after.tasks = app.tasks)) ∧
    (∀ application id termination,
      (ApplicationEvent.releaseAllocation application termination id).application = application ∧
      ∀ release other,
        (ApplicationEvent.releaseAllocation application termination id).Orders release other ↔
          release = .allocation id ∧ other = termination) ∧
    ∀ application id termination,
      (ApplicationEvent.releaseAllocationAsk application id termination).application =
        application ∧
      ∀ release other,
        (ApplicationEvent.releaseAllocationAsk application id termination).Orders release other ↔
          release = .ask id ∧ other = termination := by
  refine ⟨?_, fun _ _ _ => ⟨rfl, fun _ _ => ApplicationEvent.orders_releaseAllocation⟩,
    fun _ _ _ => ⟨rfl, fun _ _ => ApplicationEvent.orders_releaseAllocationAsk⟩⟩
  obtain ⟨next, route⟩ := Option.isSome_iff_exists.mp legal
  have other : event.kind ≠ .tryReserve := by
    intro same
    simp [same] at releases
  rw [handle_of_next route other]
  by_cases two : event.arguments.length = 2
  next =>
    obtain ⟨release, termination, orders⟩ := ApplicationEvent.exists_orders releases two
    obtain ⟨notices, said, -⟩ := respond_of_orders { app with state := next } orders
    refine ⟨_, notices, congrArg Except.ok (Prod.ext rfl said), ?_, fun _ => ⟨_, _, orders⟩,
      fun count => absurd two count⟩
    intro release termination orders
    obtain ⟨-, -, tasks⟩ := respond_of_orders { app with state := next } orders
    exact tasks
  next =>
    obtain ⟨notices, same⟩ := respond_of_wrongCount { app with state := next } releases two
    rw [same]
    refine ⟨_, notices, rfl, ?_, fun count => absurd count two, fun _ => rfl⟩
    intro release termination orders
    cases orders with
    | allocation id text termination kind arguments => simp [arguments] at two
    | ask id text termination kind arguments => simp [arguments] at two

def sharedAllocation : Application :=
  { id := "app-1", queue := "root.q", user := "u", state := .running
    tasks :=
      { toList :=
          [{ id := "t-1", pod := ⟨"ns", "p-1", "1"⟩, allocation := some "a-1",
             deletionFault := some "api down" },
           { id := "a-1", pod := ⟨"ns", "p-2", "2"⟩, allocation := some "a-2" },
           { id := "t-3", pod := ⟨"ns", "p-3", "3"⟩, allocation := some "a-1",
             placeholder := true }]
        distinct := by decide } }

theorem release_exact_sharedAllocation :
    sharedAllocation.canHandle .releaseAllocation = true ∧
      sharedAllocation.canHandle .releaseAllocationAsk = true ∧
      (∃ after effects,
        sharedAllocation.handle (.releaseAllocation "app-1" .preempted "a-1") =
          .ok (after, effects) ∧
        after.tasks.toList.map (fun task => (task.id, task.termination, task.deletions)) =
          [("t-1", some .preempted, 1), ("a-1", none, 0), ("t-3", some .preempted, 1)]) ∧
      ∃ after effects,
        sharedAllocation.handle
            { application := "app-1", kind := .releaseAllocationAsk,
              arguments := ["a-1", "SOMETHING_NEWER"] } = .ok (after, effects) ∧
        after.tasks.toList.map (fun task => (task.id, task.termination, task.deletions)) =
          [("t-1", none, 0), ("a-1", some .unknown, 0), ("t-3", none, 0)] := by
  refine ⟨by decide, by decide, ?_, ?_⟩
  next =>
    obtain ⟨⟨after, notices, handled, tasks, -, -⟩, built, -⟩ := release_exact sharedAllocation
      (.releaseAllocation "app-1" .preempted "a-1") (.inl rfl) (by decide)
    have orders := ((built "app-1" "a-1" .preempted).2 _ _).mpr ⟨rfl, rfl⟩
    exact ⟨after, _, handled, by rw [tasks _ _ orders]; decide⟩
  next =>
    obtain ⟨⟨after, notices, handled, tasks, -, -⟩, -⟩ := release_exact sharedAllocation
      { application := "app-1", kind := .releaseAllocationAsk,
        arguments := ["a-1", "SOMETHING_NEWER"] } (.inr rfl) (by decide)
    have foreign : Means "SOMETHING_NEWER" .unknown :=
      .unnamed fun termination => by cases termination <;> decide
    exact ⟨after, _, handled, by rw [tasks _ _ (.ask _ _ _ rfl rfl foreign)]; decide⟩

end Application

end GangScheduling
