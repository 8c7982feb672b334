import GangScheduling.Proofs.Reservation
import GangScheduling.Proofs.ResourceManager.Solo
import GangScheduling.Proofs.System.Frame

set_option autoImplicit false

namespace GangScheduling

namespace System

open Reservation (Created Cleaned)

def Move.isInternal : Move → Bool
  | .advance | .work _ => true
  | _ => false

def Settled (s : System) : Prop :=
  s.queue = [] ∧ s.manager.jobs = []

structure At (s : System) (app : Application) (queue : List Entry) (jobs : List Job) : Prop where
  attentive : s.manager.dispatcher.Attentive
  found : s.find? (.registered app.id) = some app
  queue : s.queue = queue
  jobs : s.manager.jobs = jobs

variable {s : System} {app after : Application} {queue : List Entry} {jobs : List Job}
  {start : PlaceholderManager} {rank : Nat}

theorem At.settled (here : At s app [] []) : s.Settled :=
  ⟨here.queue, here.jobs⟩

theorem At.advance_idle (here : At s app [] jobs) : s.step .advance = s := by
  simp only [step, onManager, ResourceManager.advance_idle here.attentive here.queue,
    Option.getD_none]

theorem At.work_absent (here : At s app queue jobs) {index : Nat} (absent : jobs.length ≤ index) :
    s.step (.work index) = s := by
  simp only [step, onManager, ResourceManager.work_absent (here.jobs ▸ absent)]

theorem At.advance {event : ApplicationEvent} (spawned : List Job)
    (here : At s app [.event (.application event)] []) (own : event.application = app.id)
    (handled : app.handle event = .ok (after, spawned.map .spawn)) :
    At (s.step .advance) after [] spawned ∧
      (s.step .advance).manager.placeholders = s.manager.placeholders := by
  have sameId := (Application.handle_ok handled).2.1
  have registered : s.manager.registry.find? event.application = some app := own ▸ here.found
  obtain ⟨dispatcher, advanced, attentive, queue⟩ :=
    ResourceManager.advance_spawning here.attentive here.queue registered handled
  have placed := registered_put here.found sameId here.found
  rw [if_pos rfl, ← sameId] at placed
  simp only [step, onManager, advanced, Option.getD_some]
  exact ⟨⟨attentive, placed, queue, by simp [here.jobs]⟩, rfl⟩

theorem At.work {job : Job} (here : At s app [] [job]) (own : job ≠ .beginLoop) :
    s.step (.work 0) = s.onManager fun m =>
      { (m.stepJob job).1 with jobs := (m.stepJob job).2.toList } := by
  simp only [step, onManager, ResourceManager.work_zero here.jobs own]

theorem At.work_placeholders {job : Job} {placeholders : PlaceholderManager}
    {notices : List Notice} {left : Option Job} (here : At s app [] [job])
    (own : job ≠ .beginLoop)
    (stepped : s.manager.stepJob job = ({ s.manager with placeholders, notices }, left)) :
    At (s.step (.work 0)) app [] left.toList ∧
      (s.step (.work 0)).manager.placeholders = placeholders := by
  rw [here.work own, onManager, stepped]
  exact ⟨⟨here.attentive, here.found, here.queue, rfl⟩, rfl⟩

theorem At.schedule (here : At s app [] []) (accepted : app.state = .accepted) :
    At (s.step (.schedule (.registered app.id))) app [.event (.application app.afterAccepted)] [] ∧
      (s.step (.schedule (.registered app.id))).manager.placeholders = s.manager.placeholders := by
  have placed := registered_put here.found rfl here.found
  rw [if_pos rfl] at placed
  have same : s.step (.schedule (.registered app.id)) =
      s.onManager fun m => (m.update app).dispatch (.application app.afterAccepted) := by
    simp only [step, System.schedule, here.found, Application.schedule_accepted accepted]
    rfl
  obtain ⟨dispatcher, notices, sent, attentive, queue⟩ :=
    ResourceManager.dispatch_attentive (m := s.manager.update app) here.attentive
      (.application app.afterAccepted)
  rw [same, onManager, sent]
  refine ⟨⟨attentive, placed, ?_, here.jobs⟩, rfl⟩
  have before : s.manager.dispatcher.queue = [] := here.queue
  change dispatcher.queue = _
  rw [queue]
  simp [ResourceManager.update, before]

def weight (plan : List (TaskGroup × Nat)) : Nat :=
  (plan.map fun entry => entry.2 + 1).sum

def cleanUpWeight (start : PlaceholderManager) (app : Application) : Nat :=
  (start.tracked app.id).length + app.lacking.length + 3

/-- The phases of a reservation, with a bound on the steps that are left of it. -/
inductive Phase (start : PlaceholderManager) (app : Application) (s : System) : Nat → Prop
  | asked (event : ApplicationEvent) (kind : event.kind = .tryReserve)
      (own : event.application = app.id) (accepted : app.state = .accepted)
      (here : At s app [.event (.application event)] [])
      (same : s.manager.placeholders = start) :
      Phase start app s (cleanUpWeight start app + weight app.reservation.plan + 2)
  | creating (members : List TaskGroup) (plan : List (TaskGroup × Nat))
      (here : At s { app with state := .reserving } [] [.reserve app.reservation plan])
      (left : members ++ planned plan = app.lacking)
      (drawn : s.manager.placeholders.drawn = start.drawn + members.length)
      (created : Created app.reservation start members s.manager.placeholders)
      (room : start.client.HasRoom members.length) :
      Phase start app s (cleanUpWeight start app + weight plan + 1)
  | reserved (here : At s { app with state := .reserving } [] [])
      (created : Created app.reservation start app.lacking s.manager.placeholders)
      (room : start.client.HasRoom app.lacking.length) : Phase start app s 0
  | failing (members : List TaskGroup)
      (here : At s { app with state := .reserving } [] [.cleanUp app.id true])
      (created : Created app.reservation start members s.manager.placeholders)
      (short : start.client.EndsAt app.lacking members) :
      Phase start app s (cleanUpWeight start app)
  | deleting (members : List TaskGroup) (gone pods : List Pod)
      (here : At s { app with state := .reserving } [] [.delete app.id pods true])
      (cleaned : Cleaned app.reservation start members gone s.manager.placeholders)
      (all : gone ++ pods = start.tracked app.id ++ app.reservation.handles start members)
      (short : start.client.EndsAt app.lacking members) : Phase start app s (pods.length + 2)
  | resuming (members : List TaskGroup)
      (here : At s { app with state := .reserving } [.event (.application (.run app.id))] [])
      (cleaned : Cleaned app.reservation start members
        (start.tracked app.id ++ app.reservation.handles start members) s.manager.placeholders)
      (short : start.client.EndsAt app.lacking members) : Phase start app s 1
  | resumed (members : List TaskGroup) (here : At s { app with state := .running } [] [])
      (cleaned : Cleaned app.reservation start members
        (start.tracked app.id ++ app.reservation.handles start members) s.manager.placeholders)
      (short : start.client.EndsAt app.lacking members) : Phase start app s 0

inductive Next (start : PlaceholderManager) (app : Application) (s : System) (rank : Nat) : Prop
  | ended (last : Application) (here : At s last [] [])
  | consumer (last : Application) (queue : List Entry) (here : At s last queue [])
      (lower : Nat) (less : lower < rank) (phase : Phase start app (s.step .advance) lower)
  | background (last : Application) (job : Job) (here : At s last [] [job])
      (lower : Nat) (less : lower < rank) (phase : Phase start app (s.step (.work 0)) lower)

section Steps

variable {members : List TaskGroup} {plan : List (TaskGroup × Nat)} {gone pods : List Pod}

theorem next_asked {event : ApplicationEvent} (kind : event.kind = .tryReserve)
    (own : event.application = app.id) (accepted : app.state = .accepted)
    (here : At s app [.event (.application event)] [])
    (same : s.manager.placeholders = start) :
    Next start app s (cleanUpWeight start app + weight app.reservation.plan + 2) := by
  obtain ⟨reserving, placeholders⟩ := here.advance [_] own
    (Application.handle_tryReserve accepted kind)
  rw [same] at placeholders
  refine .consumer app _ here _ (Nat.lt_succ_self _)
    (.creating [] app.reservation.plan reserving app.planned_reservation ?_ ?_ (.inl rfl))
  next => rw [placeholders, List.length_nil, Nat.add_zero]
  next =>
    rw [placeholders]
    exact .none _ _

theorem next_creating
    (here : At s { app with state := .reserving } [] [.reserve app.reservation plan])
    (left : members ++ planned plan = app.lacking)
    (drawn : s.manager.placeholders.drawn = start.drawn + members.length)
    (created : Created app.reservation start members s.manager.placeholders)
    (room : start.client.HasRoom members.length) :
    Next start app s (cleanUpWeight start app + weight plan + 1) := by
  have own (rest : List (TaskGroup × Nat)) : Job.reserve app.reservation rest ≠ .beginLoop := by simp
  match plan with
  | [] =>
    obtain ⟨ended, placeholders⟩ := here.work_placeholders (own _) rfl
    have all : members = app.lacking := by simpa using left
    subst all
    exact .background _ _ here 0 (by omega) (.reserved ended (placeholders ▸ created) room)
  | (group, 0) :: rest =>
    obtain ⟨further, placeholders⟩ := here.work_placeholders (own _) rfl
    rw [← placeholders] at drawn created
    refine .background _ _ here _ ?_ (.creating members rest further left drawn created room)
    simp [weight]
  | (group, missing + 1) :: rest =>
    cases may : s.manager.placeholders.client.mayCreate with
    | true =>
      obtain ⟨later, member, placed⟩ := PlaceholderManager.placed_of_mayCreate
        app.reservation group may
      obtain ⟨further, placeholders⟩ := here.work_placeholders (own _)
        (by simp only [ResourceManager.stepJob, member]; rfl)
      have roomThen := Reservation.hasRoom_succ group created may
      have createdThen := created.place drawn placed
      have drawnThen := placed.drawn
      rw [← placeholders] at createdThen drawnThen
      refine .background _ _ here _ ?_ (.creating (members ++ [group]) ((group, missing) :: rest)
        further ?_ ?_ createdThen roomThen)
      next =>
        simp only [weight, List.map_cons, List.sum_cons]
        omega
      next => simpa using left
      next =>
        rw [drawnThen, drawn, List.length_append]
        rfl
    | false =>
      obtain ⟨fault, refused⟩ := PlaceholderManager.refused_of_limit
        app.reservation group may
      obtain ⟨failing, placeholders⟩ := here.work_placeholders (own _)
        (by simp only [ResourceManager.stepJob, refused]; rfl)
      have short := Reservation.endsAt_of_refused created room may left
      refine .background _ _ here _ ?_ (.failing members failing ?_ short)
      next => omega
      next =>
        rw [placeholders]
        exact created.draw _

theorem next_failing (here : At s { app with state := .reserving } [] [.cleanUp app.id true])
    (created : Created app.reservation start members s.manager.placeholders)
    (short : start.client.EndsAt app.lacking members) :
    Next start app s (cleanUpWeight start app) := by
  obtain ⟨deleting, placeholders⟩ := here.work_placeholders (by simp) rfl
  obtain ⟨all, cleaned⟩ := created.forget
  refine .background _ _ here _ ?_ (.deleting members [] _ deleting ?_ all short)
  next =>
    obtain ⟨limit, -, -, -, fewer⟩ := short
    have count : (s.manager.placeholders.forget app.id).2.length =
        (start.tracked app.id).length + members.length := by
      rw [show app.id = app.reservation.application from rfl, all, List.length_append,
        Reservation.length_handles]
    change (s.manager.placeholders.forget app.id).2.length + 2 < cleanUpWeight start app
    simp only [cleanUpWeight]
    omega
  next =>
    rw [placeholders]
    exact cleaned

theorem next_deleting
    (here : At s { app with state := .reserving } [] [.delete app.id pods true])
    (cleaned : Cleaned app.reservation start members gone s.manager.placeholders)
    (all : gone ++ pods = start.tracked app.id ++ app.reservation.handles start members)
    (short : start.client.EndsAt app.lacking members) :
    Next start app s (pods.length + 2) := by
  cases pods with
  | nil =>
    obtain ⟨dispatcher, notices, sent, attentive, queue⟩ :=
      ResourceManager.dispatch_attentive here.attentive (.application (.run app.id))
    have same : s.step (.work 0) =
        { s with manager := { s.manager with dispatcher, notices, jobs := [] } } := by
      rw [here.work (by simp), onManager]
      simp only [ResourceManager.stepJob, if_true, sent]
      rfl
    rw [List.append_nil] at all
    subst all
    refine .background _ _ here 1 (by simp) (.resuming members ?_ ?_ short)
    next =>
      rw [same]
      refine ⟨attentive, here.found, ?_, rfl⟩
      change dispatcher.queue = _
      rw [queue, ← System.queue, here.queue, List.nil_append]
    next =>
      rw [same]
      exact cleaned
  | cons pod rest =>
    obtain ⟨further, placeholders⟩ := here.work_placeholders (by simp) rfl
    have deleted := cleaned.delete pod
    refine .background _ _ here _ ?_
      (.deleting members (gone ++ [pod]) rest further ?_ (by simpa using all) short)
    next => simp
    next =>
      rw [placeholders]
      exact deleted

theorem next_resuming
    (here : At s { app with state := .reserving } [.event (.application (.run app.id))] [])
    (cleaned : Cleaned app.reservation start members
      (start.tracked app.id ++ app.reservation.handles start members) s.manager.placeholders)
    (short : start.client.EndsAt app.lacking members) : Next start app s 1 := by
  obtain ⟨running, placeholders⟩ := here.advance [] rfl
    (Application.handle_run rfl rfl)
  rw [← placeholders] at cleaned
  exact .consumer _ _ here 0 Nat.one_pos (.resumed members running cleaned short)

end Steps

theorem Phase.next (phase : Phase start app s rank) : Next start app s rank := by
  cases phase with
  | asked event kind own accepted here same => exact next_asked kind own accepted here same
  | creating members plan here left drawn created room =>
    exact next_creating here left drawn created room
  | reserved here => exact .ended _ here
  | failing members here created short => exact next_failing here created short
  | deleting members gone pods here cleaned all short => exact next_deleting here cleaned all short
  | resuming members here cleaned short => exact next_resuming here cleaned short
  | resumed members here => exact .ended _ here

theorem Phase.step (phase : Phase start app s rank) {move : Move} (internal : move.isInternal) :
    s.step move = s ∨ ∃ lower < rank, Phase start app (s.step move) lower := by
  cases phase.next with
  | ended last here =>
    cases move with
    | advance => exact .inl here.advance_idle
    | work index => exact .inl (here.work_absent (Nat.zero_le index))
    | _ => cases internal
  | consumer last queue here lower less after =>
    cases move with
    | advance => exact .inr ⟨lower, less, after⟩
    | work index => exact .inl (here.work_absent (Nat.zero_le index))
    | _ => cases internal
  | background last job here lower less after =>
    cases move with
    | advance => exact .inl here.advance_idle
    | work index =>
      cases index with
      | zero => exact .inr ⟨lower, less, after⟩
      | succ index => exact .inl (here.work_absent (Nat.succ_pos index))
    | _ => cases internal

/-- The consumer and the background work have gone on until nothing is left to do. -/
structure Completes (s : System) (moves : List Move) : Prop where
  internal : ∀ move ∈ moves, move.isInternal = true
  settled : (s.run moves).Settled

theorem Phase.run (phase : Phase start app s rank) {moves : List Move}
    (internal : ∀ move ∈ moves, move.isInternal = true) :
    ∃ lower, Phase start app (s.run moves) lower := by
  induction moves generalizing s rank with
  | nil => exact ⟨rank, phase⟩
  | cons move rest ih =>
    have later (move : Move) (member : move ∈ rest) : move.isInternal = true :=
      internal move (.tail _ member)
    change ∃ lower, Phase start app ((s.step move).run rest) lower
    rcases phase.step (internal move List.mem_cons_self) with same | ⟨lower, -, after⟩
    next =>
      rw [same]
      exact ih phase later
    next => exact ih after later

theorem Phase.completes (phase : Phase start app s rank) : ∃ moves, s.Completes moves := by
  -- The bound on the steps that are left falls with each step.
  induction rank using Nat.strongRecOn generalizing s with
  | ind rank ih =>
    have goesOn (move : Move) (internal : move.isInternal = true)
        (after : ∃ moves, (s.step move).Completes moves) : ∃ moves, s.Completes moves := by
      obtain ⟨moves, rest⟩ := after
      exact ⟨move :: moves, List.forall_mem_cons.mpr ⟨internal, rest.internal⟩, rest.settled⟩
    cases phase.next with
    | ended last here => exact ⟨[], by simp, here.settled⟩
    | consumer last queue here lower less after => exact goesOn .advance rfl (ih lower less after)
    | background last job here lower less after =>
      exact goesOn (.work 0) rfl (ih lower less after)

/-- The gang waits for its placeholders: all members that were lacking, group after group. -/
structure Reserved (s : System) (app : Application) (final : System) : Prop where
  found : final.find? (.registered app.id) = some { app with state := .reserving }
  created : final.manager.placeholders.client.created =
    s.manager.placeholders.client.created ++ app.reservation.pods s.manager.placeholders app.lacking
  tracked : final.manager.placeholders.tracked app.id = s.manager.placeholders.tracked app.id ++
    app.reservation.handles s.manager.placeholders app.lacking
  deleted : final.manager.placeholders.client.deleted = s.manager.placeholders.client.deleted
  others : ∀ other, other ≠ app.id →
    final.manager.placeholders.tracked other = s.manager.placeholders.tracked other

/-- The application runs without its gang, and has lost every pod that it had or was given. -/
structure FellBack (s : System) (app : Application) (count : Nat) (final : System) : Prop where
  found : final.find? (.registered app.id) = some { app with state := .running }
  amount : final.manager.placeholders.client.created.length =
    s.manager.placeholders.client.created.length + count
  created : final.manager.placeholders.client.created = s.manager.placeholders.client.created ++
    app.reservation.pods s.manager.placeholders (app.lacking.take count)
  tracked : final.manager.placeholders.tracked app.id = []
  deleted : final.manager.placeholders.client.deleted = s.manager.placeholders.client.deleted ++
    (s.manager.placeholders.tracked app.id ++
      app.reservation.handles s.manager.placeholders (app.lacking.take count))
  others : ∀ other, other ≠ app.id →
    final.manager.placeholders.tracked other = s.manager.placeholders.tracked other

theorem reserved_of_created {final : System}
    (here : At final { app with state := .reserving } [] [])
    (created : Created app.reservation s.manager.placeholders app.lacking
      final.manager.placeholders) : Reserved s app final where
  found := here.found
  created := by rw [created.client]
  tracked := by
    rw [created.tracked, if_pos]
    rfl
  deleted := by rw [created.client]
  others other different := by
    rw [created.tracked, if_neg, List.append_nil]
    exact different

theorem fellBack_of_cleaned {final : System} {count : Nat}
    (here : At final { app with state := .running } [] [])
    (cleaned : Cleaned app.reservation s.manager.placeholders (app.lacking.take count)
      (s.manager.placeholders.tracked app.id ++
        app.reservation.handles s.manager.placeholders (app.lacking.take count))
      final.manager.placeholders)
    (exact : (app.lacking.take count).length = count) : FellBack s app count final where
  found := here.found
  amount := by rw [cleaned.client, List.length_append, Reservation.length_pods, exact]
  created := by rw [cleaned.client]
  tracked := by
    rw [cleaned.tracked, if_pos]
    rfl
  deleted := by rw [cleaned.client]
  others other different := by
    rw [cleaned.tracked, if_neg]
    exact different

theorem Phase.outcome {final : System} (phase : Phase s.manager.placeholders app final rank)
    (settled : final.Settled) :
    (s.manager.placeholders.client.HasRoom app.lacking.length ∧ Reserved s app final) ∨
      ¬ s.manager.placeholders.client.HasRoom app.lacking.length ∧
        ∃ limit, s.manager.placeholders.client.limit = some limit ∧
          FellBack s app (limit - s.manager.placeholders.client.created.length) final := by
  cases phase with
  | reserved here created room => exact .inl ⟨room, reserved_of_created here created⟩
  | resumed members here cleaned short =>
    have shortage := Reservation.not_hasRoom_of_endsAt short
    obtain ⟨limit, limited, rfl, count, -⟩ := short
    exact .inr ⟨shortage, limit, limited, fellBack_of_cleaned here cleaned count⟩
  | asked event kind own accepted here => cases here.queue.symm.trans settled.1
  | resuming members here => cases here.queue.symm.trans settled.1
  | creating members plan here => cases here.jobs.symm.trans settled.2
  | failing members here => cases here.jobs.symm.trans settled.2
  | deleting members gone pods here => cases here.jobs.symm.trans settled.2

def twoGroups : Manifest :=
  { id := "app-1", queue := "root.q", user := "u"
    groups := [{ name := "a", minMember := 2 }, { name := "b", minMember := 2 }] }

def earlierPod : PlaceholderPod :=
  { name := "p", space := "default", application := "app-1", group := "a", queue := "root.q"
    resources := .empty, nodeSelector := .empty, tolerations := [], owners := []
    timeoutSeconds := 0 }

def tight : System :=
  { manager :=
      { config := { workerThreads := 1 }
        registry := Registry.empty.add twoGroups
        dispatcher := {}
        scheduler := { acceptsAll := true, receiver := some () }
        placeholders :=
          { client := { created := [earlierPod], limit := some 3 }
            pods := NameMap.empty.insert "app-1" [earlierPod.handle (Identifiers.hyphenated 0)] } } }

def placeholderTask : Task :=
  { id := "t", pod := earlierPod.handle (Identifiers.hyphenated 0), placeholder := true, group := "a" }

def untilAccepted : List Move :=
  [.install, .start, .schedule (.registered "app-1"), .advance,
   .edit (.registered "app-1") (.addTask placeholderTask)]

end System

end GangScheduling
