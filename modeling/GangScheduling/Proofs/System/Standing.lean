import GangScheduling.Proofs.System.Response
import GangScheduling.Proofs.System.Sweep

set_option autoImplicit false

namespace GangScheduling

structure Scheduler.Obliging (scheduler : Scheduler Unit) : Prop where
  available : scheduler.failure = none
  acceptsAll : scheduler.acceptsAll = true
  registered : scheduler.receiver.isSome = true

def PodClient.createdFor (client : PodClient) (application : String) : List PlaceholderPod :=
  client.created.filter fun pod => pod.application = application

def Reservation.Fills (reservation : Reservation) (draws : Identifiers)
    (members : List TaskGroup) (pods : List PlaceholderPod) : Prop :=
  List.Forall₂ (fun group pod => ∃ number, pod = reservation.pod group (draws number)) members pods

theorem Reservation.Fills.own {reservation : Reservation} {draws : Identifiers}
    {members : List TaskGroup} {pods : List PlaceholderPod}
    (fills : reservation.Fills draws members pods) :
    ∀ pod ∈ pods, pod.application = reservation.application := by
  induction fills with
  | nil => simp
  | cons first _ ih =>
    obtain ⟨number, rfl⟩ := first
    exact List.forall_mem_cons.mpr ⟨rfl, ih⟩

namespace ResourceManager

variable {m : ResourceManager}

theorem find?_update (m : ResourceManager) (after : Application) {current : Application}
    (found : m.registry.find? after.id = some current) :
    (m.update after).registry.find? after.id = some after := by
  rw [update, Registry.find?_modify, if_pos rfl, found, Option.map_some,
    Registry.id_of_find? found]

end ResourceManager

namespace System

def createdFor (s : System) (id : String) : List PlaceholderPod :=
  s.manager.placeholders.client.createdFor id

def jobsFor (s : System) (id : String) : List Job :=
  s.manager.jobs.filter fun job => job.application? = some id

structure SameFor (id : String) (s later : System) : Prop where
  found : later.find? (.registered id) = s.find? (.registered id)
  kinds : kindsFor id later.queue = kindsFor id s.queue
  jobs : (later.jobsFor id).Perm (s.jobsFor id)
  created : later.createdFor id = s.createdFor id
  draws : later.manager.placeholders.draws = s.manager.placeholders.draws

structure About (id : String) (s later : System) : Prop where
  queued : ∀ entry ∈ later.queue, (entry.kind? id).isSome = true ∨ entry ∈ s.queue
  pending : ∀ job ∈ later.manager.jobs, job.application? = some id ∨ job ∈ s.manager.jobs
  others : ∀ key, key ≠ id → SameFor key s later

structure Shows (s : System) (app : Application) (start : List PlaceholderPod)
    (kinds : List EventKind) (jobs : List Job) (members : List TaskGroup) : Prop where
  found : s.find? (.registered app.id) = some app
  kinds : kindsFor app.id s.queue = kinds
  jobs : (s.jobsFor app.id).Perm jobs
  created : ∃ pods, s.createdFor app.id = start ++ pods ∧
    app.reservation.Fills s.manager.placeholders.draws members pods

/-- How far an application has come that was new. It rests at the even places. -/
inductive Standing (app : Application) (start : List PlaceholderPod) (s : System) : Nat → Prop
  | fresh (new : app.state = .new) (shows : Shows s app start [] [] []) : Standing app start s 0
  | submitted (shows : Shows s { app with state := .submitted } start [.accept] [] []) :
      Standing app start s 1
  | accepted (shows : Shows s { app with state := .accepted } start [] [] []) :
      Standing app start s 2
  | asked (shows : Shows s { app with state := .accepted } start [app.afterAccepted.kind] [] []) :
      Standing app start s 3
  | running (skips : ¬ app.MustReserve)
      (shows : Shows s { app with state := .running } start [] [] []) : Standing app start s 4
  | creating (must : app.MustReserve) (members : List TaskGroup) (plan : List (TaskGroup × Nat))
      (left : members ++ planned plan = app.lacking)
      (shows : Shows s { app with state := .reserving } start []
        [.reserve app.reservation plan] members) : Standing app start s 4
  | reserved (must : app.MustReserve)
      (shows : Shows s { app with state := .reserving } start [] [] app.lacking) :
      Standing app start s 4

variable {s later : System} {app current after : Application} {start : List PlaceholderPod}
  {kinds : List EventKind} {jobs : List Job} {members : List TaskGroup} {rank : Nat} {id : String}

theorem About.working (about : About id s later) (working : s.Working)
    (attentive : later.manager.dispatcher.Attentive) : later.Working := by
  refine ⟨attentive, fun begins => ?_⟩
  cases about.pending _ begins with
  | inl named => cases named
  | inr before => exact working.own before

theorem Shows.of_same (shows : Shows s app start kinds jobs members)
    (same : SameFor app.id s later) : Shows later app start kinds jobs members where
  found := same.found.trans shows.found
  kinds := same.kinds.trans shows.kinds
  jobs := same.jobs.trans shows.jobs
  created := by
    rw [same.created, same.draws]
    exact shows.created

theorem Shows.created_of_same (shows : Shows s app start kinds jobs members)
    (same : later.manager.placeholders = s.manager.placeholders) :
    ∃ pods, later.createdFor app.id = start ++ pods ∧
      app.reservation.Fills later.manager.placeholders.draws members pods := by
  rw [createdFor, same]
  exact shows.created

theorem Standing.of_same (standing : Standing app start s rank) (same : SameFor app.id s later) :
    Standing app start later rank := by
  cases standing with
  | fresh new shows => exact .fresh new (shows.of_same same)
  | submitted shows => exact .submitted (shows.of_same same)
  | accepted shows => exact .accepted (shows.of_same same)
  | asked shows => exact .asked (shows.of_same same)
  | running skips shows => exact .running skips (shows.of_same same)
  | creating must members plan left shows =>
    exact .creating must members plan left (shows.of_same same)
  | reserved must shows => exact .reserved must (shows.of_same same)

structure Takes (app : Application) (start : List PlaceholderPod) (s : System) (rank : Nat)
    (event : ApplicationEvent) (rest : List EventKind) (current after : Application)
    (spawned : List Job) : Prop where
  odd : rank % 2 = 1
  found : s.find? (.registered app.id) = some current
  handled : current.handle event = .ok (after, spawned.map .spawn)
  own : ∀ job ∈ spawned, job.application? = some app.id
  next : ∀ later : System, later.find? (.registered app.id) = some after →
    kindsFor app.id later.queue = rest → later.jobsFor app.id = s.jobsFor app.id ++ spawned →
    later.manager.placeholders = s.manager.placeholders → Standing app start later (rank + 1)

theorem Standing.takes (standing : Standing app start s rank) {event : ApplicationEvent}
    {rest : List EventKind} (waiting : kindsFor app.id s.queue = event.kind :: rest) :
    ∃ current after spawned, Takes app start s rank event rest current after spawned := by
  cases standing with
  | fresh new shows => cases waiting.symm.trans shows.kinds
  | accepted shows => cases waiting.symm.trans shows.kinds
  | running skips shows => cases waiting.symm.trans shows.kinds
  | creating must members plan left shows => cases waiting.symm.trans shows.kinds
  | reserved must shows => cases waiting.symm.trans shows.kinds
  | submitted shows =>
    obtain ⟨kind, rfl⟩ := List.cons.inj (waiting.symm.trans shows.kinds)
    refine ⟨_, _, [], rfl, shows.found, Application.handle_accept rfl kind, by simp, ?_⟩
    intro later found kinds jobs same
    refine .accepted ⟨found, kinds, ?_, shows.created_of_same same⟩
    rw [jobs, List.append_nil]
    exact shows.jobs
  | asked shows =>
    obtain ⟨kind, rfl⟩ := List.cons.inj (waiting.symm.trans shows.kinds)
    rw [app.kind_afterAccepted] at kind
    split at kind
    next must =>
      refine ⟨_, _, [.reserve app.reservation app.reservation.plan], rfl, shows.found,
        Application.handle_tryReserve rfl kind, by simp [Job.application?, Application.reservation],
        ?_⟩
      intro later found kinds jobs same
      refine .creating must [] app.reservation.plan app.planned_reservation
        ⟨found, kinds, ?_, shows.created_of_same same⟩
      rw [jobs, shows.jobs.eq_nil]
      exact .refl _
    next skips =>
      refine ⟨_, _, [], rfl, shows.found, Application.handle_run_of_accepted rfl kind, by simp, ?_⟩
      intro later found kinds jobs same
      refine .running skips ⟨found, kinds, ?_, shows.created_of_same same⟩
      rw [jobs, List.append_nil]
      exact shows.jobs

theorem Standing.works {job : Job} (standing : Standing app start s rank)
    (listed : job ∈ s.jobsFor app.id) :
    rank = 4 ∧ app.MustReserve ∧ ∃ members plan, job = .reserve app.reservation plan ∧
      members ++ planned plan = app.lacking ∧
      Shows s { app with state := .reserving } start [] [job] members := by
  have idle (none : (s.jobsFor app.id).Perm []) : False := by
    rw [none.eq_nil] at listed
    cases listed
  cases standing with
  | fresh new shows => exact absurd shows.jobs idle
  | submitted shows => exact absurd shows.jobs idle
  | accepted shows => exact absurd shows.jobs idle
  | asked shows => exact absurd shows.jobs idle
  | running skips shows => exact absurd shows.jobs idle
  | reserved must shows => exact absurd shows.jobs idle
  | creating must members plan left shows =>
    obtain rfl := List.mem_singleton.mp (shows.jobs.mem_iff.mp listed)
    exact ⟨rfl, must, members, plan, rfl, left, shows⟩

theorem Standing.even (standing : Standing app start s rank) (settled : s.Settled) :
    rank % 2 = 0 := by
  have silent (key : String) : kindsFor key s.queue = [] := by
    rw [settled.1]
    rfl
  cases standing with
  | submitted shows => cases (silent _).symm.trans shows.kinds
  | asked shows => cases (silent _).symm.trans shows.kinds
  | _ => rfl

theorem kindsFor_cons (key : String) (sent : ApplicationEvent) (rest : List Entry) :
    kindsFor key (.event (.application sent) :: rest) =
      (if sent.application = key then [sent.kind] else []) ++ kindsFor key rest := by
  by_cases own : sent.application = key
  next => simp [kindsFor, Entry.kind?, own]
  next => simp [kindsFor, Entry.kind?, own]

theorem found_of_update (registry : later.manager.registry = (s.manager.update after).registry)
    (found : s.find? (.registered after.id) = some current) :
    later.find? (.registered after.id) = some after := by
  rw [find?, registry]
  exact s.manager.find?_update after found

theorem sameFor_of_update (registry : later.manager.registry = (s.manager.update after).registry)
    (placeholders : later.manager.placeholders = s.manager.placeholders)
    (kinds : kindsFor id later.queue = kindsFor id s.queue)
    (jobs : later.jobsFor id = s.jobsFor id) (other : id ≠ after.id) : SameFor id s later where
  found := by
    simp only [find?, registry, ResourceManager.update]
    rw [Registry.find?_modify, if_neg other]
  kinds := kinds
  jobs := jobs ▸ .refl _
  created := by rw [createdFor, placeholders, createdFor]
  draws := by rw [placeholders]

structure Delivers (s : System) (after : Application) (rest : List Entry) (spawned : List Job)
    (later : System) : Prop where
  attentive : later.manager.dispatcher.Attentive
  queue : later.queue = rest
  registry : later.manager.registry = (s.manager.update after).registry
  jobs : later.manager.jobs = s.manager.jobs ++ spawned
  placeholders : later.manager.placeholders = s.manager.placeholders
  scheduler : later.manager.scheduler = s.manager.scheduler
  config : later.manager.config = s.manager.config

theorem jobsFor_append {spawned : List Job} (jobs : later.manager.jobs = s.manager.jobs ++ spawned)
    (own : ∀ job ∈ spawned, job.application? = some id) (key : String) :
    later.jobsFor key = s.jobsFor key ++ if key = id then spawned else [] := by
  simp only [jobsFor, jobs, List.filter_append, filter_own Job.application? own,
    Option.some.injEq]

theorem Delivers.about {event : ApplicationEvent} {rest : List Entry} {spawned : List Job}
    (delivers : Delivers s after rest spawned later)
    (queue : s.queue = .event (.application event) :: rest) (own : event.application = after.id)
    (spawns : ∀ job ∈ spawned, job.application? = some after.id) : About after.id s later := by
  constructor
  next =>
    intro entry present
    rw [delivers.queue] at present
    exact .inr (queue ▸ List.mem_cons_of_mem _ present)
  next =>
    intro job listed
    rw [delivers.jobs, List.mem_append] at listed
    exact listed.symm.imp_left (spawns job)
  next =>
    intro key other
    refine sameFor_of_update delivers.registry delivers.placeholders ?_ ?_ other
    next => rw [delivers.queue, queue, kindsFor_cons, if_neg (own ▸ Ne.symm other), List.nil_append]
    next => rw [jobsFor_append delivers.jobs spawns, if_neg other, List.append_nil]

structure Creates (s : System) (job : Job) (pods : List PlaceholderPod) (left : Option Job)
    (later : System) : Prop where
  registry : later.manager.registry = s.manager.registry
  dispatcher : later.manager.dispatcher = s.manager.dispatcher
  scheduler : later.manager.scheduler = s.manager.scheduler
  config : later.manager.config = s.manager.config
  unlimited : later.manager.placeholders.client.limit = none
  created : later.manager.placeholders.client.created =
    s.manager.placeholders.client.created ++ pods
  draws : later.manager.placeholders.draws = s.manager.placeholders.draws
  jobs : ∃ others, s.manager.jobs.Perm (job :: others) ∧
    later.manager.jobs.Perm (left.toList ++ others)

theorem Creates.createdFor {job : Job} {pods : List PlaceholderPod} {left : Option Job}
    (creates : Creates s job pods left later) (own : ∀ pod ∈ pods, pod.application = id)
    (key : String) :
    later.createdFor key = s.createdFor key ++ if key = id then pods else [] := by
  simp only [System.createdFor, PodClient.createdFor, creates.created, List.filter_append,
    filter_own PlaceholderPod.application own]

theorem Creates.jobsFor {job : Job} {pods : List PlaceholderPod} {left : Option Job}
    (creates : Creates s job pods left later) (own : job.application? = some id)
    (goesOn : ∀ rest ∈ left, rest.application? = some id) (key : String) :
    ∃ others, (s.jobsFor key).Perm ((if key = id then [job] else []) ++ others) ∧
      (later.jobsFor key).Perm ((if key = id then left.toList else []) ++ others) := by
  obtain ⟨others, touched, kept⟩ := creates.jobs
  have alone : ∀ worked ∈ [job], worked.application? = some id := by simpa using own
  have further : ∀ rest ∈ left.toList, rest.application? = some id := by simpa using goesOn
  have before := touched.filter fun job => job.application? = some key
  have after := kept.filter fun job => job.application? = some key
  rw [← List.singleton_append, List.filter_append, filter_own Job.application? alone] at before
  rw [List.filter_append, filter_own Job.application? further] at after
  simp only [Option.some.injEq] at before after
  exact ⟨_, before, after⟩

theorem Creates.jobsFor_own {job : Job} {pods : List PlaceholderPod} {left : Option Job}
    (creates : Creates s job pods left later) (own : job.application? = some id)
    (goesOn : ∀ rest ∈ left, rest.application? = some id) (only : (s.jobsFor id).Perm [job]) :
    (later.jobsFor id).Perm left.toList := by
  obtain ⟨others, before, after⟩ := creates.jobsFor own goesOn id
  rw [if_pos rfl] at before after
  have alone : others = [] := (before.symm.trans only).cons_inv.eq_nil
  rwa [alone, List.append_nil] at after

theorem Creates.queue {job : Job} {pods : List PlaceholderPod} {left : Option Job}
    (creates : Creates s job pods left later) : later.queue = s.queue := by
  rw [System.queue, creates.dispatcher, System.queue]

theorem Creates.found {job : Job} {pods : List PlaceholderPod} {left : Option Job}
    (creates : Creates s job pods left later) (key : String) :
    later.find? (.registered key) = s.find? (.registered key) := by
  simp only [find?, creates.registry]

theorem Creates.about {job : Job} {pods : List PlaceholderPod} {left : Option Job}
    (creates : Creates s job pods left later) (own : job.application? = some id)
    (goesOn : ∀ rest ∈ left, rest.application? = some id)
    (placed : ∀ pod ∈ pods, pod.application = id) : About id s later := by
  constructor
  next => exact fun entry present => .inr (creates.queue ▸ present)
  next =>
    obtain ⟨others, touched, kept⟩ := creates.jobs
    intro job listed
    cases List.mem_append.mp (kept.mem_iff.mp listed) with
    | inl rest => exact .inl (goesOn job (Option.mem_toList.mp rest))
    | inr other => exact .inr (touched.mem_iff.mpr (List.mem_cons_of_mem _ other))
  next =>
    intro key other
    obtain ⟨others, before, after⟩ := creates.jobsFor own goesOn key
    rw [if_neg other] at before after
    refine ⟨creates.found key, by rw [creates.queue], after.trans before.symm, ?_, creates.draws⟩
    rw [creates.createdFor placed, if_neg other, List.append_nil]

theorem Creates.shows {job : Job} {pods : List PlaceholderPod} {left : Option Job}
    {made : List TaskGroup} (creates : Creates s job pods left later)
    (shows : Shows s app start kinds [job] members) (own : job.application? = some app.id)
    (goesOn : ∀ rest ∈ left, rest.application? = some app.id)
    (fills : app.reservation.Fills s.manager.placeholders.draws made pods) :
    Shows later app start kinds left.toList (members ++ made) where
  found := (creates.found app.id).trans shows.found
  kinds := by
    rw [creates.queue]
    exact shows.kinds
  jobs := creates.jobsFor_own own goesOn shows.jobs
  created := by
    obtain ⟨sofar, before, filled⟩ := shows.created
    have placed : ∀ pod ∈ pods, pod.application = app.id := fills.own
    refine ⟨sofar ++ pods, ?_, creates.draws ▸ List.rel_append filled fills⟩
    rw [creates.createdFor placed, if_pos rfl, before, List.append_assoc]

def request (s : System) (app : Application) : UpdateRequest :=
  s.manager.request (app.description app.ask)

structure Emits (s : System) (after : Application) (sent : ApplicationEvent) (later : System) :
    Prop where
  attentive : later.manager.dispatcher.Attentive
  queue : later.queue = s.queue ++ [.event (.application sent)]
  registry : later.manager.registry = (s.manager.update after).registry
  jobs : later.manager.jobs = s.manager.jobs
  placeholders : later.manager.placeholders = s.manager.placeholders
  config : later.manager.config = s.manager.config

theorem Emits.heard {sent : ApplicationEvent} (emits : Emits s after sent later) (key : String) :
    kindsFor key later.queue =
      kindsFor key s.queue ++ if sent.application = key then [sent.kind] else [] := by
  rw [emits.queue, kindsFor, List.filterMap_append]
  congr 1
  exact (kindsFor_cons key sent []).trans (List.append_nil _)

theorem Emits.about {sent : ApplicationEvent} (emits : Emits s after sent later)
    (own : sent.application = after.id) : About after.id s later := by
  constructor
  next =>
    intro entry present
    rw [emits.queue, List.mem_append, List.mem_singleton] at present
    rcases present with before | rfl
    next => exact .inr before
    next => exact .inl (by simp [Entry.kind?, own])
  next => exact fun job listed => .inr (emits.jobs ▸ listed)
  next =>
    intro key other
    refine sameFor_of_update emits.registry emits.placeholders ?_ ?_ other
    next => rw [emits.heard, if_neg (own ▸ Ne.symm other), List.append_nil]
    next => rw [jobsFor, emits.jobs, jobsFor]

theorem Emits.shows {sent : ApplicationEvent} (emits : Emits s after sent later)
    (shows : Shows s current start [] jobs members) (sameId : after.id = current.id)
    (own : sent.application = current.id)
    (reservation : after.reservation = current.reservation) :
    Shows later after start [sent.kind] jobs members where
  found := found_of_update emits.registry (sameId ▸ shows.found)
  kinds := by rw [emits.heard, sameId, shows.kinds, if_pos own, List.nil_append]
  jobs := by
    rw [jobsFor, emits.jobs, sameId]
    exact shows.jobs
  created := by
    rw [createdFor, emits.placeholders, sameId, reservation]
    exact shows.created

end System

end GangScheduling
