import GangScheduling.Proofs.System.Registered

set_option autoImplicit false

namespace GangScheduling

namespace System

variable {id : String} {app : Application} {s : System} {refused further : Prop}

def Awaits (s : System) (id : String) (kind : EventKind) : Prop :=
  ∃ arguments, .event (.application { application := id, kind, arguments }) ∈ s.queue

def Rejected (id : String) (log : List Observation) : Prop :=
  ∃ response, .answered response ∈ log ∧
    ∃ rejection ∈ response.rejected, rejection.application = id

/-- The states of an application that was submitted and not accepted, with what is due in them once
the application was refused. -/
inductive Sinking (id : String) (refused : Prop) (s : System) : ApplicationState → Prop
  | submitted (due : refused → s.Awaits id .fail ∨ s.Awaits id .reject) :
      Sinking id refused s .submitted
  | rejected (due : s.Awaits id .fail) : Sinking id refused s .rejected
  | failed : Sinking id refused s .failed

theorem Sinking.weaken {state : ApplicationState} (sinking : Sinking id refused s state)
    (narrower : further → refused) : Sinking id further s state := by
  cases sinking with
  | submitted due => exact .submitted fun h => due (narrower h)
  | rejected due => exact .rejected due
  | failed => exact .failed

theorem awaits_step {kind : EventKind} {move : Move} (found : s.find? (.registered id) = some app)
    (serves : s.Serves) (legal : app.canHandle kind = true)
    (unseen : ∀ before event, .handled (.registered id) before event ∉ s.observe move)
    (awaits : s.Awaits id kind) : (s.step move).Awaits id kind := by
  obtain ⟨arguments, queued⟩ := awaits
  let event : ApplicationEvent := { application := id, kind, arguments }
  have waiting : .event (.application event) ∈ s.queue := queued
  cases kept_or_handled found serves legal waiting move with
  | inl kept => exact ⟨arguments, kept⟩
  | inr handled => exact absurd handled (unseen _ _)

theorem sinking_keeps {move : Move} (found : s.find? (.registered id) = some app)
    (serves : s.Serves) (sinking : Sinking id refused s app.state)
    (unseen : ∀ before event, .handled (.registered id) before event ∉ s.observe move) :
    Sinking id (refused ∨ Rejected id (s.observe move)) (s.step move) app.state := by
  have kept (kind : EventKind) (legal : (Lifecycle.next app.state kind).isSome = true) :
      s.Awaits id kind → (s.step move).Awaits id kind :=
    awaits_step found serves legal unseen
  generalize app.state = state at sinking kept
  -- What is due is legal in the state, so without being handled it is still in the queue.
  cases sinking with
  | submitted due =>
    refine .submitted ?_
    rintro (before | ⟨response, answered, rejection, member, rfl⟩)
    next => exact (due before).imp (kept .fail (by decide)) (kept .reject (by decide))
    next => exact .inr ⟨[], queued_of_rejection found serves answered member⟩
  | rejected due => exact .rejected (kept .fail (by decide) due)
  | failed => exact .failed

theorem sinking_step {move : Move} (found : s.find? (.registered id) = some app)
    (serves : s.Serves) (sinking : Sinking id refused s app.state)
    (stays : move ≠ .unregister id)
    (unaccepted : ∀ before event, .handled (.registered id) before event ∈ s.observe move →
      event.kind ≠ .accept) :
    ∃ later, (s.step move).find? (.registered id) = some later ∧
      Sinking id (refused ∨ Rejected id (s.observe move)) (s.step move) later.state := by
  cases meets_step found move stays with
  | keeps later present sameState unseen =>
    refine ⟨later, present, ?_⟩
    rw [sameState]
    exact sinking_keeps found serves sinking unseen
  | handles event after effects present handled only owed =>
    refine ⟨after, present, ?_⟩
    have route := (Application.handle_ok handled).1
    have refusal := unaccepted app event ((only app event).mpr ⟨rfl, rfl⟩)
    have failing (rejected : event.kind = .reject) : (s.step move).Awaits id .fail := by
      obtain ⟨reason, sent⟩ := Application.failure_of_handle handled rejected
      have due := owed serves.1 _ (.sent _ sent)
      rw [Registry.id_of_find? found] at due
      exact ⟨[reason], due⟩
    generalize app.state = state at sinking route
    generalize after.state = reached at route ⊢
    -- Apart from being accepted, each way on leads down to a failure or has it sent.
    cases sinking with
    | submitted =>
      rcases Lifecycle.next_submitted route with accept | ⟨reject, rfl⟩ | ⟨-, rfl⟩
      next => exact absurd accept refusal
      next => exact .rejected (failing reject)
      next => exact .failed
    | rejected =>
      obtain ⟨-, rfl⟩ := Lifecycle.next_rejected route
      exact .failed
    | failed =>
      cases Lifecycle.next_failed route
      exact .failed

def Undisturbed (id : String) (moves : List Move) : Prop :=
  ∀ move ∈ moves, move ≠ .stop ∧ move ≠ .unregister id

def Unaccepted (id : String) (log : List Observation) : Prop :=
  ∀ before event, .handled (.registered id) before event ∈ log → event.kind ≠ .accept

theorem Undisturbed.cons {move : Move} {rest : List Move}
    (undisturbed : Undisturbed id (move :: rest)) :
    move ≠ .stop ∧ move ≠ .unregister id ∧ Undisturbed id rest := by
  obtain ⟨goesOn, stays⟩ := undisturbed move List.mem_cons_self
  exact ⟨goesOn, stays, fun later member => undisturbed later (List.mem_cons_of_mem _ member)⟩

theorem Unaccepted.append {first second : List Observation}
    (unaccepted : Unaccepted id (first ++ second)) :
    Unaccepted id first ∧ Unaccepted id second :=
  ⟨fun before event seen => unaccepted before event (List.mem_append_left _ seen),
    fun before event seen => unaccepted before event (List.mem_append_right _ seen)⟩

theorem sinking_run {moves : List Move} (found : s.find? (.registered id) = some app)
    (serves : s.Serves) (sinking : Sinking id refused s app.state)
    (undisturbed : Undisturbed id moves) (unaccepted : Unaccepted id (s.observed moves)) :
    ∃ final, (s.run moves).find? (.registered id) = some final ∧
      Sinking id (refused ∨ Rejected id (s.observed moves)) (s.run moves) final.state := by
  -- A refusal may come at any time, so what is refused so far is generalized with the state.
  induction moves generalizing s app refused with
  | nil =>
    refine ⟨app, found, sinking.weaken ?_⟩
    rintro (before | ⟨response, answered, -⟩)
    next => exact before
    next => cases answered
  | cons move rest ih =>
    obtain ⟨goesOn, stays, restUndisturbed⟩ := undisturbed.cons
    obtain ⟨now, later⟩ := unaccepted.append
    obtain ⟨middle, present, sinks⟩ := sinking_step found serves sinking stays now
    obtain ⟨final, reached, sunk⟩ :=
      ih present (serves_step serves move goesOn) sinks restUndisturbed later
    refine ⟨final, reached, sunk.weaken ?_⟩
    rintro (before | ⟨response, answered, rejected⟩)
    next => exact .inl (.inl before)
    next =>
      cases List.mem_append.mp answered with
      | inl first => exact .inl (.inr ⟨response, first, rejected⟩)
      | inr further => exact .inr ⟨response, further, rejected⟩

theorem recovering_run {moves : List Move} (found : s.find? (.registered id) = some app)
    (recovering : app.state = .recovering) (undisturbed : Undisturbed id moves)
    (unaccepted : Unaccepted id (s.observed moves)) :
    ∃ final, (s.run moves).find? (.registered id) = some final ∧ final.state = .recovering := by
  induction moves generalizing s app with
  | nil => exact ⟨app, found, recovering⟩
  | cons move rest ih =>
    obtain ⟨-, stays, restUndisturbed⟩ := undisturbed.cons
    obtain ⟨now, later⟩ := unaccepted.append
    cases meets_step found move stays with
    | keeps other present sameState =>
      exact ih present (sameState.trans recovering) restUndisturbed later
    | handles event after effects present handled only =>
      have route := (Application.handle_ok handled).1
      rw [recovering] at route
      have accept := Lifecycle.next_recovering route
      exact absurd accept (now app event ((only app event).mpr ⟨rfl, rfl⟩))

theorem Sinking.settled {state : ApplicationState} (sinking : Sinking id refused s state)
    (hasRefused : refused)
    (delivered : ∀ event, .event (.application event) ∈ s.queue → event.application ≠ id) :
    state = .failed := by
  have none (kind : EventKind) : ¬ s.Awaits id kind := by
    rintro ⟨arguments, queued⟩
    exact delivered _ queued rfl
  cases sinking with
  | submitted due => exact ((due hasRefused).elim (none .fail) (none .reject)).elim
  | rejected due => exact (none .fail due).elim
  | failed => rfl

/-- An application that the scheduler refuses, and that left `new` by the event, has failed once its
events are delivered if it was submitted. If it recovers instead, neither a failure nor a rejection
is legal and it stays as it is. -/
theorem state_of_refused {id : String} {s : System} {app : Application} {event : ApplicationEvent}
    {leaving : Move} {moves : List Move} (found : s.find? (.registered id) = some app)
    (fresh : app.state = .new) (serves : s.Serves)
    (left : .handled (.registered id) app event ∈ s.observe leaving)
    (undisturbed : Undisturbed id moves)
    (unaccepted : Unaccepted id ((s.step leaving).observed moves))
    (refused : (∃ fault, s.manager.scheduler.available = .error fault) ∨
      Rejected id ((s.step leaving).observed moves))
    (delivered : ∀ event, .event (.application event) ∈ ((s.step leaving).run moves).queue →
      event.application ≠ id) :
    ∃ final, ((s.step leaving).run moves).find? (.registered id) = some final ∧
      final.state = if event.kind = .submit then .failed else .recovering := by
  have stays : leaving ≠ .unregister id := by
    rintro rfl
    cases left
  have goesOn : leaving ≠ .stop := by
    rintro rfl
    cases left
  have servesOn := serves_step serves leaving goesOn
  cases meets_step found leaving stays with
  | keeps other present sameState unseen => exact absurd left (unseen app event)
  | handles taken after effects present handled only owed =>
    obtain ⟨-, rfl⟩ := (only app event).mp left
    have route := (Application.handle_ok handled).1
    rw [fresh] at route
    rcases Lifecycle.next_new route with ⟨submit, reached⟩ | ⟨recover, reached⟩
    next =>
      -- A scheduler that is not available has sent the failure before the handler returns.
      have due (unavailable : ∃ fault, s.manager.scheduler.available = .error fault) :
          (s.step leaving).Awaits id .fail ∨ (s.step leaving).Awaits id .reject := by
        obtain ⟨fault, unavailable⟩ := unavailable
        obtain ⟨description, named, submitted⟩ :=
          Application.submission_of_handle handled (.inl submit)
        have queued := owed serves.1 _ (.refused description fault submitted unavailable)
        rw [named, Registry.id_of_find? found] at queued
        exact .inl ⟨[fault.message], queued⟩
      have sinking : Sinking id (∃ fault, s.manager.scheduler.available = .error fault)
          (s.step leaving) after.state := by
        rw [reached]
        exact .submitted due
      obtain ⟨final, last, sunk⟩ := sinking_run present servesOn sinking undisturbed unaccepted
      exact ⟨final, last, by simpa [submit] using sunk.settled refused delivered⟩
    next =>
      obtain ⟨final, last, still⟩ := recovering_run present reached undisturbed unaccepted
      exact ⟨final, last, by simpa [recover] using still⟩

def lone : Manifest :=
  { id := "app-1", queue := "root.q", user := "u" }

def offline : System :=
  { manager :=
      { config := { workerThreads := 1 }
        registry := Registry.empty.add lone
        dispatcher :=
          { running := true, consumers := [(0, .waiting)], current := some 0, spawned := 1
            handlers := [(.application, ())] }
        scheduler := { failure := some "down" } } }

def submission : Move := .schedule (.registered "app-1")

def recovery : Move :=
  .handle (.registered "app-1") { application := "app-1", kind := .recover }

theorem serves_offline : offline.Serves := ⟨rfl, rfl⟩

theorem delivered_of_empty (empty : s.queue = []) :
    ∀ event, .event (.application event) ∈ s.queue → event.application ≠ id := by
  intro event queued
  rw [empty] at queued
  cases queued

theorem unaccepted_submission :
    Unaccepted "app-1" ((offline.step submission).observed [.advance]) := by
  have log : ∃ app event, event.kind = .fail ∧ (offline.step submission).observed [.advance] =
      [.handled (.registered "app-1") app event] := ⟨_, _, rfl, rfl⟩
  obtain ⟨app, event, kind, only⟩ := log
  rw [only]
  intro before other seen
  cases List.mem_singleton.mp seen
  simp [kind]

theorem state_of_refused_submission :
    offline.Serves ∧ (∃ fault, offline.manager.scheduler.available = .error fault) ∧
      ((offline.step submission).run [.advance]).queue = [] ∧
      ∃ final, ((offline.step submission).run [.advance]).find? (.registered "app-1") = some final ∧
        final.state = .failed := by
  have found : offline.find? (.registered "app-1") = some lone.application := rfl
  have left : .handled (.registered "app-1") lone.application (.submit "app-1") ∈
      offline.observe submission := .tail _ (.head _)
  have undisturbed : Undisturbed "app-1" [.advance] := by simp [Undisturbed]
  have unavailable : ∃ fault, offline.manager.scheduler.available = .error fault := ⟨_, rfl⟩
  have empty : ((offline.step submission).run [.advance]).queue = [] := rfl
  refine ⟨serves_offline, unavailable, empty, ?_⟩
  exact state_of_refused found rfl serves_offline left undisturbed unaccepted_submission
    (.inl unavailable) (delivered_of_empty empty)

theorem recovery_strands_application :
    offline.Serves ∧ (∃ fault, offline.manager.scheduler.available = .error fault) ∧
      ((offline.find? (.registered "app-1")).map (·.state) = some .new) ∧
      ((offline.step recovery).run [.advance]).queue = [] ∧
      (((offline.step recovery).run [.advance]).find? (.registered "app-1")).map (·.state) =
        some .recovering :=
  ⟨serves_offline, ⟨_, rfl⟩, rfl, rfl, rfl⟩

end System

end GangScheduling
