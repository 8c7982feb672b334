import GangScheduling.Proofs.ResourceManager.FollowUp
import GangScheduling.Proofs.System.Degradation
import Mathlib.Algebra.Group.Action.Defs
import Mathlib.Algebra.Order.BigOperators.Group.List
import Mathlib.Algebra.Order.Ring.Nat

set_option autoImplicit false

namespace GangScheduling

def EventKind.followUps : EventKind → Nat
  | .submit | .recover | .reject | .tryReserve | .updateReservation => 1
  | _ => 0

def Event.followUps : Event → Nat
  | .application event => event.kind.followUps
  | .task _ => 0

def Entry.followUps : Entry → Nat
  | .event queued => queued.followUps
  | .stop => 0

def Job.followUps : Job → Nat
  | .reserve .. => 1
  | .cleanUp _ thenRun | .delete _ _ thenRun => thenRun.toNat
  | .beginLoop => 0

theorem EventKind.followUps_le (kind : EventKind) : kind.followUps ≤ 1 := by
  cases kind <;> decide

theorem Event.followUps_le (event : Event) : event.followUps ≤ 1 := by
  cases event with
  | application event => exact event.kind.followUps_le
  | task event => exact Nat.zero_le 1

theorem Entry.followUps_le (entry : Entry) : entry.followUps ≤ 1 := by
  cases entry with
  | stop => exact Nat.zero_le 1
  | event queued => exact queued.followUps_le

theorem sum_followUps_le (queue : List Entry) :
    (queue.map Entry.followUps).sum ≤ queue.length := by
  induction queue with
  | nil => exact Nat.le_refl 0
  | cons entry rest ih =>
    have once := entry.followUps_le
    simp only [List.map_cons, List.sum_cons, List.length_cons]
    omega

theorem sum_followUps_of_final {raised : List Event}
    (final : ∀ event ∈ raised, event.followUps = 0) :
    ((raised.map Entry.event).map Entry.followUps).sum = 0 := by
  rw [List.sum_eq_zero_iff]
  intro count member
  obtain ⟨_, queued, rfl⟩ := List.mem_map.mp member
  obtain ⟨event, among, rfl⟩ := List.mem_map.mp queued
  exact final event among

/-- The steps that background work takes at most, with the delivery of what follows from it. A pod
that it is to create is tracked then, and may have to be deleted. -/
def Job.rank : Job → Nat
  | .reserve _ plan => 2 * System.weight plan + 5
  | .cleanUp _ thenRun => 3 * thenRun.toNat + 2
  | .delete _ pods thenRun => pods.length + 3 * thenRun.toNat + 1
  | .beginLoop => 0

/-- An event takes a delivery, and a clean-up may follow from it. If other events follow, so may a
reservation, for which the demand of all applications counts. -/
def Entry.rank (demand : Nat) (entry : Entry) : Nat :=
  3 + (2 * demand + 3) * entry.followUps

def Application.demand (app : Application) : Nat :=
  (app.groups.map fun group => group.minMember.toNat + 1).sum

def Registry.demand (registry : Registry) : Nat :=
  (registry.toList.map Application.demand).sum

theorem Registry.map_modify {B : Type} {registry : Registry} {app after : Application}
    (f : Application → B) (present : app ∈ registry.toList) (sameId : after.id = app.id)
    (same : f after = f app) :
    (registry.modify after.id fun _ => after).toList.map f = registry.toList.map f := by
  simp only [modify, List.map_map]
  refine List.map_congr_left fun other member => ?_
  by_cases here : other.id = after.id
  next =>
    cases eq_of_id_eq member present (here.trans sameId)
    simp [here, same]
  next => simp [here]

namespace Application

variable {app : Application} {kind : EventKind} {raised : List Event} {spawned : List Job}

theorem Follows.paid (follows : Follows app kind raised spawned) :
    raised.length + (spawned.map Job.followUps).sum ≤ kind.followUps := by
  cases follows with
  | nothing => exact Nat.zero_le _
  | acceptance fresh => rcases fresh with rfl | rfl <;> exact Nat.le_refl 1
  | failure reason refused => rcases refused with rfl | rfl | rfl <;> exact Nat.le_refl 1
  | run changed => subst changed; exact Nat.le_refl 1
  | reserve entered => subst entered; exact Nat.le_refl 1
  | cleanUp ended => rcases ended with rfl | rfl <;> exact Nat.le_refl 0

theorem Follows.final (follows : Follows app kind raised spawned) :
    ∀ event ∈ raised, event.followUps = 0 := by
  intro event member
  cases follows with
  | acceptance fresh => cases List.mem_singleton.mp member; rfl
  | failure reason refused => cases List.mem_singleton.mp member; rfl
  | run changed => cases List.mem_singleton.mp member; rfl
  | _ => cases member

theorem weight_plan (app : Application) : System.weight app.reservation.plan ≤ app.demand := by
  simp only [System.weight, Reservation.plan, List.map_map]
  exact List.sum_le_sum fun group _ => Nat.succ_le_succ (Nat.sub_le _ _)

theorem Follows.ranked (follows : Follows app kind raised spawned) {demand : Nat}
    (most : app.demand ≤ demand) :
    3 * raised.length + (spawned.map Job.rank).sum < 3 + (2 * demand + 3) * kind.followUps := by
  have planned := app.weight_plan
  cases follows with
  | nothing => exact Nat.lt_add_right _ (Nat.succ_pos 2)
  | acceptance fresh => rcases fresh with rfl | rfl <;> simp [EventKind.followUps]
  | failure reason refused => rcases refused with rfl | rfl | rfl <;> simp [EventKind.followUps]
  | run changed => subst changed; simp [EventKind.followUps]
  | reserve entered =>
    subst entered
    simp only [List.length_nil, List.map_cons, List.map_nil, List.sum_cons, List.sum_nil, Job.rank,
      EventKind.followUps]
    omega
  | cleanUp ended => rcases ended with rfl | rfl <;> simp [Job.rank, EventKind.followUps]

end Application

namespace ResourceManager

variable {m next : ResourceManager} {entry : Entry} {rest : List Entry}

def load (m : ResourceManager) : Nat :=
  m.dispatcher.queue.length + (m.dispatcher.queue.map Entry.followUps).sum

theorem Consumes.load_lt (consumed : Consumes m next entry rest)
    (first : m.dispatcher.queue = entry :: rest) : next.load < m.load := by
  cases consumed with
  | passes registry queue jobs =>
    simp only [load, first, queue, List.map_cons, List.sum_cons, List.length_cons]
    omega
  | handles event app after effects raised spawned same found handled registry queue jobs follows =>
    subst same
    have paid := follows.paid
    simp only [load, first, queue, List.map_append, List.map_cons, List.sum_append, List.sum_cons,
      List.length_append, List.length_cons, List.length_map, sum_followUps_of_final follows.final,
      Entry.followUps, Event.followUps]
    omega

theorem advanceUpTo_empties {steps : Nat} (attentive : m.dispatcher.Attentive)
    (enough : m.load ≤ steps) :
    (m.advanceUpTo (fun _ => false) steps).dispatcher.queue = [] := by
  induction steps generalizing m with
  | zero =>
    have none : m.dispatcher.queue.length = 0 := by
      unfold load at enough
      omega
    exact List.eq_nil_of_length_eq_zero none
  | succ steps ih =>
    cases queue : m.dispatcher.queue with
    | nil => simpa only [advanceUpTo, advance_idle attentive queue] using queue
    | cons entry rest =>
      obtain ⟨next, advanced, around, consumed⟩ := consumes_of_queue attentive queue
      have less := consumed.load_lt queue
      simp only [advanceUpTo, advanced]
      exact ih around.attentive (by omega)

theorem drain_empties (attentive : m.dispatcher.Attentive) :
    (m.drain fun _ => false).dispatcher.queue = [] := by
  apply advanceUpTo_empties attentive
  have raised := sum_followUps_le m.dispatcher.queue
  simp only [load, Dispatcher.pending]
  omega

end ResourceManager

namespace System

open ResourceManager (Consumes Around)

variable {s later : System} {move : Move} {moves : List Move}

structure Working (s : System) : Prop where
  attentive : s.manager.dispatcher.Attentive
  own : .beginLoop ∉ s.manager.jobs

inductive Proceeds (s later : System) : Prop
  | consumes (entry : Entry) (rest : List Entry) (first : s.queue = entry :: rest)
      (around : Around s.manager later.manager)
      (consumed : Consumes s.manager later.manager entry rest)
  | works (job : Job) (jobs others : List Job) (own : job ≠ .beginLoop)
      (same : later.manager = { (s.manager.stepJob job).1 with jobs })
      (held : s.manager.jobs.Perm (job :: others))
      (kept : jobs.Perm ((s.manager.stepJob job).2.toList ++ others))

theorem proceeds_advance (working : s.Working) :
    s.queue = [] ∧ s.step .advance = s ∨ s.queue ≠ [] ∧ Proceeds s (s.step .advance) := by
  cases queue : s.queue with
  | nil =>
    left
    refine ⟨rfl, ?_⟩
    simp only [step, onManager, ResourceManager.advance_idle working.attentive queue,
      Option.getD_none]
  | cons entry rest =>
    right
    obtain ⟨next, advanced, around, consumed⟩ :=
      ResourceManager.consumes_of_queue working.attentive queue
    refine ⟨by simp, ?_⟩
    simp only [step, onManager, advanced, Option.getD_some]
    exact .consumes entry rest queue around consumed

theorem proceeds_work (working : s.Working) (index : Nat) :
    s.manager.jobs[index]? = none ∧ s.step (.work index) = s ∨
      (∃ job, s.manager.jobs[index]? = some job) ∧ Proceeds s (s.step (.work index)) := by
  cases held : s.manager.jobs[index]? with
  | none =>
    left
    refine ⟨rfl, ?_⟩
    simp only [step, onManager, (ResourceManager.work_idle (.inl held)).1]
  | some job =>
    right
    have own : job ≠ .beginLoop := by
      rintro rfl
      exact working.own (List.mem_of_getElem? held)
    obtain ⟨jobs, others, same, touched, kept⟩ := ResourceManager.work_perm held own
    exact ⟨⟨job, rfl⟩, .works job jobs others own same touched kept⟩

theorem proceeds_of_internal (working : s.Working) (internal : move.isInternal = true) :
    s.step move = s ∨ Proceeds s (s.step move) := by
  cases move with
  | advance => exact (proceeds_advance working).imp (fun idle => idle.2) fun busy => busy.2
  | work index => exact (proceeds_work working index).imp (fun idle => idle.2) fun busy => busy.2
  | _ => cases internal

theorem Proceeds.working (working : s.Working) (proceeds : Proceeds s later) : later.Working := by
  cases proceeds with
  | consumes entry rest first around consumed =>
    refine ⟨around.attentive, ?_⟩
    cases consumed with
    | passes registry queue jobs =>
      rw [jobs]
      exact working.own
    | handles event app after effects raised spawned same found handled registry queue jobs follows =>
      rw [jobs, List.mem_append, not_or]
      refine ⟨working.own, ?_⟩
      cases follows <;> simp
  | works job jobs others own same held kept =>
    have frame := ResourceManager.extends_stepJob s.manager own fun _ => False
    constructor
    next =>
      rw [same]
      exact working.attentive.of_same frame.running frame.consumers frame.handlers
    next =>
      rw [same]
      change .beginLoop ∉ jobs
      rw [kept.mem_iff, List.mem_append, not_or]
      constructor
      next =>
        have works := ResourceManager.works_of_stepJob s.manager own
        generalize s.manager.milestone? job = milestone at works
        generalize (s.manager.stepJob job).2 = left at works ⊢
        cases works <;> simp
      next =>
        intro other
        exact working.own (held.mem_iff.mpr (.tail _ other))

/-- A step in which at most one event follows from each, at once or through the work that it leaves
behind, and none from an event that followed itself. -/
inductive Charged (s later : System) : Prop
  | still (same : later = s)
  | handed (entry : Entry) (rest : List Entry) (raised : List Event) (spawned : List Job)
      (first : s.queue = entry :: rest) (queue : later.queue = rest ++ raised.map .event)
      (jobs : later.manager.jobs = s.manager.jobs ++ spawned)
      (delivered : later.manager.dispatcher.delivered ≤ s.manager.dispatcher.delivered + 1)
      (paid : raised.length + (spawned.map Job.followUps).sum ≤ entry.followUps)
      (final : ∀ event ∈ raised, event.followUps = 0)
  | worked (job : Job) (others : List Job) (left : Option Job) (raised : List Event)
      (held : s.manager.jobs.Perm (job :: others))
      (kept : later.manager.jobs.Perm (left.toList ++ others))
      (queue : later.queue = s.queue ++ raised.map .event)
      (delivered : later.manager.dispatcher.delivered = s.manager.dispatcher.delivered)
      (paid : raised.length + (left.toList.map Job.followUps).sum ≤ job.followUps)
      (final : ∀ event ∈ raised, event.followUps = 0)

theorem paid_stepJob (m : ResourceManager) {job : Job} (own : job ≠ .beginLoop) :
    (ResourceManager.closing job).length + ((m.stepJob job).2.toList.map Job.followUps).sum ≤
      job.followUps := by
  cases job with
  | beginLoop => exact absurd rfl own
  | reserve reservation plan =>
    match plan with
    | [] => exact Nat.zero_le 1
    | (group, 0) :: rest => exact Nat.le_refl 1
    | (group, missing + 1) :: rest =>
      simp only [ResourceManager.stepJob]
      split <;> exact Nat.le_refl 1
  | cleanUp application thenRun => cases thenRun <;> exact Nat.le_refl _
  | delete application pods thenRun =>
    cases thenRun with
    | true => cases pods <;> exact Nat.le_refl 1
    | false => cases pods <;> exact Nat.le_refl 0

theorem final_closing {job : Job} {event : Event} (member : event ∈ ResourceManager.closing job) :
    event.followUps = 0 := by
  unfold ResourceManager.closing at member
  split at member
  next => cases List.mem_singleton.mp member; rfl
  next => cases member

theorem Proceeds.charged (working : s.Working) (proceeds : Proceeds s later) : Charged s later := by
  cases proceeds with
  | consumes entry rest first around consumed =>
    cases consumed with
    | passes registry queue jobs =>
      exact .handed entry rest [] [] first (by simpa [System.queue] using queue)
        (by simpa using jobs) around.delivered (Nat.zero_le _) (by simp)
    | handles event app after effects raised spawned same found handled registry queue jobs follows =>
      subst same
      exact .handed _ rest raised spawned first queue jobs around.delivered follows.paid
        follows.final
  | works job jobs others own same held kept =>
    have adds := ResourceManager.adds_stepJob working.attentive.running own
    refine .worked job others _ (ResourceManager.closing job) held (by rw [same]; exact kept) ?_ ?_
      (paid_stepJob s.manager own) fun event => final_closing
    next =>
      rw [System.queue, same]
      exact adds.queue
    next =>
      rw [same]
      exact adds.delivered

def outstanding (s : System) : Nat :=
  (s.queue.map Entry.followUps).sum + (s.manager.jobs.map Job.followUps).sum

theorem Charged.bound (charged : Charged s later) :
    later.manager.dispatcher.delivered + later.queue.length + later.outstanding ≤
      s.manager.dispatcher.delivered + s.queue.length + s.outstanding := by
  cases charged with
  | still same => exact Nat.le_of_eq (by rw [same])
  | handed entry rest raised spawned first queue jobs delivered paid final =>
    simp only [outstanding, first, queue, jobs, List.map_append, List.map_cons, List.sum_append,
      List.sum_cons, List.length_append, List.length_cons, List.length_map, sum_followUps_of_final final]
    omega
  | worked job others left raised held kept queue delivered paid final =>
    have before := (held.map Job.followUps).sum_nat
    have after := (kept.map Job.followUps).sum_nat
    simp only [List.map_append, List.map_cons, List.sum_append, List.sum_cons] at before after
    simp only [outstanding, queue, delivered, before, after, List.map_append, List.sum_append,
      List.length_append, List.length_map, sum_followUps_of_final final]
    omega

theorem working_run {P : System → Prop}
    (kept : ∀ s later : System, s.Working → P s → Proceeds s later → P later)
    (working : s.Working) (initial : P s) (internal : ∀ move ∈ moves, move.isInternal = true) :
    (s.run moves).Working ∧ P (s.run moves) := by
  induction moves generalizing s with
  | nil => exact ⟨working, initial⟩
  | cons move rest ih =>
    have later (move : Move) (member : move ∈ rest) : move.isInternal = true :=
      internal move (.tail _ member)
    change ((s.step move).run rest).Working ∧ P ((s.step move).run rest)
    rcases proceeds_of_internal working (internal move List.mem_cons_self) with same | proceeds
    next =>
      rw [same]
      exact ih working initial later
    next => exact ih (proceeds.working working) (kept s _ working initial proceeds) later

theorem charged_of_internal (working : s.Working) (internal : move.isInternal = true) :
    Charged s (s.step move) :=
  (proceeds_of_internal working internal).elim .still fun proceeds => proceeds.charged working

theorem rank_stepJob (m : ResourceManager) {job : Job} (own : job ≠ .beginLoop) :
    3 * (ResourceManager.closing job).length + ((m.stepJob job).2.toList.map Job.rank).sum +
        (m.stepJob job).1.placeholders.held < job.rank + m.placeholders.held := by
  cases job with
  | beginLoop => exact absurd rfl own
  | reserve reservation plan =>
    match plan with
    | [] => simp [ResourceManager.closing, ResourceManager.stepJob, Job.rank]
    | (group, 0) :: rest =>
      simp [ResourceManager.closing, ResourceManager.stepJob, Job.rank, weight]
    | (group, missing + 1) :: rest =>
      have tracked := m.placeholders.held_createMember reservation group
      simp only [ResourceManager.closing, ResourceManager.stepJob, List.length_nil]
      split
      next later created =>
        simp only [created] at tracked
        simp only [Option.toList_some, List.map_cons, List.map_nil, List.sum_cons, List.sum_nil,
          Job.rank, weight]
        omega
      next later fault created =>
        simp only [created] at tracked
        simp only [ResourceManager.note, Option.toList_some, List.map_cons, List.map_nil,
          List.sum_cons, List.sum_nil, Job.rank, weight, Bool.toNat_true]
        omega
  | cleanUp application thenRun =>
    have tracked := m.placeholders.held_forget application
    simp only [ResourceManager.closing, ResourceManager.stepJob, List.length_nil,
      Option.toList_some, List.map_cons, List.map_nil, List.sum_cons, List.sum_nil, Job.rank]
    omega
  | delete application pods thenRun =>
    cases pods with
    | cons pod rest =>
      simp [ResourceManager.closing, ResourceManager.stepJob, Job.rank, ResourceManager.note,
        PlaceholderManager.deletePod_eq, PlaceholderManager.held]
    | nil =>
      cases thenRun with
      | true =>
        simp [ResourceManager.closing, ResourceManager.stepJob, Job.rank, ResourceManager.dispatch,
          ResourceManager.note]
      | false => simp [ResourceManager.closing, ResourceManager.stepJob, Job.rank]

def rank (s : System) : Nat :=
  (s.queue.map (Entry.rank s.manager.registry.demand)).sum + (s.manager.jobs.map Job.rank).sum +
    s.manager.placeholders.held

theorem sum_rank {raised : List Event} (final : ∀ event ∈ raised, event.followUps = 0)
    (demand : Nat) :
    ((raised.map Entry.event).map (Entry.rank demand)).sum = 3 * raised.length := by
  have each : ∀ event ∈ raised, (Entry.rank demand ∘ Entry.event) event = 3 := by
    intro event among
    simp [Entry.rank, Entry.followUps, final event among]
  rw [List.map_map, List.map_congr_left each, List.map_const', List.sum_replicate, smul_eq_mul,
    Nat.mul_comm]

theorem Proceeds.rank_lt (working : s.Working) (proceeds : Proceeds s later) :
    later.rank < s.rank := by
  cases proceeds with
  | consumes entry rest first around consumed =>
    cases consumed with
    | passes registry queue jobs =>
      have left : later.queue = rest := queue
      simp only [rank, first, left, registry, jobs, around.placeholders, List.map_cons,
        List.sum_cons, Entry.rank]
      omega
    | handles event app after effects raised spawned same found handled registry queue jobs follows =>
      subst same
      have left : later.queue = rest ++ raised.map .event := queue
      have present := Registry.mem_of_find? found
      have demand : later.manager.registry.demand = s.manager.registry.demand := by
        obtain ⟨state, tasks, rfl⟩ := Application.handle_frame handled
        simp only [Registry.demand, registry]
        exact congrArg List.sum (Registry.map_modify Application.demand present rfl rfl)
      have most : app.demand ≤ s.manager.registry.demand :=
        List.le_sum_of_mem (List.mem_map_of_mem present)
      have ranked := follows.ranked most
      simp only [rank, demand, first, left, jobs, around.placeholders, List.map_cons,
        List.map_append, List.sum_cons, List.sum_append, sum_rank follows.final]
      simp only [Entry.rank, Entry.followUps, Event.followUps]
      omega
  | works job jobs others own same held kept =>
    have ranked := rank_stepJob s.manager own
    have adds := ResourceManager.adds_stepJob working.attentive.running own
    have frame := ResourceManager.extends_stepJob s.manager own fun _ => False
    have before := (held.map Job.rank).sum_nat
    have after := (kept.map Job.rank).sum_nat
    have left : later.queue = s.queue ++ (ResourceManager.closing job).map .event := by
      rw [System.queue, same]
      exact adds.queue
    simp only [List.map_append, List.map_cons, List.sum_append, List.sum_cons] at before after
    simp only [rank, left, List.map_append, List.sum_append, sum_rank fun _ => final_closing, before]
    simp only [same, frame.registry, after]
    omega

def Productive : System → List Move → Prop
  | _, [] => True
  | s, move :: rest => s.step move ≠ s ∧ Productive (s.step move) rest

theorem length_add_rank (working : s.Working) (internal : ∀ move ∈ moves, move.isInternal = true)
    (productive : s.Productive moves) : moves.length + (s.run moves).rank ≤ s.rank := by
  induction moves generalizing s with
  | nil => simp [run]
  | cons move rest ih =>
    obtain ⟨changes, further⟩ := productive
    have proceeds := (proceeds_of_internal working (internal move List.mem_cons_self)).resolve_left
      changes
    have less := proceeds.rank_lt working
    have later := ih (proceeds.working working) (fun move member => internal move (.tail _ member))
      further
    simp only [List.length_cons]
    change rest.length + 1 + ((s.step move).run rest).rank ≤ s.rank
    omega

theorem settled_or_proceeds (working : s.Working) :
    s.Settled ∨ ∃ move, move.isInternal = true ∧ Proceeds s (s.step move) := by
  rcases proceeds_advance working with ⟨empty, -⟩ | ⟨-, proceeds⟩
  next =>
    cases jobs : s.manager.jobs with
    | nil => exact .inl ⟨empty, jobs⟩
    | cons job rest =>
      rcases proceeds_work working 0 with ⟨none, -⟩ | ⟨-, proceeds⟩
      next => simp [jobs] at none
      next => exact .inr ⟨.work 0, rfl, proceeds⟩
  next => exact .inr ⟨.advance, rfl, proceeds⟩

theorem completes_of_working (working : s.Working) : ∃ moves, s.Completes moves := by
  induction rank : s.rank using Nat.strongRecOn generalizing s with
  | ind rank ih =>
    subst rank
    rcases settled_or_proceeds working with settled | ⟨move, internal, proceeds⟩
    next => exact ⟨[], by simp, settled⟩
    next =>
      obtain ⟨moves, rest⟩ := ih _ (proceeds.rank_lt working) (proceeds.working working) rfl
      exact ⟨move :: moves, List.forall_mem_cons.mpr ⟨internal, rest.internal⟩, rest.settled⟩

theorem rank_of_events {events : List Event} (queue : s.queue = events.map .event)
    (idle : s.manager.jobs = []) :
    s.rank ≤ events.length * (2 * s.manager.registry.demand + 6) + s.manager.placeholders.held := by
  have each : ∀ count ∈ s.queue.map (Entry.rank s.manager.registry.demand),
      count ≤ 2 * s.manager.registry.demand + 6 := by
    intro count member
    rw [queue, List.map_map] at member
    obtain ⟨event, -, rfl⟩ := List.mem_map.mp member
    have once := Nat.mul_le_mul_left (2 * s.manager.registry.demand + 3) event.followUps_le
    simp only [Function.comp_apply, Entry.rank, Entry.followUps]
    omega
  have total := List.sum_le_card_nsmul _ _ each
  rw [List.length_map, queue, List.length_map, smul_eq_mul] at total
  simp only [rank, idle, List.map_nil, List.sum_nil, queue]
  omega

theorem outstanding_of_idle (idle : s.manager.jobs = []) : s.outstanding ≤ s.queue.length := by
  simpa [outstanding, idle] using sum_followUps_le s.queue

/-- From each event at most one follows and nothing from that, so no order of the steps goes on
forever, and at most twice as many events are delivered as there were. -/
theorem feedback_ends (attentive : s.manager.dispatcher.Attentive) (idle : s.manager.jobs = [])
    {events : List Event} (queue : s.queue = events.map .event)
    (internal : ∀ move ∈ moves, move.isInternal = true) :
    (∀ before move after, moves = before ++ move :: after →
        Charged (s.run before) ((s.run before).step move)) ∧
      (s.run moves).manager.dispatcher.delivered ≤
        s.manager.dispatcher.delivered + 2 * events.length ∧
      (s.Productive moves → moves.length ≤
        events.length * (2 * s.manager.registry.demand + 6) + s.manager.placeholders.held) ∧
      ((∀ move, move.isInternal = true → (s.run moves).step move = s.run moves) →
        (s.run moves).Settled) ∧
      ∃ more, (s.run moves).Completes more := by
  have working : s.Working := ⟨attentive, by simp [idle]⟩
  have bounded := working_run
    (P := fun later => later.manager.dispatcher.delivered + later.queue.length + later.outstanding ≤
      s.manager.dispatcher.delivered + s.queue.length + s.outstanding)
    (fun s later working before proceeds => Nat.le_trans (proceeds.charged working).bound before)
    working (Nat.le_refl _) internal
  refine ⟨?_, ?_, ?_, ?_, completes_of_working bounded.1⟩
  next =>
    rintro before move after rfl
    have started : (s.run before).Working := (working_run (P := fun _ => True)
      (fun _ _ _ _ _ => trivial) working trivial
      fun move member => internal move (List.mem_append_left _ member)).1
    exact charged_of_internal started (internal move (by simp))
  next =>
    have total := bounded.2
    have followed := outstanding_of_idle idle
    have length : s.queue.length = events.length := by rw [queue, List.length_map]
    omega
  next =>
    intro productive
    have steps := length_add_rank working internal productive
    have most := rank_of_events queue idle
    omega
  next =>
    intro stuck
    rcases settled_or_proceeds bounded.1 with settled | ⟨move, inner, proceeds⟩
    next => exact settled
    next =>
      have less := proceeds.rank_lt bounded.1
      rw [stuck move inner] at less
      exact absurd less (Nat.lt_irrefl _)

def untilBothAsked : List Move :=
  untilAccepted ++
    [.register { id := "app-2", queue := "root.q", user := "u" },
     .dispatch (.application { application := "app-1", kind := .tryReserve }),
     .dispatch (.application (.submit "app-2"))]

def interleaved : List Move :=
  [.advance, .work 0, .advance, .work 0, .work 0, .advance] ++ List.replicate 6 (.work 0) ++
    [.advance]

theorem feedback_ends_interleaved :
    (tight.run untilBothAsked).queue.length = 2 ∧
      (tight.run untilBothAsked).manager.dispatcher.delivered = 1 ∧
      ((tight.run untilBothAsked).run interleaved).Settled ∧
      ((tight.run untilBothAsked).run interleaved).manager.dispatcher.delivered = 5 ∧ 5 ≤ 1 + 2 * 2 ∧
      ∃ more, ((tight.run untilBothAsked).run interleaved).Completes more := by
  have attentive : (tight.run untilBothAsked).manager.dispatcher.Attentive := ⟨rfl, ⟨0, rfl⟩, rfl⟩
  have queue : (tight.run untilBothAsked).queue =
      [Event.application { application := "app-1", kind := .tryReserve },
        .application (.submit "app-2")].map .event := rfl
  have internal : ∀ move ∈ interleaved, move.isInternal = true := by decide
  obtain ⟨-, delivered, -, -, completes⟩ := feedback_ends attentive rfl queue internal
  exact ⟨rfl, rfl, ⟨rfl, rfl⟩, rfl, delivered, completes⟩

end System

end GangScheduling
