import GangScheduling.Proofs.Placeholder.Creation
import Mathlib.Data.List.Induction
import Mathlib.Data.List.Nodup

set_option autoImplicit false

namespace GangScheduling

open Reservation (Created)

namespace PodClient

variable {client later : PodClient} {application other : String} {pod : Pod}

/-- No uid that a pod was given is drawn again for another. -/
def FreshUids (client : PodClient) : Prop :=
  ∀ first < client.created.length, ∀ second < client.created.length,
    client.uids first = client.uids second → first = second

theorem FreshUids.of_le (fresh : later.FreshUids) (uids : later.uids = client.uids)
    (fewer : client.created.length ≤ later.created.length) : client.FreshUids := by
  intro first created second also same
  rw [← uids] at same
  exact fresh first (Nat.lt_of_lt_of_le created fewer) second (Nat.lt_of_lt_of_le also fewer) same

def handles (client : PodClient) : List Pod :=
  client.created.zipIdx.map fun entry => entry.1.handle (client.uids entry.2)

theorem handles_create {next : PodClient} {pod : PlaceholderPod} {handle : Pod}
    (created : client.create pod = .ok (next, handle)) :
    next.handles = client.handles ++ [handle] := by
  unfold create at created
  split at created
  next =>
    cases created
    simp [handles, List.zipIdx_append, PlaceholderPod.handle]
  next => cases created

theorem nodup_handles (fresh : client.FreshUids) : client.handles.Nodup := by
  apply List.Nodup.of_map Pod.uid
  have uids : client.handles.map Pod.uid =
      (client.created.zipIdx.map Prod.snd).map client.uids := by
    simp only [handles, List.map_map]
    rfl
  rw [uids, List.zipIdx_map_snd, ← List.range_eq_range']
  refine List.Nodup.map_on ?_ List.nodup_range
  intro first created second also same
  exact fresh first (List.mem_range.mp created) second (List.mem_range.mp also) same

theorem podsOf_eq (client : PodClient) (application : String) :
    client.podsOf application =
      (client.created.zipIdx.filter fun entry => entry.1.application = application).map
        fun entry => entry.1.handle (client.uids entry.2) := by
  unfold podsOf
  induction client.created.zipIdx with
  | nil => rfl
  | cons entry rest ih =>
    by_cases own : entry.1.application = application <;> simp [own, ih]

theorem podsOf_sublist (client : PodClient) (application : String) :
    (client.podsOf application).Sublist client.handles := by
  rw [podsOf_eq]
  exact List.filter_sublist.map _

theorem mem_podsOf_iff :
    pod ∈ client.podsOf application ↔
      ∃ (index : Nat) (created : PlaceholderPod), client.created[index]? = some created ∧
        created.application = application ∧ created.handle (client.uids index) = pod := by
  rw [podsOf_eq]
  simp only [List.mem_map, List.mem_filter, List.mem_zipIdx_iff_getElem?, Prod.exists,
    decide_eq_true_eq, and_assoc]
  exact exists_comm

theorem exists_podsOf (returned : pod ∈ client.handles) :
    ∃ application, pod ∈ client.podsOf application := by
  obtain ⟨⟨created, index⟩, member, rfl⟩ := List.mem_map.mp returned
  rw [List.mem_zipIdx_iff_getElem?] at member
  exact ⟨created.application, mem_podsOf_iff.mpr ⟨index, created, member, rfl, rfl⟩⟩

theorem owner_unique (fresh : client.FreshUids) (here : pod ∈ client.podsOf application)
    (there : pod ∈ client.podsOf other) : application = other := by
  obtain ⟨index, first, found, rfl, handle⟩ := mem_podsOf_iff.mp here
  obtain ⟨place, second, also, rfl, same⟩ := mem_podsOf_iff.mp there
  have uids : client.uids index = client.uids place := by
    rw [← same, PlaceholderPod.handle, PlaceholderPod.handle, Pod.mk.injEq] at handle
    exact handle.2.2
  have created := (List.getElem?_eq_some_iff.mp found).1
  have index : index = place := fresh index created place (List.getElem?_eq_some_iff.mp also).1 uids
  rw [index, also, Option.some.injEq] at found
  rw [found]

end PodClient

namespace PlaceholderManager

variable {manager start next : PlaceholderManager} {reservation : Reservation}
  {members : List TaskGroup}

inductive Call
  | create (reservation : Reservation)
  | limit (count : Nat)
  | cleanUp (application : String)

def call (manager : PlaceholderManager) : Call → PlaceholderManager
  | .create reservation => (manager.create reservation).1
  | .limit count => { manager with client := { manager.client with limit := some count } }
  | .cleanUp application => (manager.cleanUp application).1

def callAll (manager : PlaceholderManager) (calls : List Call) : PlaceholderManager :=
  calls.foldl call manager

theorem deletePods_eq (application : String) (pods : List Pod) (manager : PlaceholderManager) :
    (deletePods application pods manager).1 =
      { manager with
        client := { manager.client with deleted := manager.client.deleted ++ pods } } := by
  induction pods generalizing manager with
  | nil => simp [deletePods]
  | cons pod rest ih => simp [deletePods, ih, deletePod_eq]

theorem cleanUp_eq (manager : PlaceholderManager) (application : String) :
    (manager.cleanUp application).1 =
      { manager with
        pods := manager.pods.erase application
        client := { manager.client with
          deleted := manager.client.deleted ++ manager.tracked application } } := by
  simp [cleanUp, deletePods_eq, forget]

theorem tracked_cleanUp (manager : PlaceholderManager) (application other : String) :
    (manager.cleanUp application).1.tracked other =
      if other = application then [] else manager.tracked other := by
  rw [← tracked_forget, cleanUp_eq]
  rfl

theorem cleanUp_of_untracked {application : String}
    (forgotten : manager.pods.get? application = none) :
    manager.cleanUp application = (manager, []) := by
  have pods : manager.pods.erase application = manager.pods := by
    apply NameMap.ext_get?
    intro name
    rw [NameMap.get?_erase]
    split
    next same => rw [same, forgotten]
    next => rfl
  simp [cleanUp, forget, tracked, forgotten, pods, deletePods]

theorem cleanUp_cleanUp (manager : PlaceholderManager) (application : String) :
    (manager.cleanUp application).1.cleanUp application =
      ((manager.cleanUp application).1, []) := by
  apply cleanUp_of_untracked
  rw [cleanUp_eq, NameMap.get?_erase, if_pos rfl]

theorem exists_created (manager : PlaceholderManager) (reservation : Reservation) :
    ∃ members, Created reservation manager members (manager.create reservation).1 ∧
      ((manager.create reservation).2 = .ok () ∧ members = planned reservation.plan ∨
        (∃ fault, (manager.create reservation).2 = .error fault) ∧
          manager.client.EndsAt (planned reservation.plan) members) := by
  have outcome := outcome_create reservation manager
  generalize manager.create reservation = result at outcome
  cases outcome with
  | completed named => exact ⟨_, named.created, .inl ⟨rfl, rfl⟩⟩
  | refused members created short => exact ⟨members, created, .inr ⟨⟨_, rfl⟩, short⟩⟩

/-- Each pod that was created is once in one place, and no other pod is in any. -/
structure Conserved (manager : PlaceholderManager) : Prop where
  tracked : ∀ application, manager.tracked application <:+ manager.client.podsOf application
  deleted : ∀ pod ∈ manager.client.deleted, pod ∈ manager.client.handles
  once : ∀ application, ∀ pod ∈ manager.client.podsOf application,
    (manager.tracked application).count pod + manager.client.deleted.count pod = 1

theorem Conserved.elsewhere (conserved : Conserved manager) (fresh : manager.client.FreshUids)
    {application other : String} (different : other ≠ application) {pod : Pod}
    (own : pod ∈ manager.client.podsOf application) : pod ∉ manager.tracked other := by
  intro tracked
  exact different (PodClient.owner_unique fresh ((conserved.tracked other).subset tracked) own)

theorem handles_eq (reservation : Reservation) (start : PlaceholderManager)
    (members : List TaskGroup) :
    reservation.handles start members =
      ((reservation.pods start members).zipIdx start.client.created.length).map
        fun entry => entry.1.handle (start.client.uids entry.2) := by
  rw [Reservation.handles, List.mapIdx_eq_zipIdx_map,
    List.zipIdx_eq_map_add (i := start.client.created.length), List.map_map]
  rfl

theorem handles_of_created (created : Created reservation start members next) :
    next.client.handles = start.client.handles ++ reservation.handles start members := by
  simp [created.client, PodClient.handles, List.zipIdx_append, handles_eq]

theorem podsOf_of_created (created : Created reservation start members next)
    (application : String) :
    next.client.podsOf application = start.client.podsOf application ++
      if application = reservation.application then reservation.handles start members else [] := by
  have own : ∀ pod ∈ reservation.pods start members, pod.application = reservation.application := by
    intro pod member
    obtain ⟨index, _, rfl⟩ := List.mem_mapIdx.mp member
    rfl
  have listed : ∀ entry ∈ (reservation.pods start members).zipIdx start.client.created.length,
      entry.1.application = reservation.application :=
    fun entry member => own entry.1 (List.fst_mem_of_mem_zipIdx member)
  simp only [created.client, PodClient.podsOf_eq, List.zipIdx_append, List.filter_append,
    List.map_append, Nat.zero_add, handles_eq]
  split
  next same =>
    have all := List.filter_eq_self.mpr fun entry member =>
      decide_eq_true ((listed entry member).trans same.symm)
    rw [all]
  next other =>
    have none : ((reservation.pods start members).zipIdx start.client.created.length).filter
        (fun entry => entry.1.application = application) = [] := by
      rw [List.filter_eq_nil_iff]
      intro entry member
      simpa [listed entry member] using Ne.symm other
    rw [none, List.map_nil]

theorem Conserved.create (conserved : Conserved start) (fresh : next.client.FreshUids)
    (created : Created reservation start members next) : Conserved next := by
  have deleted : next.client.deleted = start.client.deleted := by rw [created.client]
  have distinct := PodClient.nodup_handles fresh
  rw [handles_of_created created] at distinct
  obtain ⟨-, added, apart⟩ := List.nodup_append.mp distinct
  constructor
  next =>
    intro application
    rw [created.tracked, podsOf_of_created created]
    obtain ⟨gone, split⟩ := conserved.tracked application
    exact ⟨gone, by rw [← split, List.append_assoc]⟩
  next =>
    intro pod gone
    rw [handles_of_created created]
    exact List.mem_append_left _ (conserved.deleted pod (deleted ▸ gone))
  next =>
    intro application pod member
    rw [podsOf_of_created created] at member
    rw [created.tracked, deleted, List.count_append]
    cases List.mem_append.mp member with
    | inl before =>
      have known := (start.client.podsOf_sublist application).subset before
      have once := conserved.once application pod before
      have notAdded : pod ∉ if application = reservation.application then
          reservation.handles start members else [] := by
        split
        next => exact fun again => apart pod known pod again rfl
        next => exact List.not_mem_nil
      rw [List.count_eq_zero_of_not_mem notAdded]
      omega
    | inr now =>
      split at now
      next own =>
        have unknown : pod ∉ start.client.handles := fun known => apart pod known pod now rfl
        have notTracked : pod ∉ start.tracked application := fun tracked =>
          unknown ((start.client.podsOf_sublist application).subset
            ((conserved.tracked application).subset tracked))
        have notDeleted : pod ∉ start.client.deleted := fun gone =>
          unknown (conserved.deleted pod gone)
        simp [own, List.count_eq_zero_of_not_mem, notDeleted, List.count_eq_one_of_mem added now,
          own ▸ notTracked]
      next => cases now

theorem Conserved.cleanUp (conserved : Conserved manager) (fresh : manager.client.FreshUids)
    (application : String) : Conserved (manager.cleanUp application).1 := by
  have client : (manager.cleanUp application).1.client = { manager.client with
      deleted := manager.client.deleted ++ manager.tracked application } := by
    rw [cleanUp_eq]
  constructor
  next =>
    intro other
    rw [tracked_cleanUp, client]
    split
    next => exact List.nil_suffix
    next => exact conserved.tracked other
  next =>
    intro pod gone
    rw [client] at gone ⊢
    cases List.mem_append.mp gone with
    | inl before => exact conserved.deleted pod before
    | inr now =>
      exact (manager.client.podsOf_sublist application).subset
        ((conserved.tracked application).subset now)
  next =>
    intro other pod member
    rw [client] at member ⊢
    have once := conserved.once other pod member
    rw [tracked_cleanUp, List.count_append]
    split
    next same =>
      subst same
      simp only [List.count_nil]
      omega
    next different =>
      have elsewhere := conserved.elsewhere fresh (Ne.symm different) member
      rw [List.count_eq_zero_of_not_mem elsewhere]
      omega

theorem uids_call (manager : PlaceholderManager) (call : Call) :
    (manager.call call).client.uids = manager.client.uids := by
  cases call with
  | create reservation =>
    obtain ⟨members, created, -⟩ := manager.exists_created reservation
    rw [PlaceholderManager.call, created.client]
  | limit count => rfl
  | cleanUp application => rw [PlaceholderManager.call, cleanUp_eq]

theorem length_created_call (manager : PlaceholderManager) (call : Call) :
    manager.client.created.length ≤ (manager.call call).client.created.length := by
  cases call with
  | create reservation =>
    obtain ⟨members, created, -⟩ := manager.exists_created reservation
    rw [PlaceholderManager.call, created.client, List.length_append]
    exact Nat.le_add_right _ _
  | limit count => exact Nat.le_refl _
  | cleanUp application =>
    have same : (manager.call (.cleanUp application)).client.created =
        manager.client.created := by rw [PlaceholderManager.call, cleanUp_eq]
    exact Nat.le_of_eq (congrArg List.length same.symm)

theorem freshUids_of_call {call : Call} (fresh : (manager.call call).client.FreshUids) :
    manager.client.FreshUids :=
  fresh.of_le (manager.uids_call call) (manager.length_created_call call)

theorem Conserved.call (conserved : Conserved manager) (call : Call)
    (fresh : (manager.call call).client.FreshUids) : Conserved (manager.call call) := by
  cases call with
  | create reservation =>
    obtain ⟨members, created, -⟩ := manager.exists_created reservation
    exact conserved.create fresh created
  | limit count => exact ⟨conserved.tracked, conserved.deleted, conserved.once⟩
  | cleanUp application => exact conserved.cleanUp (freshUids_of_call fresh) application

theorem Conserved.callAll (conserved : Conserved manager) (calls : List Call)
    (fresh : (manager.callAll calls).client.FreshUids) : Conserved (manager.callAll calls) := by
  -- From the end: uids that are fresh after the last call were so before it.
  induction calls using List.reverseRecOn with
  | nil => exact conserved
  | append_singleton calls call ih =>
    simp only [PlaceholderManager.callAll, List.foldl_append, List.foldl_cons, List.foldl_nil]
      at fresh ⊢
    exact (ih (freshUids_of_call fresh)).call call fresh

theorem Conserved.none (start : PlaceholderManager) (created : start.client.created = [])
    (deleted : start.client.deleted = []) (pods : start.pods = .empty) : Conserved start where
  tracked application := by
    rw [PlaceholderManager.tracked, pods]
    exact List.nil_suffix
  deleted pod gone := by
    rw [deleted] at gone
    cases gone
  once application pod member := by
    rw [PodClient.podsOf, created] at member
    cases member

/-- After any calls each pod whose creation has returned is once in one place. A creation that is
refused leaves the pods before the refused one tracked, and a clean-up empties one application. -/
theorem pods_conserved (uids draws : Identifiers) (limit : Option Nat)
    (deletionFault : Option String) (drawn : Nat) (calls : List Call)
    (fresh : (callAll { client := { uids, limit, deletionFault }, draws, drawn }
      calls).client.FreshUids) :
    let manager := callAll { client := { uids, limit, deletionFault }, draws, drawn } calls
    let client := manager.client
    (∀ pod created handle, client.create pod = .ok (created, handle) →
        created.handles = client.handles ++ [handle]) ∧
      client.handles.Nodup ∧ (∀ pod ∈ client.deleted, pod ∈ client.handles) ∧
      (∀ pod ∈ client.handles, ∃ application, pod ∈ client.podsOf application ∧
        (manager.tracked application).count pod + client.deleted.count pod = 1 ∧
        ∀ other, other ≠ application → pod ∉ manager.tracked other) ∧
      (∀ application, manager.tracked application <:+ client.podsOf application) ∧
      (∀ reservation, let next := (manager.create reservation).1
        ∃ members, Created reservation manager members next ∧
          next.client.handles = client.handles ++ reservation.handles manager members ∧
          ((manager.create reservation).2 = .ok () ∧ members = planned reservation.plan ∨
            (∃ fault, (manager.create reservation).2 = .error fault) ∧
              client.EndsAt (planned reservation.plan) members)) ∧
      ∀ application, let next := (manager.cleanUp application).1
        next.client = { client with deleted := client.deleted ++ manager.tracked application } ∧
          (∀ other, next.tracked other =
            if other = application then [] else manager.tracked other) ∧
          next.cleanUp application = (next, []) := by
  intro manager client
  have conserved : Conserved manager := (Conserved.none _ rfl rfl rfl).callAll calls fresh
  refine ⟨fun _ _ _ => PodClient.handles_create, PodClient.nodup_handles fresh, conserved.deleted,
    ?_, conserved.tracked, ?_, ?_⟩
  next =>
    intro pod returned
    obtain ⟨application, own⟩ := PodClient.exists_podsOf returned
    exact ⟨application, own, conserved.once application pod own,
      fun _ different => conserved.elsewhere fresh different own⟩
  next =>
    intro reservation
    obtain ⟨members, created, outcome⟩ := manager.exists_created reservation
    exact ⟨members, created, handles_of_created created, outcome⟩
  next =>
    intro application
    exact ⟨by rw [cleanUp_eq], manager.tracked_cleanUp application,
      manager.cleanUp_cleanUp application⟩

def reservationOf (application : String) (groups : List TaskGroup) : Reservation :=
  { application, space := "default", queue := "root.q", user := "u", groups, owners := []
    existing := .empty, timeoutSeconds := 0 }

def refusedMidway : List Call :=
  [.create (reservationOf "app-1" [{ name := "a", minMember := 2 }]), .limit 3,
   .create (reservationOf "app-2" [{ name := "b", minMember := 2 }]), .cleanUp "app-1",
   .cleanUp "app-1"]

def drawnUids : Identifiers :=
  fun n => ["b9c1e1ad-7d3f-4f0c-9a51-6d0c4f0b7a11", "0f4b2c86-52f1-4c8e-8b0e-3d9a7d1c55e2",
    "e7a6d0b4-1c2d-4e3f-a4b5-c6d7e8f90123"].getD n ""

theorem pods_conserved_refusedMidway :
    let manager := callAll { client := { uids := drawnUids } } refusedMidway
    manager.client.FreshUids ∧ manager.client.created.length = 3 ∧
      (manager.client.deleted.length = 2 ∧ (manager.tracked "app-2").length = 1) ∧
      manager.client.handles.Nodup := by
  intro manager
  have fresh : manager.client.FreshUids := by
    unfold PodClient.FreshUids
    decide
  exact ⟨fresh, by decide, by decide,
    (pods_conserved drawnUids .plain none none 0 refusedMidway fresh).2.1⟩

end PlaceholderManager

end GangScheduling
