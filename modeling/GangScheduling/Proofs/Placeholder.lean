import GangScheduling.Placeholder
import Mathlib.Algebra.GroupWithZero.Nat

set_option autoImplicit false

namespace GangScheduling

def PlaceholderPod.handle (pod : PlaceholderPod) (uid : String) : Pod :=
  { space := pod.space, name := pod.name, uid }

theorem PodClient.mayCreate_iff (client : PodClient) :
    client.mayCreate = true ↔ ∀ limit, client.limit = some limit → client.created.length < limit := by
  unfold mayCreate
  cases client.limit with
  | none => simp
  | some limit => simp

def PodClient.podsOf (client : PodClient) (application : String) : List Pod :=
  client.created.zipIdx.filterMap fun (pod, index) =>
    if pod.application = application then some (pod.handle (client.uids index)) else none

section Sizes

variable {A : Type} (size : A → Nat) (name : String)

theorem sum_insertEntry (value : A) {entries : List (String × A)} (ordered : Ordered entries) :
    ((insertEntry name value entries).map fun entry => size entry.2).sum +
        ((entries.lookup name).map size).getD 0 =
      (entries.map fun entry => size entry.2).sum + size value := by
  induction entries with
  | nil => simp [insertEntry]
  | cons head tail ih =>
    obtain ⟨first, held⟩ := head
    have later := ih ordered.of_cons
    simp only [insertEntry, lookup_entry]
    split
    next before =>
      -- Every other name comes even later.
      have ne : name ≠ first := fun same => String.lt_irrefl _ (same ▸ before)
      have absent := lookup_of_lt fun entry member =>
        String.lt_trans before (List.rel_of_pairwise_cons ordered member)
      simp only [ne, if_false, absent, List.map_cons, List.sum_cons]
      simp only [Option.map_none, Option.getD_none]
      omega
    next =>
      split
      next => simp only [List.map_cons, List.sum_cons, Option.map_some, Option.getD_some]; omega
      next => simp only [List.map_cons, List.sum_cons]; omega

theorem sum_filter_ne (entries : List (String × A)) :
    ((entries.filter fun entry => entry.1 != name).map fun entry => size entry.2).sum +
        ((entries.lookup name).map size).getD 0 ≤
      (entries.map fun entry => size entry.2).sum := by
  induction entries with
  | nil => simp
  | cons head tail ih =>
    obtain ⟨first, held⟩ := head
    by_cases same : name = first
    next =>
      subst same
      rw [List.filter_cons_of_neg (by simp), lookup_entry, if_pos rfl]
      simp only [List.map_cons, List.sum_cons, Option.map_some, Option.getD_some]
      omega
    next =>
      rw [List.filter_cons_of_pos (by simpa using Ne.symm same), lookup_entry, if_neg same]
      simp only [List.map_cons, List.sum_cons]
      omega

end Sizes

namespace PlaceholderManager

variable {manager next : PlaceholderManager} {reservation : Reservation} {group : TaskGroup}

def nextPod (manager : PlaceholderManager) (reservation : Reservation) (group : TaskGroup) :
    PlaceholderPod :=
  reservation.pod group (manager.draws manager.drawn)

structure Placed (manager : PlaceholderManager) (reservation : Reservation) (group : TaskGroup)
    (next : PlaceholderManager) : Prop where
  client : next.client =
    { manager.client with
      created := manager.client.created ++ [manager.nextPod reservation group] }
  draws : next.draws = manager.draws
  drawn : next.drawn = manager.drawn + 1
  tracked : ∀ application, next.tracked application = manager.tracked application ++
    if application = reservation.application then
      [(manager.nextPod reservation group).handle
        (manager.client.uids manager.client.created.length)]
    else []

theorem placed_of_mayCreate (reservation : Reservation) (group : TaskGroup)
    (may : manager.client.mayCreate = true) :
    ∃ next, manager.createMember reservation group = (next, .ok ()) ∧
      Placed manager reservation group next := by
  simp only [createMember, PodClient.create, may, if_true]
  refine ⟨_, rfl, rfl, rfl, rfl, ?_⟩
  intro application
  simp only [tracked, NameMap.get?_insert]
  by_cases own : application = reservation.application
  next =>
    subst own
    simp [PlaceholderPod.handle, nextPod]
  next => simp [own]

theorem refused_of_limit (reservation : Reservation) (group : TaskGroup)
    (may : manager.client.mayCreate = false) :
    ∃ fault, manager.createMember reservation group =
      ({ manager with drawn := manager.drawn + 1 }, .error fault) := by
  simp [createMember, PodClient.create, may]

theorem Placed.podsOf (placed : Placed manager reservation group next) (application : String) :
    ∃ added, next.client.podsOf application = manager.client.podsOf application ++ added ∧
      next.tracked application = manager.tracked application ++ added ∧
      (added = [] ∨ reservation.application = application) := by
  refine ⟨_, ?_, placed.tracked application, ?_⟩
  next =>
    rw [placed.client]
    by_cases own : application = reservation.application
    next =>
      subst own
      simp [PodClient.podsOf, List.zipIdx_append, nextPod, Reservation.pod]
    next => simp [PodClient.podsOf, List.zipIdx_append, nextPod, Reservation.pod, own, Ne.symm own]
  next =>
    split
    next own => exact .inr own.symm
    next => exact .inl rfl

theorem createMember_cases (manager : PlaceholderManager) (reservation : Reservation)
    (group : TaskGroup) :
    (∃ next, manager.createMember reservation group = (next, .ok ()) ∧
        Placed manager reservation group next) ∨
      ∃ fault, manager.createMember reservation group =
        ({ manager with drawn := manager.drawn + 1 }, .error fault) := by
  cases may : manager.client.mayCreate with
  | true => exact .inl (placed_of_mayCreate reservation group may)
  | false => exact .inr (refused_of_limit reservation group may)

theorem tracked_forget (manager : PlaceholderManager) (application other : String) :
    (manager.forget application).1.tracked other =
      if other = application then [] else manager.tracked other := by
  simp only [forget, tracked, NameMap.get?_erase]
  split <;> rfl

theorem deletePod_eq (manager : PlaceholderManager) (application : String) (pod : Pod) :
    (manager.deletePod application pod).1 =
      { manager with
        client := { manager.client with deleted := manager.client.deleted ++ [pod] } } := by
  simp only [deletePod, PodClient.delete]
  cases manager.client.deletionFault <;> rfl

def held (manager : PlaceholderManager) : Nat :=
  (manager.pods.entries.map fun entry => entry.2.length).sum

theorem length_tracked (manager : PlaceholderManager) (application : String) :
    (manager.tracked application).length =
      ((manager.pods.get? application).map List.length).getD 0 := by
  unfold tracked
  cases manager.pods.get? application <;> rfl

theorem held_createMember (manager : PlaceholderManager) (reservation : Reservation)
    (group : TaskGroup) :
    (manager.createMember reservation group).1.held ≤ manager.held + 1 := by
  unfold createMember
  dsimp only
  split
  next client pod _ =>
    have count := sum_insertEntry List.length reservation.application
      (manager.tracked reservation.application ++ [pod]) manager.pods.ordered
    rw [List.length_append, length_tracked, NameMap.get?, List.length_singleton] at count
    change ((insertEntry reservation.application (manager.tracked reservation.application ++ [pod])
      manager.pods.entries).map fun entry => entry.2.length).sum ≤ manager.held + 1
    unfold held
    omega
  next => exact Nat.le_succ _

theorem held_forget (manager : PlaceholderManager) (application : String) :
    (manager.forget application).1.held + (manager.forget application).2.length ≤ manager.held := by
  have count := sum_filter_ne List.length application manager.pods.entries
  change (manager.forget application).1.held + (manager.tracked application).length ≤ manager.held
  rw [length_tracked]
  exact count

end PlaceholderManager

end GangScheduling
