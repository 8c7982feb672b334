import GangScheduling.Proofs.Gang.Plan
import GangScheduling.Proofs.Placeholder

set_option autoImplicit false

namespace GangScheduling

def PodClient.HasRoom (client : PodClient) (count : Nat) : Prop :=
  count = 0 ∨ ∀ limit, client.limit = some limit → client.created.length + count ≤ limit

def PodClient.EndsAt (client : PodClient) (all members : List TaskGroup) : Prop :=
  ∃ limit, client.limit = some limit ∧ members = all.take (limit - client.created.length) ∧
    members.length = limit - client.created.length ∧ members.length < all.length

namespace Reservation

open PlaceholderManager (Placed)

variable {reservation : Reservation} {start now later : PlaceholderManager}
  {members all : List TaskGroup} {group : TaskGroup}

def pods (reservation : Reservation) (start : PlaceholderManager)
    (members : List TaskGroup) : List PlaceholderPod :=
  members.mapIdx fun index group => reservation.pod group (start.draws (start.drawn + index))

def handles (reservation : Reservation) (start : PlaceholderManager)
    (members : List TaskGroup) : List Pod :=
  (reservation.pods start members).mapIdx fun index pod =>
    pod.handle (start.client.uids (start.client.created.length + index))

theorem length_pods (reservation : Reservation) (start : PlaceholderManager)
    (members : List TaskGroup) : (reservation.pods start members).length = members.length := by
  simp [pods]

theorem length_handles (reservation : Reservation) (start : PlaceholderManager)
    (members : List TaskGroup) : (reservation.handles start members).length = members.length := by
  simp [handles, pods]

theorem pods_append (reservation : Reservation) (start : PlaceholderManager)
    (members : List TaskGroup) (group : TaskGroup) :
    reservation.pods start (members ++ [group]) =
      reservation.pods start members ++
        [reservation.pod group (start.draws (start.drawn + members.length))] := by
  simp [pods, List.mapIdx_append]

theorem handles_append (reservation : Reservation) (start : PlaceholderManager)
    (members : List TaskGroup) (group : TaskGroup) :
    reservation.handles start (members ++ [group]) =
      reservation.handles start members ++
        [(reservation.pod group (start.draws (start.drawn + members.length))).handle
          (start.client.uids (start.client.created.length + members.length))] := by
  simp [handles, pods_append, List.mapIdx_append, length_pods]

-- The members have been created since, and nothing else was done.
structure Created (reservation : Reservation) (start : PlaceholderManager)
    (members : List TaskGroup) (now : PlaceholderManager) : Prop where
  client : now.client = { start.client with
    created := start.client.created ++ reservation.pods start members }
  draws : now.draws = start.draws
  tracked : ∀ application, now.tracked application = start.tracked application ++
    if application = reservation.application then reservation.handles start members else []

theorem Created.none (reservation : Reservation) (start : PlaceholderManager) :
    Created reservation start [] start where
  client := by simp [pods]
  draws := rfl
  tracked application := by simp [handles, pods]

theorem Created.place (created : Created reservation start members now)
    (drawn : now.drawn = start.drawn + members.length)
    (placed : Placed now reservation group later) :
    Created reservation start (members ++ [group]) later where
  client := by
    rw [placed.client, PlaceholderManager.nextPod, created.client, created.draws, drawn]
    simp [pods_append]
  draws := placed.draws.trans created.draws
  tracked application := by
    rw [placed.tracked, created.tracked, PlaceholderManager.nextPod, created.client, created.draws,
      drawn]
    split <;> simp [handles_append, length_pods]

theorem Created.draw (created : Created reservation start members now) (drawn : Nat) :
    Created reservation start members { now with drawn } where
  client := created.client
  draws := created.draws
  tracked := created.tracked

theorem Created.mayCreate_iff (created : Created reservation start members now) :
    now.client.mayCreate = true ↔
      ∀ limit, start.client.limit = some limit →
        start.client.created.length + members.length < limit := by
  simp [PodClient.mayCreate_iff, created.client, length_pods]

theorem hasRoom_succ (group : TaskGroup) (created : Created reservation start members now)
    (may : now.client.mayCreate = true) : start.client.HasRoom (members ++ [group]).length := by
  refine .inr fun limit limited => ?_
  have below := created.mayCreate_iff.mp may limit limited
  simp only [List.length_append, List.length_singleton]
  omega

theorem endsAt_of_refused (created : Created reservation start members now)
    (room : start.client.HasRoom members.length) (refused : now.client.mayCreate = false)
    {rest : List TaskGroup} (split : members ++ group :: rest = all) :
    start.client.EndsAt all members := by
  have full : ¬ ∀ limit, start.client.limit = some limit →
      start.client.created.length + members.length < limit := by
    rw [← created.mayCreate_iff, refused]
    simp
  simp only [Classical.not_forall, Nat.not_lt] at full
  obtain ⟨limit, limited, met⟩ := full
  -- The last pod that was created still found room, if there was one at all.
  have count : members.length = limit - start.client.created.length := by
    cases room with
    | inl none => omega
    | inr within =>
      have most := within limit limited
      omega
  refine ⟨limit, limited, ?_, count, ?_⟩
  next => rw [← count, ← split, List.take_left]
  next =>
    rw [← split]
    simp

theorem not_hasRoom_of_endsAt {client : PodClient} (short : client.EndsAt all members) :
    ¬ client.HasRoom all.length := by
  obtain ⟨limit, limited, -, count, fewer⟩ := short
  rintro (none | within)
  next => omega
  next =>
    have most := within limit limited
    omega

-- The members were created since, and the pods that the application has are being deleted.
structure Cleaned (reservation : Reservation) (start : PlaceholderManager)
    (members : List TaskGroup) (gone : List Pod) (now : PlaceholderManager) : Prop where
  client : now.client = { start.client with
    created := start.client.created ++ reservation.pods start members
    deleted := start.client.deleted ++ gone }
  tracked : ∀ application, now.tracked application =
    if application = reservation.application then [] else start.tracked application

theorem Created.forget (created : Created reservation start members now) :
    (now.forget reservation.application).2 =
        start.tracked reservation.application ++ reservation.handles start members ∧
      Cleaned reservation start members [] (now.forget reservation.application).1 := by
  constructor
  next => simp [PlaceholderManager.forget, created.tracked]
  next =>
    constructor
    next => simp [PlaceholderManager.forget, created.client]
    next =>
      intro application
      rw [PlaceholderManager.tracked_forget, created.tracked]
      split <;> simp

theorem Cleaned.delete {gone : List Pod} (cleaned : Cleaned reservation start members gone now)
    (pod : Pod) :
    Cleaned reservation start members (gone ++ [pod])
      (now.deletePod reservation.application pod).1 := by
  rw [PlaceholderManager.deletePod_eq]
  constructor
  next => simp [cleaned.client]
  next => exact cleaned.tracked

end Reservation

end GangScheduling
