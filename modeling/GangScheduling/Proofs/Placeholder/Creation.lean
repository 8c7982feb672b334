import GangScheduling.Proofs.Reservation

set_option autoImplicit false

namespace GangScheduling

theorem PodClient.EndsAt.append {client : PodClient} {all members : List TaskGroup}
    (short : client.EndsAt all members) (more : List TaskGroup) :
    client.EndsAt (all ++ more) members := by
  obtain ⟨limit, limited, part, count, fewer⟩ := short
  refine ⟨limit, limited, ?_, count, ?_⟩
  next => rwa [List.take_append_of_le_length (by omega)]
  next =>
    rw [List.length_append]
    omega

namespace PlaceholderManager

open Reservation (Created)

variable {reservation : Reservation} {start now next : PlaceholderManager}
  {members : List TaskGroup}

-- The members have been created since, and no name was drawn for anything else.
structure Named (reservation : Reservation) (start : PlaceholderManager)
    (members : List TaskGroup) (now : PlaceholderManager) : Prop where
  created : Created reservation start members now
  drawn : now.drawn = start.drawn + members.length
  room : start.client.HasRoom members.length

inductive Outcome (reservation : Reservation) (start : PlaceholderManager)
    (all : List TaskGroup) : PlaceholderManager × Except Error Unit → Prop
  | completed {now : PlaceholderManager} (named : Named reservation start all now) :
      Outcome reservation start all (now, .ok ())
  | refused {now : PlaceholderManager} {fault : Error} (members : List TaskGroup)
      (created : Created reservation start members now)
      (short : start.client.EndsAt all members) :
      Outcome reservation start all (now, .error fault)

theorem Named.place {group : TaskGroup} (named : Named reservation start members now)
    (may : now.client.mayCreate = true) (placed : Placed now reservation group next) :
    Named reservation start (members ++ [group]) next where
  created := named.created.place named.drawn placed
  drawn := by rw [placed.drawn, named.drawn, List.length_append]; rfl
  room := Reservation.hasRoom_succ group named.created may

theorem outcome_createMembers (named : Named reservation start members now) (group : TaskGroup)
    (missing : Nat) :
    Outcome reservation start (members ++ List.replicate missing group)
      (createMembers reservation group missing now) := by
  induction missing generalizing members now with
  | zero => exact .completed (by simpa using named)
  | succ missing ih =>
    simp only [createMembers, List.replicate_succ]
    cases may : now.client.mayCreate with
    | true =>
      obtain ⟨next, member, placed⟩ := placed_of_mayCreate reservation group may
      have rest := ih (named.place may placed)
      rw [member]
      simpa using rest
    | false =>
      obtain ⟨fault, refused⟩ := refused_of_limit reservation group may
      rw [refused]
      exact .refused members (named.created.draw _)
        (Reservation.endsAt_of_refused named.created named.room may rfl)

theorem outcome_createPlan (named : Named reservation start members now)
    (plan : List (TaskGroup × Nat)) :
    Outcome reservation start (members ++ planned plan) (createPlan reservation plan now) := by
  induction plan generalizing members now with
  | nil => exact .completed (by simpa using named)
  | cons entry rest ih =>
    obtain ⟨group, missing⟩ := entry
    have first := outcome_createMembers named group missing
    have all : members ++ planned ((group, missing) :: rest) =
        members ++ List.replicate missing group ++ planned rest := by simp [planned]
    simp only [createPlan]
    rw [all]
    generalize createMembers reservation group missing now = result at first
    cases first with
    | completed named => exact ih named
    | refused made created short => exact .refused made created (short.append _)

theorem outcome_create (reservation : Reservation) (start : PlaceholderManager) :
    Outcome reservation start (planned reservation.plan) (start.create reservation) := by
  have fresh : Named reservation start [] start := ⟨.none reservation start, rfl, .inl rfl⟩
  exact outcome_createPlan fresh reservation.plan

theorem created_create (done : (start.create reservation).2 = .ok ()) :
    Created reservation start (planned reservation.plan) (start.create reservation).1 := by
  have outcome := outcome_create reservation start
  generalize start.create reservation = result at done outcome
  cases outcome with
  | completed named => exact named.created
  | refused => cases done

end PlaceholderManager

end GangScheduling
