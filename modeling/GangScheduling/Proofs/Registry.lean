import GangScheduling.Registry
import Mathlib.Data.List.Nodup

set_option autoImplicit false

namespace GangScheduling

theorem Manifest.state_application (manifest : Manifest) :
    manifest.application.state = .new := by
  unfold Manifest.application Application.setGroups
  split <;> rfl

namespace Registry

theorem id_of_find? {registry : Registry} {id : String} {app : Application}
    (found : registry.find? id = some app) : app.id = id := by
  simpa using List.find?_some found

theorem mem_of_find? {registry : Registry} {id : String} {app : Application}
    (found : registry.find? id = some app) : app ∈ registry.toList :=
  List.mem_of_find?_eq_some found

theorem find?_modify (registry : Registry) (id key : String)
    (change : Application → Application) :
    (registry.modify id change).find? key =
      if key = id then (registry.find? id).map fun app => { change app with id := app.id }
      else registry.find? key := by
  simp only [find?, modify]
  induction registry.toList with
  | nil => simp
  | cons head tail ih =>
    simp only [List.map_cons, List.find?_cons]
    by_cases same : key = id
    next =>
      subst same
      simp only [if_true] at ih ⊢
      by_cases here : head.id = key
      next => simp [here]
      next => simpa [here] using ih
    next =>
      simp only [same, if_false] at ih ⊢
      by_cases here : head.id = key
      next =>
        have other : head.id ≠ id := fun h => same (here.symm.trans h)
        simp [here, same]
      next =>
        by_cases changed : head.id = id
        next =>
          have other : id ≠ key := fun h => same h.symm
          simpa [changed, other] using ih
        next => simpa [changed, here] using ih

theorem mem_modify {registry : Registry} {id : String} {change : Application → Application}
    {app : Application} (member : app ∈ (registry.modify id change).toList) :
    app ∈ registry.toList ∨
      ∃ before ∈ registry.toList, before.id = id ∧ app = { change before with id } := by
  obtain ⟨before, present, rfl⟩ := List.mem_map.mp member
  by_cases same : before.id = id
  next =>
    right
    exact ⟨before, present, same, by simp [same]⟩
  next =>
    left
    simpa [same] using present

theorem mem_insert {registry : Registry} {added app : Application}
    (member : app ∈ (registry.insert added).toList) : app ∈ registry.toList ∨ app = added := by
  unfold insert at member
  split at member
  next => exact .inl member
  next => simpa using member

theorem mem_insert_of_mem {registry : Registry} {app : Application}
    (member : app ∈ registry.toList) (added : Application) :
    app ∈ (registry.insert added).toList := by
  unfold insert
  split
  next => exact member
  next => exact List.mem_append_left _ member

theorem find?_insert_of_some {registry : Registry} {id : String} {app : Application}
    (found : registry.find? id = some app) (added : Application) :
    (registry.insert added).find? id = some app := by
  unfold insert
  split
  next => exact found
  next =>
    unfold find? at found ⊢
    simp [List.find?_append, found]

theorem mem_remove {registry : Registry} {id : String} {app : Application}
    (member : app ∈ (registry.remove id).toList) : app ∈ registry.toList :=
  (List.mem_filter.mp member).1

theorem eq_of_id_eq {registry : Registry} {app other : Application}
    (member : app ∈ registry.toList) (present : other ∈ registry.toList)
    (same : app.id = other.id) : app = other :=
  List.inj_on_of_nodup_map registry.distinct member present same

theorem find?_of_mem {registry : Registry} {app : Application} (member : app ∈ registry.toList) :
    registry.find? app.id = some app := by
  have known : (registry.find? app.id).isSome = true :=
    List.find?_isSome.mpr ⟨app, member, by simp⟩
  obtain ⟨other, found⟩ := Option.isSome_iff_exists.mp known
  rw [found, eq_of_id_eq (mem_of_find? found) member (id_of_find? found)]

theorem mem_remove_or_eq {registry : Registry} {id : String} {app removed : Application}
    (found : registry.find? id = some removed) (member : app ∈ registry.toList) :
    app ∈ (registry.remove id).toList ∨ app = removed := by
  by_cases same : app.id = id
  next => exact .inr (eq_of_id_eq member (mem_of_find? found) (same.trans (id_of_find? found).symm))
  next => exact .inl (List.mem_filter.mpr ⟨member, by simpa using same⟩)

theorem mem_modify_of_mem {registry : Registry} {app other after : Application}
    (present : other ∈ registry.toList) (sameId : after.id = other.id)
    (member : app ∈ registry.toList) :
    app ∈ (registry.modify after.id fun _ => after).toList ∨ app = other := by
  by_cases same : app.id = after.id
  next => exact .inr (eq_of_id_eq member present (same.trans sameId))
  next => exact .inl (List.mem_map.mpr ⟨app, member, by simp [same]⟩)

theorem find?_remove_of_ne {registry : Registry} {id key : String} (other : key ≠ id) :
    (registry.remove id).find? key = registry.find? key := by
  unfold find? remove
  rw [List.find?_filter]
  congr 1
  funext app
  by_cases same : app.id = key
  next => simp [same, other]
  next => simp [same]

end Registry

end GangScheduling
