import GangScheduling.TaskGroup.Counts
import Mathlib.Algebra.GroupWithZero.Nat

set_option autoImplicit false

namespace GangScheduling

namespace GroupCounts

theorem ext_get? {a b : GroupCounts} (same : ∀ name, a.counts.get? name = b.counts.get? name) :
    a = b := by
  obtain ⟨a⟩ := a
  obtain ⟨b⟩ := b
  exact congrArg GroupCounts.mk (NameMap.ext_get? same)

theorem get?_add (counts : GroupCounts) (group key : String) (n : UInt32) :
    (counts.add group n).counts.get? key =
      if key = group then some (UInt32.ofNat (min largest ((counts.get group).toNat + n.toNat)))
      else counts.counts.get? key :=
  NameMap.get?_insert counts.counts group key _

def addAll (counts : GroupCounts) (entries : List (String × UInt32)) : GroupCounts :=
  entries.foldl (fun counts entry => counts.add entry.1 entry.2) counts

def total (entries : List (String × UInt32)) (name : String) : Nat :=
  ((entries.filter fun entry => entry.1 = name).map (·.2.toNat)).sum

theorem total_cons (first : String) (n : UInt32) (rest : List (String × UInt32)) (name : String) :
    total ((first, n) :: rest) name = (if first = name then n.toNat else 0) + total rest name := by
  by_cases same : first = name <;> simp [total, same]

theorem total_of_not_mem {entries : List (String × UInt32)} {name : String}
    (absent : name ∉ entries.map Prod.fst) : total entries name = 0 := by
  induction entries with
  | nil => rfl
  | cons entry rest ih =>
    obtain ⟨first, n⟩ := entry
    simp only [List.map_cons, List.mem_cons, not_or] at absent
    simp [total_cons, Ne.symm absent.1, ih absent.2]

theorem toNat_ofNat_min (n : Nat) : (UInt32.ofNat (min largest n)).toNat = min largest n := by
  apply UInt32.toNat_ofNat_of_lt
  have bound : min largest n ≤ largest := Nat.min_le_left _ _
  simp only [largest, UInt32.size] at bound ⊢
  omega

theorem get?_addAll (counts : GroupCounts) (entries : List (String × UInt32)) (name : String) :
    (counts.addAll entries).counts.get? name =
      if name ∈ entries.map Prod.fst then
        some (UInt32.ofNat (min largest ((counts.get name).toNat + total entries name)))
      else counts.counts.get? name := by
  -- Each step may already have reached the largest number, so the counts are generalized.
  induction entries generalizing counts with
  | nil => simp [addAll]
  | cons entry rest ih =>
    obtain ⟨first, n⟩ := entry
    have step : counts.addAll ((first, n) :: rest) = (counts.add first n).addAll rest := rfl
    rw [step, ih, total_cons]
    by_cases same : name = first
    next =>
      subst same
      by_cases later : name ∈ rest.map Prod.fst
      next =>
        have sum : min largest (min largest ((counts.get name).toNat + n.toNat) + total rest name) =
            min largest ((counts.get name).toNat + (n.toNat + total rest name)) := by omega
        simp only [later, get_add, toNat_ofNat_min, sum, List.map_cons, List.mem_cons, if_true,
          or_true]
      next =>
        simp [later, get?_add, total_of_not_mem later]
    next =>
      have other : name ∈ ((first, n) :: rest).map Prod.fst ↔ name ∈ rest.map Prod.fst := by
        simp only [List.map_cons, List.mem_cons, same, false_or]
      simp only [other, get_add, get?_add, same, Ne.symm same, if_false, Nat.zero_add]

theorem desired_eq_addAll (groups : List TaskGroup) :
    desired groups = empty.addAll (groups.map fun group => (group.name, group.minMember)) := by
  simp [desired, addAll, List.foldl_map]

theorem ofNames_eq_addAll (names : List String) :
    ofNames names = empty.addAll (names.map fun name => (name, 1)) := by
  simp only [ofNames, addAll, List.foldl_map]
  rfl

theorem total_ones (names : List String) (name : String) :
    total (names.map fun name => (name, 1)) name = names.count name := by
  induction names with
  | nil => rfl
  | cons first rest ih =>
    rw [List.map_cons, total_cons, ih, List.count_cons]
    by_cases same : first = name <;> simp [same, Nat.add_comm]

theorem get?_ofNames (names : List String) (name : String) :
    (ofNames names).counts.get? name =
      if 0 < names.count name then some (UInt32.ofNat (min largest (names.count name)))
      else none := by
  have listed : (names.map fun name => (name, (1 : UInt32))).map Prod.fst = names := by
    simp [Function.comp_def]
  rw [ofNames_eq_addAll, get?_addAll, listed, total_ones]
  simp [empty, get, List.count_pos_iff]

end GroupCounts

end GangScheduling
