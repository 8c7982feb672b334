import GangScheduling.Resource
import GangScheduling.Proofs.Quantity.Rounding
import Mathlib.Algebra.BigOperators.Group.List.Basic
import Mathlib.Algebra.Order.BigOperators.Group.List

set_option autoImplicit false

namespace GangScheduling

namespace Resource

theorem ext_amount? {a b : Resource} (same : ∀ name, a.amount? name = b.amount? name) : a = b := by
  obtain ⟨a⟩ := a
  obtain ⟨b⟩ := b
  exact congrArg Resource.mk (NameMap.ext_get? same)

@[simp] theorem toInt_amount_empty (name : String) : (empty.amount name).toInt = 0 := rfl

theorem amount_addAmount (resource : Resource) (name key : String) (n : Int64) :
    (resource.addAmount name n).amount key =
      if key = name then saturatingAdd (resource.amount name) n else resource.amount key := by
  unfold amount
  rw [amount?_addAmount]
  split <;> rfl

theorem amount?_foldl_addAmount {entries : List (String × Int64)} (ordered : Ordered entries)
    (start : Resource) (name : String) :
    (entries.foldl (fun sum entry => sum.addAmount entry.1 entry.2) start).amount? name =
      match entries.lookup name with
      | none => start.amount? name
      | some n => some (saturatingAdd (start.amount name) n) := by
  induction entries generalizing start with
  | nil => rfl
  | cons entry rest ih =>
    obtain ⟨first, n⟩ := entry
    rw [List.foldl_cons, ih ordered.of_cons, lookup_entry, amount?_addAmount, amount_addAmount]
    by_cases same : name = first
    next =>
      subst same
      have once := lookup_of_lt fun later member => List.rel_of_pairwise_cons ordered member
      simp [once]
    next => simp only [same, if_false]

theorem amount?_add (a b : Resource) (name : String) :
    (a + b).amount? name =
      match b.amount? name with
      | none => a.amount? name
      | some n => some (saturatingAdd (a.amount name) n) :=
  amount?_foldl_addAmount b.amounts.ordered a name

theorem amount_add (a b : Resource) (name : String) :
    (a + b).amount name = saturatingAdd (a.amount name) (b.amount name) := by
  unfold amount
  rw [amount?_add]
  cases b.amount? name with
  | none => simp [saturatingAdd, saturate_toInt]
  | some n => rfl

def addAll (resource : Resource) (entries : List (String × Int)) : Resource :=
  entries.foldl (fun sum entry => sum.addAmount entry.1 (saturate entry.2)) resource

def total (entries : List (String × Int)) (name : String) : Int :=
  ((entries.filter fun entry => entry.1 = name).map (·.2)).sum

theorem total_cons (first : String) (n : Int) (rest : List (String × Int)) (name : String) :
    total ((first, n) :: rest) name = (if first = name then n else 0) + total rest name := by
  by_cases same : first = name <;> simp [total, same]

theorem total_perm {entries others : List (String × Int)} (same : entries.Perm others)
    (name : String) : total entries name = total others name :=
  ((same.filter _).map _).sum_eq

theorem total_of_not_mem {entries : List (String × Int)} {name : String}
    (absent : name ∉ entries.map Prod.fst) : total entries name = 0 := by
  have none : entries.filter (fun entry => entry.1 = name) = [] := by
    rw [List.filter_eq_nil_iff]
    intro entry member same
    exact absent (List.mem_map.mpr ⟨entry, member, of_decide_eq_true same⟩)
  rw [total, none, List.map_nil, List.sum_nil]

section NonNegative

variable {entries : List (String × Int)} (nonneg : ∀ entry ∈ entries, 0 ≤ entry.2)

include nonneg

theorem total_nonneg (name : String) : 0 ≤ total entries name := by
  apply List.sum_nonneg
  intro n member
  obtain ⟨entry, kept, rfl⟩ := List.mem_map.mp member
  exact nonneg entry (List.mem_of_mem_filter kept)

theorem amount?_addAll {resource : Resource} {name : String}
    (start : 0 ≤ (resource.amount name).toInt) :
    (resource.addAll entries).amount? name =
      if name ∈ entries.map Prod.fst then
        some (saturate ((resource.amount name).toInt + total entries name))
      else resource.amount? name := by
  -- Rounding early does no harm, since the sums only grow.
  induction entries generalizing resource with
  | nil => simp [addAll]
  | cons entry rest ih =>
    obtain ⟨first, n⟩ := entry
    obtain ⟨amount, others⟩ := List.forall_mem_cons.mp nonneg
    have step : resource.addAll ((first, n) :: rest) =
        (resource.addAmount first (saturate n)).addAll rest := rfl
    by_cases same : name = first
    next =>
      subst same
      have sum : (resource.addAmount name (saturate n)).amount name =
          saturate ((resource.amount name).toInt + n) := by
        rw [amount_addAmount, if_pos rfl, saturatingAdd, saturate_add_saturate start amount]
      have grown := Int.add_nonneg start amount
      rw [step, ih others (by rw [sum]; exact saturate_nonneg grown), sum,
        saturate_saturate_add grown (total_nonneg others name), total_cons, amount?_addAmount]
      by_cases later : name ∈ rest.map Prod.fst
      next => simp [later, Int.add_assoc]
      next =>
        simp [later, total_of_not_mem later, saturatingAdd, saturate_add_saturate start amount]
    next =>
      have kept : (resource.addAmount first (saturate n)).amount name = resource.amount name := by
        rw [amount_addAmount, if_neg same]
      have other : name ∈ ((first, n) :: rest).map Prod.fst ↔ name ∈ rest.map Prod.fst := by
        simp only [List.map_cons, List.mem_cons, same, false_or]
      rw [step, ih others (by rwa [kept]), kept, total_cons, amount?_addAmount]
      simp only [other, same, Ne.symm same, if_false, Int.zero_add]

theorem amount?_sum (name : String) :
    (empty.addAll entries).amount? name =
      if name ∈ entries.map Prod.fst then some (saturate (total entries name)) else none := by
  rw [amount?_addAll nonneg (toInt_amount_empty name).ge, toInt_amount_empty, Int.zero_add]
  rfl

theorem amount_sum (name : String) :
    (empty.addAll entries).amount name = saturate (total entries name) := by
  rw [amount, amount?_sum nonneg]
  split
  next => rfl
  next absent =>
    rw [total_of_not_mem absent]
    rfl

theorem toInt_amount?_sum (name : String) :
    ((empty.addAll entries).amount? name).map Int64.toInt =
      if name ∈ entries.map Prod.fst then
        some (min Int64.maxValue.toInt (total entries name))
      else none := by
  rw [amount?_sum nonneg]
  split
  next => rw [Option.map_some, toInt_saturate_of_nonneg (total_nonneg nonneg name)]
  next => rfl

theorem sum_perm {others : List (String × Int)} (same : entries.Perm others) :
    empty.addAll entries = empty.addAll others := by
  have otherNonneg : ∀ entry ∈ others, 0 ≤ entry.2 :=
    fun entry member => nonneg entry (same.mem_iff.mpr member)
  apply ext_amount?
  intro name
  rw [amount?_sum nonneg, amount?_sum otherNonneg, total_perm same]
  simp only [(same.map Prod.fst).mem_iff]

theorem add_sum {resource : Resource} (start : ∀ name, 0 ≤ (resource.amount name).toInt) :
    resource + empty.addAll entries = resource.addAll entries := by
  apply ext_amount?
  intro name
  rw [amount?_add, amount?_sum nonneg, amount?_addAll nonneg (start name)]
  by_cases named : name ∈ entries.map Prod.fst
  next =>
    simp only [named, if_true, saturatingAdd,
      saturate_add_saturate (start name) (total_nonneg nonneg name)]
  next => simp only [named, if_false]

end NonNegative

def schedulerName (pod : String) : String :=
  if pod = "cpu" then "vcore" else pod

def unit (pod : String) : ℚ :=
  if pod = "cpu" then 1 / 1000 else if pod = "memory" then 10 ^ 6 else 1

theorem dimension_spec (pod : String) :
    (dimension pod).1 = schedulerName pod ∧ 10 ^ (dimension pod).2 = unit pod ∧
      -38 ≤ (dimension pod).2 := by
  unfold dimension
  split
  next => norm_num [schedulerName, unit]
  next =>
    have other : "memory" ≠ "cpu" := by decide
    norm_num [schedulerName, unit, other]
  next cpu memory =>
    rw [schedulerName, if_neg cpu, unit, if_neg cpu, if_neg memory]
    norm_num

def wanted (perMember : NameMap Quantity) (members : UInt32) : List (String × Int) :=
  perMember.entries.map fun entry =>
    (schedulerName entry.1, members.toNat * ⌈entry.2.toRat / unit entry.1⌉)

variable {perMember : NameMap Quantity}

theorem unit_pos (pod : String) : 0 < unit pod := by
  unfold unit
  split
  next => norm_num
  next => split <;> norm_num

theorem wanted_nonneg (nonneg : ∀ entry ∈ perMember.entries, 0 ≤ entry.2.toRat)
    (members : UInt32) : ∀ entry ∈ wanted perMember members, 0 ≤ entry.2 := by
  intro entry member
  obtain ⟨source, listed, rfl⟩ := List.mem_map.mp member
  exact mul_nonneg (Int.natCast_nonneg _)
    (Int.ceil_nonneg (div_nonneg (nonneg source listed) (unit_pos _).le))

theorem ofMembers_eq_sum (parsed : ∀ entry ∈ perMember.entries, entry.2.Parsed)
    (members : UInt32) :
    ofMembers perMember members = empty.addAll (wanted perMember members) := by
  rw [ofMembers, addAll, wanted, List.foldl_map]
  apply List.foldl_ext
  intro sum entry member
  obtain ⟨name, unit, fine⟩ := dimension_spec entry.1
  have sound : -38 ≤ entry.2.places + (dimension entry.1).2 ∨ 0 < entry.2.numerator :=
    .inl (by omega)
  simp only [Quantity.scaledValue_eq (parsed entry member) sound, name, unit,
    saturatingMul_saturate]

end Resource

end GangScheduling
