import GangScheduling.Proofs.Quantity.Scaled
import GangScheduling.Proofs.Resource

set_option autoImplicit false

namespace GangScheduling

section Names

variable {A : Type} {entries : List (String × A)}

theorem filter_name_above {first : String} {held : A} (ordered : Ordered ((first, held) :: entries))
    {name : String} (least : name ≤ first) :
    (entries.filter fun entry => entry.1 = name) = [] := by
  rw [List.filter_eq_nil_iff]
  intro entry member same
  have above : first < entry.1 := List.rel_of_pairwise_cons ordered member
  rw [decide_eq_true_iff] at same
  exact absurd (same ▸ least) (String.not_le.mpr above)

theorem filter_name (ordered : Ordered entries) (name : String) :
    (entries.filter fun entry => entry.1 = name) =
      ((entries.lookup name).map fun value => (name, value)).toList := by
  induction entries with
  | nil => rfl
  | cons entry rest ih =>
    obtain ⟨first, held⟩ := entry
    rw [lookup_entry]
    by_cases same : name = first
    next =>
      subst same
      simp [filter_name_above ordered (String.le_refl name)]
    next => simp [same, Ne.symm same, ih ordered.of_cons]

theorem filter_names (ordered : Ordered entries) {first second : String} (less : first < second) :
    (entries.filter fun entry => entry.1 = first ∨ entry.1 = second) =
      (entries.filter fun entry => entry.1 = first) ++
        entries.filter fun entry => entry.1 = second := by
  induction entries with
  | nil => rfl
  | cons entry rest ih =>
    have later := ih ordered.of_cons
    obtain ⟨name, held⟩ := entry
    simp only [List.filter_cons, later]
    by_cases isFirst : name = first
    next => simp [isFirst, String.ne_of_lt less]
    next =>
      by_cases isSecond : name = second
      next =>
        subst isSecond
        have none := filter_name_above ordered (String.not_lt.mp (String.lt_asymm less))
        simp only [none, isFirst, decide_false, List.nil_append, if_true, or_true, decide_true,
          Bool.false_eq_true, if_false]
      next => simp [isFirst, isSecond]

end Names

theorem NameMap.mem_names_iff {A : Type} (m : NameMap A) (name : String) :
    name ∈ m.names ↔ ∃ value, m.get? name = some value := by
  simp [names, ← mem_entries_iff]

namespace Resource

theorem amount?_addAll_eq (resource : Resource) (entries : List (String × Int)) (name : String) :
    (resource.addAll entries).amount? name =
      (entries.filter fun entry => entry.1 = name).foldl
        (fun held entry => some (saturatingAdd (held.getD 0) (saturate entry.2)))
        (resource.amount? name) := by
  induction entries generalizing resource with
  | nil => rfl
  | cons entry rest ih =>
    obtain ⟨first, n⟩ := entry
    have step : resource.addAll ((first, n) :: rest) =
        (resource.addAmount first (saturate n)).addAll rest := rfl
    rw [step, ih, amount?_addAmount]
    by_cases same : name = first
    next =>
      subst same
      simp [amount]
    next => simp [same, Ne.symm same]

theorem schedulerName_vcore (pod : String) :
    schedulerName pod = "vcore" ↔ pod = "cpu" ∨ pod = "vcore" := by
  unfold schedulerName
  split <;> simp_all

theorem schedulerName_ne_cpu (pod : String) : schedulerName pod ≠ "cpu" := by
  unfold schedulerName
  split <;> simp_all

theorem schedulerName_other {name : String} (notVcore : name ≠ "vcore") (notCpu : name ≠ "cpu")
    (pod : String) : schedulerName pod = name ↔ pod = name := by
  unfold schedulerName
  split <;> simp_all [eq_comm]

variable {perMember : NameMap Quantity} {members : UInt32}

def contribution (perMember : NameMap Quantity) (members : UInt32) (pod : String) : Option Int :=
  (perMember.get? pod).map fun quantity =>
    max (-2 ^ 63) (min (2 ^ 63 - 1) (members.toNat * ⌈quantity.toRat / unit pod⌉))

def demand (perMember : NameMap Quantity) (members : UInt32) (name : String) : Option Int :=
  if name = "vcore" then
    match contribution perMember members "cpu", contribution perMember members "vcore" with
    | some cpu, some vcore => some (max (-2 ^ 63) (min (2 ^ 63 - 1) (cpu + vcore)))
    | some cpu, none => some cpu
    | none, vcore => vcore
  else if name = "cpu" then none
  else contribution perMember members name

theorem contribution_eq (perMember : NameMap Quantity) (members : UInt32) (pod : String) :
    contribution perMember members pod =
      (perMember.get? pod).map fun quantity =>
        (saturate (members.toNat * ⌈quantity.toRat / unit pod⌉)).toInt := by
  simp only [contribution, toInt_saturate_eq]

theorem amount?_ofMembers (parsed : ∀ entry ∈ perMember.entries, entry.2.Parsed) (name : String) :
    (ofMembers perMember members).amount? name =
      (perMember.entries.filter fun entry => schedulerName entry.1 = name).foldl
        (fun held entry => some (saturatingAdd (held.getD 0)
          (saturate (members.toNat * ⌈entry.2.toRat / unit entry.1⌉)))) none := by
  rw [ofMembers_eq_sum parsed, amount?_addAll_eq, wanted, List.filter_map, List.foldl_map]
  rfl

theorem zero_saturatingAdd (n : Int64) : saturatingAdd 0 n = n := by
  rw [saturatingAdd, Int64.toInt_zero, Int.zero_add, saturate_toInt]

theorem toInt_amount?_ofMembers (parsed : ∀ entry ∈ perMember.entries, entry.2.Parsed)
    (name : String) :
    ((ofMembers perMember members).amount? name).map Int64.toInt =
      demand perMember members name := by
  simp only [amount?_ofMembers parsed, demand, contribution_eq, NameMap.get?]
  by_cases vcore : name = "vcore"
  next =>
    have less : "cpu" < "vcore" := by decide
    simp only [vcore, schedulerName_vcore, filter_names perMember.ordered less,
      filter_name perMember.ordered, if_true]
    have sum (a b : Int64) : (saturatingAdd a b).toInt =
      max (-2 ^ 63) (min (2 ^ 63 - 1) (a.toInt + b.toInt)) := toInt_saturate_eq _
    cases perMember.entries.lookup "cpu" <;> cases perMember.entries.lookup "vcore" <;>
      simp only [Option.map_none, Option.map_some, Option.toList_none, Option.toList_some,
        List.nil_append, List.append_nil, List.cons_append, List.foldl_nil, List.foldl_cons,
        Option.getD_none, Option.getD_some, zero_saturatingAdd, sum]
  by_cases cpu : name = "cpu"
  next => simp [cpu, schedulerName_ne_cpu]
  next =>
    simp only [vcore, cpu, schedulerName_other vcore cpu, filter_name perMember.ordered, if_false]
    cases perMember.entries.lookup name <;> simp [zero_saturatingAdd]

/-- Every dimension is the exact need of all members, rounded once into 64 bits; only what `cpu` and
`vcore` come to is added after that. No step on the way overflows. -/
theorem ofMembers_exact (perMember : NameMap Quantity)
    (parsed : ∀ entry ∈ perMember.entries, entry.2.Parsed) (members : UInt32) :
    (∀ name, name ∈ (ofMembers perMember members).amounts.names ↔
      if name = "vcore" then "cpu" ∈ perMember.names ∨ "vcore" ∈ perMember.names
      else name ≠ "cpu" ∧ name ∈ perMember.names) ∧
    (∀ name, ((ofMembers perMember members).amount? name).map Int64.toInt =
      demand perMember members name) ∧
    ∀ entry ∈ perMember.entries, entry.2.scaledWord? (dimension entry.1).2 =
      some (saturate ⌈entry.2.toRat / unit entry.1⌉) := by
  refine ⟨?_, toInt_amount?_ofMembers parsed, ?_⟩
  next =>
    intro name
    have present : name ∈ (ofMembers perMember members).amounts.names ↔
        (((ofMembers perMember members).amount? name).map Int64.toInt).isSome := by
      rw [NameMap.mem_names_iff, Option.isSome_map, Option.isSome_iff_exists, amount?]
    have named (pod : String) :
        (contribution perMember members pod).isSome ↔ pod ∈ perMember.names := by
      rw [NameMap.mem_names_iff, contribution, Option.isSome_map, Option.isSome_iff_exists]
    rw [present, toInt_amount?_ofMembers parsed, demand, ← named, ← named, ← named]
    split
    next => split <;> simp_all
    next => split <;> simp_all
  next =>
    intro entry member
    obtain ⟨-, unit, fine⟩ := dimension_spec entry.1
    have sound : -38 ≤ entry.2.places + (dimension entry.1).2 ∨ 0 < entry.2.numerator :=
      .inl (by omega)
    rw [Quantity.scaledWord?_eq (parsed entry member),
      Quantity.scaledValue_eq (parsed entry member) sound, unit]

def lopsided : NameMap Quantity :=
  .ofEntries [("cpu", { text := "10E", numerator := 10 * 10 ^ 18, places := 0 }),
    ("memory", { text := "500Mi", numerator := 500 * 2 ^ 20, places := 0 }),
    ("vcore", { text := "-1.5", numerator := -15, places := 1 })]

theorem ofMembers_exact_lopsided :
    (∀ entry ∈ lopsided.entries, entry.2.Parsed) ∧
      ((ofMembers lopsided 3).amount? "vcore").map Int64.toInt = some (2 ^ 63 - 1 - 3) ∧
      ((ofMembers lopsided 3).amount? "memory").map Int64.toInt = some (3 * 525) ∧
      ((ofMembers lopsided 3).amount? "cpu").map Int64.toInt = none := by
  have parsed : ∀ entry ∈ lopsided.entries, entry.2.Parsed := by
    have listed : lopsided.entries =
        [("cpu", { text := "10E", numerator := 10 * 10 ^ 18, places := 0 }),
         ("memory", { text := "500Mi", numerator := 500 * 2 ^ 20, places := 0 }),
         ("vcore", { text := "-1.5", numerator := -15, places := 1 })] := by decide
    simp only [listed, List.forall_mem_cons]
    exact ⟨⟨"10E", by decide⟩, ⟨"500Mi", by decide⟩, ⟨"-1.5", by decide⟩, by simp⟩
  have count : (3 : UInt32).toNat = 3 := rfl
  have cpu : contribution lopsided 3 "cpu" = some (2 ^ 63 - 1) := by
    have found : lopsided.get? "cpu" =
        some { text := "10E", numerator := 10 * 10 ^ 18, places := 0 } := by decide
    have unit : unit "cpu" = 1 / 1000 := by simp [unit]
    rw [contribution, found, unit, count]
    norm_num [Quantity.toRat]
  have vcore : contribution lopsided 3 "vcore" = some (-3) := by
    have found : lopsided.get? "vcore" =
        some { text := "-1.5", numerator := -15, places := 1 } := by decide
    have unit : unit "vcore" = 1 := by simp [unit]
    rw [contribution, found, unit, count]
    norm_num [Quantity.toRat]
  have memory : contribution lopsided 3 "memory" = some (3 * 525) := by
    have found : lopsided.get? "memory" =
        some { text := "500Mi", numerator := 500 * 2 ^ 20, places := 0 } := by decide
    have unit : unit "memory" = 10 ^ 6 := by simp [unit]
    rw [contribution, found, unit, count]
    norm_num [Quantity.toRat]
  obtain ⟨-, amounts, -⟩ := ofMembers_exact lopsided parsed 3
  simp only [amounts]
  refine ⟨parsed, ?_, by simp [demand, memory], by simp [demand]⟩
  norm_num [demand, cpu, vcore]

end Resource

end GangScheduling
