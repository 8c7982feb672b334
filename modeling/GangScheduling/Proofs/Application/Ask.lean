import GangScheduling.Proofs.Application.History
import GangScheduling.Proofs.Resource

set_option autoImplicit false

namespace GangScheduling

namespace TaskGroup

variable {group : TaskGroup}

def Parsed (group : TaskGroup) : Prop :=
  ∀ entry ∈ group.minResource.entries, entry.2.Parsed

structure NonNegative (group : TaskGroup) : Prop where
  parsed : group.Parsed
  nonneg : ∀ entry ∈ group.minResource.entries, 0 ≤ entry.2.toRat

def wanted (group : TaskGroup) : List (String × Int) :=
  Resource.wanted group.minResource group.minMember

theorem NonNegative.ask_eq (sound : group.NonNegative) :
    group.ask = Resource.empty.addAll group.wanted :=
  Resource.ofMembers_eq_sum sound.parsed group.minMember

theorem NonNegative.wanted_nonneg (sound : group.NonNegative) :
    ∀ entry ∈ group.wanted, 0 ≤ entry.2 :=
  Resource.wanted_nonneg sound.nonneg group.minMember

theorem NonNegative.amount_ask (sound : group.NonNegative) (name : String) :
    0 ≤ (group.ask.amount name).toInt := by
  rw [sound.ask_eq, Resource.amount_sum sound.wanted_nonneg]
  exact saturate_nonneg (Resource.total_nonneg sound.wanted_nonneg name)

end TaskGroup

namespace Application

variable {app : Application}

def requested (app : Application) (name : String) : Int :=
  ((app.ask.getD .empty).amount name).toInt

def withAsks (ask : Resource) (groups : List TaskGroup) : Resource :=
  groups.foldl (fun ask group => ask + group.ask) ask

def Call.groups? : Call → Option (List TaskGroup)
  | .edit (.setGroups groups) => some groups
  | _ => none

def registrations (calls : List Call) : List (List TaskGroup) :=
  calls.filterMap Call.groups?

theorem registrations_skip {call : Call} (other : call.groups? = none) (rest : List Call) :
    registrations (call :: rest) = registrations rest :=
  List.filterMap_cons_none other

theorem registrations_set {call : Call} {groups : List TaskGroup}
    (setting : call.groups? = some groups) (rest : List Call) :
    registrations (call :: rest) = groups :: registrations rest :=
  List.filterMap_cons_some setting

def wanted (calls : List Call) : List (String × Int) :=
  (registrations calls).flatten.flatMap TaskGroup.wanted

theorem call_frame (app : Application) (call : Call) (other : call.groups? = none) :
    (app.call call).1.groups = app.groups ∧ (app.call call).1.ask = app.ask := by
  obtain ⟨event, handled⟩ | ⟨same, -⟩ | ⟨edit, rfl⟩ := call_cases app call
  next =>
    generalize app.call call = result at handled ⊢
    obtain ⟨after, effects⟩ := result
    obtain ⟨state, tasks, rfl⟩ := handle_frame handled
    exact ⟨rfl, rfl⟩
  next =>
    rw [same]
    exact ⟨rfl, rfl⟩
  next =>
    cases edit with
    | setGroups groups => cases other
    | removeTask id =>
      obtain ⟨tasks, same⟩ := app.edit_removeTask id
      rw [Application.call, same]
      exact ⟨rfl, rfl⟩
    | _ => exact ⟨rfl, rfl⟩

theorem call_setGroups (app : Application) {call : Call} {groups : List TaskGroup}
    (setting : call.groups? = some groups) : (app.call call).1 = app.setGroups groups := by
  unfold Call.groups? at setting
  split at setting
  next => cases setting; rfl
  next => cases setting

theorem groups_after (app : Application) (calls : List Call) :
    (app.after calls).groups = (registrations calls).getLast?.getD app.groups := by
  induction calls generalizing app with
  | nil => rfl
  | cons call rest ih =>
    have step : app.after (call :: rest) = (app.call call).1.after rest := rfl
    cases setting : call.groups? with
    | none =>
      rw [step, ih, (call_frame app call setting).1, registrations_skip setting]
    | some groups =>
      rw [step, ih, call_setGroups app setting, registrations_set setting, List.getLast?_cons]
      rfl

theorem ask_after (app : Application) (calls : List Call) :
    (app.after calls).ask =
      if registrations calls = [] then app.ask
      else some (withAsks (app.ask.getD .empty) (registrations calls).flatten) := by
  induction calls generalizing app with
  | nil => rfl
  | cons call rest ih =>
    have step : app.after (call :: rest) = (app.call call).1.after rest := rfl
    cases setting : call.groups? with
    | none =>
      rw [step, ih, (call_frame app call setting).2, registrations_skip setting]
    | some groups =>
      have set : (app.setGroups groups).ask = some (withAsks (app.ask.getD .empty) groups) := rfl
      rw [step, ih, call_setGroups app setting, set, registrations_set setting,
        if_neg (List.cons_ne_nil _ _), List.flatten_cons]
      split
      next none => rw [none, List.flatten_nil, List.append_nil]
      next => rw [Option.getD_some, withAsks, withAsks, withAsks, List.foldl_append]

theorem le_amount_withAsks {groups : List TaskGroup} {name : String}
    (nonneg : ∀ group ∈ groups, 0 ≤ (group.ask.amount name).toInt) (ask : Resource) :
    (ask.amount name).toInt ≤ ((withAsks ask groups).amount name).toInt := by
  induction groups generalizing ask with
  | nil => exact Int.le_refl _
  | cons group rest ih =>
    obtain ⟨first, others⟩ := List.forall_mem_cons.mp nonneg
    calc (ask.amount name).toInt
        ≤ ((ask + group.ask).amount name).toInt := by
          rw [Resource.amount_add]
          exact le_saturatingAdd first
      _ ≤ ((withAsks ask (group :: rest)).amount name).toInt := ih others _

def newGang : Application :=
  { id := "app-1", queue := "root.q", user := "u", groups := [{ name := "a", minMember := 2 }] }

/-- The ask never shrinks exactly if no group by itself asks for a negative amount. A group without
a negative quantity does not. -/
theorem only_grows_iff (allowed : TaskGroup → Prop) :
    ((∀ (app : Application) (calls : List Call) (groups : List TaskGroup),
        (∀ group ∈ (registrations calls).flatten ++ groups, allowed group) →
        ∀ name, (app.after calls).requested name ≤
          ((app.after calls).setGroups groups).requested name) ↔
      ∀ group, allowed group → ∀ name, 0 ≤ (group.ask.amount name).toInt) ∧
    ∀ group : TaskGroup, group.NonNegative → ∀ name, 0 ≤ (group.ask.amount name).toInt := by
  refine ⟨⟨?_, ?_⟩, fun group sound => sound.amount_ask⟩
  next =>
    intro grows group legal name
    have alone := grows newGang [] [group] (by simpa [registrations] using legal) name
    have first : ((newGang.after []).setGroups [group]).requested name =
        ((Resource.empty + group.ask).amount name).toInt := rfl
    have before : (newGang.after []).requested name = 0 := rfl
    rwa [before, first, Resource.amount_add, saturatingAdd, Resource.toInt_amount_empty,
      Int.zero_add, saturate_toInt] at alone
  next =>
    intro nonneg app calls groups legal name
    refine le_amount_withAsks (fun group member => ?_) _
    exact nonneg group (legal group (List.mem_append_right _ member)) name

def cores (n : Int) (text : String) : Quantity :=
  { text, numerator := n, places := 0 }

def worker (perPod : Quantity) : TaskGroup :=
  { name := "a", minMember := 1, minResource := .ofEntries [("cpu", perPod)] }

theorem parsed_worker {perPod : Quantity} (parsed : perPod.Parsed) : (worker perPod).Parsed := by
  have entries : (worker perPod).minResource.entries = [("cpu", perPod)] := rfl
  simpa [TaskGroup.Parsed, entries] using parsed

theorem negative_quantity_shrinks_ask :
    ¬ ∀ (app : Application) (calls : List Call) (groups : List TaskGroup),
      (∀ group ∈ (registrations calls).flatten ++ groups, group.Parsed) →
      ∀ name, (app.after calls).requested name ≤
        ((app.after calls).setGroups groups).requested name := by
  intro grows
  let two := worker (cores 2 "2")
  let minusOne := worker (cores (-1) "-1")
  have legal : ∀ group ∈ (registrations [.edit (.setGroups [two])]).flatten ++ [minusOne],
      group.Parsed := by
    have first : two.Parsed := parsed_worker ⟨"2", rfl⟩
    have second : minusOne.Parsed := parsed_worker ⟨"-1", rfl⟩
    simpa [registrations, Call.groups?] using ⟨first, second⟩
  have before : (newGang.after [.edit (.setGroups [two])]).requested "vcore" = 2000 := by decide
  have later : ((newGang.after [.edit (.setGroups [two])]).setGroups [minusOne]).requested "vcore" =
      1000 := by decide
  have grown := grows newGang [.edit (.setGroups [two])] [minusOne] legal "vcore"
  rw [before, later] at grown
  omega

theorem withAsks_eq_addAll {groups : List TaskGroup}
    (sound : ∀ group ∈ groups, group.NonNegative) {ask : Resource}
    (start : ∀ name, 0 ≤ (ask.amount name).toInt) :
    withAsks ask groups = ask.addAll (groups.flatMap TaskGroup.wanted) := by
  induction groups generalizing ask with
  | nil => rfl
  | cons group rest ih =>
    obtain ⟨first, others⟩ := List.forall_mem_cons.mp sound
    have grown (name : String) : 0 ≤ ((ask + group.ask).amount name).toInt := by
      rw [Resource.amount_add]
      exact (start name).trans (le_saturatingAdd (first.amount_ask name))
    have step : withAsks ask (group :: rest) = withAsks (ask + group.ask) rest := rfl
    rw [step, ih others grown, first.ask_eq, Resource.add_sum first.wanted_nonneg start]
    simp only [Resource.addAll, List.flatMap_cons, List.foldl_append]

theorem ask_after_eq_addAll (fresh : app.ask = none) {calls : List Call}
    (registered : registrations calls ≠ [])
    (sound : ∀ group ∈ (registrations calls).flatten, group.NonNegative) :
    (app.after calls).ask = some (Resource.empty.addAll (wanted calls)) := by
  have zero (name : String) : 0 ≤ (Resource.empty.amount name).toInt :=
    (Resource.toInt_amount_empty name).ge
  rw [ask_after, if_neg registered, fresh, wanted, ← withAsks_eq_addAll sound zero]
  rfl

theorem wanted_nonneg {calls : List Call}
    (sound : ∀ group ∈ (registrations calls).flatten, group.NonNegative) :
    ∀ entry ∈ wanted calls, 0 ≤ entry.2 := by
  intro entry member
  obtain ⟨group, listed, needed⟩ := List.mem_flatMap.mp member
  exact (sound group listed).wanted_nonneg entry needed

/-- Where no quantity is negative, the ask is the sum over all groups that were ever set, whatever
their order, how they came in and what else was called in between. -/
theorem ask_eq_total (app : Application) (fresh : app.ask = none) (calls : List Call)
    (registered : registrations calls ≠ [])
    (sound : ∀ group ∈ (registrations calls).flatten, group.NonNegative) :
    (∃ ask, (app.after calls).ask = some ask ∧
      ∀ name, (ask.amount? name).map Int64.toInt =
        if name ∈ (wanted calls).map Prod.fst then
          some (min Int64.maxValue.toInt (Resource.total (wanted calls) name))
        else none) ∧
    (∀ (other : Application) (others : List Call), other.ask = none → registrations others ≠ [] →
      (registrations others).flatten.Perm (registrations calls).flatten →
      (other.after others).ask = (app.after calls).ask) ∧
    (app.after calls).groups = (registrations calls).getLast registered := by
  have nonneg := wanted_nonneg sound
  refine ⟨⟨_, ask_after_eq_addAll fresh registered sound, Resource.toInt_amount?_sum nonneg⟩,
    ?_, ?_⟩
  next =>
    intro other others otherFresh otherRegistered same
    have otherSound : ∀ group ∈ (registrations others).flatten, group.NonNegative :=
      fun group member => sound group (same.mem_iff.mp member)
    rw [ask_after_eq_addAll fresh registered sound,
      ask_after_eq_addAll otherFresh otherRegistered otherSound]
    exact congrArg some
      (Resource.sum_perm (wanted_nonneg otherSound) (same.flatMap_right TaskGroup.wanted))
  next => rw [groups_after, List.getLast?_eq_some_getLast registered, Option.getD_some]

def twoNames : TaskGroup :=
  { name := "a"
    minMember := 3
    minResource := .ofEntries
      [("cpu", { text := "500m", numerator := 500, places := 3 }), ("vcore", cores 1 "1")] }

def huge : TaskGroup :=
  { name := "b"
    minMember := 4294967295
    minResource := .ofEntries
      [("memory", { text := "9E", numerator := 9000000000000000000, places := 0 })] }

theorem nonNegative_twoNames : twoNames.NonNegative := by
  have entries : twoNames.minResource.entries =
      [("cpu", { text := "500m", numerator := 500, places := 3 }), ("vcore", cores 1 "1")] := by
    decide
  constructor
  next =>
    rw [TaskGroup.Parsed, entries]
    simpa using ⟨⟨"500m", rfl⟩, ⟨"1", rfl⟩⟩
  next =>
    rw [entries]
    norm_num [Quantity.toRat, cores]

theorem nonNegative_huge : huge.NonNegative := by
  have entries : huge.minResource.entries =
      [("memory", { text := "9E", numerator := 9000000000000000000, places := 0 })] := rfl
  constructor
  next =>
    rw [TaskGroup.Parsed, entries]
    simpa using ⟨"9E", rfl⟩
  next =>
    rw [entries]
    norm_num [Quantity.toRat]

def setTwice : List Call :=
  [.edit (.setGroups [twoNames, huge]), .schedule, .edit (.setGroups [twoNames])]

theorem ask_eq_total_setTwice :
    newGang.ask = none ∧ (∀ group ∈ (registrations setTwice).flatten, group.NonNegative) ∧
      (newGang.after setTwice).groups = [twoNames] ∧
      ∃ ask, (newGang.after setTwice).ask = some ask ∧ ask.amount? "cpu" = none ∧
        (ask.amount? "vcore").map Int64.toInt = some 3006 ∧
        (ask.amount? "memory").map Int64.toInt = some (2 ^ 63 - 1) ∧
        (newGang.after [.edit (.setGroups [huge, twoNames, twoNames])]).ask = some ask := by
  have listed : (registrations setTwice).flatten = [twoNames, huge, twoNames] := rfl
  have sound : ∀ group ∈ (registrations setTwice).flatten, group.NonNegative := by
    simp [listed, nonNegative_twoNames, nonNegative_huge]
  have needed : wanted setTwice = [("vcore", 1500), ("vcore", 3),
      ("memory", 4294967295 * 9000000000000), ("vcore", 1500), ("vcore", 3)] := by
    decide +kernel
  obtain ⟨⟨ask, asked, amounts⟩, regrouped, latest⟩ :=
    ask_eq_total newGang rfl setTwice (List.cons_ne_nil _ _) sound
  rw [needed] at amounts
  refine ⟨rfl, sound, latest, ask, asked, ?_, amounts "vcore", amounts "memory", ?_⟩
  next => exact Option.map_eq_none_iff.mp (amounts "cpu")
  next =>
    rw [← asked]
    exact regrouped newGang _ rfl (List.cons_ne_nil _ _) (.swap _ _ _)

end Application

end GangScheduling
