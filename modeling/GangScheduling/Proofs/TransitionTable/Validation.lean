import GangScheduling.Proofs.TransitionTable
import Mathlib.Algebra.GroupWithZero.Nat
import Mathlib.Data.List.Perm.Basic

set_option autoImplicit false

namespace GangScheduling

variable {S E : Type}

namespace TransitionRule

def pairs (rule : TransitionRule S E) : List (E × S) :=
  rule.sources.map fun source => (rule.event, source)

def routes (rule : TransitionRule S E) : List (Route S E) :=
  rule.sources.map fun source =>
    { event := rule.event, source, destination := rule.destination }

def declared (rules : List (TransitionRule S E)) : List (E × S) :=
  rules.flatMap pairs

theorem declared_concat (rules : List (TransitionRule S E)) (rule : TransitionRule S E) :
    declared (rules ++ [rule]) = declared rules ++ rule.pairs := by
  simp [declared]

/-- Every rule has a source, and every event leads from a state to one other at most. -/
structure Valid (rules : List (TransitionRule S E)) : Prop where
  filled : ∀ rule ∈ rules, rule.sources ≠ []
  distinct : (declared rules).Nodup

theorem Valid.nil : Valid ([] : List (TransitionRule S E)) where
  filled _ member := nomatch member
  distinct := List.nodup_nil

theorem Valid.perm {rules reordered : List (TransitionRule S E)} (valid : Valid rules)
    (same : reordered.Perm rules) : Valid reordered where
  filled rule member := valid.filled rule (same.mem_iff.mp member)
  distinct := (same.flatMap_right pairs).nodup_iff.mpr valid.distinct

theorem Valid.of_append {first second : List (TransitionRule S E)}
    (valid : Valid (first ++ second)) : Valid first where
  filled rule member := valid.filled rule (List.mem_append_left _ member)
  distinct := by
    have distinct := valid.distinct
    rw [declared, List.flatMap_append] at distinct
    exact (List.nodup_append.mp distinct).1

/-- The first thing that is wrong with the rules in reading order: a rule without sources, or a
source that was given before for the same event. -/
inductive FirstFault (rules : List (TransitionRule S E)) : TableFault S E → Prop
  | noSources (before after : List (TransitionRule S E)) (rule : TransitionRule S E)
      (split : rules = before ++ rule :: after) (sound : Valid before)
      (empty : rule.sources = []) : FirstFault rules (.noSources rule.event)
  | declaredTwice (before after : List (TransitionRule S E)) (rule : TransitionRule S E)
      (earlier later : List S) (source : S) (split : rules = before ++ rule :: after)
      (sound : Valid before) (listed : rule.sources = earlier ++ source :: later)
      (distinct : (declared before ++ earlier.map fun other => (rule.event, other)).Nodup)
      (again : (rule.event, source) ∈
        declared before ++ earlier.map fun other => (rule.event, other)) :
      FirstFault rules (.declaredTwice rule.event source)

theorem exists_first_repeat {A B : Type} (key : A → B) {known : List B} (distinct : known.Nodup)
    {items : List A} (repeated : ¬ (known ++ items.map key).Nodup) :
    ∃ earlier item later, items = earlier ++ item :: later ∧
      (known ++ earlier.map key).Nodup ∧ key item ∈ known ++ earlier.map key := by
  induction items generalizing known with
  | nil => exact absurd (by simpa using distinct) repeated
  | cons item rest ih =>
    by_cases seen : key item ∈ known
    next => exact ⟨[], item, rest, rfl, by simpa using distinct, by simpa using seen⟩
    next =>
      have grown : (known ++ [key item]).Nodup :=
        List.nodup_append.mpr ⟨distinct, by simp, by grind⟩
      obtain ⟨earlier, other, later, rfl, fresh, again⟩ := ih grown (by simpa using repeated)
      exact ⟨item :: earlier, other, later, rfl, by simpa using fresh, by simpa using again⟩

theorem valid_or_fault {before : List (TransitionRule S E)} (valid : Valid before)
    (rest : List (TransitionRule S E)) :
    Valid (before ++ rest) ∨ ∃ fault, FirstFault (before ++ rest) fault := by
  induction rest generalizing before with
  | nil => exact .inl (by simpa using valid)
  | cons rule after ih =>
    by_cases empty : rule.sources = []
    next => exact .inr ⟨_, .noSources before after rule rfl valid empty⟩
    next =>
      by_cases distinct : (declared before ++ rule.pairs).Nodup
      next =>
        have grown : Valid (before ++ [rule]) :=
          { filled := by simpa [or_imp, forall_and] using ⟨valid.filled, empty⟩
            distinct := by rwa [declared_concat] }
        simpa using ih grown
      next =>
        obtain ⟨earlier, source, later, listed, fresh, again⟩ :=
          exists_first_repeat _ valid.distinct distinct
        exact .inr ⟨_, .declaredTwice before after rule earlier later source rfl valid listed fresh
          again⟩

end TransitionRule

namespace TransitionTable

open TransitionRule (pairs declared Valid FirstFault valid_or_fault)

def keys (table : TransitionTable S E) : List (E × S) :=
  table.routes.map fun route => (route.event, route.source)

def reading (rules : List (TransitionRule S E)) : TransitionTable S E :=
  { routes := rules.flatMap TransitionRule.routes }

theorem keys_reading (rules : List (TransitionRule S E)) :
    (reading rules).keys = declared rules := by
  rw [keys, reading, declared, List.map_flatMap]
  congr 1
  funext rule
  simp [pairs, TransitionRule.routes]

theorem reading_concat (rules : List (TransitionRule S E)) (rule : TransitionRule S E) :
    reading (rules ++ [rule]) = { routes := (reading rules).routes ++ rule.routes } := by
  simp [reading]

theorem size_reading (rules : List (TransitionRule S E)) :
    (reading rules).size = (rules.map (·.sources.length)).sum := by
  simp [size, reading, TransitionRule.routes, List.length_flatMap]

variable [DecidableEq S] [DecidableEq E]

theorem isSome_destination (table : TransitionTable S E) (state : S) (event : E) :
    (table.destination state event).isSome = true ↔ (event, state) ∈ table.keys := by
  simp [destination, keys]

theorem addSources_of_distinct {table : TransitionTable S E} {event : E} {destination : S}
    {sources : List S}
    (distinct : (table.keys ++ sources.map fun source => (event, source)).Nodup) :
    addSources event destination table sources =
      .ok { routes :=
        table.routes ++ sources.map fun source => { event, source, destination } } := by
  induction sources generalizing table with
  | nil => simp [addSources]
  | cons source rest ih =>
    have fresh : (event, source) ∉ table.keys := by
      intro known
      exact (List.nodup_append.mp distinct).2.2 _ known _ List.mem_cons_self rfl
    rw [addSources, if_neg (mt (isSome_destination table source event).mp fresh), ih]
    next => simp
    next => simpa [keys] using distinct

theorem addSources_of_again {table : TransitionTable S E} {event : E} {destination source : S}
    {earlier : List S} (later : List S)
    (distinct : (table.keys ++ earlier.map fun other => (event, other)).Nodup)
    (again : (event, source) ∈ table.keys ++ earlier.map fun other => (event, other)) :
    addSources event destination table (earlier ++ source :: later) =
      .error (.declaredTwice event source) := by
  induction earlier generalizing table with
  | nil =>
    have known : (event, source) ∈ table.keys := by simpa using again
    rw [List.nil_append, addSources, if_pos ((isSome_destination table source event).mpr known)]
  | cons other rest ih =>
    have fresh : (event, other) ∉ table.keys := by
      intro known
      exact (List.nodup_append.mp distinct).2.2 _ known _ List.mem_cons_self rfl
    rw [List.cons_append, addSources,
      if_neg (mt (isSome_destination table other event).mp fresh), ih]
    next => simpa [keys] using distinct
    next => simpa [keys] using again

theorem addRules_append (before : List (TransitionRule S E)) {rules : List (TransitionRule S E)}
    (valid : Valid (before ++ rules)) (rest : List (TransitionRule S E)) :
    addRules (reading before) (rules ++ rest) = addRules (reading (before ++ rules)) rest := by
  induction rules generalizing before with
  | nil => simp
  | cons rule others ih =>
    have split : before ++ rule :: others = (before ++ [rule]) ++ others := by simp
    rw [split] at valid ⊢
    have filled : rule.sources ≠ [] := valid.filled rule (by simp)
    have distinct : ((reading before).keys ++ rule.pairs).Nodup := by
      rw [keys_reading, ← TransitionRule.declared_concat]
      exact valid.of_append.distinct
    have added : addSources rule.event rule.destination (reading before) rule.sources =
        .ok (reading (before ++ [rule])) := by
      rw [reading_concat]
      exact addSources_of_distinct distinct
    rw [← ih _ valid, List.cons_append, addRules, if_neg (by simpa using filled), added]

theorem ofRules_of_valid {rules : List (TransitionRule S E)} (valid : Valid rules) :
    ofRules rules = .ok (reading rules) := by
  have read := addRules_append [] valid []
  rw [List.append_nil] at read
  exact read

theorem ofRules_of_fault {rules : List (TransitionRule S E)} {fault : TableFault S E}
    (first : FirstFault rules fault) : ofRules rules = .error fault := by
  cases first with
  | noSources before after rule split sound empty =>
    have read := addRules_append [] sound (rule :: after)
    rw [ofRules, split]
    refine read.trans ?_
    rw [addRules, if_pos (by simp [empty])]
  | declaredTwice before after rule earlier later source split sound listed distinct again =>
    have read := addRules_append [] sound (rule :: after)
    have failed : addSources rule.event rule.destination (reading before) rule.sources =
        .error (.declaredTwice rule.event source) := by
      rw [listed]
      rw [← keys_reading] at distinct again
      exact addSources_of_again later distinct again
    rw [ofRules, split]
    refine read.trans ?_
    rw [addRules, if_neg (by simp [listed]), List.nil_append, failed]

theorem valid_of_ofRules {rules : List (TransitionRule S E)} {table : TransitionTable S E}
    (built : ofRules rules = .ok table) : Valid rules := by
  cases valid_or_fault .nil rules with
  | inl valid => exact valid
  | inr faulty =>
    obtain ⟨fault, first⟩ := faulty
    cases built.symm.trans (ofRules_of_fault first)

theorem firstFault_of_ofRules {rules : List (TransitionRule S E)} {fault : TableFault S E}
    (failed : ofRules rules = .error fault) : FirstFault rules fault := by
  cases valid_or_fault .nil rules with
  | inl valid => cases failed.symm.trans (ofRules_of_valid valid)
  | inr faulty =>
    obtain ⟨found, first⟩ := faulty
    cases failed.symm.trans (ofRules_of_fault first)
    exact first

theorem destination_perm {rules reordered : List (TransitionRule S E)}
    {table other : TransitionTable S E} (same : reordered.Perm rules)
    (built : ofRules rules = .ok table) (rebuilt : ofRules reordered = .ok other) (state : S)
    (event : E) : other.destination state event = table.destination state event := by
  ext next
  simp only [destination_ofRules built, destination_ofRules rebuilt, same.mem_iff]

/-- Rules make a table exactly if each has a source and no pair of event and source is given twice.
Otherwise the fault is the first one in reading order. -/
theorem ofRules_exact (rules : List (TransitionRule S E)) :
    ((∃ table, ofRules rules = .ok table) ↔ Valid rules) ∧
    (∀ table, ofRules rules = .ok table →
      (∀ state event next, table.destination state event = some next ↔
        ∃ rule ∈ rules, rule.event = event ∧ state ∈ rule.sources ∧ rule.destination = next) ∧
      table.size = (rules.map (·.sources.length)).sum ∧
      ∀ reordered : List (TransitionRule S E), reordered.Perm rules →
        ∃ other, ofRules reordered = .ok other ∧ other.size = table.size ∧
          other.routes.Perm table.routes ∧
          ∀ state event, other.destination state event = table.destination state event) ∧
    ∀ fault, ofRules rules = .error fault ↔ FirstFault rules fault := by
  refine ⟨⟨?_, fun valid => ⟨_, ofRules_of_valid valid⟩⟩, ?_,
    fun fault => ⟨firstFault_of_ofRules, ofRules_of_fault⟩⟩
  next =>
    rintro ⟨table, built⟩
    exact valid_of_ofRules built
  next =>
    intro table built
    have valid := valid_of_ofRules built
    have read : reading rules = table := Except.ok.inj ((ofRules_of_valid valid).symm.trans built)
    refine ⟨fun state event next => destination_ofRules built state next event,
      read ▸ size_reading rules, ?_⟩
    intro reordered same
    have rebuilt := ofRules_of_valid (valid.perm same)
    have routes : (reading reordered).routes.Perm table.routes :=
      read ▸ same.flatMap_right TransitionRule.routes
    exact ⟨_, rebuilt, routes.length_eq, routes, destination_perm same built rebuilt⟩

example :
    ofRules [{ event := 0, sources := [1, 2, 1], destination := 1 },
      { event := 1, sources := [], destination := 3 }] =
        .error (.declaredTwice (E := Nat) 0 1) := by
  decide

end TransitionTable

end GangScheduling
