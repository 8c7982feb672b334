import GangScheduling.TransitionTable

set_option autoImplicit false

namespace GangScheduling

namespace TransitionTable

variable {S E : Type} [DecidableEq S] [DecidableEq E]

theorem destination_append (table : TransitionTable S E) (added : Route S E) (state : S)
    (event : E) :
    destination { routes := table.routes ++ [added] } state event =
      (table.destination state event).or
        (if added.event = event ∧ added.source = state then some added.destination else none) := by
  unfold destination
  rw [List.find?_append, Option.map_or, List.find?_singleton]
  congr 1
  by_cases same : added.event = event ∧ added.source = state <;> simp [same]

theorem destination_addSources {table extended : TransitionTable S E} {event : E}
    {destination : S} {sources : List S}
    (built : addSources event destination table sources = .ok extended) (state next : S)
    (kind : E) :
    extended.destination state kind = some next ↔
      table.destination state kind = some next ∨
        event = kind ∧ state ∈ sources ∧ destination = next := by
  induction sources generalizing table with
  | nil =>
    cases built
    simp
  | cons source rest ih =>
    unfold addSources at built
    split at built
    next => cases built
    next absent =>
      have free : table.destination source event = none := by simpa using absent
      rw [ih built, destination_append, Option.or_eq_some_iff]
      dsimp only
      by_cases here : event = kind ∧ source = state
      next =>
        obtain ⟨rfl, rfl⟩ := here
        simp [free]
      next =>
        rw [if_neg here]
        grind

theorem destination_addRules {table full : TransitionTable S E}
    {rules : List (TransitionRule S E)} (built : addRules table rules = .ok full)
    (state next : S) (kind : E) :
    full.destination state kind = some next ↔
      table.destination state kind = some next ∨
        ∃ rule ∈ rules, rule.event = kind ∧ state ∈ rule.sources ∧ rule.destination = next := by
  induction rules generalizing table with
  | nil =>
    cases built
    simp
  | cons rule rest ih =>
    unfold addRules at built
    split at built
    next => cases built
    next =>
      split at built
      next => cases built
      next middle extended =>
        rw [ih built, destination_addSources extended]
        simp [or_assoc]

theorem destination_ofRules {table : TransitionTable S E} {rules : List (TransitionRule S E)}
    (built : ofRules rules = .ok table) (state next : S) (kind : E) :
    table.destination state kind = some next ↔
      ∃ rule ∈ rules, rule.event = kind ∧ state ∈ rule.sources ∧ rule.destination = next := by
  rw [destination_addRules built]
  simp [destination]

end TransitionTable

end GangScheduling
