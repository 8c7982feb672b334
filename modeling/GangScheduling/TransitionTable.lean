set_option autoImplicit false

namespace GangScheduling

structure TransitionRule (S E : Type) where
  event : E
  sources : List S
  destination : S
deriving DecidableEq, Repr

inductive TableFault (S E : Type)
  | noSources (event : E)
  | declaredTwice (event : E) (state : S)
deriving DecidableEq, Repr

structure Route (S E : Type) where
  event : E
  source : S
  destination : S
deriving DecidableEq, Repr

structure TransitionTable (S E : Type) where
  routes : List (Route S E)
deriving DecidableEq, Repr

namespace TransitionTable

variable {S E : Type} [DecidableEq S] [DecidableEq E]

def destination (table : TransitionTable S E) (state : S) (event : E) : Option S :=
  (table.routes.find? fun route => route.event = event ∧ route.source = state).map (·.destination)

def size (table : TransitionTable S E) : Nat :=
  table.routes.length

def addSources (event : E) (destination : S) :
    TransitionTable S E → List S → Except (TableFault S E) (TransitionTable S E)
  | table, [] => .ok table
  | table, source :: rest =>
    if (table.destination source event).isSome then .error (.declaredTwice event source)
    else addSources event destination
      { routes := table.routes ++ [{ event, source, destination }] } rest

def addRules : TransitionTable S E → List (TransitionRule S E) →
    Except (TableFault S E) (TransitionTable S E)
  | table, [] => .ok table
  | table, rule :: rest =>
    if rule.sources.isEmpty then .error (.noSources rule.event)
    else match addSources rule.event rule.destination table rule.sources with
      | .error fault => .error fault
      | .ok extended => addRules extended rest

/-- Refuses a rule without sources and a pair of event and source that is given twice, whichever
comes first. -/
def ofRules (rules : List (TransitionRule S E)) : Except (TableFault S E) (TransitionTable S E) :=
  addRules { routes := [] } rules

end TransitionTable

inductive Transition (S : Type)
  | moved (before after : S)
  | stayed (state : S)
deriving DecidableEq, Repr

structure Machine (S E : Type) where
  table : TransitionTable S E
  current : S

namespace Machine

variable {S E : Type} [DecidableEq S] [DecidableEq E]

def can (machine : Machine S E) (event : E) : Bool :=
  (machine.table.destination machine.current event).isSome

def fire (machine : Machine S E) (event : E) : Option (Transition S) × Machine S E :=
  match machine.table.destination machine.current event with
  | none => (none, machine)
  | some next =>
    if next = machine.current then (some (.stayed next), machine)
    else (some (.moved machine.current next), { machine with current := next })

end Machine

end GangScheduling
