import GangScheduling.Config
import GangScheduling.NameMap
import GangScheduling.Proofs.Text.Decimal

set_option autoImplicit false

namespace GangScheduling

namespace Config

abbrev Variables := List (String × String)

def textNames : List String :=
  ["SHIM_CLUSTER_ID", "SHIM_CLUSTER_VERSION", "SHIM_POLICY_GROUP"]

def numberNames : List String :=
  ["SHIM_SCHEDULING_INTERVAL_MS", "SHIM_DISPATCH_BACKLOG_WARN", "SHIM_WORKER_THREADS"]

def names : List String :=
  textNames ++ numberNames

section Numbers

variable {value : String}

def number (value : String) : Nat :=
  Nat.ofDigitChars 10 (Text.unsigned value.toList) 0

def IsNumber (value : String) : Prop :=
  Text.Digital (Text.unsigned value.toList) ∧ number value < UInt64.size

instance : DecidablePred IsNumber := fun value =>
  inferInstanceAs (Decidable (Text.Digital _ ∧ number value < UInt64.size))

theorem readNatural_word_iff (n : Nat) :
    Text.readNatural (UInt64.size - 1) value.toList = .ok n ↔
      IsNumber value ∧ number value = n := by
  have below (m : Nat) : m ≤ UInt64.size - 1 ↔ m < UInt64.size :=
    Nat.le_sub_one_iff_lt (by decide)
  rw [Text.readNatural_ok_iff, below, IsNumber, number]
  constructor
  next => rintro ⟨digital, rfl, small⟩; exact ⟨⟨digital, small⟩, rfl⟩
  next => rintro ⟨⟨digital, small⟩, rfl⟩; exact ⟨digital, rfl, small⟩

theorem readNumber_of_number (isNumber : IsNumber value) (name : String) :
    readNumber name value = .ok (UInt64.ofNat (number value)) := by
  have read := (readNatural_word_iff (number value)).mpr ⟨isNumber, rfl⟩
  rw [readNumber, read]

theorem readNumber_of_not (unread : ¬ IsNumber value) (name : String) :
    ∃ fault : Text.IntegerFault, Text.readNatural (UInt64.size - 1) value.toList = .error fault ∧
      readNumber name value = .error (.within s!"{name}={value} is not a number"
        (.other fault.message)) := by
  cases read : Text.readNatural (UInt64.size - 1) value.toList with
  | ok n => exact absurd ((readNatural_word_iff n).mp read).1 unread
  | error fault =>
    refine ⟨fault, rfl, ?_⟩
    rw [readNumber, read]

theorem map_readNumber_ok_iff (name : String) (put : UInt64 → Config) (next : Config) :
    (readNumber name value).map put = .ok next ↔
      IsNumber value ∧ put (UInt64.ofNat (number value)) = next := by
  by_cases isNumber : IsNumber value
  next => simp [readNumber_of_number isNumber, isNumber, Except.map]
  next =>
    obtain ⟨fault, -, refused⟩ := readNumber_of_not isNumber name
    simp [refused, isNumber, Except.map]

end Numbers

section Latest

def latest? (given : Variables) (name : String) : Option String :=
  given.reverse.lookup name

theorem latest?_cons (entry : String × String) (rest : Variables) (name : String) :
    latest? (entry :: rest) name = (latest? rest name).or (latest? [entry] name) := by
  rw [latest?, List.reverse_cons, List.lookup_append]
  rfl

theorem latest?_singleton (entry : String × String) (name : String) :
    latest? [entry] name = if entry.1 = name then some entry.2 else none := by
  have looked : latest? [entry] name = if name = entry.1 then some entry.2 else none :=
    lookup_entry name entry.1 entry.2 []
  rw [looked, ite_cond_congr (eq_iff_iff.mpr eq_comm)]

theorem latest?_filter (given : Variables) (name : String) :
    latest? (given.filter (·.1 = name)) name = latest? given name := by
  induction given with
  | nil => rfl
  | cons entry rest ih =>
    rw [latest?_cons, ← ih, latest?_singleton, List.filter_cons]
    by_cases same : entry.1 = name
    next => rw [if_pos (decide_eq_true same), latest?_cons, latest?_singleton]
    next => simp [same]

end Latest

def lastValues (config : Config) (given : Variables) : Config where
  clusterId := (latest? given "SHIM_CLUSTER_ID").getD config.clusterId
  clusterVersion := (latest? given "SHIM_CLUSTER_VERSION").getD config.clusterVersion
  policyGroup := (latest? given "SHIM_POLICY_GROUP").getD config.policyGroup
  schedulingIntervalMillis :=
    ((latest? given "SHIM_SCHEDULING_INTERVAL_MS").map fun value => UInt64.ofNat (number value)).getD
      config.schedulingIntervalMillis
  backlogThreshold :=
    ((latest? given "SHIM_DISPATCH_BACKLOG_WARN").map fun value => UInt64.ofNat (number value)).getD
      config.backlogThreshold
  workerThreads :=
    ((latest? given "SHIM_WORKER_THREADS").map fun value => UInt64.ofNat (number value)).getD
      config.workerThreads

theorem lastValues_cons (config : Config) (entry : String × String) (rest : Variables) :
    config.lastValues (entry :: rest) = (config.lastValues [entry]).lastValues rest := by
  simp only [lastValues, latest?_cons entry rest, Option.map_or, Option.getD_or]

def Readable (given : Variables) : Prop :=
  ∀ entry ∈ given, entry.1 ∈ numberNames → IsNumber entry.2

instance : DecidablePred Readable := fun given =>
  inferInstanceAs (Decidable (∀ entry ∈ given, entry.1 ∈ numberNames → IsNumber entry.2))

theorem readable_cons (name value : String) (rest : Variables) :
    Readable ((name, value) :: rest) ↔
      (name ∈ numberNames → IsNumber value) ∧ Readable rest :=
  List.forall_mem_cons

section Steps

variable {name value : String}

theorem not_mem_names_iff :
    name ∉ names ↔ name ≠ "SHIM_CLUSTER_ID" ∧ name ≠ "SHIM_CLUSTER_VERSION" ∧
      name ≠ "SHIM_POLICY_GROUP" ∧ name ≠ "SHIM_SCHEDULING_INTERVAL_MS" ∧
      name ≠ "SHIM_DISPATCH_BACKLOG_WARN" ∧ name ≠ "SHIM_WORKER_THREADS" := by
  simp [names, textNames, numberNames]

theorem setVariable_unknown (unknown : name ∉ names) (config : Config) (value : String) :
    config.setVariable name value = .ok config := by
  rw [not_mem_names_iff] at unknown
  simp [setVariable, variablePrefix, unknown]

theorem lastValues_unknown (unknown : name ∉ names) (config : Config) (value : String) :
    config.lastValues [(name, value)] = config := by
  rw [not_mem_names_iff] at unknown
  simp [lastValues, latest?_singleton, unknown]

theorem setVariable_ok_iff (config next : Config) (name value : String) :
    config.setVariable name value = .ok next ↔
      (name ∈ numberNames → IsNumber value) ∧ config.lastValues [(name, value)] = next := by
  by_cases known : name ∈ names
  next =>
    simp only [names, textNames, numberNames, List.cons_append, List.nil_append, List.mem_cons,
      List.not_mem_nil, or_false] at known
    rcases known with rfl | rfl | rfl | rfl | rfl | rfl
    all_goals
      simp [setVariable, variablePrefix, map_readNumber_ok_iff, numberNames, lastValues,
        latest?_singleton]
  next =>
    have noNumber : name ∉ numberNames := fun member => known (List.mem_append_right _ member)
    simp [setVariable_unknown known, lastValues_unknown known, noNumber]

theorem setVariable_of_unread (member : name ∈ numberNames) {failure : Failure}
    (refused : readNumber name value = .error failure) (config : Config) :
    config.setVariable name value = .error failure := by
  simp only [numberNames, List.mem_cons, List.not_mem_nil, or_false] at member
  rcases member with rfl | rfl | rfl
  all_goals simp [setVariable, variablePrefix, refused, Except.map]

end Steps

section Runs

variable {given before : Variables}

theorem setVariables_ok_iff (config last : Config) (given : Variables) :
    setVariables config given = .ok last ↔ Readable given ∧ config.lastValues given = last := by
  induction given generalizing config with
  | nil => simp [setVariables, Readable, lastValues, latest?]
  | cons entry rest ih =>
    obtain ⟨name, value⟩ := entry
    have first := setVariable_ok_iff config (config.lastValues [(name, value)]) name value
    rw [readable_cons, lastValues_cons, setVariables]
    cases step : config.setVariable name value with
    | ok next =>
      obtain ⟨reads, rfl⟩ := (setVariable_ok_iff config next name value).mp step
      rw [and_iff_right reads]
      exact ih (config.lastValues [(name, value)])
    | error failure =>
      have unread : ¬ (name ∈ numberNames → IsNumber value) := fun reads => by
        rw [first.mpr ⟨reads, rfl⟩] at step
        cases step
      simp [unread]

theorem setVariables_append (readable : Readable before) (config : Config) (after : Variables) :
    setVariables config (before ++ after) = setVariables (config.lastValues before) after := by
  induction before generalizing config with
  | nil => rfl
  | cons entry rest ih =>
    obtain ⟨name, value⟩ := entry
    obtain ⟨reads, readable⟩ := (readable_cons name value rest).mp readable
    have first := (setVariable_ok_iff config _ name value).mpr ⟨reads, rfl⟩
    rw [List.cons_append, setVariables, first, lastValues_cons config (name, value) rest]
    exact ih readable _

theorem setVariables_filter (config : Config) (given : Variables) :
    setVariables config (given.filter (·.1 ∈ names)) = setVariables config given := by
  induction given generalizing config with
  | nil => rfl
  | cons entry rest ih =>
    obtain ⟨name, value⟩ := entry
    by_cases known : name ∈ names
    next =>
      simp only [List.filter_cons, known, decide_true, if_true, setVariables]
      cases config.setVariable name value with
      | ok next => exact ih next
      | error failure => rfl
    next =>
      simp only [List.filter_cons, known, decide_false, Bool.false_eq_true, if_false, setVariables,
        setVariable_unknown known]
      exact ih config

end Runs

theorem validated_ok_iff (config last : Config) :
    config.validated = .ok last ↔ config.validate = .ok () ∧ config = last := by
  unfold validated
  cases config.validate with
  | ok _ => simp
  | error fault => simp

theorem ofVariables_ok_iff (defaults config : Config) (given : Variables) :
    ofVariables defaults given = .ok config ↔
      Readable given ∧ (defaults.lastValues given).validate = .ok () ∧
        defaults.lastValues given = config := by
  have set := setVariables_ok_iff defaults (defaults.lastValues given) given
  unfold ofVariables
  cases run : setVariables defaults given with
  | ok last =>
    obtain ⟨readable, rfl⟩ := (setVariables_ok_iff defaults last given).mp run
    simp [validated_ok_iff, readable]
  | error failure =>
    have unreadable : ¬ Readable given := fun readable => by
      rw [set.mpr ⟨readable, rfl⟩] at run
      cases run
    simp [unreadable]

def Reordered (given other : Variables) : Prop :=
  ∀ name, other.filter (·.1 = name) = given.filter (·.1 = name)

namespace Reordered

variable {given other : Variables}

theorem lastValues (same : Reordered given other) (config : Config) :
    config.lastValues other = config.lastValues given := by
  have latest (name : String) : latest? other name = latest? given name := by
    rw [← latest?_filter other, same, latest?_filter]
  simp only [Config.lastValues, latest]

theorem readable (same : Reordered given other) (readable : Readable given) : Readable other := by
  intro entry member
  have there : entry ∈ other.filter (·.1 = entry.1) := List.mem_filter.mpr ⟨member, by simp⟩
  rw [same] at there
  exact readable entry (List.mem_filter.mp there).1

end Reordered

def FirstUnread (given : Variables) (name value : String) : Prop :=
  ∃ before after, given = before ++ (name, value) :: after ∧ Readable before ∧
    name ∈ numberNames ∧ ¬ IsNumber value

theorem exists_firstUnread {given : Variables} (unreadable : ¬ Readable given) :
    ∃ name value, FirstUnread given name value := by
  induction given with
  | nil => exact absurd (by simp [Readable]) unreadable
  | cons entry rest ih =>
    obtain ⟨name, value⟩ := entry
    by_cases reads : name ∈ numberNames → IsNumber value
    next =>
      have later : ¬ Readable rest := fun readable =>
        unreadable ((readable_cons name value rest).mpr ⟨reads, readable⟩)
      obtain ⟨unreadName, unread, before, after, rfl, readable, found⟩ := ih later
      exact ⟨unreadName, unread, (name, value) :: before, after, rfl,
        (readable_cons name value before).mpr ⟨reads, readable⟩, found⟩
    next =>
      have found : name ∈ numberNames ∧ ¬ IsNumber value := by simpa using reads
      exact ⟨name, value, [], rest, rfl, by simp [Readable], found⟩

theorem FirstUnread.ofVariables {given : Variables} {name value : String}
    (first : FirstUnread given name value) (defaults : Config) :
    ∃ fault, Text.readNatural (UInt64.size - 1) value.toList = .error fault ∧
      ofVariables defaults given =
        .error (.within s!"{name}={value} is not a number" (.other fault.message)) := by
  obtain ⟨before, after, rfl, readable, member, unread⟩ := first
  obtain ⟨fault, found, refused⟩ := readNumber_of_not unread name
  refine ⟨fault, found, ?_⟩
  rw [Config.ofVariables, setVariables_append readable, setVariables,
    setVariable_of_unread member refused]

/-- A configuration comes out if and only if all numbers can be read, those that are overridden
included, and the last values make a valid one; it is then that one. Other variables do not matter,
nor does the order of variables with different names. Of the numbers that cannot be read the first
is reported, whether or not the last values would be valid. -/
theorem ofVariables_exact (defaults : Config) (given : Variables) :
    (∀ config, ofVariables defaults given = .ok config ↔
      Readable given ∧ (defaults.lastValues given).validate = .ok () ∧
        defaults.lastValues given = config) ∧
      (∀ other : Variables, other.filter (·.1 ∈ names) = given.filter (·.1 ∈ names) →
        ofVariables defaults other = ofVariables defaults given) ∧
      (∀ config, ofVariables defaults given = .ok config → ∀ other, Reordered given other →
        ofVariables defaults other = .ok config) ∧
      (¬ Readable given → ∃ name value, FirstUnread given name value) ∧
      ∀ name value, FirstUnread given name value →
        ∃ fault, Text.readNatural (UInt64.size - 1) value.toList = .error fault ∧
          ofVariables defaults given =
            .error (.within s!"{name}={value} is not a number" (.other fault.message)) := by
  refine ⟨fun config => ofVariables_ok_iff defaults config given, ?_, ?_, exists_firstUnread,
    fun name value first => first.ofVariables defaults⟩
  next =>
    intro other same
    rw [ofVariables, ofVariables, ← setVariables_filter defaults other, same, setVariables_filter]
  next =>
    intro config result other same
    obtain ⟨readable, valid, rfl⟩ := (ofVariables_ok_iff defaults config given).mp result
    rw [ofVariables_ok_iff, same.lastValues]
    exact ⟨same.readable readable, valid, rfl⟩

def overridden : Variables :=
  [("SHIM_WORKER_THREADS", "0"), ("PATH", "/bin"), ("SHIM_CLUSTER_ID", " "), ("SHIM_EXTRA", "1"),
   ("SHIM_WORKER_THREADS", "+018446744073709551615"), ("SHIM_CLUSTER_ID", "edge")]

def sorted : Variables :=
  [("SHIM_CLUSTER_ID", " "), ("SHIM_CLUSTER_ID", "edge"), ("SHIM_WORKER_THREADS", "0"),
   ("SHIM_WORKER_THREADS", "+018446744073709551615")]

theorem reordered_sorted : Reordered (overridden.filter (·.1 ∈ names)) sorted := by
  have known : overridden.filter (·.1 ∈ names) =
      [("SHIM_WORKER_THREADS", "0"), ("SHIM_CLUSTER_ID", " "),
       ("SHIM_WORKER_THREADS", "+018446744073709551615"), ("SHIM_CLUSTER_ID", "edge")] := by
    decide
  rw [known]
  intro name
  by_cases cluster : "SHIM_CLUSTER_ID" = name
  next => subst cluster; decide
  by_cases threads : "SHIM_WORKER_THREADS" = name
  next => subst threads; decide
  simp [sorted, cluster, threads]

def spoiled : Variables :=
  [("SHIM_CLUSTER_ID", ""), ("SHIM_DISPATCH_BACKLOG_WARN", "7"), ("SHIM_WORKER_THREADS", "-1"),
   ("SHIM_DISPATCH_BACKLOG_WARN", "lots")]

theorem firstUnread_spoiled : FirstUnread spoiled "SHIM_WORKER_THREADS" "-1" :=
  ⟨[("SHIM_CLUSTER_ID", ""), ("SHIM_DISPATCH_BACKLOG_WARN", "7")],
    [("SHIM_DISPATCH_BACKLOG_WARN", "lots")], rfl, by decide +kernel, by decide, by decide +kernel⟩

theorem ofVariables_exact_overridden :
    ofVariables { workerThreads := 4 } overridden =
        .ok { clusterId := "edge", workerThreads := 18446744073709551615 } ∧
      ofVariables { workerThreads := 4 } sorted =
        .ok { clusterId := "edge", workerThreads := 18446744073709551615 } ∧
      ∃ fault, Text.readNatural (UInt64.size - 1) "-1".toList = .error fault ∧
        ofVariables { workerThreads := 4 } spoiled =
          .error (.within "SHIM_WORKER_THREADS=-1 is not a number" (.other fault.message)) := by
  let known := overridden.filter (·.1 ∈ names)
  obtain ⟨succeeds, ignores, -⟩ := ofVariables_exact { workerThreads := 4 } overridden
  obtain ⟨-, -, reorders, -⟩ := ofVariables_exact { workerThreads := 4 } known
  obtain ⟨-, -, -, -, reports⟩ := ofVariables_exact { workerThreads := 4 } spoiled
  have result := (succeeds { clusterId := "edge", workerThreads := 18446744073709551615 }).mpr
    ⟨by decide +kernel, rfl, by decide +kernel⟩
  have same := ignores known (by simp [known, List.filter_filter])
  exact ⟨result, reorders _ (same.trans result) sorted reordered_sorted,
    reports "SHIM_WORKER_THREADS" "-1" firstUnread_spoiled⟩

end Config

end GangScheduling
