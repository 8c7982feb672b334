import GangScheduling.Config.Codec
import GangScheduling.Proofs.Config.Variables
import GangScheduling.Proofs.Json.Decode
import Mathlib.Data.List.Nodup

set_option autoImplicit false

namespace GangScheduling

namespace Config

open Json

def toVariables (config : Config) : Variables :=
  [("SHIM_CLUSTER_ID", config.clusterId), ("SHIM_CLUSTER_VERSION", config.clusterVersion),
   ("SHIM_POLICY_GROUP", config.policyGroup),
   ("SHIM_SCHEDULING_INTERVAL_MS", toString config.schedulingIntervalMillis.toNat),
   ("SHIM_DISPATCH_BACKLOG_WARN", toString config.backlogThreshold.toNat),
   ("SHIM_WORKER_THREADS", toString config.workerThreads.toNat)]

section Variables

theorem number_repr (n : Nat) : number n.repr = n := by
  rw [number, Nat.toList_repr, Text.unsigned_of_digital (digital_toDigits n)]
  exact Nat.ofDigitChars_toDigits (by decide) (by decide)

theorem isNumber_repr (n : UInt64) : IsNumber n.toNat.repr := by
  rw [IsNumber, number_repr, Nat.toList_repr, Text.unsigned_of_digital (digital_toDigits n.toNat)]
  exact ⟨digital_toDigits n.toNat, n.toNat_lt_size⟩

theorem readable_toVariables (config : Config) : Readable config.toVariables := by
  simp [Readable, toVariables, numberNames, isNumber_repr]

theorem lastValues_toVariables (defaults config : Config) :
    defaults.lastValues config.toVariables = config := by
  simp [lastValues, toVariables, latest?, List.lookup_cons, number_repr]

theorem reordered_of_perm {given other : Variables} (distinct : (given.map Prod.fst).Nodup)
    (perm : other.Perm given) : Reordered given other := by
  intro name
  have short : (given.filter (·.1 = name)).length ≤ 1 := by
    have once := List.nodup_iff_count_le_one.mp distinct name
    rwa [List.count_eq_countP, List.countP_map, List.countP_eq_length_filter] at once
  have same := perm.filter (·.1 = name)
  cases found : given.filter (·.1 = name) with
  | nil => exact List.perm_nil.mp (found ▸ same)
  | cons entry rest =>
    have alone : rest = [] := by
      rw [found] at short
      exact List.length_eq_zero_iff.mp (by simpa using short)
    rw [found, alone] at same
    rw [List.perm_singleton.mp same, alone]

theorem ofVariables_of_perm {config : Config} (valid : config.validate = .ok ())
    {given : Variables} (perm : given.Perm config.toVariables) (defaults : Config) :
    ofVariables defaults given = .ok config := by
  have listed : config.toVariables.map Prod.fst = names := rfl
  have distinct : (config.toVariables.map Prod.fst).Nodup := by
    rw [listed]
    decide
  have same := reordered_of_perm distinct perm
  rw [ofVariables_ok_iff, same.lastValues, lastValues_toVariables]
  exact ⟨same.readable config.readable_toVariables, valid, rfl⟩

end Variables

section Documents

theorem codec_faithful (defaults config : Config) : (codec defaults).Faithful config := by
  constructor
  next =>
    apply textual_ofNames
    simp [Textual.string, str, Textual.integer, nat]
  next =>
    apply Decoder.record_of_members ["worker_threads", "dispatch_backlog_warn",
      "scheduling_interval_ms", "policy_group", "cluster_version", "cluster_id"]
    next =>
      simp only [List.map_cons, List.map_nil]
      rw [Decoder.members_put rfl rfl (Decoder.string_str config.clusterId),
        Decoder.members_put rfl rfl (Decoder.string_str config.clusterVersion),
        Decoder.members_put rfl rfl (Decoder.string_str config.policyGroup),
        Decoder.members_put rfl rfl (Decoder.uint64_nat config.schedulingIntervalMillis),
        Decoder.members_put rfl rfl (Decoder.uint64_nat config.backlogThreshold),
        Decoder.members_put rfl rfl (Decoder.uint64_nat config.workerThreads)]
      rfl
    next => decide

theorem ofJson_compact {config : Config} (valid : config.validate = .ok ()) (defaults : Config) :
    ofJson defaults config.encode.compact = .ok config := by
  have read : Json.decode (codec defaults).decode config.encode.compact = .ok config :=
    (codec_faithful defaults config).decode_compact
  rw [ofJson, read]
  simp [valid]

theorem validate_of_ofJson {defaults config : Config} {text : String}
    (loaded : ofJson defaults text = .ok config) : config.validate = .ok () := by
  unfold ofJson at loaded
  split at loaded
  next => cases loaded
  next read _ =>
    split at loaded
    next valid =>
      cases loaded
      exact valid
    next => cases loaded

end Documents

/-- Both loaders read a valid configuration back from what stands for it, whatever the defaults are
and in whatever order the variables come, and neither returns any other than a valid one. -/
theorem loaders_agree (defaults : Config) :
    (∀ config : Config, config.validate = .ok () →
      ofJson defaults config.encode.compact = .ok config ∧
        ∀ given : Variables, given.Perm config.toVariables →
          ofVariables defaults given = .ok config) ∧
      (∀ text config, ofJson defaults text = .ok config → config.validate = .ok ()) ∧
      ∀ given config, ofVariables defaults given = .ok config → config.validate = .ok () := by
  refine ⟨?_, fun text config loaded => validate_of_ofJson loaded, ?_⟩
  next =>
    intro config valid
    exact ⟨ofJson_compact valid defaults, fun given perm => ofVariables_of_perm valid perm defaults⟩
  next =>
    intro given config loaded
    obtain ⟨-, valid, rfl⟩ := (ofVariables_ok_iff defaults config given).mp loaded
    exact valid

def extreme : Config :=
  { clusterId := "\"ü\"\\\x01😀", clusterVersion := "", policyGroup := " +1\t"
    schedulingIntervalMillis := 18446744073709551615, backlogThreshold := 1
    workerThreads := 9223372036854775808 }

theorem loaders_agree_extreme :
    extreme.validate = .ok () ∧
      (∃ text, ofJson { workerThreads := 4 } text = .ok extreme ∧
        text = "\x7b\"cluster_id\":\"\\\"ü\\\"\\\\\\u0001😀\",\"cluster_version\":\"\"," ++
          "\"policy_group\":\" +1\\t\",\"scheduling_interval_ms\":18446744073709551615," ++
          "\"dispatch_backlog_warn\":1,\"worker_threads\":9223372036854775808\x7d") ∧
      ofVariables { workerThreads := 4 } extreme.toVariables.reverse = .ok extreme := by
  have valid : extreme.validate = .ok () := rfl
  obtain ⟨document, listed⟩ := (loaders_agree { workerThreads := 4 }).1 extreme valid
  exact ⟨valid, ⟨_, document, by decide +kernel⟩, listed _ extreme.toVariables.reverse_perm⟩

end Config

end GangScheduling
