import GangScheduling.Json.Decode
import GangScheduling.Proofs.Json.Reader

set_option autoImplicit false

namespace GangScheduling.Json

variable {A : Type}

theorem textual_ofNames {map : List (String × A)} {value : A → Json}
    (each : ∀ entry ∈ map, (value entry.2).Textual) : (ofNames map value).Textual := by
  apply Textual.object
  next => exact List.forall_mem_map.mpr fun _ _ => rfl
  next => exact List.forall_mem_map.mpr each

namespace Decoder

theorem string_str (text : String) : string (.str text) = .ok text :=
  rfl

theorem int64_integer (n : Int64) : int64 (.integer n.toInt) = .ok n := by
  have range : Int64.minValue.toInt ≤ n.toInt ∧ n.toInt ≤ Int64.maxValue.toInt :=
    ⟨n.minValue_le_toInt, n.toInt_le⟩
  rw [int64, if_pos range, Int64.ofInt_toInt]

theorem uint32_nat (n : UInt32) : uint32 (.nat n.toNat) = .ok n := by
  have small : n.toNat ≤ UInt32.size - 1 := Nat.le_sub_one_of_lt n.toNat_lt_size
  have read : natUpTo (UInt32.size - 1) (.nat n.toNat) = .ok n.toNat := if_pos small
  simp only [uint32, read, Except.map, UInt32.ofNat_toNat]

theorem uint64_nat (n : UInt64) : uint64 (.nat n.toNat) = .ok n := by
  have small : n.toNat ≤ UInt64.size - 1 := Nat.le_sub_one_of_lt n.toNat_lt_size
  have read : natUpTo (UInt64.size - 1) (.nat n.toNat) = .ok n.toNat := if_pos small
  simp only [uint64, read, Except.map, UInt64.ofNat_toNat]

end Decoder

namespace Codec

/-- What is written for the value can be written as a text, and is read as the value. -/
structure Faithful (codec : Codec A) (value : A) : Prop where
  textual : (codec.encode value).Textual
  decoded : codec.decode (codec.encode value) = .ok value

namespace Faithful

variable {codec : Codec A}

theorem decode_compact {value : A} (faithful : codec.Faithful value) :
    Json.decode codec.decode (codec.encode value).compact = .ok value := by
  rw [Json.decode, read_compact faithful.textual, faithful.decoded]
  rfl

theorem string (text : String) : Codec.string.Faithful text :=
  ⟨.string text, Decoder.string_str text⟩

theorem int64 (n : Int64) : Codec.int64.Faithful n :=
  ⟨.integer n.toInt, Decoder.int64_integer n⟩

theorem list {values : List A} (each : ∀ value ∈ values, codec.Faithful value) :
    codec.list.Faithful values where
  textual := by
    apply Textual.array
    simpa using fun value member => (each value member).textual
  decoded := by
    simp only [Codec.list, Decoder.list]
    induction values with
    | nil => rfl
    | cons value values ih =>
      obtain ⟨first, each⟩ := List.forall_mem_cons.mp each
      rw [List.map_cons, Decoder.items, first.decoded, ih each]
      rfl

theorem entries {entries : List (String × A)} (each : ∀ entry ∈ entries, codec.Faithful entry.2)
    (start : NameMap A) :
    Decoder.entries codec.decode start
        (entries.map fun entry => (some entry.1, codec.encode entry.2)) =
      .ok (entries.foldl (fun m entry => m.insert entry.1 entry.2) start) := by
  induction entries generalizing start with
  | nil => rfl
  | cons entry rest ih =>
    obtain ⟨first, each⟩ := List.forall_mem_cons.mp each
    rw [List.map_cons, Decoder.entries, first.decoded]
    exact ih each _

theorem map {values : NameMap A} (each : ∀ entry ∈ values.entries, codec.Faithful entry.2) :
    codec.map.Faithful values where
  textual := textual_ofNames fun entry member => (each entry member).textual
  decoded := by
    have all := entries each .empty
    rwa [← NameMap.ofEntries, values.ofEntries_entries] at all

theorem optional {value : Option A} (each : ∀ a ∈ value, codec.Faithful a ∧ codec.encode a ≠ .null) :
    codec.optional.Faithful value := by
  cases value with
  | none => exact ⟨.null, rfl⟩
  | some a =>
    obtain ⟨faithful, present⟩ := each a rfl
    refine ⟨faithful.textual, ?_⟩
    have decoded : Decoder.optional codec.decode (codec.encode a) =
        (codec.decode (codec.encode a)).map some := by
      simp [Decoder.optional]
    simp only [Codec.optional, ofOption, decoded, faithful.decoded]
    rfl

theorem quantity {quantity : Quantity} (reread : Quantity.parse quantity.text = .ok quantity) :
    Codec.quantity.Faithful quantity where
  textual := .string quantity.text
  decoded := by simp [Codec.quantity, Decoder.quantity, str, reread]

end Faithful

end Codec

namespace Decoder

variable {B : Type} {fields : List (RecordField A)} {name : String} {decoder : Decoder B}
  {put : A → B → A} {required : Bool} {seen : List String} {json : Json} {b : B}

theorem members_put
    (known : fields.find? (fun field => field.name = name) = some (.put name decoder put required))
    (unseen : seen.contains name = false) (decoded : decoder json = .ok b) (value : A)
    (rest : List Member) :
    members fields seen value ((some name, json) :: rest) =
      members fields (name :: seen) (put value b) rest := by
  rw [members, known]
  simp only [unseen, RecordField.put, decoded, Except.map]
  rfl

theorem record_of_members {defaults value : A} {entries : List (String × Json)}
    (seen : List String)
    (read : members fields [] defaults (entries.map fun entry => (some entry.1, entry.2)) =
      .ok (seen, value))
    (complete : (fields.all fun field => !field.required || seen.contains field.name) = true) :
    record fields defaults (.record entries) = .ok value := by
  simp only [record, Json.record, ofNames, id]
  rw [read]
  exact if_pos complete

end Decoder

end GangScheduling.Json
