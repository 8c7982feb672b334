import GangScheduling.Proofs.Application.Ask
import GangScheduling.Proofs.Json.Decode
import GangScheduling.TaskGroup.Codec

set_option autoImplicit false

namespace GangScheduling

open Json

theorem Toleration.codec_faithful (t : Toleration) : codec.Faithful t := by
  obtain ⟨key, operator, value, effect, seconds⟩ := t
  cases seconds with
  | none => exact ⟨textual_ofNames (by simp [Textual.string, str]), rfl⟩
  | some n =>
    have whole : Codec.int64.optional.Faithful (some n) :=
      .optional fun _ _ => ⟨.int64 _, by rintro ⟨⟩⟩
    have seconds : Decoder.optional .int64 (.integer n.toInt) = .ok (some n) := whole.decoded
    constructor
    next =>
      apply textual_ofNames
      simp [Textual.string, Textual.integer, str]
    next =>
      apply Decoder.record_of_members ["tolerationSeconds", "effect", "value", "operator", "key"]
      next =>
        simp only [Option.map_some, Option.toList_some, List.cons_append, List.nil_append,
          List.map_cons, List.map_nil]
        rw [Decoder.members_put rfl rfl (Decoder.string_str key),
          Decoder.members_put rfl rfl (Decoder.string_str operator),
          Decoder.members_put rfl rfl (Decoder.string_str value),
          Decoder.members_put rfl rfl (Decoder.string_str effect),
          Decoder.members_put rfl rfl seconds]
        rfl
      next => decide

namespace TaskGroup

theorem Parsed.codec_faithful {group : TaskGroup} (parsed : group.Parsed) :
    codec.Faithful group := by
  have resources : (Codec.map .quantity).Faithful group.minResource :=
    .map fun entry member => .quantity (parsed entry member).reparse
  have selector : (Codec.map .string).Faithful group.nodeSelector :=
    .map fun entry _ => .string entry.2
  have tolerations : Toleration.codec.list.Faithful group.tolerations :=
    .list fun t _ => t.codec_faithful
  constructor
  next =>
    apply textual_ofNames
    simpa [Textual.string, str, Textual.integer, nat] using
      ⟨resources.textual, selector.textual, tolerations.textual⟩
  next =>
    apply Decoder.record_of_members
      ["tolerations", "nodeSelector", "minResource", "minMember", "name"]
    next =>
      simp only [List.map_cons, List.map_nil]
      rw [Decoder.members_put rfl rfl (Decoder.string_str group.name),
        Decoder.members_put rfl rfl (Decoder.uint32_nat group.minMember),
        Decoder.members_put rfl rfl resources.decoded,
        Decoder.members_put rfl rfl selector.decoded,
        Decoder.members_put rfl rfl tolerations.decoded]
      rfl
    next => decide

/-- Groups whose quantities were parsed are read from their annotation as they were written. -/
theorem ofAnnotation_compact {groups : List TaskGroup} (parsed : ∀ group ∈ groups, group.Parsed) :
    ofAnnotation (codec.list.encode groups).compact = .ok groups := by
  have faithful : codec.list.Faithful groups :=
    .list fun group member => (parsed group member).codec_faithful
  unfold ofAnnotation
  rw [faithful.decode_compact]

def awkward : TaskGroup :=
  { name := "\"ü\"\\\x01😀", minMember := 4294967295
    minResource := .ofEntries [("cpu", { text := "-.5", numerator := -5, places := 1 })]
    nodeSelector := .ofEntries [("", "\t")]
    tolerations := [{ key := "k", seconds := some (-1) }, {}] }

theorem ofAnnotation_compact_awkward :
    (∀ group ∈ [awkward], group.Parsed) ∧ ∃ annotation : String,
      ofAnnotation annotation = .ok [awkward] ∧
        annotation = "[\x7b\"name\":\"\\\"ü\\\"\\\\\\u0001😀\",\"minMember\":4294967295," ++
          "\"minResource\":\x7b\"cpu\":\"-.5\"\x7d,\"nodeSelector\":\x7b\"\":\"\\t\"\x7d," ++
          "\"tolerations\":[\x7b\"key\":\"k\",\"operator\":\"\",\"value\":\"\"," ++
          "\"effect\":\"\",\"tolerationSeconds\":-1\x7d,\x7b\"key\":\"\",\"operator\":\"\"," ++
          "\"value\":\"\",\"effect\":\"\"\x7d]\x7d]" := by
  have parsed : ∀ group ∈ [awkward], group.Parsed := by
    rw [List.forall_mem_singleton]
    have listed : awkward.minResource.entries =
        [("cpu", { text := "-.5", numerator := -5, places := 1 })] := by decide
    rw [Parsed, listed, List.forall_mem_singleton]
    exact ⟨"-.5", by decide⟩
  exact ⟨parsed, _, ofAnnotation_compact parsed, by decide +kernel⟩

end TaskGroup

end GangScheduling
