import GangScheduling.Json.Reader
import GangScheduling.Proofs.Json.Token

set_option autoImplicit false

namespace GangScheduling.Json

def Reads (json : Json) : Prop :=
  ∀ (mayClose : Bool) (stack : List Frame) (rest : List Token),
    Reader.run { position := .value mayClose, stack } (json.tokensOf ++ rest) =
      Reader.run (.place json stack) rest

section Containers

variable {stack : List Frame} {rest : List Token}

theorem run_items {items : List Json} (each : ∀ item ∈ items, Reads item) (mayClose : Bool)
    (done : List Json) (some : items ≠ []) :
    Reader.run { position := .value mayClose, stack := .array done :: stack }
        (itemTokens items ++ .closeArray :: rest) =
      Reader.run (.place (.array (done.reverse ++ items)) stack) rest := by
  induction items generalizing mayClose done with
  | nil => exact absurd rfl some
  | cons item items ih =>
    obtain ⟨first, each⟩ := List.forall_mem_cons.mp each
    cases items with
    | nil =>
      rw [itemTokens, first]
      simp [Reader.place, Reader.run, Reader.step]
    | cons next items =>
      have later := ih each false (item :: done) (List.cons_ne_nil _ _)
      simp only [itemTokens, List.append_assoc]
      rw [first]
      simpa [Reader.place, Reader.run, Reader.step] using later

theorem run_members {members : List Member} (each : ∀ member ∈ members, Reads member.2)
    (mayClose : Bool) (done : List Member) (some : members ≠ []) :
    Reader.run { position := .key done mayClose, stack }
        (memberTokens members ++ .closeObject :: rest) =
      Reader.run (.place (.object (done.reverse ++ members)) stack) rest := by
  induction members generalizing mayClose done with
  | nil => exact absurd rfl some
  | cons member members ih =>
    obtain ⟨key, value⟩ := member
    obtain ⟨first, each⟩ := List.forall_mem_cons.mp each
    have opened (more : List Token) :
        Reader.run { position := .key done mayClose, stack }
            (.text key :: .colon :: value.tokensOf ++ more) =
          Reader.run { position := .afterMember ((key, value) :: done), stack } more := by
      have read := first false (.member done key :: stack) more
      cases mayClose <;> simpa [Reader.run, Reader.step, Reader.place] using read
    cases members with
    | nil =>
      rw [memberTokens, opened]
      simp [Reader.run, Reader.step]
    | cons next members =>
      have later := ih each false ((key, value) :: done) (List.cons_ne_nil _ _)
      simp only [memberTokens, List.append_assoc]
      rw [opened]
      simpa [Reader.run, Reader.step] using later

end Containers

theorem Textual.reads {json : Json} (textual : json.Textual) : Reads json := by
  induction textual with
  | null | bool value | integer n | decimal | string text =>
    intro mayClose stack rest
    cases mayClose <;> rfl
  | @array items each ih =>
    intro mayClose stack rest
    have opened (more : List Token) :
        Reader.run { position := .value mayClose, stack } (.openArray :: more) =
          Reader.run { position := .value true, stack := .array [] :: stack } more := by
      cases mayClose <;> rfl
    rw [tokensOf_array, List.append_assoc, List.cons_append, opened]
    cases items with
    | nil => rfl
    | cons item items => exact run_items ih true [] (List.cons_ne_nil _ _)
  | @object members keys each ih =>
    intro mayClose stack rest
    have opened (more : List Token) :
        Reader.run { position := .value mayClose, stack } (.openObject :: more) =
          Reader.run { position := .key [] true, stack } more := by
      cases mayClose <;> rfl
    rw [tokensOf_object, List.append_assoc, List.cons_append, opened]
    cases members with
    | nil => rfl
    | cons member members => exact run_members ih true [] (List.cons_ne_nil _ _)

theorem read_compact {json : Json} (textual : json.Textual) :
    read json.compact = { value := json, complete := true } := by
  have all := textual.reads false [] []
  rw [List.append_nil] at all
  rw [read, tokens_compact textual, all]
  rfl

end GangScheduling.Json
