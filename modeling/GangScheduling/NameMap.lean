set_option autoImplicit false

namespace GangScheduling

variable {A : Type}

abbrev Ordered (entries : List (String × A)) : Prop :=
  entries.Pairwise fun a b => a.1 < b.1

def insertEntry (name : String) (value : A) : List (String × A) → List (String × A)
  | [] => [(name, value)]
  | entry :: rest =>
    if name < entry.1 then (name, value) :: entry :: rest
    else if name = entry.1 then (name, value) :: rest
    else entry :: insertEntry name value rest

theorem name_lt_of_not {a b : String} (notLt : ¬ a < b) (ne : a ≠ b) : b < a := by
  by_cases h : b < a
  next => exact h
  next => exact absurd (String.le_antisymm (String.not_lt.mp h) (String.not_lt.mp notLt)) ne

theorem mem_insertEntry {name : String} {value : A} {entry : String × A}
    {entries : List (String × A)} (h : entry ∈ insertEntry name value entries) :
    entry = (name, value) ∨ entry ∈ entries := by
  induction entries with
  | nil => simpa [insertEntry] using h
  | cons head tail ih =>
    simp only [insertEntry] at h
    split at h
    next => simpa using h
    next =>
      split at h
      next => simp only [List.mem_cons] at h ⊢; exact h.imp id Or.inr
      next =>
        simp only [List.mem_cons] at h ⊢
        exact h.elim (fun same => Or.inr (Or.inl same)) fun rest => (ih rest).imp id Or.inr

theorem ordered_insertEntry (name : String) (value : A) {entries : List (String × A)}
    (h : Ordered entries) : Ordered (insertEntry name value entries) := by
  induction entries with
  | nil => simp [insertEntry]
  | cons head tail ih =>
    have above := fun entry (mem : entry ∈ tail) => List.rel_of_pairwise_cons h mem
    simp only [insertEntry]
    split
    next first =>
      refine h.cons fun entry mem => ?_
      exact (List.mem_cons.mp mem).elim (fun same => same ▸ first)
        fun rest => String.lt_trans first (above entry rest)
    next =>
      split
      next same => exact h.of_cons.cons fun entry mem => same ▸ above entry mem
      next notLt ne =>
        refine (ih h.of_cons).cons fun entry mem => ?_
        cases mem_insertEntry mem with
        | inl same => rw [same]; exact name_lt_of_not notLt ne
        | inr rest => exact above entry rest

theorem lookup_entry (key first : String) (held : A) (rest : List (String × A)) :
    ((first, held) :: rest).lookup key = if key = first then some held else rest.lookup key := by
  change (match key == first with
    | true => some held
    | false => rest.lookup key) = _
  by_cases h : key = first
  next => simp [h]
  next =>
    have ne : (key == first) = false := by simp [h]
    simp [ne, h]

theorem lookup_of_lt {name : String} {entries : List (String × A)}
    (above : ∀ entry ∈ entries, name < entry.1) : entries.lookup name = none := by
  rw [List.lookup_eq_none_iff]
  intro entry member
  have later := above entry member
  exact bne_iff_ne.mpr fun same => String.lt_irrefl entry.1 (same ▸ later)

structure NameMap (A : Type) where
  entries : List (String × A)
  ordered : Ordered entries
deriving DecidableEq

namespace NameMap

def empty : NameMap A := { entries := [], ordered := List.Pairwise.nil }

instance : Inhabited (NameMap A) := ⟨empty⟩

def get? (m : NameMap A) (name : String) : Option A :=
  m.entries.lookup name

def insert (m : NameMap A) (name : String) (value : A) : NameMap A :=
  { entries := insertEntry name value m.entries
    ordered := ordered_insertEntry name value m.ordered }

def erase (m : NameMap A) (name : String) : NameMap A :=
  { entries := m.entries.filter fun entry => entry.1 != name
    ordered := m.ordered.filter _ }

def ofEntries (entries : List (String × A)) : NameMap A :=
  entries.foldl (fun m entry => m.insert entry.1 entry.2) empty

def names (m : NameMap A) : List String :=
  m.entries.map Prod.fst

def size (m : NameMap A) : Nat :=
  m.entries.length

def isEmpty (m : NameMap A) : Bool :=
  m.entries.isEmpty

@[simp] theorem get?_empty (name : String) : (empty : NameMap A).get? name = none := rfl

theorem lookup_insertEntry (name key : String) (value : A) (entries : List (String × A)) :
    (insertEntry name value entries).lookup key =
      if key = name then some value else entries.lookup key := by
  induction entries with
  | nil => by_cases h : key = name <;> simp [insertEntry, lookup_entry, h]
  | cons head tail ih =>
    obtain ⟨first, held⟩ := head
    simp only [insertEntry]
    split
    next => by_cases h : key = name <;> simp [lookup_entry, h]
    next =>
      split
      next same => subst same; by_cases h : key = name <;> simp [lookup_entry, h]
      next ne =>
        by_cases h : key = first
        next => subst h; simp [Ne.symm ne]
        next => simp [lookup_entry, h, ih]

theorem get?_insert (m : NameMap A) (name key : String) (value : A) :
    (m.insert name value).get? key = if key = name then some value else m.get? key :=
  lookup_insertEntry name key value m.entries

theorem lookup_filter_ne (name key : String) (entries : List (String × A)) :
    (entries.filter fun entry => entry.1 != name).lookup key =
      if key = name then none else entries.lookup key := by
  induction entries with
  | nil => simp
  | cons head tail ih =>
    obtain ⟨first, held⟩ := head
    by_cases dropped : first = name
    next =>
      subst dropped
      rw [List.filter_cons_of_neg (by simp), ih, lookup_entry]
      split <;> rfl
    next =>
      rw [List.filter_cons_of_pos (by simpa using dropped), lookup_entry, lookup_entry, ih]
      by_cases h : key = first
      next => subst h; simp [dropped]
      next => simp [h]

theorem get?_erase (m : NameMap A) (name key : String) :
    (m.erase name).get? key = if key = name then none else m.get? key :=
  lookup_filter_ne name key m.entries

theorem lookup_eq_some_of_mem {entries : List (String × A)} (h : Ordered entries)
    {name : String} {value : A} (mem : (name, value) ∈ entries) :
    entries.lookup name = some value := by
  induction entries with
  | nil => simp at mem
  | cons head tail ih =>
    obtain ⟨first, held⟩ := head
    cases List.mem_cons.mp mem with
    | inl same => cases same; simp
    | inr rest =>
      have less : first < name := List.rel_of_pairwise_cons h rest
      have ne : name ≠ first := fun same => String.lt_irrefl _ (same ▸ less)
      simp [lookup_entry, ne, ih h.of_cons rest]

theorem mem_of_lookup_eq_some {entries : List (String × A)} {name : String} {value : A}
    (h : entries.lookup name = some value) : (name, value) ∈ entries := by
  induction entries with
  | nil => simp at h
  | cons head tail ih =>
    obtain ⟨first, held⟩ := head
    by_cases same : name = first
    next => subst same; simp at h; simp [h]
    next => simp [lookup_entry, same] at h; exact List.mem_cons_of_mem _ (ih h)

theorem mem_entries_iff (m : NameMap A) (name : String) (value : A) :
    (name, value) ∈ m.entries ↔ m.get? name = some value :=
  ⟨lookup_eq_some_of_mem m.ordered, mem_of_lookup_eq_some⟩

theorem entries_ext : {a b : List (String × A)} → Ordered a → Ordered b ->
    (∀ entry, entry ∈ a ↔ entry ∈ b) → a = b
  | [], [], _, _, _ => rfl
  | [], entry :: _, _, _, same => absurd ((same entry).mpr (by simp)) (by simp)
  | entry :: _, [], _, _, same => absurd ((same entry).mp (by simp)) (by simp)
  | x :: xs, y :: ys, hx, hy, same => by
    have aboveX := fun e (mem : e ∈ xs) => List.rel_of_pairwise_cons hx mem
    have aboveY := fun e (mem : e ∈ ys) => List.rel_of_pairwise_cons hy mem
    have heads : x = y := by
      cases List.mem_cons.mp ((same x).mp (by simp)) with
      | inl eq => exact eq
      | inr inY =>
        cases List.mem_cons.mp ((same y).mpr (by simp)) with
        | inl eq => exact eq.symm
        | inr inX => exact absurd (aboveY x inY) (String.lt_asymm (aboveX y inX))
    subst heads
    refine congrArg (x :: ·) (entries_ext hx.of_cons hy.of_cons fun entry => ?_)
    constructor
    next =>
      intro mem
      cases List.mem_cons.mp ((same entry).mp (List.mem_cons_of_mem _ mem)) with
      | inl eq => exact absurd (eq ▸ aboveX entry mem) (String.lt_irrefl _)
      | inr rest => exact rest
    next =>
      intro mem
      cases List.mem_cons.mp ((same entry).mpr (List.mem_cons_of_mem _ mem)) with
      | inl eq => exact absurd (eq ▸ aboveY entry mem) (String.lt_irrefl _)
      | inr rest => exact rest

theorem ext_get? {m n : NameMap A} (same : ∀ name, m.get? name = n.get? name) : m = n := by
  obtain ⟨a, ha⟩ := m
  obtain ⟨b, hb⟩ := n
  have eq : a = b := by
    refine entries_ext ha hb fun entry => ?_
    have iffA := mem_entries_iff ⟨a, ha⟩ entry.1 entry.2
    have iffB := mem_entries_iff ⟨b, hb⟩ entry.1 entry.2
    rw [same] at iffA
    exact iffA.trans iffB.symm
  subst eq
  rfl

theorem get?_foldl_insert {entries : List (String × A)} (ordered : Ordered entries)
    (start : NameMap A) (name : String) :
    (entries.foldl (fun m entry => m.insert entry.1 entry.2) start).get? name =
      (entries.lookup name).or (start.get? name) := by
  induction entries generalizing start with
  | nil => rfl
  | cons entry rest ih =>
    obtain ⟨first, held⟩ := entry
    rw [List.foldl_cons, ih ordered.of_cons, lookup_entry, get?_insert]
    by_cases same : name = first
    next =>
      subst same
      have once := lookup_of_lt fun later member => List.rel_of_pairwise_cons ordered member
      simp [once]
    next => simp only [same, if_false]

theorem ofEntries_entries (m : NameMap A) : ofEntries m.entries = m := by
  apply ext_get?
  intro name
  rw [ofEntries, get?_foldl_insert m.ordered]
  exact Option.or_none

end NameMap

end GangScheduling
