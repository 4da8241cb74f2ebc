set_option autoImplicit false

/-! # Dictionaries

A dictionary maps finitely many texts to values. Its entries stand in ascending order of their keys
(by code point) and no key stands twice, so that two dictionaries with the same entries are the
same. -/

namespace IndustrySet

/-- Finitely many texts, each with a value, in ascending order. -/
structure Dictionary (α : Type) where
  /-- The keys with their values. -/
  entries : List (String × α)
  /-- The keys ascend. -/
  ascending : entries.Pairwise fun a b => a.1 < b.1

namespace Dictionary

variable {α : Type}

instance : Inhabited (Dictionary α) := ⟨⟨[], .nil⟩⟩

instance [DecidableEq α] : DecidableEq (Dictionary α) := fun a b =>
  match decEq a.entries b.entries with
  | isTrue h => isTrue (by cases a; cases b; simp_all)
  | isFalse h => isFalse (by intro e; exact h (e ▸ rfl))

/-- The dictionary without entries. -/
def empty : Dictionary α := ⟨[], .nil⟩

/-- The value of a key in a list of entries. -/
def lookup (key : String) : List (String × α) → Option α
  | [] => none
  | entry :: rest => if entry.1 = key then some entry.2 else lookup key rest

/-- The value of a key. -/
def get? (d : Dictionary α) (key : String) : Option α :=
  lookup key d.entries

/-- Is there a value for the key? -/
def contains (d : Dictionary α) (key : String) : Bool :=
  (d.get? key).isSome

/-- The keys, ascending. -/
def keys (d : Dictionary α) : List String :=
  d.entries.map (·.1)

/-- The number of entries. -/
def size (d : Dictionary α) : Nat :=
  d.entries.length

/-! ## Setting a value -/

/-- Entries with the value of one key set, at the key's place. -/
def insertEntry (key : String) (value : α) : List (String × α) → List (String × α)
  | [] => [(key, value)]
  | entry :: rest =>
    if key < entry.1 then (key, value) :: entry :: rest
    else if key = entry.1 then (key, value) :: rest
    else entry :: insertEntry key value rest

theorem mem_insertEntry {key : String} {value : α} {entries : List (String × α)} {e : String × α}
    (h : e ∈ insertEntry key value entries) : e = (key, value) ∨ e ∈ entries := by
  induction entries with
  | nil => simpa [insertEntry] using h
  | cons entry rest ih =>
    simp only [insertEntry] at h
    split at h
    · simpa using h
    · split at h
      · rcases List.mem_cons.1 h with h | h
        · exact .inl h
        · exact .inr (List.mem_cons_of_mem _ h)
      · rcases List.mem_cons.1 h with h | h
        · exact .inr (h ▸ List.mem_cons_self)
        · exact (ih h).imp id (List.mem_cons_of_mem _)

theorem ascending_insertEntry {key : String} {value : α} {entries : List (String × α)}
    (h : entries.Pairwise fun a b => a.1 < b.1) :
    (insertEntry key value entries).Pairwise fun a b => a.1 < b.1 := by
  induction entries with
  | nil => simp [insertEntry]
  | cons entry rest ih =>
    obtain ⟨first, tail⟩ := List.pairwise_cons.1 h
    simp only [insertEntry]
    split
    · next less =>
      refine List.pairwise_cons.2 ⟨fun e he => ?_, h⟩
      rcases List.mem_cons.1 he with rfl | he
      · exact less
      · exact String.lt_trans less (first e he)
    · next notLess =>
      split
      · next same => exact List.pairwise_cons.2 ⟨fun e he => same ▸ first e he, tail⟩
      · next other =>
        refine List.pairwise_cons.2 ⟨fun e he => ?_, ih tail⟩
        rcases mem_insertEntry he with rfl | he
        · exact Std.lt_of_le_of_ne (String.not_lt.1 notLess) (Ne.symm other)
        · exact first e he

/-- The dictionary with the value of one key set. -/
def insert (d : Dictionary α) (key : String) (value : α) : Dictionary α :=
  ⟨insertEntry key value d.entries, ascending_insertEntry d.ascending⟩

/-- The dictionary of some entries; of several entries with one key the last counts. -/
def ofList (entries : List (String × α)) : Dictionary α :=
  entries.foldl (fun d entry => d.insert entry.1 entry.2) empty

/-- The first dictionary with every entry of the second laid over it. -/
def merge (d other : Dictionary α) : Dictionary α :=
  other.entries.foldl (fun d entry => d.insert entry.1 entry.2) d

/-! ## Lemmas -/

theorem lookup_insertEntry (key k : String) (value : α) (entries : List (String × α)) :
    lookup k (insertEntry key value entries) =
      if key = k then some value else lookup k entries := by
  induction entries with
  | nil => simp [insertEntry, lookup]
  | cons entry rest ih =>
    simp only [insertEntry]
    split
    · simp [lookup]
    · split
      · next same =>
        subst same
        by_cases hk : entry.1 = k <;> simp [lookup, hk]
      · next other =>
        by_cases hk : entry.1 = k
        · have hkey : key ≠ k := fun h => other (h.trans hk.symm)
          simp [lookup, hk, hkey]
        · simp [lookup, hk, ih]

@[simp]
theorem get?_empty (key : String) : (empty : Dictionary α).get? key = none := rfl

@[simp]
theorem get?_insert (d : Dictionary α) (key k : String) (value : α) :
    (d.insert key value).get? k = if key = k then some value else d.get? k :=
  lookup_insertEntry key k value d.entries

end Dictionary

end IndustrySet
