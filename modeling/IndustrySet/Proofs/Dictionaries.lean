import IndustrySet.Dictionary
import IndustrySet.Property.Basic
import Mathlib.Data.List.Nodup

set_option autoImplicit false

/-! # Keys and entries of dictionaries and sets of properties

The keys of a dictionary are the texts that have a value (`mem_keys`), and its entries are these
with their values (`mem_entries`). A dictionary made of a list has the keys that occur in the list
(`mem_keys_ofList`), each with the value that was listed last (`get?_ofList`); where it lists no key
twice, its order does not matter (`ofList_perm_entries`). One dictionary laid over another is that
of both lists, one after the other (`ofList_append`). A set of properties has the same laws. -/

namespace IndustrySet

section

variable {α β : Type} [DecidableEq β] {field : α → β} {xs ys : List α}

/-- Where the values of a field are distinct, an element is found by its value. -/
theorem find?_eq_some_iff_of_nodup (distinct : (xs.map field).Nodup) {value : β} {x : α} :
    xs.find? (fun x => field x = value) = some x ↔ x ∈ xs ∧ field x = value := by
  constructor
  · intro found
    exact ⟨List.mem_of_find?_eq_some found, by simpa using List.find?_some found⟩
  · rintro ⟨mem, named⟩
    cases found : xs.find? fun x => field x = value with
    | none => exact absurd (decide_eq_true named) (List.find?_eq_none.1 found x mem)
    | some y =>
      have same : field y = value := by simpa using List.find?_some found
      rw [List.inj_on_of_nodup_map distinct (List.mem_of_find?_eq_some found) mem
        (same.trans named.symm)]

/-- So it is found in any order. -/
theorem find?_perm (perm : xs.Perm ys) (distinct : (xs.map field).Nodup) (value : β) :
    xs.find? (fun x => field x = value) = ys.find? (fun y => field y = value) := by
  refine Option.ext fun x => ?_
  rw [find?_eq_some_iff_of_nodup distinct,
    find?_eq_some_iff_of_nodup ((perm.map field).nodup_iff.1 distinct), perm.mem_iff]

/-- Among entries with distinct keys it does not matter which one of a key counts. -/
theorem findRev?_key_eq_some {entries : List (β × α)} (distinct : (entries.map (·.1)).Nodup)
    {key : β} {value : α} :
    (entries.findRev? fun entry => entry.1 = key).map (·.2) = some value ↔
      (key, value) ∈ entries := by
  rw [List.findRev?_eq_find?_reverse, Option.map_eq_some_iff, find?_perm entries.reverse_perm
    ((entries.reverse_perm.map _).nodup_iff.2 distinct)]
  simp only [find?_eq_some_iff_of_nodup distinct]
  constructor
  · rintro ⟨entry, ⟨mem, rfl⟩, rfl⟩
    exact mem
  · exact fun mem => ⟨(key, value), ⟨mem, rfl⟩, rfl⟩

theorem sorted_mergeSort (texts : List String) :
    (texts.mergeSort fun a b => a ≤ b).Pairwise (· ≤ ·) :=
  (List.pairwise_mergeSort (fun a b c => by simpa using String.le_trans)
    (fun a b => by simpa using String.le_total a b) texts).imp of_decide_eq_true

/-- Of lists in which a field ascends, no two have the same elements. -/
theorem eq_of_ascending {field : α → String} {xs ys : List α}
    (ascending : xs.Pairwise fun a b => field a < field b)
    (ascending' : ys.Pairwise fun a b => field a < field b) (same : ∀ x, x ∈ xs ↔ x ∈ ys) :
    xs = ys := by
  have apart : ∀ {zs : List α}, zs.Pairwise (fun a b => field a < field b) → zs.Nodup :=
    fun ascending => ascending.imp fun less => ne_of_apply_ne field (String.ne_of_lt less)
  have perm := (List.perm_ext_iff_of_nodup (apart ascending) (apart ascending')).2 same
  exact perm.eq_of_pairwise (fun _ _ _ _ less greater => absurd less (String.lt_asymm greater))
    ascending ascending'

end

namespace Dictionary

variable {α : Type}

theorem isSome_lookup {key : String} {entries : List (String × α)} :
    (lookup key entries).isSome = true ↔ key ∈ entries.map (·.1) := by
  induction entries with
  | nil => simp [lookup]
  | cons entry rest ih =>
    by_cases same : entry.1 = key
    · simp [lookup, same]
    · simp [lookup, same, Ne.symm same, ih]

/-- The keys are the texts that have a value. -/
theorem mem_keys {d : Dictionary α} {key : String} : key ∈ d.keys ↔ d.contains key = true :=
  isSome_lookup.symm

/-- The entries are the keys with their values. -/
theorem mem_entries {d : Dictionary α} {key : String} {value : α} :
    (key, value) ∈ d.entries ↔ d.get? key = some value := by
  obtain ⟨entries, ascending⟩ := d
  show (key, value) ∈ entries ↔ lookup key entries = some value
  induction entries with
  | nil => simp [lookup]
  | cons entry rest ih =>
    obtain ⟨first, tail⟩ := List.pairwise_cons.1 ascending
    rw [List.mem_cons, ih tail, lookup]
    split
    · next same =>
      -- The keys ascend, so that no later entry has this key.
      have later : lookup key rest ≠ some value := fun found =>
        absurd (first _ ((ih tail).2 found)) (same ▸ String.lt_irrefl _)
      simp [later, Prod.ext_iff, same, eq_comm]
    · next other => simp [Prod.ext_iff, Ne.symm other]

theorem pairwise_keys (d : Dictionary α) : d.keys.Pairwise (· < ·) :=
  List.pairwise_map.2 d.ascending

theorem nodup_keys (d : Dictionary α) : d.keys.Nodup :=
  d.pairwise_keys.imp fun less => String.ne_of_lt less

/-! ## Dictionaries of lists -/

theorem get?_foldl_insert (entries : List (String × α)) (d : Dictionary α) (key : String) :
    (entries.foldl (fun d entry => d.insert entry.1 entry.2) d).get? key =
      ((entries.findRev? fun entry => entry.1 = key).map (·.2)).or (d.get? key) := by
  induction entries generalizing d with
  | nil => rfl
  | cons entry rest ih =>
    rw [List.foldl_cons, ih, get?_insert]
    by_cases own : entry.1 = key
    · simp [own]
    · simp [own]

/-- Of several values that are listed for a key, the last one counts. -/
theorem get?_ofList (entries : List (String × α)) (key : String) :
    (ofList entries).get? key = (entries.findRev? fun entry => entry.1 = key).map (·.2) := by
  rw [ofList, get?_foldl_insert, get?_empty, Option.or_none]

/-- Two dictionaries with the same entries are the same, since these stand in ascending order. -/
theorem eq_of_mem_iff {d d' : Dictionary α} (h : ∀ entry, entry ∈ d.entries ↔ entry ∈ d'.entries) :
    d = d' := by
  have same : d.entries = d'.entries := eq_of_ascending d.ascending d'.ascending h
  cases d
  cases d'
  cases same
  rfl

/-- Two dictionaries that give every key the same value are the same. -/
theorem eq_of_get?_eq {d d' : Dictionary α} (h : ∀ key, d.get? key = d'.get? key) : d = d' :=
  eq_of_mem_iff fun entry => by rw [mem_entries, mem_entries, h]

/-- A dictionary is that of its entries, in any order. -/
theorem ofList_perm_entries {d : Dictionary α} {entries : List (String × α)}
    (perm : d.entries.Perm entries) : ofList entries = d := by
  have distinct : (entries.map (·.1)).Nodup := (perm.map _).nodup_iff.1 d.nodup_keys
  refine eq_of_mem_iff fun entry => ?_
  rw [mem_entries, get?_ofList, findRev?_key_eq_some distinct, perm.mem_iff]

/-! ## Dictionaries laid over each other -/

/-- Where both have a value for a key, the one laid over the other counts. -/
theorem get?_merge (d other : Dictionary α) (key : String) :
    (d.merge other).get? key = (other.get? key).or (d.get? key) := by
  rw [merge, get?_foldl_insert, ← get?_ofList, ofList_perm_entries (List.Perm.refl _)]

theorem empty_merge (d : Dictionary α) : empty.merge d = d :=
  ofList_perm_entries (List.Perm.refl _)

/-- Of two lists one after the other, the second one is laid over the first one. -/
theorem ofList_append (entries more : List (String × α)) :
    ofList (entries ++ more) = (ofList entries).merge (ofList more) := by
  refine eq_of_get?_eq fun key => ?_
  rw [get?_merge, get?_ofList more, ofList, List.foldl_append, get?_foldl_insert]
  rfl

end Dictionary

namespace Properties

/-- Of several values for one key, the last one counts. -/
theorem get?_setAll (p : Properties) (values : List (PropertyKey × PropertyValue))
    (key : PropertyKey) :
    (p.setAll values).get? key =
      ((values.findRev? fun value => value.1 = key).map (·.2)).or (p.get? key) := by
  induction values generalizing p with
  | nil => rfl
  | cons value values ih =>
    rw [setAll, List.foldl_cons, ← setAll, ih, get?_set]
    by_cases own : value.1 = key
    · simp [own]
    · simp [own, Ne.symm own]

theorem mem_toList {p : Properties} {key : PropertyKey} {value : PropertyValue} :
    (key, value) ∈ p.toList ↔ p.get? key = some value := by
  rw [toList, List.mem_filterMap]
  constructor
  · rintro ⟨other, _, found⟩
    obtain ⟨_, found, same⟩ := Option.map_eq_some_iff.1 found
    cases same
    exact found
  · exact fun found => ⟨key, PropertyKey.mem_all key, by rw [found]; rfl⟩

theorem map_fst_toList (p : Properties) : p.toList.map (·.1) = p.keys := by
  rw [toList, keys, List.map_filterMap, ← List.filterMap_eq_filter]
  refine List.filterMap_congr fun key _ => ?_
  cases found : p.get? key <;> simp [contains, Option.guard, found]

theorem nodup_keys (p : Properties) : p.keys.Nodup :=
  List.Nodup.filter _ (by decide)

/-- A set of properties is that of its values, in any order. -/
theorem ofList_perm_toList {p : Properties} {values : List (PropertyKey × PropertyValue)}
    (perm : p.toList.Perm values) : ofList values = p := by
  have distinct : (values.map (·.1)).Nodup :=
    (perm.map _).nodup_iff.1 (p.map_fst_toList ▸ p.nodup_keys)
  refine ext fun key => Option.ext fun value => ?_
  rw [ofList, get?_setAll, get?_empty, Option.or_none, findRev?_key_eq_some distinct,
    ← perm.mem_iff, mem_toList]

end Properties

end IndustrySet
