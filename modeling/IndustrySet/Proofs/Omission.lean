import IndustrySet.Declaration.Codec
import Mathlib.Data.List.Forall2

set_option autoImplicit false

/-! # Parts of written values that are left out

A record may be written without fields that have their default, and so may the records in it. The
shape of a codec says where there are such fields, and `Shortened` relates what is written in full
to what is left of it. The fields of an object may stand in any order. -/

namespace IndustrySet

mutual

/-- The second value is what is left of the first one when some fields that have their default are
left out, anywhere where the shape has such fields. -/
inductive Shortened : Shape → Datum → Datum → Prop
  /-- Nothing is left out. -/
  | same (shape : Shape) (d : Datum) : Shortened shape d d
  | list {each : Shape} {items left : List Datum} :
    ShortenedItems (items.map fun _ => each) items left →
    Shortened (.list each) (.list items) (.list left)
  | tuple {parts : List Shape} {items left : List Datum} :
    ShortenedItems parts items left → Shortened (.tuple parts) (.list items) (.list left)
  | map {each : Shape} {fields left reordered : List (String × Datum)} :
    ShortenedFields (fields.map fun field => (field.1, each, none)) fields left →
    left.Perm reordered → Shortened (.map each) (.object fields) (.object reordered)
  | record {shapes : List (String × Shape × Option Datum)}
      {fields left reordered : List (String × Datum)} :
    ShortenedFields shapes fields left →
    left.Perm reordered → Shortened (.record shapes) (.object fields) (.object reordered)

/-- The same for values that follow each other. -/
inductive ShortenedItems : List Shape → List Datum → List Datum → Prop
  | nil : ShortenedItems [] [] []
  | cons {shape : Shape} {d d' : Datum} {shapes : List Shape} {items left : List Datum} :
    Shortened shape d d' → ShortenedItems shapes items left →
    ShortenedItems (shape :: shapes) (d :: items) (d' :: left)

/-- The same for fields. One that has its default may be left out altogether. -/
inductive ShortenedFields : List (String × Shape × Option Datum) → List (String × Datum) →
    List (String × Datum) → Prop
  | nil : ShortenedFields [] [] []
  | keep {name : String} {shape : Shape} {default : Option Datum} {d d' : Datum}
      {shapes : List (String × Shape × Option Datum)} {fields left : List (String × Datum)} :
    Shortened shape d d' → ShortenedFields shapes fields left →
    ShortenedFields ((name, shape, default) :: shapes) ((name, d) :: fields) ((name, d') :: left)
  | leave {name : String} {shape : Shape} {d : Datum}
      {shapes : List (String × Shape × Option Datum)} {fields left : List (String × Datum)} :
    ShortenedFields shapes fields left →
    ShortenedFields ((name, shape, some d) :: shapes) ((name, d) :: fields) left

end

/-! ## Values that follow each other -/

theorem ShortenedItems.forall₂ {each : Shape} : ∀ {items left : List Datum},
    ShortenedItems (items.map fun _ => each) items left → List.Forall₂ (Shortened each) items left
  | [], _, .nil => .nil
  | _ :: _, _, .cons first rest => .cons first rest.forall₂

/-! ## Fields -/

namespace ShortenedFields

theorem refl : ∀ {shapes : List (String × Shape × Option Datum)} {fields : List (String × Datum)},
    shapes.map (·.1) = fields.map (·.1) → ShortenedFields shapes fields fields
  | [], [], _ => .nil
  | (name, shape, default) :: shapes, (_, d) :: fields, h => by
    obtain ⟨rfl, rest⟩ := List.cons.inj h
    exact .keep (.same shape d) (refl rest)

/-- No field is added. -/
theorem sublist_names : ∀ {shapes : List (String × Shape × Option Datum)}
    {fields left : List (String × Datum)}, ShortenedFields shapes fields left →
    (left.map (·.1)).Sublist (shapes.map (·.1))
  | _, _, _, .nil => .slnil
  | _, _, _, .keep _ rest => rest.sublist_names.cons_cons _
  | _, _, _, .leave rest => rest.sublist_names.cons _

/-- Where no field has a default, each is there. -/
theorem forall₂ {each : Shape} : ∀ {fields left : List (String × Datum)},
    ShortenedFields (fields.map fun field => (field.1, each, none)) fields left →
    List.Forall₂ (fun field field' => field'.1 = field.1 ∧ Shortened each field.2 field'.2)
      fields left
  | [], _, .nil => .nil
  | (_, _) :: _, _, .keep first rest => .cons ⟨rfl, first⟩ rest.forall₂

/-- Where no two fields have the same name, each is there, or it has its default and no field of its
name is there. -/
theorem kept_or_left : ∀ {shapes : List (String × Shape × Option Datum)}
    {fields left : List (String × Datum)}, ShortenedFields shapes fields left →
    (shapes.map (·.1)).Nodup → ∀ pair ∈ shapes.zip fields,
      (∃ d, (pair.1.1, d) ∈ left ∧ Shortened pair.1.2.1 pair.2.2 d) ∨
        pair.1.1 ∉ left.map (·.1) ∧ pair.1.2.2 = some pair.2.2
  | _, _, _, .nil, _, _, mem => absurd mem List.not_mem_nil
  | _, _, _, .keep first rest, distinct, pair, mem => by
    obtain ⟨fresh, distinct⟩ := List.nodup_cons.1 distinct
    rcases List.mem_cons.1 mem with rfl | mem
    · exact .inl ⟨_, List.mem_cons_self, first⟩
    · rcases rest.kept_or_left distinct pair mem with ⟨d, there, short⟩ | ⟨gone, default⟩
      · exact .inl ⟨d, List.mem_cons_of_mem _ there, short⟩
      · refine .inr ⟨fun there => ?_, default⟩
        rcases List.mem_cons.1 there with same | there
        · exact fresh (same ▸ List.mem_map_of_mem (List.of_mem_zip mem).1)
        · exact gone there
  | _, _, _, .leave rest, distinct, pair, mem => by
    obtain ⟨fresh, distinct⟩ := List.nodup_cons.1 distinct
    rcases List.mem_cons.1 mem with rfl | mem
    · exact .inr ⟨fun there => fresh (rest.sublist_names.subset there), rfl⟩
    · exact rest.kept_or_left distinct pair mem

end ShortenedFields

/-! ## What is left of a value -/

namespace Shortened

variable {d d' : Datum}

theorem eq_of_whole (short : Shortened .whole d d') : d' = d := by
  cases short
  rfl

theorem eq_of_text {shape : Shape} {text : String} (short : Shortened shape (.text text) d) :
    d = .text text := by
  cases short
  rfl

theorem of_list {each : Shape} {items : List Datum}
    (short : Shortened (.list each) (.list items) d) :
    ∃ left, d = .list left ∧ List.Forall₂ (Shortened each) items left := by
  cases short with
  | same => exact ⟨items, rfl, List.forall₂_same.2 fun item _ => .same each item⟩
  | list short => exact ⟨_, rfl, short.forall₂⟩

theorem of_pair {first second : Shape} {a b : Datum}
    (short : Shortened (.tuple [first, second]) (.list [a, b]) d) :
    ∃ a' b', d = .list [a', b'] ∧ Shortened first a a' ∧ Shortened second b b' := by
  cases short with
  | same => exact ⟨a, b, rfl, .same _ _, .same _ _⟩
  | tuple short =>
    cases short with
    | cons shortA rest =>
      cases rest with
      | cons shortB rest =>
        cases rest with
        | nil => exact ⟨_, _, rfl, shortA, shortB⟩

theorem of_map {each : Shape} {fields : List (String × Datum)}
    (short : Shortened (.map each) (.object fields) d) :
    ∃ left reordered, d = .object reordered ∧ left.Perm reordered ∧
      List.Forall₂ (fun field field' => field'.1 = field.1 ∧ Shortened each field.2 field'.2)
        fields left := by
  cases short with
  | same =>
    exact ⟨fields, fields, rfl, .rfl, List.forall₂_same.2 fun field _ => ⟨rfl, .same each field.2⟩⟩
  | map short order => exact ⟨_, _, rfl, order, short.forall₂⟩

theorem of_record {shapes : List (String × Shape × Option Datum)} {fields : List (String × Datum)}
    (named : shapes.map (·.1) = fields.map (·.1))
    (short : Shortened (.record shapes) (.object fields) d) :
    ∃ left reordered, d = .object reordered ∧ left.Perm reordered ∧
      ShortenedFields shapes fields left := by
  cases short with
  | same => exact ⟨fields, fields, rfl, .rfl, .refl named⟩
  | record short order => exact ⟨_, _, rfl, order, short⟩

/-- Only of nothing nothing is left. -/
theorem null_iff {shape : Shape} (short : Shortened shape d d') : d' = .null ↔ d = .null := by
  cases short <;> simp

end Shortened

end IndustrySet
