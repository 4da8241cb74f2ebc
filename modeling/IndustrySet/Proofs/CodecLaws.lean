import IndustrySet.Declaration.Codec
import IndustrySet.Proofs.Dictionaries
import IndustrySet.Proofs.Fallible
import IndustrySet.Proofs.Omission

set_option autoImplicit false

/-! # Codecs that read back what they write

A value survives a codec if it is read back from whatever is left of what the codec writes
(`Codec.Survives`), and a codec is lawful if every value does. Each way to make a codec of others
keeps this: lists, pairs and maps that of their elements (`exists_entries`), and records that of
their fields (`Fields.Reads.field`, `Codec.Survives.recordWith`). Instances put these together. -/

namespace IndustrySet

variable {α β γ σ : Type}

namespace Codec

/-- The value is read back from what is left of it. -/
def Survives (c : Codec α) (a : α) : Prop :=
  ∀ d, Shortened c.shape (c.write a) d → c.read (.datum d) = .ok a

/-- Every value survives. -/
class Lawful (c : Codec α) : Prop where
  survives : ∀ a, c.Survives a

/-- No value is written like one that is missing. -/
class Solid (c : Codec α) : Prop where
  ne_null : ∀ a, c.write a ≠ .null

theorem Lawful.read_write {c : Codec α} [Lawful c] (a : α) : c.read (.datum (c.write a)) = .ok a :=
  Lawful.survives a _ (.same _ _)

/-- Values that survive are told apart by how they are written. -/
theorem Survives.eq_of_write_eq {c : Codec α} {a b : α} (ha : c.Survives a) (hb : c.Survives b)
    (h : c.write a = c.write b) : a = b := by
  have read_a := ha _ (.same _ _)
  rw [h, hb _ (.same _ _)] at read_a
  exact (Except.ok.inj read_a).symm

/-! ## Plain values -/

/-- Where nothing is left out, a value survives if it is read from what is written. -/
theorem Survives.of_whole {c : Codec α} {a : α} (whole : c.shape = .whole)
    (read : c.read (.datum (c.write a)) = .ok a) : c.Survives a := by
  intro d short
  rw [whole] at short
  rw [short.eq_of_whole, read]

instance : Lawful text := ⟨fun _ => .of_whole rfl rfl⟩

instance : Solid text := ⟨fun _ => nofun⟩

instance : Lawful bool := ⟨fun _ => .of_whole rfl rfl⟩

section

variable {least greatest : Int} {ofInt : Int → α} {toInt : α → Int}

theorem Lawful.integer (inRange : ∀ a, least ≤ toInt a ∧ toInt a ≤ greatest)
    (back : ∀ a, ofInt (toInt a) = a) : Lawful (integer least greatest ofInt toInt) := by
  refine ⟨fun a => .of_whole rfl ?_⟩
  refine bind_eq_ok.2 ⟨toInt a, rfl, ?_⟩
  rw [if_pos (inRange a), back]
  rfl

instance : Solid (integer least greatest ofInt toInt) := ⟨fun _ => nofun⟩

end

instance : Lawful uint8 :=
  .integer (fun n => by have := n.toNat_lt; omega) fun n => by simp

instance : Lawful uint16 :=
  .integer (fun n => by have := n.toNat_lt; omega) fun n => by simp

instance : Lawful uint32 :=
  .integer (fun n => by have := n.toNat_lt; omega) fun n => by simp

instance : Lawful uint64 :=
  .integer (fun n => by have := n.toNat_lt; omega) fun n => by simp

instance : Lawful int8 :=
  .integer (fun n => by have := n.toInt_lt; have := n.le_toInt; omega) fun n => by simp

instance : Lawful int16 :=
  .integer (fun n => by have := n.toInt_lt; have := n.le_toInt; omega) fun n => by simp

instance : Lawful int64 :=
  .integer (fun n => by have := n.toInt_lt; have := n.le_toInt; omega) fun n => by simp

instance : Solid uint16 := inferInstanceAs (Solid (integer ..))

instance : Solid uint32 := inferInstanceAs (Solid (integer ..))

theorem Lawful.enumeration {all : List α} {name : α → String} (listed : ∀ a, a ∈ all)
    (distinct : (all.map name).Nodup) : Lawful (enumeration all name) := by
  refine ⟨fun a => .of_whole rfl ?_⟩
  have found := (find?_eq_some_iff_of_nodup distinct).2 ⟨listed a, rfl⟩
  refine bind_eq_ok.2 ⟨(name a, none), rfl, ?_⟩
  simp only [found]
  rfl

instance {all : List α} {name : α → String} : Solid (enumeration all name) := ⟨fun _ => nofun⟩

/-! ## Values made of values -/

variable {c : Codec α} {d : Codec β}

theorem readEnclosed_eq_ok {a : α} {left : Datum} (read : c.read (.datum left) = .ok a) :
    c.readEnclosed ⟨.datum left, true⟩ = .ok a :=
  bind_eq_ok.2 ⟨a, read, rfl⟩

/-- An alternative of one value is read where its value is. -/
theorem readSingle_eq_ok (c : Codec α) [Lawful c] (make : α → γ) (a : α) :
    (make <$> (Source.single (some (.datum (c.write a))) >>= c.readEnclosed)) = .ok (make a) := by
  show make <$> c.readEnclosed ⟨.datum (c.write a), true⟩ = _
  rw [readEnclosed_eq_ok (Lawful.read_write a)]
  rfl

instance [Solid c] [Lawful c] : Lawful c.option where
  survives value left short := by
    cases value with
    | none =>
      rw [short.null_iff.2 rfl]
      rfl
    | some a =>
      have there : left ≠ .null := fun gone => Solid.ne_null a (short.null_iff.1 gone)
      have enclosed : Source.asOption (.datum left) = .ok (some ⟨.datum left, true⟩) := by
        cases left with
        | null => exact absurd rfl there
        | _ => rfl
      refine bind_eq_ok.2 ⟨_, enclosed, ?_⟩
      show some <$> c.readEnclosed ⟨.datum left, true⟩ = _
      rw [readEnclosed_eq_ok (Lawful.survives a left short)]
      rfl

/-- A list survives if its elements do. -/
theorem Survives.list {items : List α} (each : ∀ a ∈ items, c.Survives a) :
    c.list.Survives items := by
  intro d short
  obtain ⟨left, rfl, shorter⟩ := short.of_list
  show (left.map Source.datum).mapM c.read = .ok items
  rw [mapM_eq_ok, List.forall₂_map_left_iff]
  have both := (List.forall₂_and_left _ _).2 ⟨each, List.forall₂_map_left_iff.1 shorter⟩
  exact both.flip.imp fun _ _ h => h.1 _ h.2

instance [Lawful c] : Lawful c.list := ⟨fun _ => .list fun a _ => Lawful.survives a⟩

instance [Lawful c] [Lawful d] : Lawful (c.pair d) := by
  refine ⟨fun p left short => ?_⟩
  obtain ⟨first, second, rfl, shortFirst, shortSecond⟩ := short.of_pair
  refine bind_eq_ok.2 ⟨[.datum first, .datum second], rfl, ?_⟩
  refine bind_eq_ok.2 ⟨p.1, Lawful.survives p.1 first shortFirst, ?_⟩
  exact bind_eq_ok.2 ⟨p.2, Lawful.survives p.2 second shortSecond, rfl⟩

instance : Solid (c.pair d) := ⟨fun _ => nofun⟩

theorem Survives.checked {check : α → Except Refusal α} {a : α} (survives : c.Survives a)
    (fine : check a = .ok a) : (c.checked check).Survives a := by
  intro left short
  refine bind_eq_ok.2 ⟨a, survives left short, ?_⟩
  rw [fine]
  rfl

/-! ## Maps -/

/-- The entries of a map are read, in some order, where the keys are read from their texts and the
values survive. -/
theorem exists_entries (readKey : Source → Except Fault β) (keyText : β → String)
    (keys : ∀ key, readKey (.datum (.text (keyText key))) = .ok key)
    {entries : List (β × α)} (values : ∀ entry ∈ entries, c.Survives entry.2) {left : Datum}
    (short : Shortened (.map c.shape)
      (.object (entries.map fun entry => (keyText entry.1, c.write entry.2))) left) :
    ∃ fields found, left = .object fields ∧ entries.Perm found ∧
      (fields.map fun field => (Source.datum (.text field.1), Source.datum field.2)).mapM
        (fun entry => do
          let key ← readKey entry.1
          let value ← c.read entry.2
          return (key, value)) = .ok found := by
  obtain ⟨inOrder, fields, rfl, order, each⟩ := short.of_map
  have read : inOrder.mapM (fun field => do
      let key ← readKey (.datum (.text field.1))
      let value ← c.read (.datum field.2)
      return (key, value)) = .ok entries := by
    rw [mapM_eq_ok]
    have both := (List.forall₂_and_left _ _).2 ⟨values, List.forall₂_map_left_iff.1 each⟩
    refine both.flip.imp ?_
    rintro field entry ⟨survives, named, shorter⟩
    rw [named, keys, survives _ shorter]
    rfl
  obtain ⟨found, read, same⟩ := exists_mapM_perm order read
  exact ⟨fields, found, rfl, same, by rw [List.mapM_map]; exact read⟩

instance [Lawful c] : Lawful (dictionary c) := by
  refine ⟨fun dict left short => ?_⟩
  obtain ⟨fields, found, rfl, order, read⟩ :=
    exists_entries text.read id (fun _ => rfl) (fun entry _ => Lawful.survives entry.2) short
  refine bind_eq_ok.2 ⟨_, rfl, bind_eq_ok.2 ⟨found, read, ?_⟩⟩
  exact congrArg Except.ok (Dictionary.ofList_perm_entries order)

end Codec

/-! ## Records -/

namespace Fields

variable {fields : Fields σ α} {s : σ} {a : α}

/-- Among the entries the field is there, maybe shortened, or it is not and has its default. -/
def Stands (entries : List Source.Entry) (shape : String × Shape × Option Datum)
    (field : String × Datum) : Prop :=
  (∃ place d, find? shape.1 entries = some (place, .datum d) ∧ Shortened shape.2.1 field.2 d) ∨
    find? shape.1 entries = none ∧ shape.2.2 = some field.2

/-- Reading the fields of a record gives what is to be made of them. -/
structure Reads (fields : Fields σ α) (s : σ) (a : α) : Prop where
  shaped : fields.shapes.map (·.1) = fields.names
  written : (fields.write s).map (·.1) = fields.names
  read : ∀ entries, (∀ pair ∈ fields.shapes.zip (fields.write s), Stands entries pair.1 pair.2) →
    fields.read entries = .ok a

theorem Reads.start {make : α} : (start make : Fields σ α).Reads s make :=
  ⟨rfl, rfl, fun _ _ => rfl⟩

theorem readField_eq_ok {name : String} {c : Codec β} {missing : Except Fault β} {b : β}
    (survives : c.Survives b) (default : ∀ b, missing = .ok b → c.Survives b)
    {entries : List Source.Entry}
    (stands : Stands entries (name, c.shape, missing.toOption.map c.write) (name, c.write b)) :
    readField name c missing entries = .ok b := by
  rw [readField]
  rcases stands with ⟨place, d, found, short⟩ | ⟨found, same⟩
  · rw [found]
    show (c.read (.datum d)).mapError _ = _
    rw [survives d short]
    rfl
  · rw [found]
    cases missing with
    | error e => cases same
    | ok b' =>
      have equal := (default b' rfl).eq_of_write_eq survives (Option.some.inj same)
      exact congrArg Except.ok equal

theorem Reads.field {fields : Fields σ (β → α)} {f : β → α} (reads : fields.Reads s f)
    (name : String) {get : σ → β} {c : Codec β} {missing : Except Fault β}
    (survives : c.Survives (get s)) (default : ∀ b, missing = .ok b → c.Survives b) :
    (fields.field name get c missing).Reads s (f (get s)) := by
  have size : fields.shapes.length = (fields.write s).length := by
    rw [← List.length_map (f := (·.1)), reads.shaped, ← reads.written, List.length_map]
  refine ⟨?_, ?_, fun entries stand => ?_⟩
  · simp [Fields.field, reads.shaped]
  · simp [Fields.field, reads.written]
  · have pairs : (fields.field name get c missing).shapes.zip
        ((fields.field name get c missing).write s) = _ := List.zip_append size
    rw [pairs] at stand
    have front := reads.read entries fun pair mem => stand pair (List.mem_append_left _ mem)
    have last := stand _ (List.mem_append_right _ List.mem_cons_self)
    show Located.combine _ (fields.read entries) (readField name c missing entries) = _
    rw [front, readField_eq_ok survives default last]
    rfl

/-- Every value of a record is read by its fields, which make `value` of it. -/
class Lawful (fields : Fields σ α) (value : outParam (σ → α)) : Prop where
  reads : ∀ s, fields.Reads s (value s)

theorem Reads.of_lawful {value : σ → α} [Lawful fields value] (made : value s = a) :
    fields.Reads s a :=
  made ▸ Lawful.reads s

instance {make : α} : Lawful (start make : Fields σ α) fun _ => make := ⟨fun _ => .start⟩

section

variable {fields : Fields σ (β → α)} {value : σ → β → α} [Lawful fields value] {name : String}

instance {get : σ → β} {c : Codec β} [c.Lawful] :
    Lawful (fields.required name get c) fun s => value s (get s) where
  reads s := (Lawful.reads s).field name (Codec.Lawful.survives _) nofun

instance {get : σ → β} {c : Codec β} [c.Lawful] {default : β} :
    Lawful (fields.optional name get c default) fun s => value s (get s) where
  reads s :=
    (Lawful.reads s).field name (Codec.Lawful.survives _) fun b _ => Codec.Lawful.survives b

end

/-! ### The entries of a record -/

/-- The fields of an object as the entries of a record. -/
def entriesOf (given : List (String × Datum)) : List Source.Entry :=
  given.map fun field => (some field.1, .datum field.2)

theorem find?_entriesOf_eq_none {name : String} {given : List (String × Datum)}
    (gone : name ∉ given.map (·.1)) : find? name (entriesOf given) = none := by
  induction given with
  | nil => rfl
  | cons field rest ih =>
    obtain ⟨other, gone⟩ := not_or.1 (mt List.mem_cons.2 gone)
    show (if some field.1 = some name then _ else (find? name (entriesOf rest)).map _) = none
    rw [if_neg fun same => other (Option.some.inj same).symm, ih gone]
    rfl

theorem exists_find?_entriesOf {given : List (String × Datum)}
    (distinct : (given.map (·.1)).Nodup) {name : String} {d : Datum} (mem : (name, d) ∈ given) :
    ∃ place, find? name (entriesOf given) = some (place, .datum d) := by
  induction given with
  | nil => cases mem
  | cons field rest ih =>
    obtain ⟨fresh, distinct⟩ := List.nodup_cons.1 distinct
    show ∃ place, (if some field.1 = some name then _ else (find? name (entriesOf rest)).map _) = _
    rcases List.mem_cons.1 mem with rfl | mem
    · exact ⟨0, if_pos rfl⟩
    · obtain ⟨place, found⟩ := ih distinct mem
      have other : some field.1 ≠ some name := fun same =>
        fresh (List.mem_map.2 ⟨(name, d), mem, (Option.some.inj same).symm⟩)
      rw [if_neg other, found]
      exact ⟨place + 1, rfl⟩

theorem checkNames_entriesOf {known : List String} {strict : Bool} {given : List (String × Datum)}
    (distinct : (given.map (·.1)).Nodup) (allKnown : ∀ name ∈ given.map (·.1), name ∈ known)
    {place : Nat} {seen : List String} (fresh : ∀ name ∈ given.map (·.1), name ∉ seen) :
    checkNames known strict place seen (entriesOf given) = .ok () := by
  induction given generalizing place seen with
  | nil => rfl
  | cons field rest ih =>
    obtain ⟨once, distinct⟩ := List.nodup_cons.1 distinct
    have isKnown := List.contains_iff_mem.2 (allKnown _ List.mem_cons_self)
    have isFresh := mt List.contains_iff_mem.1 (fresh _ List.mem_cons_self)
    show (if known.contains field.1 then if seen.contains field.1 then _ else
      checkNames known strict (place + 1) (field.1 :: seen) (entriesOf rest) else _) = _
    rw [if_pos isKnown, if_neg isFresh]
    refine ih distinct (fun name mem => allKnown name (List.mem_cons_of_mem _ mem)) ?_
    intro name mem again
    rcases List.mem_cons.1 again with rfl | again
    · exact once mem
    · exact fresh name (List.mem_cons_of_mem _ mem) again

end Fields

namespace Codec

variable {fields : Fields σ σ} {s : σ} {name : String} {strict : Bool}

/-- A record survives if its fields are read and no two of them have the same name. -/
theorem Survives.recordWith (distinct : fields.names.Nodup) (reads : fields.Reads s s) :
    (recordWith name strict fields).Survives s := by
  intro left short
  obtain ⟨inOrder, given, rfl, order, short⟩ :=
    short.of_record (reads.shaped.trans reads.written.symm)
  have namesLeft : (inOrder.map (·.1)).Sublist fields.names := reads.shaped ▸ short.sublist_names
  have sameNames := order.map (·.1)
  have distinctGiven := sameNames.nodup_iff.1 (namesLeft.nodup distinct)
  have found : fields.read (Fields.entriesOf given) = .ok s := by
    refine reads.read _ fun pair mem => ?_
    have stands := short.kept_or_left (reads.shaped ▸ distinct) pair mem
    rcases stands with ⟨d, kept, short⟩ | ⟨gone, same⟩
    · obtain ⟨place, found⟩ := Fields.exists_find?_entriesOf distinctGiven (order.mem_iff.1 kept)
      exact .inl ⟨place, d, found, short⟩
    · exact .inr ⟨Fields.find?_entriesOf_eq_none (mt sameNames.mem_iff.2 gone), same⟩
  have checked : Fields.checkNames fields.names strict 0 [] (Fields.entriesOf given) = .ok () :=
    Fields.checkNames_entriesOf distinctGiven
      (fun name mem => namesLeft.subset (sameNames.mem_iff.2 mem)) (by simp)
  show (Located.combine _ (fields.read (Fields.entriesOf given))
    (Fields.checkNames fields.names strict 0 [] (Fields.entriesOf given))).mapError _ = _
  rw [found, checked]
  rfl

/-- The law for records whose fields make the record again. -/
theorem Lawful.recordWith {value : σ → σ} [Fields.Lawful fields value]
    (distinct : fields.names.Nodup) (whole : ∀ s, value s = s) :
    Lawful (recordWith name strict fields) :=
  ⟨fun s => .recordWith distinct (.of_lawful (whole s))⟩

theorem Lawful.record {value : σ → σ} [Fields.Lawful fields value]
    (distinct : fields.names.Nodup) (whole : ∀ s, value s = s) : Lawful (record name fields) :=
  .recordWith distinct whole

instance : Solid (Codec.recordWith name strict fields) := ⟨fun _ => nofun⟩

end Codec

end IndustrySet
