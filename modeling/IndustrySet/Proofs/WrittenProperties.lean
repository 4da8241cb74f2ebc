import IndustrySet.Proofs.Playback
import IndustrySet.Proofs.WrittenLines
import IndustrySet.Proofs.WrittenNumbers
import Mathlib.Data.List.Find

set_option autoImplicit false

/-! # Properties in the text

The lines that the game reads for an item are found in the text: a block for the economy that the
player picked counts as if its inside stood in its place (`playedBack`), and what is read are the
insides of the property blocks inside the item (`declarations`). In a text without line feeds in its
declarations these are the lines that the blocks hold (`declarations_render`), so the line in effect
for a property is what the text says (`declarationInEffect?_render`). -/

namespace IndustrySet.Nml

open Text

/-! ## Reading lines -/

/-- The lines inside a block, from the one after it was opened up to the one that closes it. -/
def inside (lines : List String) : List String :=
  (lines.takeWhile (· ≠ "\x7d")).map unindent

/-- The insides of the blocks that certain lines open, one after the other. -/
def insides (opens : String → Bool) : List String → List String
  | [] => []
  | line :: rest => (if opens line then inside rest else []) ++ insides opens rest

/-- The lines with the inside of certain blocks instead of the line that opens them. -/
def playedBack (opens : String → Bool) : List String → List String
  | [] => []
  | line :: rest => (if opens line then inside rest else [line]) ++ playedBack opens rest

/-- Does a block for this value of the economy parameter begin with the line? -/
def beginsEconomy (parameter : Option Nat) (line : String) : Bool :=
  parameter.any fun n => line = "if (param_economy == " ++ toString n ++ ") \x7b"

/-- Does an item of this feature and id begin with the line? Its number may follow. -/
def beginsItem (feature id line : String) : Bool :=
  line.toList.getLast? = some '\x7b' ∧
    (("item(" ++ feature ++ ", " ++ id ++ ", ").toList <+: line.toList ∨
      ("item(" ++ feature ++ ", " ++ id ++ ") ").toList <+: line.toList)

/-- The lines of a text that stand inside an item, when the economy parameter has the given value;
without a value, those that do in every economy. -/
def itemLines (feature id : String) (parameter : Option Nat) (text : String) : List String :=
  insides (beginsItem feature id) (playedBack (beginsEconomy parameter) (splitAtFeeds text))

/-- The properties that a text declares for an item. -/
def declarations (feature id : String) (parameter : Option Nat) (text : String) : List String :=
  insides (· = "property \x7b") (itemLines feature id parameter text)

/-- The declaration in effect for a property: the last one with the name of the property before the
colon. -/
def declarationInEffect? (feature id : String) (parameter : Option Nat) (text name : String) :
    Option String :=
  (declarations feature id parameter text).findRev? fun line =>
    line.toList.takeWhile (· ≠ ':') = name.toList

/-! ## Nested lines -/

/-- Only a line that is not indented and closes nothing opens a block. -/
structure OpensBlocks (opens : String → Bool) : Prop where
  indented : ∀ line, opens ("    " ++ line) = false
  closing : opens "\x7d" = false

section

variable {opens : String → Bool} {opening : String} {lines body rest : List String}

theorem takeWhile_append_cons {α : Type} {p : α → Bool} {body rest : List α} {stop : α}
    (within : ∀ x ∈ body, p x = true) (stops : p stop = false) :
    (body ++ stop :: rest).takeWhile p = body := by
  rw [List.takeWhile_append_of_pos within, List.takeWhile_cons_of_neg (by simp [stops]),
    List.append_nil]

theorem inside_nested : inside (body.map ("    " ++ ·) ++ "\x7d" :: rest) = body := by
  have notClosing (line : String) : "    " ++ line ≠ "\x7d" := by
    rw [Ne, ← String.toList_inj]
    simp
  have indented : (body.map ("    " ++ ·)).map unindent = body := by
    rw [List.map_map]
    refine List.map_id'' (fun line => ?_) body
    simp [unindent]
  rw [inside, takeWhile_append_cons (fun line mem => ?_) (by simp), indented]
  obtain ⟨own, _, rfl⟩ := List.mem_map.1 mem
  simpa using notClosing own

theorem insides_append (none : ∀ line ∈ lines, opens line = false) :
    insides opens (lines ++ rest) = insides opens rest := by
  induction lines with
  | nil => rfl
  | cons line lines ih =>
    rw [List.cons_append, insides, none line List.mem_cons_self,
      ih fun other mem => none other (List.mem_cons_of_mem _ mem)]
    rfl

theorem playedBack_append (none : ∀ line ∈ lines, opens line = false) :
    playedBack opens (lines ++ rest) = lines ++ playedBack opens rest := by
  induction lines with
  | nil => rfl
  | cons line lines ih =>
    rw [List.cons_append, playedBack, none line List.mem_cons_self,
      ih fun other mem => none other (List.mem_cons_of_mem _ mem)]
    rfl

namespace OpensBlocks

theorem inside_nested (h : OpensBlocks opens) :
    ∀ line ∈ body.map ("    " ++ ·) ++ ["\x7d"], opens line = false := by
  intro line mem
  rcases List.mem_append.1 mem with mem | mem
  · obtain ⟨own, _, rfl⟩ := List.mem_map.1 mem
    exact h.indented own
  · rw [List.mem_singleton.1 mem]
    exact h.closing

theorem insides_nested (h : OpensBlocks opens) :
    insides opens (nested opening body ++ rest) =
      (if opens opening then body else []) ++ insides opens rest := by
  have parted : nested opening body ++ rest =
      opening :: (body.map ("    " ++ ·) ++ "\x7d" :: rest) := by
    simp [nested]
  have others : insides opens (body.map ("    " ++ ·) ++ "\x7d" :: rest) = insides opens rest := by
    rw [List.append_cons]
    exact insides_append h.inside_nested
  rw [parted, insides, others, Nml.inside_nested]

theorem playedBack_nested (h : OpensBlocks opens) :
    playedBack opens (nested opening body ++ rest) =
      (if opens opening then body else [opening]) ++ (body.map ("    " ++ ·) ++ ["\x7d"]) ++
        playedBack opens rest := by
  have parted : nested opening body ++ rest =
      opening :: (body.map ("    " ++ ·) ++ "\x7d" :: rest) := by
    simp [nested]
  have others : playedBack opens (body.map ("    " ++ ·) ++ "\x7d" :: rest) =
      body.map ("    " ++ ·) ++ ["\x7d"] ++ playedBack opens rest := by
    rw [List.append_cons]
    exact playedBack_append h.inside_nested
  rw [parted, playedBack, others, Nml.inside_nested, ← List.append_assoc]

/-- Where the opening line is not meant, no line of the block is. -/
theorem of_mem_nested (h : OpensBlocks opens) (notOpening : opens opening = false) {line : String}
    (mem : line ∈ nested opening body) : opens line = false := by
  rcases List.mem_cons.1 mem with rfl | mem
  · exact notOpening
  · exact h.inside_nested line mem

end OpensBlocks

end

/-! ## Items that are read -/

/-- The item of a block, if it is one that the game reads when the economy parameter has the given
value. -/
def Block.itemRead? (feature id : String) (parameter : Option Nat) : Block → Option Item
  | .item i => if i.feature = feature ∧ i.id = id then some i else none
  | .inEconomy n i =>
    if parameter = some n.toNat ∧ i.feature = feature ∧ i.id = id then some i else none
  | _ => none

/-- The items that the game reads, in the order of the file. -/
def itemsRead (feature id : String) (parameter : Option Nat) (blocks : List Block) : List Item :=
  blocks.filterMap (Block.itemRead? feature id parameter)

section

variable {feature id : String} {parameter : Option Nat}

theorem mem_itemsRead {blocks : List Block} {i : Item}
    (mem : i ∈ itemsRead feature id parameter blocks) :
    ∃ block ∈ blocks, block.item? = some i ∧ i.feature = feature ∧ i.id = id := by
  obtain ⟨block, among, read⟩ := List.mem_filterMap.1 mem
  refine ⟨block, among, ?_⟩
  cases block with
  | item own =>
    obtain ⟨picked, same⟩ := Option.ite_none_right_eq_some.1 read
    cases same
    exact ⟨rfl, picked⟩
  | inEconomy n own =>
    obtain ⟨⟨_, picked⟩, same⟩ := Option.ite_none_right_eq_some.1 read
    cases same
    exact ⟨rfl, picked⟩
  | _ => cases read

/-- The lines that are read are those of the items that are. -/
theorem linesRead_eq (blocks : List Block) : linesRead feature id parameter blocks =
    (itemsRead feature id parameter blocks).flatMap (·.properties) := by
  have own (block : Block) : block.linesRead feature id parameter =
      (block.itemRead? feature id parameter).toList.flatMap (·.properties) := by
    cases block with
    | item i =>
      rw [Block.linesRead, Block.itemRead?]
      split <;> simp
    | inEconomy n i =>
      rw [Block.linesRead, Block.itemRead?]
      split <;> simp
    | _ => rfl
  rw [linesRead, itemsRead, List.filterMap_eq_flatMap_toList, List.flatMap_assoc]
  exact List.flatMap_congr fun block _ => own block

end

/-! ## Blocks -/

section

variable {feature id : String} {parameter : Option Nat}

theorem getLast?_append {front mark : String} {c : Char} (last : mark.toList.getLast? = some c) :
    (front ++ mark).toList.getLast? = some c := by
  rw [String.toList_append, List.getLast?_append, last, Option.some_or]

theorem beginsItem_iff {line : String} : beginsItem feature id line = true ↔
    line.toList.getLast? = some '\x7b' ∧
      (("item(" ++ feature ++ ", " ++ id ++ ", ").toList <+: line.toList ∨
        ("item(" ++ feature ++ ", " ++ id ++ ") ").toList <+: line.toList) :=
  decide_eq_true_iff

theorem beginsEconomy_iff {line : String} : beginsEconomy parameter line = true ↔
    ∃ n, parameter = some n ∧ line = "if (param_economy == " ++ toString n ++ ") \x7b" := by
  cases parameter <;> simp [beginsEconomy]

/-- A line that begins an item begins with an i and ends with a brace. -/
theorem beginsItem_eq_false {line : String}
    (other : line.toList.head? ≠ some 'i' ∨ line.toList.getLast? ≠ some '\x7b') :
    beginsItem feature id line = false := by
  rw [Bool.eq_false_iff]
  intro item
  obtain ⟨last, within⟩ := beginsItem_iff.1 item
  have first : line.toList.head? = some 'i' := by
    rcases within with ⟨more, same⟩ | ⟨more, same⟩ <;> simp [← same]
  exact other.elim (· first) (· last)

/-- So does a line that begins a block for an economy. -/
theorem beginsEconomy_eq_false {line : String}
    (other : line.toList.head? ≠ some 'i' ∨ line.toList.getLast? ≠ some '\x7b') :
    beginsEconomy parameter line = false := by
  rw [Bool.eq_false_iff]
  intro economy
  obtain ⟨n, _, rfl⟩ := beginsEconomy_iff.1 economy
  have last : ("if (param_economy == " ++ toString n ++ ") \x7b").toList.getLast? = some '\x7b' :=
    getLast?_append rfl
  exact other.elim (· (by simp)) (· last)

theorem opensBlocks_beginsItem : OpensBlocks (beginsItem feature id) where
  indented _ := beginsItem_eq_false (.inl (by simp))
  closing := beginsItem_eq_false (.inl (by decide))

theorem opensBlocks_beginsEconomy : OpensBlocks (beginsEconomy parameter) where
  indented _ := beginsEconomy_eq_false (.inl (by simp))
  closing := beginsEconomy_eq_false (.inl (by decide))

theorem opensBlocks_eq {opening : String} (notIndented : opening.toList.head? ≠ some ' ')
    (notClosing : opening ≠ "\x7d") : OpensBlocks (· = opening) where
  indented line := by
    rw [decide_eq_false_iff_not]
    rintro rfl
    exact notIndented (by simp)
  closing := decide_eq_false notClosing.symm

theorem opensBlocks_property : OpensBlocks (· = "property \x7b") :=
  opensBlocks_eq (by decide) (by decide)

/-- There is no comma and no bracket in the text, so that it can be told from what follows it. -/
def Plain (text : String) : Prop :=
  ∀ c ∈ text.toList, c ≠ ',' ∧ c ≠ ')'

instance (text : String) : Decidable (Plain text) :=
  List.decidableBAll (fun c => c ≠ ',' ∧ c ≠ ')') text.toList

/-- Up to the first mark there is just the plain text. -/
theorem Plain.takeWhile {text : String} (plain : Plain text) {mark : Char}
    (stops : mark = ',' ∨ mark = ')') {rest : List Char} :
    (text.toList ++ mark :: rest).takeWhile (fun c => c ≠ ',' ∧ c ≠ ')') = text.toList := by
  refine takeWhile_append_cons (fun c mem => decide_eq_true (plain c mem)) ?_
  rcases stops with rfl | rfl <;> rfl

/-- Items with plain ids are told apart by the lines that they begin with. -/
theorem beginsItem_opening_iff {i : Item} (plain : Plain i.id) (plain' : Plain id) :
    beginsItem i.feature id i.opening = true ↔ i.id = id := by
  have front (text : String) (mark : Char) (rest : List Char) :
      ("item(" ++ i.feature ++ ", " ++ text ++ (String.singleton mark ++ " ")).toList ++ rest =
        ("item(" ++ i.feature ++ ", ").toList ++ (text.toList ++ mark :: ' ' :: rest) := by simp
  obtain ⟨mark, stops, rest, opening⟩ : ∃ mark, (mark = ',' ∨ mark = ')') ∧ ∃ rest,
      ("item(" ++ i.feature ++ ", ").toList ++ (i.id.toList ++ mark :: ' ' :: rest) =
        i.opening.toList := by
    unfold Item.opening
    cases i.numericId with
    | none => exact ⟨')', .inr rfl, ['\x7b'], by simp⟩
    | some n => exact ⟨',', .inl rfl, (toString n ++ ") \x7b").toList, by simp⟩
  constructor
  · intro begins
    obtain ⟨mark', stops', rest', same⟩ : ∃ mark', (mark' = ',' ∨ mark' = ')') ∧ ∃ rest',
        id.toList ++ mark' :: ' ' :: rest' = i.id.toList ++ mark :: ' ' :: rest := by
      obtain ⟨_, ⟨rest', same⟩ | ⟨rest', same⟩⟩ := beginsItem_iff.1 begins
      · exact ⟨',', .inl rfl, rest', List.append_cancel_left
          ((front id ',' rest').symm.trans (same.trans opening.symm))⟩
      · exact ⟨')', .inr rfl, rest', List.append_cancel_left
          ((front id ')' rest').symm.trans (same.trans opening.symm))⟩
    have ids := congrArg (List.takeWhile fun c => c ≠ ',' ∧ c ≠ ')') same
    rw [plain'.takeWhile stops', plain.takeWhile stops] at ids
    exact (String.toList_inj.1 ids).symm
  · rintro rfl
    refine beginsItem_iff.2 ⟨getLast?_append rfl, ?_⟩
    rcases stops with rfl | rfl
    · exact .inl ⟨rest, (front i.id ',' rest).trans opening⟩
    · exact .inr ⟨rest, (front i.id ')' rest).trans opening⟩

theorem beginsEconomy_opening (i : Item) : beginsEconomy parameter i.opening = false := by
  rw [Bool.eq_false_iff]
  intro economy
  obtain ⟨n, _, same⟩ := beginsEconomy_iff.1 economy
  rw [← String.toList_inj] at same
  simp [Item.opening] at same

theorem beginsItem_economyHeader (n : UInt8) : beginsItem feature id (economyHeader n) = false := by
  rw [Bool.eq_false_iff]
  intro item
  obtain ⟨_, ⟨more, same⟩ | ⟨more, same⟩⟩ := beginsItem_iff.1 item <;>
    simp [economyHeader] at same

theorem beginsEconomy_economyHeader (n : UInt8) :
    beginsEconomy parameter (economyHeader n) = decide (parameter = some n.toNat) := by
  rw [Bool.eq_iff_iff, beginsEconomy_iff, decide_eq_true_iff]
  constructor
  · rintro ⟨m, rfl, same⟩
    have digits : toString n.toNat = toString m :=
      (String.append_right_inj _).1 ((String.append_left_inj _).1 same)
    exact congrArg some (digits_injective digits).symm
  · rintro rfl
    exact ⟨_, rfl, rfl⟩

/-- Nothing begins with the lines of a block without an item. -/
theorem Block.begins_of_mem_textLines {block : Block} (noItem : block.item? = none) {line : String}
    (mem : line ∈ block.textLines) :
    beginsItem feature id line = false ∧ beginsEconomy parameter line = false := by
  have outside {line : String}
      (other : line.toList.head? ≠ some 'i' ∨ line.toList.getLast? ≠ some '\x7b') :
      beginsItem feature id line = false ∧ beginsEconomy parameter line = false :=
    ⟨beginsItem_eq_false other, beginsEconomy_eq_false other⟩
  have nestedIn {opening : String} {body : List String} (mem : line ∈ nested opening body)
      (other : opening.toList.head? ≠ some 'i') :
      beginsItem feature id line = false ∧ beginsEconomy parameter line = false :=
    ⟨opensBlocks_beginsItem.of_mem_nested (beginsItem_eq_false (.inl other)) mem,
      opensBlocks_beginsEconomy.of_mem_nested (beginsEconomy_eq_false (.inl other)) mem⟩
  have closed (front : String) : (front ++ ")").toList.getLast? ≠ some '\x7b' := by
    rw [getLast?_append (c := ')') rfl]
    decide
  cases block with
  | comment remark =>
    rw [List.mem_singleton.1 mem]
    exact outside (.inl (by simp))
  | spriteset name sheet rects => exact nestedIn mem (by simp)
  | spritelayout stack => exact nestedIn mem (by simp)
  | switch s =>
    refine nestedIn mem ?_
    unfold Switch.opening
    simp
  | locationSwitch s =>
    rw [List.mem_singleton.1 mem]
    exact outside (.inr (closed _))
  | macroCall macroName argument =>
    rw [List.mem_singleton.1 mem]
    exact outside (.inr (closed _))
  | tilelayout name positions => exact nestedIn mem (by simp)
  | item i => cases noItem
  | inEconomy n i => cases noItem

/-- In the lines of a block, the ones inside the item are found, if it is read. -/
theorem Block.insides_textLines {block : Block} {rest : List String}
    (told : ∀ i, block.item? = some i →
      (beginsItem feature id i.opening = true ↔ i.feature = feature ∧ i.id = id)) :
    insides (beginsItem feature id)
        (playedBack (beginsEconomy parameter) (block.textLines ++ rest)) =
      (block.itemRead? feature id parameter).toList.flatMap Item.body ++
        insides (beginsItem feature id) (playedBack (beginsEconomy parameter) rest) := by
  have ofItem (i : Item) (told : beginsItem feature id i.opening = true ↔
      i.feature = feature ∧ i.id = id) (rest : List String) :
      insides (beginsItem feature id) (i.textLines ++ rest) =
        (if i.feature = feature ∧ i.id = id then some i else none).toList.flatMap Item.body ++
          insides (beginsItem feature id) rest := by
    rw [Item.textLines, opensBlocks_beginsItem.insides_nested]
    simp only [told]
    split <;> simp
  cases found : block.item? with
  | none =>
    have outside : ∀ line ∈ block.textLines,
        beginsItem feature id line = false ∧ beginsEconomy parameter line = false :=
      fun line => begins_of_mem_textLines found
    have nothing : block.itemRead? feature id parameter = none := by
      cases block with
      | item i => cases found
      | inEconomy n i => cases found
      | _ => rfl
    rw [playedBack_append fun line mem => (outside line mem).2,
      insides_append fun line mem => (outside line mem).1, nothing]
    rfl
  | some i =>
    cases block with
    | item own =>
      have kept : ∀ line ∈ own.textLines, beginsEconomy parameter line = false := fun line =>
        opensBlocks_beginsEconomy.of_mem_nested (beginsEconomy_opening own)
      rw [textLines, playedBack_append kept, ofItem own (told own rfl)]
      rfl
    | inEconomy n own =>
      have inner : ∀ line ∈ own.textLines.map ("    " ++ ·) ++ ["\x7d"],
          beginsItem feature id line = false := opensBlocks_beginsItem.inside_nested
      rw [textLines, opensBlocks_beginsEconomy.playedBack_nested, beginsEconomy_economyHeader,
        List.append_assoc, List.append_assoc, ← List.append_assoc (own.textLines.map _)]
      by_cases picked : parameter = some n.toNat
      · rw [if_pos (decide_eq_true picked), ofItem own (told own rfl), insides_append inner]
        simp [itemRead?, picked]
      · have outer : ∀ line ∈ [economyHeader n], beginsItem feature id line = false := by
          simpa using beginsItem_economyHeader n
        rw [if_neg (by simpa using picked), insides_append outer, insides_append inner]
        simp [itemRead?, picked]
    | _ => cases found

/-- Where no declaration has a line feed in it, the lines inside an item are those of the items that
are read. -/
theorem itemLines_render {blocks : List Block} (unbroken : ∀ block ∈ blocks, block.Unbroken)
    (told : ∀ block ∈ blocks, ∀ i, block.item? = some i →
      (beginsItem feature id i.opening = true ↔ i.feature = feature ∧ i.id = id)) :
    itemLines feature id parameter (render blocks) =
      (itemsRead feature id parameter blocks).flatMap Item.body := by
  have ofBlocks (rest : List String) : insides (beginsItem feature id)
      (playedBack (beginsEconomy parameter) (blocks.flatMap Block.textLines ++ rest)) =
        (itemsRead feature id parameter blocks).flatMap Item.body ++
          insides (beginsItem feature id) (playedBack (beginsEconomy parameter) rest) := by
    rw [itemsRead, List.filterMap_eq_flatMap_toList]
    clear unbroken
    induction blocks with
    | nil => rfl
    | cons block others ih =>
      rw [List.flatMap_cons, List.append_assoc,
        Block.insides_textLines (told block List.mem_cons_self),
        ih fun other mem => told other (List.mem_cons_of_mem _ mem), List.flatMap_cons,
        List.flatMap_append, List.append_assoc]
  have empty : beginsItem feature id "" = false ∧ beginsEconomy parameter "" = false :=
    ⟨beginsItem_eq_false (.inl (by decide)), beginsEconomy_eq_false (.inl (by decide))⟩
  rw [itemLines, splitAtFeeds_render unbroken, ofBlocks]
  simp [playedBack, insides, empty]

/-! ## Declarations -/

/-- Inside an item, the properties are found. -/
theorem Item.insides_body (i : Item) (rest : List String) :
    insides (· = "property \x7b") (i.body ++ rest) =
      i.properties.map (fun a => a.name ++ ": " ++ a.value.text ++ ";") ++
        insides (· = "property \x7b") rest := by
  rw [body, List.append_assoc, opensBlocks_property.insides_nested, if_pos (by decide)]
  cases i.callbacks with
  | none => rfl
  | some callbacks =>
    rw [opensBlocks_property.insides_nested, if_neg (by decide), List.nil_append]

/-- The text declares the properties that its blocks hold. -/
theorem declarations_render {blocks : List Block} (unbroken : ∀ block ∈ blocks, block.Unbroken)
    (told : ∀ block ∈ blocks, ∀ i, block.item? = some i →
      (beginsItem feature id i.opening = true ↔ i.feature = feature ∧ i.id = id)) :
    declarations feature id parameter (render blocks) =
      (Nml.linesRead feature id parameter blocks).map fun a =>
        a.name ++ ": " ++ a.value.text ++ ";" := by
  rw [declarations, itemLines_render unbroken told, linesRead_eq]
  induction itemsRead feature id parameter blocks with
  | nil => rfl
  | cons i others ih =>
    rw [List.flatMap_cons, i.insides_body, ih, List.flatMap_cons, List.map_append]

theorem takeWhile_colon {name : String} (noColon : ':' ∉ name.toList) (rest : List Char) :
    (name.toList ++ ':' :: rest).takeWhile (· ≠ ':') = name.toList := by
  refine takeWhile_append_cons (fun c mem => ?_) (by simp)
  simpa using fun same : c = ':' => noColon (same ▸ mem)

/-- What is before the colon of a declaration is the name. -/
theorem takeWhile_declaration {name : String} (noColon : ':' ∉ name.toList) (value : String) :
    (name ++ ": " ++ value ++ ";").toList.takeWhile (· ≠ ':') = name.toList := by
  have split : (name ++ ": " ++ value ++ ";").toList =
      name.toList ++ ':' :: (' ' :: value.toList ++ [';']) := by simp
  rw [split, takeWhile_colon noColon]

/-- The declaration in effect is that of the line in effect. -/
theorem declarationInEffect?_render {blocks : List Block}
    (unbroken : ∀ block ∈ blocks, block.Unbroken)
    (told : ∀ block ∈ blocks, ∀ i, block.item? = some i →
      (beginsItem feature id i.opening = true ↔ i.feature = feature ∧ i.id = id))
    (noColon : ∀ a ∈ Nml.linesRead feature id parameter blocks, ':' ∉ a.name.toList)
    (name : String) :
    declarationInEffect? feature id parameter (render blocks) name =
      (lineInEffect feature id parameter blocks name).map fun a =>
        a.name ++ ": " ++ a.value.text ++ ";" := by
  have named (lines : List Assignment) (noColon : ∀ a ∈ lines, ':' ∉ a.name.toList) :
      (lines.map fun a => a.name ++ ": " ++ a.value.text ++ ";").findRev?
          (fun line => line.toList.takeWhile (· ≠ ':') = name.toList) =
        (lastLine? name lines).map fun a => a.name ++ ": " ++ a.value.text ++ ";" := by
    rw [lastLine?, List.findRev?_eq_find?_reverse, List.findRev?_eq_find?_reverse,
      ← List.map_reverse, List.find?_map]
    refine congrArg _ (List.find?_congr fun a mem => decide_eq_decide.2 ?_)
    rw [takeWhile_declaration (noColon a (List.mem_reverse.1 mem)), String.toList_inj]
  rw [declarationInEffect?, declarations_render unbroken told, named _ noColon]
  rfl

end

end IndustrySet.Nml
