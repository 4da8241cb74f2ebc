import IndustrySet.Proofs.GraphicsBlocks

set_option autoImplicit false

/-! # Where a name leads

The name of a switch stands for whatever the switch selects, until a name comes up that belongs to
no switch (`EndsAt`). A switch selects by the value of its expression, so where a name leads depends
on how expressions are read; once that is fixed, it leads to one place only (`EndsAt.unique`). -/

namespace IndustrySet.Nml

/-- The switch in a block, if it is the one of this name. -/
def Block.switchNamed? (name : String) : Block → Option Switch
  | .switch s => if s.name = name then some s else none
  | _ => none

/-- The switch of a name. -/
def switchNamed? (blocks : List Block) (name : String) : Option Switch :=
  blocks.findSome? (Block.switchNamed? name)

/-- The values that expressions have, as far as they are known. -/
abbrev Reading := Switch → Option Case

/-- Following switches from a name, one ends at a final name, which belongs to no switch. -/
inductive EndsAt (blocks : List Block) (read : Reading) : String → String → Prop
  | arrived {name : String} (last : switchNamed? blocks name = none) : EndsAt blocks read name name
  | follow {name next final : String} {s : Switch} {value : Case}
      (found : switchNamed? blocks name = some s) (known : read s = some value)
      (selects : s.select value = .named next) (rest : EndsAt blocks read next final) :
      EndsAt blocks read name final

/-- Following switches from a name, one ends at a spritelayout. -/
def DrawnAs (blocks : List Block) (read : Reading) (name final : String) : Prop :=
  EndsAt blocks read name final ∧ ∃ stack, Block.spritelayout stack ∈ blocks ∧ stack.name = final

/-- There is one end. -/
theorem EndsAt.unique {blocks : List Block} {read : Reading} {name first second : String}
    (h : EndsAt blocks read name first) (h' : EndsAt blocks read name second) : first = second := by
  induction h with
  | arrived last =>
    cases h' with
    | arrived => rfl
    | follow found => cases last.symm.trans found
  | follow found known selects _ ih =>
    cases h' with
    | arrived last => cases last.symm.trans found
    | follow found' known' selects' rest' =>
      cases found.symm.trans found'
      cases known.symm.trans known'
      cases selects.symm.trans selects'
      exact ih rest'

/-- Where a switch leads whose branches are made from a list. -/
theorem Switch.select_eq {α : Type} {s : Switch} {as : List α} {case : α → Case}
    {target : α → Target} (made : s.branches = as.map fun a => (case a, target a)) (value : Case) :
    s.select value = ((as.find? fun a => case a = value).map target).getD s.default := by
  rw [select, made, List.find?_map]
  simp only [Function.comp_def]
  cases as.find? fun a => case a = value <;> rfl

/-! ## Distinct names -/

theorem mem_graphicsNames {blocks : List Block} {block : Block} {name : String}
    (mem : block ∈ blocks) (named : block.graphicsName? = some name) :
    name ∈ graphicsNames blocks :=
  List.mem_filterMap.2 ⟨block, mem, named⟩

/-- A name that is not given to anything is no switch's. -/
theorem switchNamed?_eq_none {blocks : List Block} {name : String}
    (h : name ∉ graphicsNames blocks) : switchNamed? blocks name = none := by
  refine List.findSome?_eq_none_iff.2 fun block mem => ?_
  cases block with
  | switch s =>
    have other : s.name ≠ name := fun same => h (same ▸ mem_graphicsNames mem rfl)
    simp [Block.switchNamed?, other]
  | _ => rfl

section

variable {blocks : List Block}

/-- Where names are distinct, two blocks with the same name are the same. -/
theorem eq_of_graphicsName? (distinct : (graphicsNames blocks).Nodup) {a b : Block} {name : String}
    (ha : a ∈ blocks) (hb : b ∈ blocks) (hname : a.graphicsName? = some name)
    (hname' : b.graphicsName? = some name) : a = b := by
  -- The first block is one of the two, both or none; it shares its name with no later one.
  induction blocks with
  | nil => simp at ha
  | cons block rest ih =>
    have distinctRest : (graphicsNames rest).Nodup := by
      refine distinct.sublist ?_
      exact (List.sublist_cons_self block rest).filterMap _
    have new : ∀ other ∈ rest, other.graphicsName? = some name →
        block.graphicsName? ≠ some name := by
      intro other mem hother hblock
      rw [graphicsNames, List.filterMap_cons_some hblock] at distinct
      exact (List.nodup_cons.1 distinct).1 (mem_graphicsNames mem hother)
    rcases List.mem_cons.1 ha with rfl | ha' <;> rcases List.mem_cons.1 hb with rfl | hb'
    · rfl
    · exact absurd hname (new b hb' hname')
    · exact absurd hname' (new a ha' hname)
    · exact ih distinctRest ha' hb'

/-- Where names are distinct, a switch is found by its name. -/
theorem switchNamed?_of_switch (distinct : (graphicsNames blocks).Nodup) {s : Switch}
    (mem : .switch s ∈ blocks) : switchNamed? blocks s.name = some s := by
  cases found : switchNamed? blocks s.name with
  | none =>
    have := List.findSome?_eq_none_iff.1 found _ mem
    simp [Block.switchNamed?] at this
  | some other =>
    obtain ⟨block, hblock, hother⟩ := List.exists_of_findSome?_eq_some found
    cases block with
    | switch t =>
      simp only [Block.switchNamed?, Option.ite_none_right_eq_some, Option.some.injEq] at hother
      obtain ⟨same, rfl⟩ := hother
      have : Block.switch t = .switch s :=
        eq_of_graphicsName? distinct hblock mem (congrArg some same) rfl
      rw [Block.switch.inj this]
    | _ => cases hother

/-- Where names are distinct, there is no switch with the name of a spritelayout. -/
theorem switchNamed?_of_spritelayout (distinct : (graphicsNames blocks).Nodup) {stack : SpriteStack}
    (mem : .spritelayout stack ∈ blocks) : switchNamed? blocks stack.name = none := by
  refine List.findSome?_eq_none_iff.2 fun block hblock => ?_
  cases block with
  | switch s =>
    have other : s.name ≠ stack.name := by
      intro same
      cases eq_of_graphicsName? distinct hblock mem (congrArg some same) rfl
    simp [Block.switchNamed?, other]
  | _ => rfl

variable {read : Reading} {name next final : String} {s : Switch} {value : Case}

/-- A spritelayout is an end. -/
theorem drawnAs_spritelayout (distinct : (graphicsNames blocks).Nodup) {stack : SpriteStack}
    (mem : .spritelayout stack ∈ blocks) : DrawnAs blocks read stack.name stack.name :=
  ⟨.arrived (switchNamed?_of_spritelayout distinct mem), stack, mem, rfl⟩

/-- A switch leads where the name that it selects leads. -/
theorem EndsAt.switch (distinct : (graphicsNames blocks).Nodup) (mem : .switch s ∈ blocks)
    (known : read s = some value) (selects : s.select value = .named next)
    (rest : EndsAt blocks read next final) : EndsAt blocks read s.name final :=
  .follow (switchNamed?_of_switch distinct mem) known selects rest

@[inherit_doc EndsAt.switch]
theorem DrawnAs.switch (distinct : (graphicsNames blocks).Nodup) (mem : .switch s ∈ blocks)
    (known : read s = some value) (selects : s.select value = .named next)
    (rest : DrawnAs blocks read next final) : DrawnAs blocks read s.name final :=
  ⟨rest.1.switch distinct mem known selects, rest.2⟩

end

end IndustrySet.Nml
