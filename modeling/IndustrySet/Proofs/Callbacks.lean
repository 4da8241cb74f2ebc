import IndustrySet.Proofs.IndustryItems
import IndustrySet.Proofs.Resolution
import IndustrySet.Proofs.WrittenSwitches

set_option autoImplicit false

/-! # Callbacks and the economy

A callback of an item has a target, which may be the switch that looks at the economy the player
picked. With that switch followed (`Target.under`), it is what the game gets to in an economy. An
item refers to the switches of its own feature, so switches are looked up within one
(`switchesNamed`). Of all that is written for an industry, only its own item and the switches for
its texts matter for its callbacks (`Industry.callbackTargets_blocks`). The lines of the item name
their targets (`writtenTargets_render`), and the lines of a switch where it leads. -/

namespace IndustrySet

namespace Nml

/-- Where a callback leads, if it is the one of the given name. -/
def Callback.target? (name : String) : Callback → Option Target
  | .named other target => if other = name then some target else none
  | .default _ => none

/-- Where the callbacks of a name lead. -/
def Item.callbackTargets (callback : String) (i : Item) : List Target :=
  (i.callbacks.getD []).filterMap (Callback.target? callback)

/-- Where the callbacks of a name lead that a block sets for an item, when the economy parameter has
the given value. -/
def Block.callbackTargets (feature id : String) (parameter : Nat) (callback : String) :
    Block → List Target
  | .item i => if i.feature = feature ∧ i.id = id then i.callbackTargets callback else []
  | .inEconomy n i =>
    if n.toNat = parameter ∧ i.feature = feature ∧ i.id = id then i.callbackTargets callback else []
  | _ => []

/-- Where the callbacks of a name lead that are set for an item. -/
def callbackTargets (feature id : String) (parameter : Nat) (callback : String)
    (blocks : List Block) : List Target :=
  blocks.flatMap (Block.callbackTargets feature id parameter callback)

/-- The switch in a block. -/
def Block.switch? : Block → Option Switch
  | .switch s => some s
  | _ => none

/-- The switches of a feature that have the given name. -/
def switchesNamed (feature name : String) (blocks : List Block) : List Switch :=
  (blocks.filterMap Block.switch?).filter fun s => s.feature = feature ∧ s.name = name

/-- A block that neither sets callbacks of items of a feature nor is a switch of it. -/
structure Block.Foreign (feature : String) (block : Block) : Prop where
  callbackTargets : ∀ id parameter callback,
    block.callbackTargets feature id parameter callback = []
  switch : ∀ s, block = .switch s → s.feature ≠ feature

/-- What a target comes to when the economy parameter is `p`: if it is the only switch of its name
and looks at that parameter, what it selects, and else itself. -/
def Target.under (feature : String) (blocks : List Block) (p : Nat) : Target → Target
  | .named name =>
    match switchesNamed feature name blocks with
    | [s] => if s.expression = .term economyParameter then s.select (.number p) else .named name
    | _ => .named name
  | other => other

/-! ## Blocks one after the other -/

section

variable {feature id callback name : String} {parameter : Nat}

@[simp]
theorem callbackTargets_cons (block : Block) (blocks : List Block) :
    callbackTargets feature id parameter callback (block :: blocks) =
      block.callbackTargets feature id parameter callback ++
        callbackTargets feature id parameter callback blocks := by
  simp [callbackTargets]

@[simp]
theorem callbackTargets_append (before after : List Block) :
    callbackTargets feature id parameter callback (before ++ after) =
      callbackTargets feature id parameter callback before ++
        callbackTargets feature id parameter callback after := by
  simp [callbackTargets]

theorem callbackTargets_of_foreign {blocks : List Block}
    (h : ∀ block ∈ blocks, block.Foreign feature) :
    callbackTargets feature id parameter callback blocks = [] :=
  List.flatMap_eq_nil_iff.2 fun block mem => (h block mem).callbackTargets id parameter callback

@[simp]
theorem callbackTargets_switches (switches : List Switch) :
    callbackTargets feature id parameter callback (switches.map .switch) = [] := by
  simp [callbackTargets, Block.callbackTargets]

@[simp]
theorem switchesNamed_append (before after : List Block) :
    switchesNamed feature name (before ++ after) =
      switchesNamed feature name before ++ switchesNamed feature name after := by
  simp [switchesNamed]

theorem switchesNamed_item (i : Item) (blocks : List Block) :
    switchesNamed feature name (.item i :: blocks) = switchesNamed feature name blocks := rfl

theorem switchesNamed_switches (switches : List Switch) :
    switchesNamed feature name (switches.map .switch) =
      switches.filter fun s => s.feature = feature ∧ s.name = name := by
  rw [switchesNamed, List.filterMap_map]
  congr 1
  exact List.filterMap_some

theorem switchesNamed_of_foreign {blocks : List Block}
    (h : ∀ block ∈ blocks, block.Foreign feature) : switchesNamed feature name blocks = [] := by
  rw [switchesNamed, List.filter_eq_nil_iff]
  intro s hs named
  obtain ⟨block, mem, found⟩ := List.mem_filterMap.1 hs
  cases block with
  | switch other =>
    cases found
    exact (h _ mem).switch s rfl (of_decide_eq_true named).1
  | _ => cases found

end

/-! ## The text of callbacks -/

section

variable {feature id callback : String} {parameter : Nat}

/-- The callbacks that are read are those of the items that are. -/
theorem callbackTargets_eq (blocks : List Block) :
    callbackTargets feature id parameter callback blocks =
      (itemsRead feature id (some parameter) blocks).flatMap (Item.callbackTargets callback) := by
  have own (block : Block) : block.callbackTargets feature id parameter callback =
      (block.itemRead? feature id (some parameter)).toList.flatMap
        (Item.callbackTargets callback) := by
    cases block with
    | item i =>
      rw [Block.callbackTargets, Block.itemRead?]
      split <;> simp
    | inEconomy n i =>
      simp only [Block.callbackTargets, Block.itemRead?, Option.some.injEq,
        eq_comm (a := parameter)]
      split <;> simp
    | _ => rfl
  rw [callbackTargets, itemsRead, List.filterMap_eq_flatMap_toList, List.flatMap_assoc]
  exact List.flatMap_congr fun block _ => own block

/-- The callback has a name, without a colon in it. -/
def Callback.Named (c : Callback) : Prop :=
  ∃ name target, c = .named name target ∧ ':' ∉ name.toList

/-- Where no declaration has a line feed in it, the text tells where the callbacks of an item lead,
if they are all set by name. -/
theorem writtenTargets_render {blocks : List Block} (unbroken : ∀ block ∈ blocks, block.Unbroken)
    (told : ∀ block ∈ blocks, ∀ i, block.item? = some i →
      (beginsItem feature id i.opening = true ↔ i.feature = feature ∧ i.id = id))
    (named : ∀ i ∈ itemsRead feature id (some parameter) blocks, ∀ c ∈ i.callbacks.getD [], c.Named)
    (noColon : ':' ∉ callback.toList) :
    writtenTargets feature id (some parameter) callback (render blocks) =
      (callbackTargets feature id parameter callback blocks).map Target.text := by
  have each (c : Callback) (h : c.Named) :
      ((c.line.toList.dropPrefix? (callback ++ ": ").toList).map fun target =>
        String.ofList target.dropLast) = (c.target? callback).map Target.text := by
    obtain ⟨name, target, rfl, noColon'⟩ := h
    rw [Callback.line, dropPrefix?_branch noColon noColon', Callback.target?]
    split <;> simp
  rw [writtenTargets, itemLines_render unbroken told, callbackTargets_eq]
  generalize itemsRead feature id (some parameter) blocks = items at named
  induction items with
  | nil => rfl
  | cons i others ih =>
    have own : ((i.callbacks.getD []).map Callback.line).filterMap (fun line =>
        (line.toList.dropPrefix? (callback ++ ": ").toList).map fun target =>
          String.ofList target.dropLast) = (i.callbackTargets callback).map Target.text := by
      rw [Item.callbackTargets, List.filterMap_map, List.map_filterMap]
      exact List.filterMap_congr fun c mem => each c (named i List.mem_cons_self c mem)
    rw [List.flatMap_cons, i.insides_callbacks, List.filterMap_append,
      ih fun other mem => named other (List.mem_cons_of_mem _ mem), own, List.flatMap_cons,
      List.map_append]

end

/-! ## The switch on the economy -/

section

variable {feature name : String} {blocks : List Block} {branches : List (UInt8 × Target)}
  {text : String}

theorem Switch.mem_onEconomy {default : Target} {s : Switch}
    (mem : s ∈ (Switch.onEconomy feature name branches default).1) :
    s.feature = feature ∧ s.name = name := by
  unfold Switch.onEconomy at mem
  split at mem
  · cases mem
  · cases List.mem_singleton.1 mem
    exact ⟨rfl, rfl⟩

/-- With or without a switch, one gets to the first branch for the economy, or to the default. -/
theorem Target.under_onEconomy
    (defined : switchesNamed feature name blocks =
      (Switch.onEconomy feature name branches (.returned text)).1) (p : Nat) :
    (Switch.onEconomy feature name branches (.returned text)).2.under feature blocks p =
      ((branches.find? fun branch => branch.1.toNat = p).map (·.2)).getD (.returned text) := by
  unfold Switch.onEconomy at defined ⊢
  split
  · next empty =>
    rw [List.isEmpty_iff.1 empty]
    rfl
  · next nonempty =>
    rw [if_neg nonempty] at defined
    simp only [Target.under, defined, if_pos]
    rw [Switch.select_eq rfl]
    simp only [Case.number.injEq]

/-- The text tells of a callback of an item where it leads in each economy: the line of the callback
has the target, and if that is a switch, the text of the switch has a branch for the economy or a
default that leads there. -/
structure CallbackWritten (feature id callback : String) (blocks : List Block) (target : Target) :
    Prop where
  line : (∀ block ∈ blocks, block.Unbroken) → ∀ p,
    writtenTargets feature id (some p) callback (render blocks) = [target.text]
  switch : ∀ name, target = .named name → ∃ s, switchesNamed feature name blocks = [s] ∧
    (∃ before after, render blocks = before ++ s.text ++ after) ∧
    ((∀ line ∈ s.textLines, '\n' ∉ line.toList) → ∀ p : Nat,
      selected? (toString p) s.text = some (target.under feature blocks p).text)

theorem mem_of_mem_switchesNamed {s : Switch} (mem : s ∈ switchesNamed feature name blocks) :
    .switch s ∈ blocks := by
  obtain ⟨block, among, found⟩ := List.mem_filterMap.1 (List.mem_filter.1 mem).1
  cases block with
  | switch own =>
    cases found
    exact among
  | _ => cases found

/-- The switch on the economy, if there is one, is written with where it leads in each. -/
theorem Switch.written_onEconomy
    (defined : switchesNamed feature name blocks =
      (Switch.onEconomy feature name branches (.returned text)).1) :
    ∀ other, (Switch.onEconomy feature name branches (.returned text)).2 = .named other →
      ∃ s, switchesNamed feature other blocks = [s] ∧
        (∃ before after, render blocks = before ++ s.text ++ after) ∧
        ((∀ line ∈ s.textLines, '\n' ∉ line.toList) → ∀ p : Nat,
          selected? (toString p) s.text =
            some ((Switch.onEconomy feature name branches (.returned text)).2.under feature blocks
              p).text) := by
  intro other leads
  rw [leads]
  unfold Switch.onEconomy at defined leads
  split at leads
  · cases leads
  · next nonempty =>
    cases leads
    rw [if_neg nonempty] at defined
    have written {s : Switch} (only : switchesNamed feature name blocks = [s]) :
        ∃ before after, render blocks = before ++ s.text ++ after :=
      exists_render_of_switch (mem_of_mem_switchesNamed (by
        rw [only]
        exact List.mem_singleton_self s))
    refine ⟨_, defined, written defined, fun unbroken p => ?_⟩
    have numbers := Switch.tells_number unbroken (fun branch mem => by
      obtain ⟨own, _, rfl⟩ := List.mem_map.1 mem
      exact ⟨_, rfl⟩) p
    have digits : toString p = (Case.number p).text := rfl
    simp only [Target.under, defined, if_pos]
    rw [digits, Switch.selected?_text numbers]

end

end Nml

/-! ## The callbacks of an industry -/

namespace Industry

variable {industry : Industry} {economies : Economies} {table : NumberTable}
  {blocks : List Nml.Block}

theorem foreign_graphicsBlocks {graphics : List Nml.Block}
    (h : industry.graphicsBlocks = .ok graphics) :
    ∀ block ∈ graphics, block.Foreign Nml.featIndustries := by
  intro block mem
  rcases mem_graphicsBlocks h mem with ⟨_, _, _, rfl⟩ | ⟨_, rfl⟩ | ⟨s, ofTile, rfl⟩
  · exact ⟨fun _ _ _ => rfl, nofun⟩
  · exact ⟨fun _ _ _ => rfl, nofun⟩
  · refine ⟨fun _ _ _ => rfl, fun other same => ?_⟩
    cases same
    rw [ofTile.feature]
    decide

theorem foreign_tileBlocks {tile : Tile} {part : List Nml.Block}
    (h : tile.blocks industry economies = .ok part) :
    ∀ block ∈ part, block.Foreign Nml.featIndustries := by
  intro block mem
  rcases Tile.mem_blocks h mem with ⟨_, rfl⟩ | ⟨_, rfl⟩ | ⟨_, _, rfl⟩ | ⟨i, feature, rfl | ⟨n, rfl⟩⟩
  · exact ⟨fun _ _ _ => rfl, nofun⟩
  · exact ⟨fun _ _ _ => rfl, nofun⟩
  · exact ⟨fun _ _ _ => rfl, nofun⟩
  · exact ⟨by simp [Nml.Block.callbackTargets, feature, Nml.featIndustryTiles_ne], nofun⟩
  · exact ⟨by simp [Nml.Block.callbackTargets, feature, Nml.featIndustryTiles_ne], nofun⟩

/-- What is written for an industry around the switches for its texts and its own item has nothing
to do with the callbacks of the industry. -/
theorem blocks_eq_texts (h : industry.blocks economies table = .ok blocks) :
    ∃ before chain fund window base after, industry.fundSwitch economies = .ok fund ∧
      industry.windowSwitches economies = .ok window ∧
      (∀ block ∈ before ++ after, block.Foreign Nml.featIndustries) ∧
      blocks = before ++ (fund.1 ++ (window.map (·.1)).getD []).map .switch ++
        .item (industry.item base (some (callbacks chain fund.2 (window.map (·.2))))) :: after := by
  obtain ⟨graphics, tiles, chain, fund, window, base, perEconomy, hgraphics, htiles, _, hfund,
    hwindow, _, hperEconomy, rfl⟩ := blocks_eq_ok h
  refine ⟨.comment ("industry " ++ industry.id ++ " (" ++ industry.kind.template ++ ")") ::
    graphics ++ tiles.flatten ++ industry.graphics.layouts.map tilelayout ++
    chain.switches.map .locationSwitch, chain, fund, window, base, perEconomy.flatten, hfund,
    hwindow, fun block mem => ?_, by simp⟩
  simp only [List.cons_append, List.append_assoc, List.mem_cons, List.mem_append] at mem
  rcases mem with rfl | mem | mem | mem | mem | mem
  · exact ⟨fun _ _ _ => rfl, nofun⟩
  · exact foreign_graphicsBlocks hgraphics block mem
  · obtain ⟨part, hpart, mem⟩ := List.mem_flatten.1 mem
    obtain ⟨tile, _, htile⟩ := exists_of_mem_mapM htiles hpart
    exact foreign_tileBlocks htile block mem
  · obtain ⟨layout, _, rfl⟩ := List.mem_map.1 mem
    exact ⟨fun _ _ _ => rfl, nofun⟩
  · obtain ⟨s, _, rfl⟩ := List.mem_map.1 mem
    exact ⟨fun _ _ _ => rfl, nofun⟩
  · obtain ⟨economy, _, properties, _, rfl⟩ := mem_perEconomy hperEconomy mem
    exact ⟨by simp [Nml.Block.callbackTargets, item, Nml.Item.callbackTargets], nofun⟩

/-- The callbacks of an industry are set by name. -/
theorem named_callbacks (h : industry.blocks economies table = .ok blocks)
    (parameter : Option Nat) :
    ∀ i ∈ Nml.itemsRead Nml.featIndustries industry.id parameter blocks,
      ∀ c ∈ i.callbacks.getD [], c.Named := by
  intro i read c hc
  obtain ⟨block, mem, holds, feature, _⟩ := Nml.mem_itemsRead read
  rcases item_of_mem_blocks h mem holds with
    ⟨_, _, _, _, _, rfl, _⟩ | ⟨_, set, rfl, none | ⟨chain, fund, window, set⟩⟩
  · exact absurd feature Nml.featIndustryTiles_ne
  · simp [item, none] at hc
  · simp only [item, set, Option.getD_some, callbacks, List.mem_append, List.mem_cons,
      List.not_mem_nil, or_false] at hc
    rcases hc with (rfl | rfl) | hc
    · exact ⟨_, _, rfl, by decide⟩
    · exact ⟨_, _, rfl, by decide⟩
    · cases window with
      | none => cases hc
      | some target =>
        cases List.mem_singleton.1 hc
        exact ⟨_, _, rfl, by decide⟩

/-- Where no declaration has a line feed in it, the text for an industry tells where its callbacks
lead. -/
theorem writtenTargets_blocks (h : industry.blocks economies table = .ok blocks)
    (unbroken : ∀ block ∈ blocks, block.Unbroken) (parameter : Nat) {callback : String}
    (noColon : ':' ∉ callback.toList) :
    Nml.writtenTargets Nml.featIndustries industry.id (some parameter) callback
        (Nml.render blocks) =
      (Nml.callbackTargets Nml.featIndustries industry.id parameter callback blocks).map
        Nml.Target.text :=
  Nml.writtenTargets_render unbroken
    (fun _ mem _ holds => beginsItem_iff_of_mem_blocks h mem holds)
    (named_callbacks h (some parameter)) noColon

/-- The callbacks of an industry are those of its own item, and its switches are those for its
texts. -/
theorem callbackTargets_blocks (h : industry.blocks economies table = .ok blocks) :
    ∃ chain fund window, industry.fundSwitch economies = .ok fund ∧
      industry.windowSwitches economies = .ok window ∧
      (∀ p callback, Nml.callbackTargets Nml.featIndustries industry.id p callback blocks =
        (callbacks chain fund.2 (window.map (·.2))).filterMap (Nml.Callback.target? callback)) ∧
      ∀ name, Nml.switchesNamed Nml.featIndustries name blocks =
        (fund.1 ++ (window.map (·.1)).getD []).filter fun s =>
          s.feature = Nml.featIndustries ∧ s.name = name := by
  obtain ⟨before, chain, fund, window, base, after, hfund, hwindow, foreign, rfl⟩ :=
    blocks_eq_texts h
  have foreignBefore : ∀ block ∈ before, block.Foreign Nml.featIndustries :=
    fun block mem => foreign block (List.mem_append_left _ mem)
  have foreignAfter : ∀ block ∈ after, block.Foreign Nml.featIndustries :=
    fun block mem => foreign block (List.mem_append_right _ mem)
  refine ⟨chain, fund, window, hfund, hwindow, fun p callback => ?_, fun name => ?_⟩
  · simp [Nml.callbackTargets_of_foreign foreignBefore, Nml.callbackTargets_of_foreign foreignAfter,
      Nml.Block.callbackTargets, item, Nml.Item.callbackTargets]
  · rw [Nml.switchesNamed_append, Nml.switchesNamed_append, Nml.switchesNamed_item,
      Nml.switchesNamed_of_foreign foreignBefore, Nml.switchesNamed_of_foreign foreignAfter,
      Nml.switchesNamed_switches, List.append_nil, List.nil_append]

end Industry

end IndustrySet
