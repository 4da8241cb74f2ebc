import IndustrySet.Proofs.IndustryItems
import IndustrySet.Proofs.LocationWalk
import IndustrySet.Proofs.SingleIndustry
import IndustrySet.Proofs.WrittenNumbers
import Mathlib.Data.List.Perm.Basic

set_option autoImplicit false

/-! # Numbers in location checks

A location check that refers to an industry prints its number, which stands in another file than
the check. Where all industries of a registry are written, the lines of an industry's location chain
that look for one are those for what its requirements refer to. The number is read in the line; it
is the one that the industry referred to has in the header of its own item, and no other industry
has (`Registry.numbers_generate`). -/

namespace IndustrySet

/-! ## What an industry refers to -/

/-- A requirement of an industry that is about an industry. -/
inductive SiteReference
  | cluster (c : ClusterRequirement)
  | sameType (distance : UInt32)
  | incompatible (id : IndustryId) (distance : UInt32)

namespace SiteReference

/-- The industry that is referred to, by the industry with the given id. -/
def target (own : IndustryId) : SiteReference → IndustryId
  | .cluster c => c.industry
  | .sameType _ => own
  | .incompatible id _ => id

/-- The check for the requirement, if the industry referred to has this number. -/
def check (number : UInt16) : SiteReference → SiteCheck
  | .cluster c => .requireCluster number c.minDistance c.maxDistance c.div c.mult
  | .sameType distance | .incompatible _ distance => .incompatible number distance

end SiteReference

/-- The requirements that are about an industry. -/
def SiteRequirements.siteReferences (r : SiteRequirements) : List SiteReference :=
  r.requireCluster.toList.map .cluster ++ r.sameTypeDistance.toList.map .sameType ++
    r.incompatible.map fun entry => .incompatible entry.1 entry.2

/-! ## Lines and switches -/

/-- The number of the industry that a line of a location chain looks for, if its macro is one of the
two that look for one. It is the argument after the name of the switch, which consists of the stem
of the chain and digits. -/
def printedNumber? (stem line : String) : Option String :=
  let rest? (macroName : String) := line.toList.dropPrefix? (macroName ++ "(" ++ stem).toList
  ((rest? "CHECK_NEARBY_CLUSTER").or (rest? "CHECK_INCOMPATIBLE")).bind fun rest =>
    (rest.splitOn ',')[1]?.map fun argument => String.ofList (argument.drop 1)

/-- The number of the industry that a location switch looks for, if it looks for one. -/
def LocationSwitch.industryNumber? (s : LocationSwitch) : Option String :=
  if s.macroName = "CHECK_NEARBY_CLUSTER" ∨ s.macroName = "CHECK_INCOMPATIBLE" then s.before.head?
  else none

namespace Nml

/-- The location switch in a block, if it looks for an industry. -/
def Block.industrySwitch? : Block → Option LocationSwitch
  | .locationSwitch s => if s.industryNumber?.isSome then some s else none
  | _ => none

/-- The item of an industry in a block, in every economy or in one. -/
def Block.industryItem? (block : Block) : Option Item :=
  block.item?.filter (·.feature = featIndustries)

/-- The number in the header of an item. -/
def Item.number? (i : Item) : Option String :=
  i.numericId.map toString

/-- The line that the item of an industry begins with. -/
def industryHeader (id number : String) : String :=
  "item(FEAT_INDUSTRIES, " ++ id ++ ", " ++ number ++ ") \x7b\n"

theorem Item.header_eq_industryHeader {i : Item} {number : String}
    (ofIndustry : i.feature = featIndustries) (numbered : i.number? = some number) :
    i.header = industryHeader i.id number := by
  obtain ⟨n, hn, rfl⟩ := Option.map_eq_some_iff.1 numbered
  unfold industryHeader
  simp only [header, ofIndustry, featIndustries, hn, String.append_assoc]
  rfl

/-- Where an item is written, its header is. -/
theorem Item.exists_render_header {i : Item} {blocks : List Block} (mem : .item i ∈ blocks) :
    ∃ before after, render blocks = before ++ i.header ++ after := by
  obtain ⟨before, after, text⟩ := exists_render_of_mem mem
  have inItem : ∃ rest, (Block.item i).text = i.header ++ rest := by
    show ∃ rest, i.text = _
    unfold Item.text
    simp only [String.append_assoc]
    exact ⟨_, rfl⟩
  obtain ⟨rest, itemText⟩ := inItem
  exact ⟨before, rest ++ after, by simp only [text, itemText, String.append_assoc]⟩

end Nml

namespace Fragment

/-- The location switches of a fragment that look for an industry, in the order they are written. -/
def industrySwitches (fragment : Fragment) : List LocationSwitch :=
  fragment.blocks.filterMap Nml.Block.industrySwitch?

/-- The items of industries in a fragment. -/
def industryItems (fragment : Fragment) : List Nml.Item :=
  fragment.blocks.filterMap Nml.Block.industryItem?

/-- The fragment defines an industry, under this id and number only. -/
structure IsHeaded (fragment : Fragment) (id : IndustryId) (number : String) : Prop where
  nonempty : fragment.industryItems ≠ []
  items : ∀ i ∈ fragment.industryItems,
    i.number? = some number ∧ i.header = Nml.industryHeader id number
  /-- The header stands in the text. -/
  written : ∃ before after, fragment.text = before ++ Nml.industryHeader id number ++ after

end Fragment

/-! ## Checks -/

/-- The number of the industry that a check looks for, if it looks for one. -/
def SiteCheck.industryNumber? : SiteCheck → Option UInt16
  | .requireCluster number _ _ _ _ | .incompatible number _ => some number
  | _ => none

theorem SiteCheck.industryNumber?_locationSwitch (check : SiteCheck) (entry : String)
    (outcome : Outcome) : (check.locationSwitch entry outcome).industryNumber? =
      check.industryNumber?.map fun number => toString number.toNat := by
  cases check <;> rfl

/-- Checks of tiles look for no industry. -/
theorem TileCheck.industryNumber?_locationSwitch (check : TileCheck) (entry : String)
    (outcome : Outcome) : (check.locationSwitch entry outcome).industryNumber? = none := by
  cases check <;> rfl

theorem SiteReference.industryNumber?_check (ref : SiteReference) (number : UInt16) :
    (ref.check number).industryNumber? = some number := by
  cases ref <;> rfl

/-! ## Printed numbers -/

section

variable {stem digits number rest : String}

/-- What stands behind the first comma, up to the second one, is the number. -/
theorem splitOn_arguments (noComma : ',' ∉ digits.toList) (noComma' : ',' ∉ number.toList) :
    ((digits ++ ", " ++ number ++ ", " ++ rest).toList.splitOn ',')[1]? =
      some (' ' :: number.toList) := by
  have split : (digits ++ ", " ++ number ++ ", " ++ rest).toList =
      digits.toList ++ ',' :: ((' ' :: number.toList) ++ ',' :: ' ' :: rest.toList) := by
    simp
  have noComma'' : ',' ∉ ' ' :: number.toList := by simpa using noComma'
  rw [split, List.splitOn_append_cons_self_of_not_mem noComma,
    List.splitOn_append_cons_self_of_not_mem noComma'']
  rfl

theorem printedNumber?_call {macroName : String}
    (looks : macroName = "CHECK_NEARBY_CLUSTER" ∨ macroName = "CHECK_INCOMPATIBLE")
    (noComma : ',' ∉ digits.toList) (noComma' : ',' ∉ number.toList) :
    printedNumber? stem (macroName ++ "(" ++ stem ++ (digits ++ ", " ++ number ++ ", " ++ rest)) =
      some number := by
  have read : (some (digits ++ ", " ++ number ++ ", " ++ rest).toList).bind (fun rest =>
      (rest.splitOn ',')[1]?.map fun argument => String.ofList (argument.drop 1)) =
        some number := by
    rw [Option.bind_some, splitOn_arguments noComma noComma']
    simp
  rcases looks with rfl | rfl
  · simp only [printedNumber?, Text.dropPrefix?_append, Option.some_or]
    exact read
  · have noCluster : ("CHECK_INCOMPATIBLE" ++ "(" ++ stem ++
        (digits ++ ", " ++ number ++ ", " ++ rest)).toList.dropPrefix?
          ("CHECK_NEARBY_CLUSTER" ++ "(" ++ stem).toList = none :=
      Text.dropPrefix?_eq_none fun rest => by simp
    simp only [printedNumber?, Text.dropPrefix?_append, noCluster, Option.none_or]
    exact read

theorem printedNumber?_eq_none {line : String}
    (noCluster : ∀ rest : List Char,
      line.toList ≠ ("CHECK_NEARBY_CLUSTER" ++ "(" ++ stem).toList ++ rest)
    (noOther : ∀ rest : List Char,
      line.toList ≠ ("CHECK_INCOMPATIBLE" ++ "(" ++ stem).toList ++ rest) :
    printedNumber? stem line = none := by
  simp only [printedNumber?, Text.dropPrefix?_eq_none noCluster, Text.dropPrefix?_eq_none noOther]
  rfl

end

/-- A line whose name is followed by more than one parameter. -/
theorem exists_ruleLine_eq {C : Type} [LocationCheck C] (rule : Rule C) {first second : String}
    {parameters : List String}
    (before : rule.locationSwitch.before = first :: second :: parameters) : ∃ rest,
      Chain.ruleLine rule = rule.locationSwitch.macroName ++ "(" ++ rule.entry ++ ", " ++ first ++
        ", " ++ rest := by
  have regroup (a b c d e : String) : ∃ rest,
      a ++ "(" ++ b ++ Chain.furtherArguments (first :: second :: parameters) ++ c ++ d ++ e ++
        ")" = a ++ "(" ++ b ++ ", " ++ first ++ ", " ++ rest :=
    ⟨second ++ Chain.furtherArguments parameters ++ c ++ d ++ e ++ ")", by
      simp [Chain.furtherArguments, String.append_assoc]⟩
  rw [Chain.ruleLine, before]
  exact regroup _ _ _ _ _

/-- The number in the line of a check is the one that the check looks for. -/
theorem SiteCheck.printedNumber?_text (check : SiteCheck) (stem : String) (place : Nat)
    (outcome : Outcome) :
    printedNumber? stem (check.locationSwitch (Chain.entryName stem place) outcome).text =
      check.industryNumber?.map fun number => toString number.toNat := by
  have line : (check.locationSwitch (Chain.entryName stem place) outcome).text = _ :=
    Chain.text_locationSwitch ⟨check, Chain.entryName stem place, outcome⟩
  have noComma (n : Nat) : ',' ∉ (toString n).toList := by
    simpa using Text.notMem_toDigits (by decide) n
  -- The two macros that look for an industry have the number first.
  have looksFor {macroName : String} {number : UInt16} {rest : String}
      (looks : macroName = "CHECK_NEARBY_CLUSTER" ∨ macroName = "CHECK_INCOMPATIBLE")
      (written : (check.locationSwitch (Chain.entryName stem place) outcome).text = macroName ++
        "(" ++ Chain.entryName stem place ++ ", " ++ toString number.toNat ++ ", " ++ rest) :
      printedNumber? stem (check.locationSwitch (Chain.entryName stem place) outcome).text =
        some (toString number.toNat) := by
    have call : printedNumber? stem (macroName ++ "(" ++ stem ++
        (toString place ++ ", " ++ toString number.toNat ++ ", " ++ rest)) =
          some (toString number.toNat) :=
      printedNumber?_call looks (noComma place) (noComma number.toNat)
    rw [written, Chain.entryName]
    simpa only [String.append_assoc] using call
  cases check with
  | requireCluster number least greatest div mult =>
    obtain ⟨rest, written⟩ := exists_ruleLine_eq
      ⟨requireCluster number least greatest div mult, Chain.entryName stem place, outcome⟩ rfl
    exact looksFor (.inl rfl) (line.trans written)
  | incompatible number distance =>
    obtain ⟨rest, written⟩ := exists_ruleLine_eq
      ⟨incompatible number distance, Chain.entryName stem place, outcome⟩ rfl
    exact looksFor (.inr rfl) (line.trans written)
  | founder | layoutAvailableFrom layout year | townDistance least greatest | coastDistance =>
    rw [line, Chain.ruleLine]
    refine printedNumber?_eq_none (fun rest => ?_) fun rest => ?_ <;>
      simp [Rule.locationSwitch, LocationCheck.locationSwitch, SiteCheck.locationSwitch]

namespace SiteRequirements

variable {r : SiteRequirements} {own : IndustryId} {table : NumberTable} {checks : List SiteCheck}

/-- The check is the one for the reference, with the number that the table has for its target. -/
def Numbered (own : IndustryId) (table : NumberTable) (check : SiteCheck) (ref : SiteReference) :
    Prop :=
  ∃ number, table (ref.target own) = some number ∧ check = ref.check number

theorem number_eq_ok {id : IndustryId} {number : UInt16} :
    table.number id = .ok number ↔ table id = some number := by
  unfold NumberTable.number
  cases table id <;> simp

theorem numbered_clusterChecks (own : IndustryId) {wanted : Option ClusterRequirement}
    (h : clusterChecks table wanted = .ok checks) :
    List.Forall₂ (Numbered own table) checks (wanted.toList.map .cluster) := by
  cases wanted with
  | none =>
    cases h
    exact .nil
  | some c =>
    obtain ⟨number, hnumber, h⟩ := bind_eq_ok.1 h
    rw [← pure_eq_ok.1 h]
    exact .cons ⟨number, number_eq_ok.1 hnumber, rfl⟩ .nil

theorem numbered_sameTypeChecks {wanted : Option UInt32}
    (h : sameTypeChecks table own wanted = .ok checks) :
    List.Forall₂ (Numbered own table) checks (wanted.toList.map .sameType) := by
  cases wanted with
  | none =>
    cases h
    exact .nil
  | some distance =>
    obtain ⟨number, hnumber, h⟩ := bind_eq_ok.1 h
    rw [← pure_eq_ok.1 h]
    exact .cons ⟨number, number_eq_ok.1 hnumber, rfl⟩ .nil

theorem numbered_incompatibleChecks (own : IndustryId) {entries : List (IndustryId × UInt32)}
    (h : entries.mapM (incompatibleCheck table) = .ok checks) :
    List.Forall₂ (Numbered own table) checks
      (entries.map fun entry => .incompatible entry.1 entry.2) := by
  rw [List.forall₂_map_right_iff]
  refine (mapM_eq_ok.1 h).flip.imp fun check entry hcheck => ?_
  obtain ⟨number, hnumber, hcheck⟩ := bind_eq_ok.1 hcheck
  exact ⟨number, number_eq_ok.1 hnumber, (pure_eq_ok.1 hcheck).symm⟩

/-- All checks for references look for an industry. -/
theorem filter_numbered {refs : List SiteReference}
    (numbered : List.Forall₂ (Numbered own table) checks refs) :
    checks.filter (·.industryNumber?.isSome) = checks := by
  induction numbered with
  | nil => rfl
  | cons head _ ih =>
    obtain ⟨number, _, rfl⟩ := head
    rw [List.filter_cons_of_pos (by simp [SiteReference.industryNumber?_check]), ih]

/-- The checks that look for an industry are those for the references. -/
theorem numbered_checks (h : r.checks own table = .ok checks) :
    List.Forall₂ (Numbered own table) (checks.filter (·.industryNumber?.isSome))
      r.siteReferences := by
  obtain ⟨cluster, hcluster, h⟩ := bind_eq_ok.1 h
  obtain ⟨sameType, hsameType, h⟩ := bind_eq_ok.1 h
  obtain ⟨others, hothers, h⟩ := bind_eq_ok.1 h
  have ofCluster := numbered_clusterChecks own hcluster
  have ofSameType := numbered_sameTypeChecks hsameType
  have ofOthers := numbered_incompatibleChecks own hothers
  -- The checks for the founder, the town, the coast and the layouts look for no industry.
  have all : checks.filter (·.industryNumber?.isSome) = cluster ++ sameType ++ others := by
    rw [← pure_eq_ok.1 h]
    simp only [List.filter_append, filter_numbered ofCluster, filter_numbered ofSameType,
      filter_numbered ofOthers]
    cases r.alwaysAllowFounder <;> cases r.townDistance <;> cases r.coastDistance <;>
      simp [SiteCheck.industryNumber?, List.filter_map, Function.comp_def]
  rw [all, siteReferences]
  exact List.rel_append (List.rel_append ofCluster ofSameType) ofOthers

/-- The switch is that of the check for the reference, with the number that the table has for its
target. -/
def SwitchNumbered (own : IndustryId) (table : NumberTable) (s : LocationSwitch)
    (ref : SiteReference) : Prop :=
  ∃ number place outcome, table (ref.target own) = some number ∧
    s = (ref.check number).locationSwitch (Chain.entryName (stem own) place) outcome

/-- Every rule of the chain has its name from the stem and a number. -/
theorem exists_entryName {chain : Chain SiteCheck} (h : r.chain own table = .ok chain)
    {rule : Rule SiteCheck} (mem : rule ∈ chain.rules) :
    ∃ place, rule.entry = Chain.entryName (stem own) place := by
  obtain ⟨checks, _, h⟩ := bind_eq_ok.1 h
  rw [← pure_eq_ok.1 h] at mem
  have named : rule.entry ∈ (Chain.build (stem own) checks).rules.map (·.entry) :=
    List.mem_map_of_mem mem
  rw [Chain.build, Chain.entries_link] at named
  obtain ⟨place, _, same⟩ := List.mem_map.1 named
  exact ⟨place, same.symm⟩

/-- The number that a line of the chain prints is the one that its switch looks for. -/
theorem printedNumber?_text {chain : Chain SiteCheck} (h : r.chain own table = .ok chain)
    {s : LocationSwitch} (mem : s ∈ chain.switches) :
    printedNumber? (stem own) s.text = s.industryNumber? := by
  obtain ⟨rule, hrule, rfl⟩ := List.mem_map.1 mem
  obtain ⟨place, entry⟩ := exists_entryName h (List.mem_reverse.1 hrule)
  show printedNumber? (stem own) (rule.check.locationSwitch rule.entry rule.outcome).text =
    (rule.check.locationSwitch rule.entry rule.outcome).industryNumber?
  rw [entry, SiteCheck.printedNumber?_text, SiteCheck.industryNumber?_locationSwitch]

/-- The switches of the chain that look for an industry are those for the references, in the order
of the chain. -/
theorem numbered_switches {chain : Chain SiteCheck} (h : r.chain own table = .ok chain) :
    ∃ refs, List.Forall₂ (SwitchNumbered own table)
        (chain.switches.filter (·.industryNumber?.isSome)) refs ∧
      refs.Perm r.siteReferences := by
  obtain ⟨checks, hchecks, built⟩ := bind_eq_ok.1 h
  have linked := Chain.linked_of_lawful (stem own) checks
  rw [pure_eq_ok.1 built] at linked
  have looking : (fun s : LocationSwitch => s.industryNumber?.isSome) ∘ Rule.locationSwitch =
      fun rule : Rule SiteCheck => rule.check.industryNumber?.isSome := by
    funext rule
    show (rule.check.locationSwitch rule.entry rule.outcome).industryNumber?.isSome = _
    rw [SiteCheck.industryNumber?_locationSwitch, Option.isSome_map]
  have perm : ((chain.rules.reverse.filter fun rule => rule.check.industryNumber?.isSome).map
      (·.check)).Perm (checks.filter (·.industryNumber?.isSome)) := by
    have reversed : (chain.rules.reverse.map (·.check)).Perm checks :=
      ((List.reverse_perm _).map _).trans linked.perm
    simpa only [List.filter_map, Function.comp_def] using
      reversed.filter (·.industryNumber?.isSome)
  obtain ⟨refs, numbered, order⟩ := List.perm_comp_forall₂ perm (numbered_checks hchecks)
  refine ⟨refs, ?_, order⟩
  rw [Chain.switches, List.filter_map, looking, List.forall₂_map_left_iff]
  have named : ∀ rule ∈ chain.rules.reverse.filter fun rule => rule.check.industryNumber?.isSome,
      ∃ place, rule.entry = Chain.entryName (stem own) place :=
    fun rule mem => exists_entryName h (List.mem_reverse.1 (List.mem_filter.1 mem).1)
  refine ((List.forall₂_and_left _ _).2 ⟨named, List.forall₂_map_left_iff.1 numbered⟩).imp ?_
  rintro rule ref ⟨⟨place, entry⟩, number, hnumber, same⟩
  exact ⟨number, place, rule.outcome, hnumber, by rw [← same, ← entry]; rfl⟩

end SiteRequirements

/-! ## Blocks -/

namespace Nml

/-- The switches of a chain are written like the chain. -/
theorem render_switches {C : Type} [LocationCheck C] (chain : Chain C) :
    render (chain.switches.map Block.locationSwitch) = chain.text := by
  rw [render, Chain.text, Text.unlines, List.map_map, List.map_map]
  rfl

theorem industrySwitches_switches {C : Type} [LocationCheck C] (chain : Chain C) :
    (chain.switches.map Block.locationSwitch).filterMap Block.industrySwitch? =
      chain.switches.filter (·.industryNumber?.isSome) := by
  rw [List.filterMap_map, ← List.filterMap_eq_filter]
  refine List.filterMap_congr fun s _ => ?_
  simp [Block.industrySwitch?, Option.guard]

end Nml

theorem Tile.industrySwitches_blocks {tile : Tile} {owner : Industry} {economies : Economies}
    {blocks : List Nml.Block} (h : tile.blocks owner economies = .ok blocks) :
    blocks.filterMap Nml.Block.industrySwitch? = [] := by
  obtain ⟨base, perEconomy, _, hperEconomy, rfl⟩ := Tile.blocks_eq_ok h
  refine List.filterMap_eq_nil_iff.2 fun block mem => ?_
  simp only [List.cons_append, List.append_assoc, List.mem_cons, List.mem_append] at mem
  rcases mem with rfl | mem | mem | rfl | mem
  · rfl
  · obtain ⟨s, hs, rfl⟩ := List.mem_map.1 mem
    obtain ⟨rule, _, rfl⟩ := List.mem_map.1 hs
    simp [Nml.Block.industrySwitch?, Rule.locationSwitch, LocationCheck.locationSwitch,
      TileCheck.industryNumber?_locationSwitch]
  · obtain ⟨control, rfl⟩ := Tile.mem_animationBlocks mem
    rfl
  · rfl
  · obtain ⟨economy, _, _, labels, _, rfl⟩ := Tile.mem_perEconomy hperEconomy mem
    rfl

namespace Industry

variable {industry : Industry} {economies : Economies} {table : NumberTable}
  {blocks : List Nml.Block}

/-- The switches that look for an industry are those of the location chain, which is written as it
is on its own. -/
theorem industrySwitches_blocks (h : industry.blocks economies table = .ok blocks) :
    ∃ chain, industry.chain table = .ok chain ∧
      (∃ before after, Nml.render blocks = before ++ chain.text ++ after) ∧
      blocks.filterMap Nml.Block.industrySwitch? =
        chain.switches.filter (·.industryNumber?.isSome) := by
  obtain ⟨graphics, tiles, chain, fund, window, base, perEconomy, hgraphics, htiles, hchain, _, _,
    _, hperEconomy, rfl⟩ := blocks_eq_ok h
  have noGraphics : graphics.filterMap Nml.Block.industrySwitch? = [] := by
    refine List.filterMap_eq_nil_iff.2 fun block mem => ?_
    rcases mem_graphicsBlocks hgraphics mem with ⟨_, _, _, rfl⟩ | ⟨_, rfl⟩ | ⟨_, _, rfl⟩ <;> rfl
  have noTile : tiles.flatten.filterMap Nml.Block.industrySwitch? = [] := by
    refine List.filterMap_eq_nil_iff.2 fun block mem => ?_
    obtain ⟨part, hpart, mem⟩ := List.mem_flatten.1 mem
    obtain ⟨tile, _, htile⟩ := exists_of_mem_mapM htiles hpart
    exact List.filterMap_eq_nil_iff.1 (Tile.industrySwitches_blocks htile) block mem
  have noneAgain : perEconomy.flatten.filterMap Nml.Block.industrySwitch? = [] := by
    refine List.filterMap_eq_nil_iff.2 fun block mem => ?_
    obtain ⟨economy, _, properties, _, rfl⟩ := mem_perEconomy hperEconomy mem
    rfl
  have noLayout : (industry.graphics.layouts.map tilelayout).filterMap
      Nml.Block.industrySwitch? = [] := by
    simp [List.filterMap_map, Function.comp_def, tilelayout, Nml.Block.industrySwitch?]
  have noText : ((fund.1 ++ (window.map (·.1)).getD []).map Nml.Block.switch).filterMap
      Nml.Block.industrySwitch? = [] := by
    simp [List.filterMap_map, Function.comp_def, Nml.Block.industrySwitch?]
  refine ⟨chain, hchain, ?_, ?_⟩
  · have parted (before after : List Nml.Block) :
        Nml.render (before ++ chain.switches.map .locationSwitch ++ after) =
          Nml.render before ++ chain.text ++ Nml.render after := by
      simp only [Nml.render_append, Nml.render_switches]
    exact ⟨_, _, (congrArg Nml.render (List.append_assoc ..)).trans (parted _ _)⟩
  rw [← Nml.industrySwitches_switches]
  simp only [List.filterMap_append, List.filterMap_cons, noGraphics, noTile, noneAgain, noLayout,
    noText, Nml.Block.industrySwitch?, List.nil_append, List.append_nil]

/-- The items of industries that are written for an industry are all its own. -/
theorem industryItems_blocks (h : industry.blocks economies table = .ok blocks) :
    ∀ i ∈ blocks.filterMap Nml.Block.industryItem?, i.feature = Nml.featIndustries ∧
      i.id = industry.id ∧ i.number? = some (toString industry.numericId.toNat) := by
  intro i mem
  obtain ⟨block, mem, ofIndustry⟩ := List.mem_filterMap.1 mem
  obtain ⟨holds, feature⟩ := Option.filter_eq_some_iff.1 ofIndustry
  rcases item_of_mem_blocks h mem holds with
    ⟨_, _, _, _, _, rfl, _⟩ | ⟨properties, set, rfl, _⟩
  · exact absurd (of_decide_eq_true feature) Nml.featIndustryTiles_ne
  · exact ⟨rfl, rfl, rfl⟩

/-- An industry is defined under its own id and number. -/
theorem isHeaded_of_blocks {fragment : Fragment}
    (h : industry.blocks economies table = .ok fragment.blocks) :
    fragment.IsHeaded industry.id (toString industry.numericId.toNat) := by
  have header {i : Nml.Item} (mem : i ∈ fragment.industryItems) :
      i.number? = some (toString industry.numericId.toNat) ∧
        i.header = Nml.industryHeader industry.id (toString industry.numericId.toNat) := by
    obtain ⟨feature, id, number⟩ := industryItems_blocks h i mem
    exact ⟨number, id ▸ Nml.Item.header_eq_industryHeader feature number⟩
  obtain ⟨_, _, _, _, _, _, _, _, _, _, _, _, _, _, written⟩ := blocks_eq_ok h
  obtain ⟨base, isBase, mem⟩ : ∃ base, Nml.Block.industryItem? (.item base) = some base ∧
      Nml.Block.item base ∈ fragment.blocks := by
    rw [written]
    exact ⟨_, rfl, List.mem_append_right _ List.mem_cons_self⟩
  have among : base ∈ fragment.industryItems := List.mem_filterMap.2 ⟨_, mem, isBase⟩
  refine ⟨List.ne_nil_of_mem among, fun i => header, ?_⟩
  obtain ⟨before, after, text⟩ := Nml.Item.exists_render_header mem
  exact ⟨before, after, (header among).2 ▸ text⟩

end Industry

/-! ## Fragments -/

namespace Registry

variable {registry : Registry} {industry : Industry} {config : Configuration}
  {generated : Generated} {fragment : Fragment}

/-- The fragment is the one that was generated for an industry of the registry. -/
def IsFragmentOf (registry : Registry) (generated : Generated) (fragment : Fragment)
    (industry : Industry) : Prop :=
  ∃ place : Nat, registry.industries.toList[place]? = some industry ∧
    generated.fragments[registry.cargos.toList.length + place]? = some fragment

theorem exists_isFragmentOf (written : registry.generate config.all = .ok generated)
    (mem : industry ∈ registry.industries.toList) :
    ∃ fragment, registry.IsFragmentOf generated fragment industry := by
  obtain ⟨place, there⟩ := List.getElem?_of_mem mem
  obtain ⟨fragment, _, among⟩ := getElem?_fragments_generate written there
  exact ⟨fragment, place, there, among⟩

theorem IsFragmentOf.blocks (h : registry.IsFragmentOf generated fragment industry)
    (written : registry.generate config.all = .ok generated) :
    industry.blocks registry.economies registry.industries.numbers = .ok fragment.blocks := by
  obtain ⟨place, there, among⟩ := h
  obtain ⟨other, result, same⟩ := getElem?_fragments_generate written there
  cases same.symm.trans among
  obtain ⟨blocks, rendered, rfl⟩ := industryFragment_eq_ok result
  exact rendered

theorem IsFragmentOf.mem (h : registry.IsFragmentOf generated fragment industry) :
    industry ∈ registry.industries.toList :=
  let ⟨_, there, _⟩ := h
  List.mem_of_getElem? there

/-- The line of a location chain is that of the switch for the reference. The number in it is the
one in the header of the industry referred to, and in no header of another industry. -/
structure LooksFor (registry : Registry) (generated : Generated) (own : IndustryId)
    (line : String) (ref : SiteReference) : Prop where
  switch : ∃ number place outcome, line = ((ref.check number).locationSwitch
    (Chain.entryName (SiteRequirements.stem own) place) outcome).text
  number : ∃ number, printedNumber? (SiteRequirements.stem own) line = some number ∧
    (∃ target fragment, target.id = ref.target own ∧
      registry.IsFragmentOf generated fragment target ∧ fragment.IsHeaded target.id number) ∧
    ∀ other fragment, other.id ≠ ref.target own →
      registry.IsFragmentOf generated fragment other →
      ∃ otherNumber, otherNumber ≠ number ∧ fragment.IsHeaded other.id otherNumber

theorem looksFor_of_switchNumbered {economies : Economies} {accepted : List Submission}
    (holds : registry.Invariant economies accepted)
    (written : registry.generate config.all = .ok generated) {own : IndustryId}
    {s : LocationSwitch} {ref : SiteReference}
    (numbered : SiteRequirements.SwitchNumbered own registry.industries.numbers s ref) :
    registry.LooksFor generated own s.text ref := by
  obtain ⟨number, place, outcome, found, rfl⟩ := numbered
  obtain ⟨target, known, rfl⟩ := Option.map_eq_some_iff.1 found
  obtain ⟨registered, same⟩ := holds.industries.get?_eq_some.1 known
  refine ⟨⟨_, _, _, rfl⟩, toString target.numericId.toNat, ?_, ?_, ?_⟩
  · rw [SiteCheck.printedNumber?_text, SiteReference.industryNumber?_check]
    rfl
  · obtain ⟨fragment, ofTarget⟩ := exists_isFragmentOf written registered
    exact ⟨target, fragment, same, ofTarget, Industry.isHeaded_of_blocks (ofTarget.blocks written)⟩
  · intro other fragment notTarget ofOther
    refine ⟨toString other.numericId.toNat, fun sameNumber => notTarget ?_,
      Industry.isHeaded_of_blocks (ofOther.blocks written)⟩
    have numbers : other.numericId = target.numericId :=
      UInt16.toNat_inj.1 (Text.digits_injective sameNumber)
    -- No two industries of a registry have one number.
    cases List.inj_on_of_nodup_map holds.industries.numbers ofOther.mem registered numbers
    exact same

/-- Whatever is submitted to a registry, if all its industries are written, then the text for an
industry has the lines of its location chain, and those of them that look for an industry are for
what its requirements refer to, each of these once. The number that is read in such a line stands
in the header of the industry referred to, the industry itself for the distance to its own type, and
in no header of another industry. -/
theorem numbers_generate (economies : Economies) (submissions : List Submission) :
    let registry := (Update.runAll Registry.submit (Registry.create economies) submissions).state
    registry.generate config.all = .ok generated → ∀ industry ∈ registry.industries.toList,
      (∃ fragment, registry.IsFragmentOf generated fragment industry) ∧
      ∀ fragment, registry.IsFragmentOf generated fragment industry →
        ∃ chain lines refs, industry.chain registry.industries.numbers = .ok chain ∧
          lines = chain.switches.map LocationSwitch.text ∧
          (∃ before after,
            fragment.text = before ++ String.join (lines.map (· ++ "\n")) ++ after) ∧
          fragment.industrySwitches.map LocationSwitch.text = lines.filter (fun line =>
            (printedNumber? (SiteRequirements.stem industry.id) line).isSome) ∧
          List.Forall₂ (registry.LooksFor generated industry.id)
            (fragment.industrySwitches.map LocationSwitch.text) refs ∧
          refs.Perm industry.requirements.siteReferences := by
  intro registry written industry mem
  have holds : registry.Invariant economies _ := Invariant.runAll economies submissions
  refine ⟨exists_isFragmentOf written mem, fun fragment ofIndustry => ?_⟩
  obtain ⟨chain, hchain, text, switches⟩ :=
    Industry.industrySwitches_blocks (ofIndustry.blocks written)
  obtain ⟨refs, numbered, order⟩ := SiteRequirements.numbered_switches hchain
  have looking : fragment.industrySwitches = _ := switches
  refine ⟨chain, _, refs, hchain, rfl, ?_, ?_, ?_, order⟩
  · exact text
  · rw [looking, List.filter_map]
    refine congrArg _ (List.filter_congr fun s hs => ?_)
    rw [Function.comp_apply, SiteRequirements.printedNumber?_text hchain hs]
  · rw [looking, List.forall₂_map_left_iff]
    exact numbered.imp fun s ref => looksFor_of_switchNumbered holds written

/-- A hotel looks for other hotels and for the general store. -/
theorem numbers_hotel :
    let registry := town [hotel, .create "general_store" 12 .tertiary (.ofList [])]
    ∃ generated fragment, registry.generate (Configuration.all {}) = .ok generated ∧
      registry.IsFragmentOf generated fragment openedHotel ∧
      ∃ (lines : List String) (refs : List SiteReference) (before after : String),
        fragment.text = before ++ String.join (lines.map (· ++ "\n")) ++ after ∧
        List.Forall₂ (registry.LooksFor generated "hotel")
          (lines.filter fun line => (printedNumber? "hotel_lc_" line).isSome) refs ∧
        refs.Perm [.sameType 16, .incompatible "general_store" 20] := by
  intro registry
  obtain ⟨generated, written⟩ : ∃ generated,
      registry.generate (Configuration.all {}) = .ok generated :=
    exists_of_isOk (by decide +kernel)
  have mem : openedHotel ∈ registry.industries.toList := by decide +kernel
  obtain ⟨⟨fragment, ofHotel⟩, numbered⟩ :=
    numbers_generate .standard ([hotel, .create "general_store" 12 .tertiary (.ofList [])].map
      .industry) written openedHotel mem
  obtain ⟨_, lines, refs, _, _, ⟨before, after, text⟩, looking, looksFor, order⟩ :=
    numbered fragment ofHotel
  rw [looking] at looksFor
  exact ⟨generated, fragment, written, ofHotel, lines, refs, before, after, text, looksFor, order⟩

end Registry

end IndustrySet
