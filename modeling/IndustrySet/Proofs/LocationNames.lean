import IndustrySet.Proofs.FullRun
import IndustrySet.Proofs.GraphicsBlocks
import IndustrySet.Proofs.IndustryBlocks
import IndustrySet.Proofs.LocationWalk
import Mathlib.Data.List.Flatten
import Mathlib.Data.List.Pairwise

set_option autoImplicit false

/-! # The names of location switches

The location switches of an industry are named after it, those of a tile after its industry and the
tile, joined by an underscore. Ids may contain underscores themselves, so two subjects can come to
the same name, and then to the same switches; otherwise they share none (`disjoint_entries_iff`). -/

namespace IndustrySet

/-! ## Numbered names -/

/-- Texts that end in no digit are told apart whatever digits follow. -/
theorem append_digits_inj {xs ys digits digits' : List Char} {x y : Char}
    (hx : x.isDigit = false) (hy : y.isDigit = false) (h : ∀ c ∈ digits, c.isDigit = true)
    (h' : ∀ c ∈ digits', c.isDigit = true) (same : xs ++ x :: digits = ys ++ y :: digits') :
    xs = ys ∧ digits = digits' := by
  -- If one text were longer, its last character would be among the digits after the other.
  rcases List.append_eq_append_iff.1 same with ⟨more, rfl, rest⟩ | ⟨more, rfl, rest⟩
  · cases more with
    | nil => simp_all
    | cons c more =>
      obtain ⟨rfl, rfl⟩ := List.cons.inj rest
      simp [h y (by simp)] at hy
  · cases more with
    | nil => simp_all
    | cons c more =>
      obtain ⟨rfl, rfl⟩ := List.cons.inj rest
      simp [h' x (by simp)] at hx

namespace Chain

/-- The name of a switch tells what it is named after. -/
theorem eq_of_entryName {a b : String} {n m : Nat}
    (same : entryName (a ++ "_lc_") n = entryName (b ++ "_lc_") m) : a = b := by
  have digit : ∀ k : Nat, ∀ c ∈ Nat.toDigits 10 k, c.isDigit = true :=
    fun _ _ => Nat.isDigit_of_mem_toDigits (by decide) (by decide)
  have chars : ∀ (s : String) (k : Nat), (entryName (s ++ "_lc_") k).toList =
      (s.toList ++ ['_', 'l', 'c']) ++ '_' :: Nat.toDigits 10 k := by
    intro s k
    simp [entryName, Nat.toString_eq_repr, Nat.toList_repr]
  have sameChars := congrArg String.toList same
  rw [chars, chars] at sameChars
  obtain ⟨stems, _⟩ := append_digits_inj (by decide) (by decide) (digit n) (digit m) sameChars
  exact String.toList_inj.1 (List.append_cancel_right stems)

/-- The first names after something. -/
def numbered (name : String) (count : Nat) : List String :=
  (List.range count).map (entryName (name ++ "_lc_"))

theorem nodup_numbered (name : String) (count : Nat) : (numbered name count).Nodup :=
  List.nodup_range.map (entryName_injective _)

theorem entries_build {C : Type} [LocationCheck C] (name : String) (checks : List C) :
    (build (name ++ "_lc_") checks).rules.map (·.entry) = numbered name (sort checks).length := by
  rw [build, entries_link, numbered, List.range_eq_range']

theorem disjoint_numbered_iff {a b : String} {n m : Nat} :
    (numbered a n).Disjoint (numbered b m) ↔ (a = b → numbered a n = [] ∨ numbered b m = []) := by
  constructor
  · rintro disjoint rfl
    cases n with
    | zero => exact .inl rfl
    | succ n =>
      cases m with
      | zero => exact .inr rfl
      | succ m =>
        have first : ∀ k, entryName (a ++ "_lc_") 0 ∈ numbered a (k + 1) :=
          fun k => List.mem_map_of_mem (List.mem_range.2 (Nat.succ_pos k))
        exact absurd (first m) (disjoint (first n))
  · intro h entry mem mem'
    obtain ⟨k, _, rfl⟩ := List.mem_map.1 mem
    obtain ⟨l, _, same⟩ := List.mem_map.1 mem'
    rcases h (eq_of_entryName same.symm) with empty | empty
    · simp [empty] at mem
    · simp [empty] at mem'

end Chain

/-! ## Subjects -/

/-- What has location checks of its own: an industry, or one of its tiles. -/
inductive Subject
  | site (industry : Industry)
  | tile (industry : Industry) (tile : Tile)

namespace Subject

/-- The industry that the subject is or belongs to. -/
def industry : Subject → Industry
  | .site industry => industry
  | .tile owner _ => owner

/-- The tile that the subject is, if it is one. -/
def tile? : Subject → Option Tile
  | .site _ => none
  | .tile _ part => some part

/-- What the location switches are named after. -/
def name : Subject → String
  | .site industry => industry.id
  | .tile owner part => owner.id ++ "_" ++ part.id

/-- The entry points of the chain; none if an industry that its checks refer to is missing. -/
def entries (table : NumberTable) : Subject → List String
  | .site industry =>
    match industry.chain table with
    | .ok chain => chain.rules.map (·.entry)
    | .error _ => []
  | .tile owner part => (part.chain owner.id).rules.map (·.entry)

/-- Do two subjects that have location switches come to the same name? -/
def Clash (table : NumberTable) (s t : Subject) : Prop :=
  s.name = t.name ∧ s.entries table ≠ [] ∧ t.entries table ≠ []

variable {s t : Subject} {table : NumberTable}

theorem exists_numbered (table : NumberTable) (s : Subject) :
    ∃ count, s.entries table = Chain.numbered s.name count := by
  cases s with
  | site industry =>
    rw [entries, Industry.chain, SiteRequirements.chain]
    cases industry.requirements.checks industry.id table with
    | error e => exact ⟨0, rfl⟩
    | ok checks => exact ⟨_, Chain.entries_build _ checks⟩
  | tile owner part => exact ⟨_, Chain.entries_build _ _⟩

theorem nodup_entries : (s.entries table).Nodup := by
  obtain ⟨count, numbered⟩ := exists_numbered table s
  rw [numbered]
  exact Chain.nodup_numbered _ _

theorem disjoint_entries : (s.entries table).Disjoint (t.entries table) ↔ ¬Clash table s t := by
  obtain ⟨n, hs⟩ := exists_numbered table s
  obtain ⟨m, ht⟩ := exists_numbered table t
  rw [Clash, hs, ht, Chain.disjoint_numbered_iff, not_and, ← not_or, not_not]

end Subject

/-- An industry and its tiles, in the order in which their location switches are written. -/
def Industry.subjects (industry : Industry) : List Subject :=
  industry.tiles.map (.tile industry) ++ [.site industry]

theorem Industry.eq_of_mem_subjects {industry : Industry} {s : Subject}
    (h : s ∈ industry.subjects) : s.industry = industry := by
  simp only [subjects, List.mem_append, List.mem_map, List.mem_singleton] at h
  rcases h with ⟨_, _, rfl⟩ | rfl <;> rfl

namespace Subject

/-- Everything in some industries that has location checks of its own. -/
def all (industries : List Industry) : List Subject :=
  industries.flatMap Industry.subjects

variable {industries : List Industry} {s t : Subject}

theorem mem_all : s ∈ all industries ↔
    s.industry ∈ industries ∧ ∀ part ∈ s.tile?, part ∈ s.industry.tiles := by
  simp only [all, Industry.subjects, List.mem_flatMap, List.mem_append, List.mem_map,
    List.mem_singleton]
  cases s <;> simp [industry, tile?]

theorem mem_tiles {owner : Industry} {part : Tile} (h : .tile owner part ∈ all industries) :
    part ∈ owner.tiles :=
  (mem_all.1 h).2 part rfl

section

variable (ids : (industries.map (·.id)).Nodup)
  (tileIds : ((industries.flatMap (·.tiles)).map (·.id)).Nodup)

include ids tileIds

/-- Within an industry, subjects have different names, and so have industries. -/
theorem differ_of_name_eq (hs : s ∈ all industries) (ht : t ∈ all industries) (other : s ≠ t)
    (same : s.name = t.name) :
    s.industry.id ≠ t.industry.id ∧ (s.tile?.isSome = true ∨ t.tile?.isSome = true) := by
  have owners : s.industry.id ≠ t.industry.id := by
    intro sameId
    have sameOwner := List.inj_on_of_nodup_map ids (mem_all.1 hs).1 (mem_all.1 ht).1 sameId
    cases s with
    | site owner =>
      cases sameOwner
      cases t with
      | site => exact other rfl
      | tile _ part => simp [name, String.ext_iff] at same
    | tile owner part =>
      cases sameOwner
      cases t with
      | site => simp [name, String.ext_iff] at same
      | tile owner' part' =>
        have sameTile : part.id = part'.id := (String.append_right_inj _).1 same
        have mem := List.mem_flatMap.2 ⟨_, (mem_all.1 hs).1, mem_tiles hs⟩
        have mem' := List.mem_flatMap.2 ⟨_, (mem_all.1 ht).1, mem_tiles ht⟩
        cases List.inj_on_of_nodup_map tileIds mem mem' sameTile
        exact other rfl
  refine ⟨owners, ?_⟩
  cases s with
  | site => cases t with
    | site => exact absurd same owners
    | tile => exact .inr rfl
  | tile => exact .inl rfl

theorem nodup_all : (all industries).Nodup := by
  refine List.nodup_flatMap.2 ⟨fun owner mem => ?_, ?_⟩
  · have tiles : owner.tiles.Nodup := (List.nodup_flatMap.1 (tileIds.of_map _)).1 owner mem
    refine (tiles.map fun _ _ same => (Subject.tile.inj same).2).append (List.nodup_singleton _) ?_
    simp
  · refine (ids.of_map _).pairwise_of_forall_ne fun owner _ owner' _ different s mem mem' => ?_
    exact different
      ((Industry.eq_of_mem_subjects mem).symm.trans (Industry.eq_of_mem_subjects mem'))

/-- Names are given once just when no two subjects clash. -/
theorem nodup_flatMap_entries (table : NumberTable) :
    ((all industries).flatMap (entries table)).Nodup ↔
      ∀ s ∈ all industries, ∀ t ∈ all industries, s ≠ t → ¬Clash table s t := by
  have symmetric : Std.Symm (Function.onFun List.Disjoint (entries table)) :=
    ⟨fun _ _ => List.disjoint_symm⟩
  rw [List.nodup_flatMap]
  constructor
  · rintro ⟨_, apart⟩ s hs t ht other
    exact disjoint_entries.1 (apart.forall hs ht other)
  · intro apart
    refine ⟨fun _ _ => nodup_entries, (nodup_all ids tileIds).pairwise_of_forall_ne ?_⟩
    exact fun s hs t ht other => disjoint_entries.2 (apart s hs t ht other)

end

end Subject

/-! ## Written names -/

namespace Nml

/-- The name a block gives to a location switch. -/
def Block.locationName? : Block → Option String
  | .locationSwitch s => some s.entry
  | _ => none

/-- The names of location switches, in the order of the file. -/
def locationNames (blocks : List Block) : List String :=
  blocks.filterMap Block.locationName?

@[simp]
theorem locationNames_nil : locationNames [] = [] := rfl

@[simp]
theorem locationNames_cons (block : Block) (blocks : List Block) :
    locationNames (block :: blocks) = block.locationName?.toList ++ locationNames blocks := by
  cases h : block.locationName? <;> simp [locationNames, h]

@[simp]
theorem locationNames_append (before after : List Block) :
    locationNames (before ++ after) = locationNames before ++ locationNames after := by
  simp [locationNames]

theorem locationNames_eq_nil {blocks : List Block}
    (h : ∀ block ∈ blocks, block.locationName? = none) : locationNames blocks = [] := by
  simpa [locationNames] using h

theorem locationNames_map {α : Type} (block : α → Block) (h : ∀ a, (block a).locationName? = none)
    (as : List α) : locationNames (as.map block) = [] := by
  apply locationNames_eq_nil
  intro b hb
  obtain ⟨a, _, rfl⟩ := List.mem_map.1 hb
  exact h a

/-- What is written for the parts of a list names what is named part by part. -/
theorem locationNames_mapM {α β : Type} {f : α → Except Error β} {blocksOf : β → List Block}
    {names : α → List String}
    (each : ∀ a b, f a = .ok b → (locationNames (blocksOf b)).Perm (names a))
    {as : List α} {bs : List β} (h : as.mapM f = .ok bs) :
    (locationNames (bs.flatMap blocksOf)).Perm (as.flatMap names) := by
  have parts := mapM_eq_ok.1 h
  clear h
  induction parts with
  | nil => exact .refl _
  | cons head _ ih =>
    rw [List.flatMap_cons, List.flatMap_cons, locationNames_append]
    exact (each _ _ head).append ih

theorem locationNames_switches {C : Type} [LocationCheck C] [LawfulLocationCheck C]
    (chain : Chain C) :
    (locationNames (chain.switches.map .locationSwitch)).Perm (chain.rules.map (·.entry)) := by
  have written : locationNames (chain.switches.map .locationSwitch) =
      chain.switches.map (·.entry) := by
    simp [locationNames, List.filterMap_map, Function.comp_def, Block.locationName?]
  have entries := congrArg (List.map Prod.fst) (Chain.switches_eq chain)
  rw [List.map_map, List.map_reverse, List.map_map] at entries
  rw [written]
  exact (List.Perm.of_eq entries).trans (List.reverse_perm _)

end Nml

theorem Tile.locationNames_blocks {part : Tile} {owner : Industry} {economies : Economies}
    {blocks : List Nml.Block} (h : part.blocks owner economies = .ok blocks) :
    (Nml.locationNames blocks).Perm ((part.chain owner.id).rules.map (·.entry)) := by
  obtain ⟨base, perEconomy, _, setAgain, rfl⟩ := Tile.blocks_eq_ok h
  have animation : Nml.locationNames (part.animationBlocks owner) = [] := by
    refine Nml.locationNames_eq_nil fun block mem => ?_
    obtain ⟨_, rfl⟩ := mem_animationBlocks mem
    rfl
  have again : Nml.locationNames perEconomy.flatten = [] := by
    refine Nml.locationNames_eq_nil fun block mem => ?_
    obtain ⟨_, _, _, _, _, rfl⟩ := mem_perEconomy setAgain mem
    rfl
  simpa [animation, again, Nml.Block.locationName?] using
    Nml.locationNames_switches (part.chain owner.id)

namespace Industry

variable {industry : Industry} {economies : Economies} {table : NumberTable}
  {blocks : List Nml.Block}

theorem locationNames_economyBlocks {economy : Economy}
    (h : industry.economyBlocks economy = .ok blocks) : Nml.locationNames blocks = [] := by
  obtain ⟨properties, _, rfl⟩ := economyBlocks_eq_ok h
  split <;> rfl

/-- The location switches written for an industry are those of its tiles and its own. -/
theorem locationNames_blocks (h : industry.blocks economies table = .ok blocks) :
    (Nml.locationNames blocks).Perm (industry.subjects.flatMap (Subject.entries table)) := by
  obtain ⟨graphics, tiles, chain, fund, window, base, perEconomy, hgraphics, htiles, hchain, _, _,
    _, hperEconomy, rfl⟩ := blocks_eq_ok h
  have noGraphics : Nml.locationNames graphics = [] := by
    refine Nml.locationNames_eq_nil fun block mem => ?_
    rcases mem_graphicsBlocks hgraphics mem with ⟨_, _, _, rfl⟩ | ⟨_, rfl⟩ | ⟨_, _, rfl⟩ <;> rfl
  have ofTiles : (Nml.locationNames tiles.flatten).Perm
      (industry.tiles.flatMap fun part => Subject.entries table (.tile industry part)) := by
    rw [← List.flatMap_id]
    exact Nml.locationNames_mapM (fun _ _ => Tile.locationNames_blocks) htiles
  have noneAgain : Nml.locationNames perEconomy.flatten = [] := by
    refine Nml.locationNames_eq_nil fun block mem => ?_
    obtain ⟨part, hpart, mem⟩ := List.mem_flatten.1 mem
    obtain ⟨economy, _, hblocks⟩ := exists_of_mem_mapM hperEconomy hpart
    exact List.filterMap_eq_nil_iff.1 (locationNames_economyBlocks hblocks) block mem
  have own : Subject.entries table (.site industry) = chain.rules.map (·.entry) := by
    rw [Subject.entries, hchain]
  have written := ofTiles.append (own ▸ Nml.locationNames_switches chain)
  simpa [subjects, List.flatMap_map, noGraphics, noneAgain, Nml.Block.locationName?,
    Nml.locationNames_map tilelayout (fun _ => rfl),
    Nml.locationNames_map Nml.Block.switch (fun _ => rfl)] using written

end Industry

namespace Registry

variable {registry : Registry} {config : Configuration} {generated : Generated}

/-- The location switches of a run are those of the industries to write. -/
theorem locationNames_generate (h : registry.generate config = .ok generated) :
    ∃ selected, registry.selectedIndustries config = .ok selected ∧
      (Nml.locationNames (generated.fragments.flatMap (·.blocks))).Perm
        ((Subject.all selected).flatMap (Subject.entries registry.industries.numbers)) := by
  obtain ⟨selected, hselected, h⟩ := bind_eq_ok.1 h
  obtain ⟨fragments, hfragments, h⟩ := bind_eq_ok.1 h
  refine ⟨selected, hselected, ?_⟩
  rw [← pure_eq_ok.1 h]
  have noCargo : Nml.locationNames (registry.cargos.toList.flatMap (·.blocks)) = [] := by
    refine Nml.locationNames_eq_nil fun block mem => ?_
    obtain ⟨cargo, _, mem⟩ := List.mem_flatMap.1 mem
    simp only [Cargo.blocks, List.mem_cons, List.not_mem_nil, or_false] at mem
    rcases mem with rfl | rfl | rfl <;> rfl
  have ofIndustries : (Nml.locationNames (fragments.flatMap (·.1.blocks))).Perm
      (selected.flatMap fun industry =>
        industry.subjects.flatMap (Subject.entries registry.industries.numbers)) := by
    refine Nml.locationNames_mapM (fun industry fragment hfragment => ?_) hfragments
    obtain ⟨warnings, _, hfragment⟩ := bind_eq_ok.1 hfragment
    obtain ⟨blocks, hblocks, hfragment⟩ := bind_eq_ok.1 hfragment
    rw [← pure_eq_ok.1 hfragment]
    exact Industry.locationNames_blocks hblocks
  simpa [Subject.all, List.flatMap_assoc, List.flatMap_map, cargoFragment, noCargo] using
    ofIndustries

/-- Whatever was registered, if no two tiles have the same id: the entry points of two subjects are
disjoint just when the subjects do not clash, only a tile comes to the name of another subject, and
that is one of another industry, and the location switches that are written all together have
distinct names just when no two subjects of the industries written clash. -/
theorem disjoint_entries_iff (economies : Economies) (submissions : List Submission) :
    let registry := (Update.runAll Registry.submit (Registry.create economies) submissions).state
    ((registry.industries.toList.flatMap (·.tiles)).map (·.id)).Nodup →
      (∀ s ∈ Subject.all registry.industries.toList, ∀ t ∈ Subject.all registry.industries.toList,
        s ≠ t → ∀ table, ((s.entries table).Disjoint (t.entries table) ↔ ¬s.Clash table t) ∧
          (s.name = t.name → s.industry.id ≠ t.industry.id ∧
            (s.tile?.isSome = true ∨ t.tile?.isSome = true))) ∧
      ∀ config generated, registry.generate config = .ok generated →
        ∃ selected, registry.selectedIndustries config = .ok selected ∧
          ((Nml.locationNames (generated.fragments.flatMap (·.blocks))).Nodup ↔
            ∀ s ∈ Subject.all selected, ∀ t ∈ Subject.all selected, s ≠ t →
              ¬s.Clash registry.industries.numbers t) := by
  intro registry tileIds
  have holds : registry.Invariant economies _ := Invariant.runAll economies submissions
  have ids := holds.industries.ids
  refine ⟨fun s hs t ht other table => ⟨Subject.disjoint_entries, ?_⟩, ?_⟩
  · exact Subject.differ_of_name_eq ids tileIds hs ht other
  · intro config generated rendered
    obtain ⟨selected, hselected, written⟩ := locationNames_generate rendered
    have among := sublist_of_selectedIndustries holds hselected
    refine ⟨selected, hselected, ?_⟩
    rw [written.nodup_iff]
    exact Subject.nodup_flatMap_entries (ids.sublist (among.map _))
      (tileIds.sublist ((among.flatMap _).map _)) _

/-- A port with a quay and one more industry, registered one after the other. -/
def besidePort (other : Industry) : Update.Run Submission Registry :=
  Update.runAll Registry.submit (Registry.create .standard)
    [.industry { Industry.create "port" 12 .primaryPort (.ofList []) with tiles := [{ id := "quay" }] },
     .industry other]

theorem disjoint_entries_harbour :
    let registry := (besidePort (.create "harbour" 13 .tertiary (.ofList []))).state
    ((registry.industries.toList.flatMap (·.tiles)).map (·.id)).Nodup ∧
      ∃ generated, registry.generate {} = .ok generated ∧
        (Nml.locationNames (generated.fragments.flatMap (·.blocks))).Nodup := by
  intro registry
  have tileIds : ((registry.industries.toList.flatMap (·.tiles)).map (·.id)).Nodup := by
    decide +kernel
  have renders : (registry.generate {}).isOk = true := by decide +kernel
  have names : ((Subject.all registry.industries.toList).map Subject.name).Nodup := by
    decide +kernel
  have all : registry.selectedIndustries {} = .ok registry.industries.toList := rfl
  have together : ∀ generated, registry.generate {} = .ok generated →
      ∃ selected, registry.selectedIndustries {} = .ok selected ∧
        ((Nml.locationNames (generated.fragments.flatMap (·.blocks))).Nodup ↔
          ∀ s ∈ Subject.all selected, ∀ t ∈ Subject.all selected, s ≠ t →
            ¬s.Clash registry.industries.numbers t) :=
    (disjoint_entries_iff .standard _ tileIds).2 {}
  -- From here on it does not matter which registry it is.
  clear_value registry
  refine ⟨tileIds, ?_⟩
  cases rendered : registry.generate {} with
  | error e => rw [rendered] at renders; cases renders
  | ok generated =>
    obtain ⟨selected, hselected, distinct⟩ := together generated rendered
    cases all.symm.trans hselected
    refine ⟨generated, rfl, distinct.2 fun s hs t ht other clash => other ?_⟩
    exact List.inj_on_of_nodup_map names hs ht clash.1

/-- The quay of the port and an industry for the quay come to the same name. -/
theorem not_disjoint_entries_portQuay :
    let run := besidePort (.create "port_quay" 13 .tertiary (.ofList []))
    run.accepted.length = 2 ∧
      ((run.state.industries.toList.flatMap (·.tiles)).map (·.id)).Nodup ∧
      (∃ s ∈ Subject.all run.state.industries.toList,
        ∃ t ∈ Subject.all run.state.industries.toList, s ≠ t ∧
          ¬(s.entries run.state.industries.numbers).Disjoint
            (t.entries run.state.industries.numbers)) ∧
      ∃ generated, run.state.generate {} = .ok generated ∧
        ¬(Nml.locationNames (generated.fragments.flatMap (·.blocks))).Nodup := by
  intro run
  refine ⟨by decide +kernel, by decide +kernel, ?_, ?_⟩
  · have shared : (Subject.all run.state.industries.toList).any (fun s => s.tile?.isSome &&
        (Subject.all run.state.industries.toList).any fun t => t.tile?.isNone &&
          decide ("port_quay_lc_0" ∈ s.entries run.state.industries.numbers ∧
            "port_quay_lc_0" ∈ t.entries run.state.industries.numbers)) = true := by
      decide +kernel
    obtain ⟨s, hs, shared⟩ := List.any_eq_true.1 shared
    obtain ⟨isTile, shared⟩ := Bool.and_eq_true_iff.1 shared
    obtain ⟨t, ht, shared⟩ := List.any_eq_true.1 shared
    obtain ⟨isSite, shared⟩ := Bool.and_eq_true_iff.1 shared
    obtain ⟨mem, mem'⟩ := of_decide_eq_true shared
    refine ⟨s, hs, t, ht, ?_, fun disjoint => disjoint mem mem'⟩
    rintro rfl
    rw [Option.isNone_iff_eq_none.1 isSite] at isTile
    cases isTile
  · have twice : (run.state.generate {}).toOption.any (fun generated =>
        decide ¬(Nml.locationNames (generated.fragments.flatMap (·.blocks))).Nodup) = true := by
      decide +kernel
    cases rendered : run.state.generate {} with
    | error e => rw [rendered] at twice; cases twice
    | ok generated =>
      rw [rendered] at twice
      exact ⟨generated, rfl, of_decide_eq_true twice⟩

end Registry

end IndustrySet
