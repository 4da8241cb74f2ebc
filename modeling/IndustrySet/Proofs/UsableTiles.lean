import IndustrySet.Declaration.Schema
import IndustrySet.Proofs.Fallible

set_option autoImplicit false

/-! # Tiles that the game can use

Land shape flags are for tiles that want no location check beside them, and an animation has from 1
to 253 frames. Every way to make a tile judges it by both (`Tile.Judged`), or makes one that cannot
fail. So all tiles that are made are usable (`Tile.Made.usable`), and those with flags have an empty
chain. -/

namespace IndustrySet

/-! ## Checks that are wanted -/

namespace TileRequirements

theorem onlyIf_eq_nil_iff {wanted : Bool} {checks : List TileCheck} (nonempty : checks ≠ []) :
    onlyIf wanted checks = [] ↔ wanted = false := by
  cases wanted with
  | false => exact iff_of_true rfl rfl
  | true => exact iff_of_false nonempty Bool.noConfusion

/-- There are no checks just if none is wanted. -/
theorem checks_eq_nil_iff {r : TileRequirements} : r.checks = [] ↔ r = .none := by
  have houses : ∀ check : Int8 × Int8 → TileCheck, houseOffsets.map check ≠ [] :=
    fun _ => List.cons_ne_nil _ _
  obtain ⟨_, _, _, _, _, _, _, _, _, _, _⟩ := r
  -- No part of the list is empty once it is wanted, so each one tells that its flag is off.
  simp only [checks, List.append_eq_nil_iff, onlyIf_eq_nil_iff (List.cons_ne_nil _ _),
    onlyIf_eq_nil_iff (houses _), none, mk.injEq]
  tauto

end TileRequirements

/-! ## Usable tiles -/

/-- The game supports the length of the animation. -/
def Animation.Supported (animation : Animation) : Prop :=
  1 ≤ animation.length.toNat ∧ animation.length.toNat ≤ 253

instance (animation : Animation) : Decidable animation.Supported :=
  inferInstanceAs (Decidable (_ ∧ _))

theorem Animation.supported_iff {animation : Animation} : animation.Supported ↔
    ¬(animation.length = 0 ∨ maxAnimationLength < animation.length) := by
  rw [Supported, not_or, ← UInt16.toNat_inj, UInt16.lt_iff_toNat_lt]
  show _ ↔ ¬animation.length.toNat = 0 ∧ ¬253 < animation.length.toNat
  omega

namespace Tile

variable {tile : Tile} {animation : Animation}

/-- There are no land shape flags, or no check beside them that makes the game ignore them. -/
def FlagsCount (tile : Tile) : Prop :=
  tile.landShapeFlags = noLandShapeFlags ∨ tile.requirements = .none

/-- The game can use the tile. -/
structure Usable (tile : Tile) : Prop where
  flags : tile.FlagsCount
  animation : tile.animation.Supported

/-- The result for a tile that is submitted: a usable one is taken as it is. Of one that is not,
flags that do not count are told, and only of others the length of the animation. -/
structure Judged (tile : Tile) (result : Except Refusal Tile) : Prop where
  ok : result = .ok tile ↔ tile.Usable
  flags : result = .error (.landShapeFlagsIgnored tile.id) ↔ ¬tile.FlagsCount
  length : result = .error (.animationLength tile.id tile.animation.length) ↔
    tile.FlagsCount ∧ ¬tile.animation.Supported

theorem flagsCount_iff : tile.FlagsCount ↔
    ¬(tile.landShapeFlags ≠ noLandShapeFlags ∧ tile.requirements.checks ≠ []) := by
  rw [FlagsCount, ← TileRequirements.checks_eq_nil_iff, not_and_or, not_not, not_not]

theorem judged_validate (tile : Tile) : tile.Judged tile.validate := by
  by_cases flags : tile.FlagsCount
  · by_cases supported : tile.animation.Supported
    · have taken : tile.validate = .ok tile := by
        rw [validate, if_neg (flagsCount_iff.1 flags), if_neg (Animation.supported_iff.1 supported)]
      rw [taken]
      exact ⟨iff_of_true rfl ⟨flags, supported⟩, iff_of_false nofun (not_not.2 flags),
        iff_of_false nofun fun refused => refused.2 supported⟩
    · have refused : tile.validate = .error (.animationLength tile.id tile.animation.length) := by
        rw [validate, if_neg (flagsCount_iff.1 flags),
          if_pos (not_not.1 (mt Animation.supported_iff.2 supported))]
      rw [refused]
      exact ⟨iff_of_false nofun fun usable => supported usable.animation,
        iff_of_false nofun (not_not.2 flags), iff_of_true rfl ⟨flags, supported⟩⟩
  · have refused : tile.validate = .error (.landShapeFlagsIgnored tile.id) := by
      rw [validate, if_pos (not_not.1 (mt flagsCount_iff.2 flags))]
    rw [refused]
    exact ⟨iff_of_false nofun fun usable => flags usable.flags, iff_of_true rfl flags,
      iff_of_false nofun fun refused => flags refused.1⟩

/-- A tile that is taken is usable, and is taken as it is. -/
theorem Judged.of_ok {next : Tile} {result : Except Refusal Tile} (judged : tile.Judged result)
    (taken : result = .ok next) : tile = next ∧ tile.Usable := by
  subst taken
  by_cases flags : tile.FlagsCount
  · by_cases supported : tile.animation.Supported
    · cases judged.ok.2 ⟨flags, supported⟩
      exact ⟨rfl, flags, supported⟩
    · cases judged.length.2 ⟨flags, supported⟩
  · cases judged.flags.2 flags

/-! ## How tiles are made -/

theorem read_codec (source : Source) :
    Tile.codec.read source =
      declarationCodec.read source >>= fun tile => tile.validate.mapError .refused := by
  show (declarationCodec.read source >>= _) = _
  refine congrArg _ (funext fun tile => ?_)
  cases tile.validate <;> rfl

/-- The tiles that are made: with flags and checks, with checks only, from a declaration, and from
another one with an animation. -/
inductive Made : Tile → Prop
  | create {id : TileId} {landShapeFlags : String} {requirements : TileRequirements} {tile : Tile}
      (taken : Tile.create id landShapeFlags requirements = .ok tile) : Made tile
  | ofRequirements (id : TileId) (requirements : TileRequirements) :
      Made (.ofRequirements id requirements)
  | declared {source : Source} {tile : Tile} (read : Tile.codec.read source = .ok tile) : Made tile
  | withAnimation {tile next : Tile} {animation : Animation} (made : Made tile)
      (taken : tile.withAnimation animation = .ok next) : Made next

theorem usable_of_validate {next : Tile} (taken : tile.validate = .ok next) : next.Usable := by
  obtain ⟨rfl, usable⟩ := (judged_validate tile).of_ok taken
  exact usable

theorem Made.usable (made : Made tile) : tile.Usable := by
  cases made with
  | create taken => exact usable_of_validate taken
  | ofRequirements id requirements => exact ⟨.inl rfl, (by decide : Animation.Supported {})⟩
  | declared read =>
    rw [read_codec] at read
    obtain ⟨declared, _, taken⟩ := bind_eq_ok.1 read
    exact usable_of_validate (mapError_eq_ok.1 taken)
  -- The whole tile is checked again, so nothing need be known of it before.
  | withAnimation _ taken => exact usable_of_validate taken

/-! ## One animation after the other -/

/-- Whether flags count does not depend on the animation. -/
theorem FlagsCount.animated (flags : tile.FlagsCount) (animation : Animation) :
    FlagsCount { tile with animation } := flags

theorem withAnimation_of_supported (flags : tile.FlagsCount) (supported : animation.Supported) :
    tile.withAnimation animation = .ok { tile with animation } :=
  (judged_validate { tile with animation }).ok.2 ⟨flags.animated animation, supported⟩

theorem withAnimation_of_not_supported (flags : tile.FlagsCount)
    (unsupported : ¬animation.Supported) :
    tile.withAnimation animation = .error (.animationLength tile.id animation.length) :=
  (judged_validate { tile with animation }).length.2
    ⟨flags.animated animation, unsupported⟩

/-- Of several animations that the game supports, the tile keeps the last one. -/
theorem foldlM_withAnimation {animations : List Animation} (flags : tile.FlagsCount)
    (supported : ∀ animation ∈ animations, animation.Supported) :
    animations.foldlM withAnimation tile =
      .ok { tile with animation := animations.getLast?.getD tile.animation } := by
  induction animations generalizing tile with
  | nil => rfl
  | cons animation rest ih =>
    obtain ⟨first, supported⟩ := List.forall_mem_cons.1 supported
    rw [List.foldlM_cons, withAnimation_of_supported flags first]
    show rest.foldlM withAnimation { tile with animation } = _
    rw [ih (flags.animated animation) supported, List.getLast?_cons]
    rfl

/-- The first animation that the game does not support ends everything. -/
theorem foldlM_withAnimation_of_error {before after : List Animation} (flags : tile.FlagsCount)
    (supported : ∀ earlier ∈ before, earlier.Supported) (unsupported : ¬animation.Supported) :
    (before ++ animation :: after).foldlM withAnimation tile =
      .error (.animationLength tile.id animation.length) := by
  rw [List.foldlM_append, foldlM_withAnimation flags supported]
  show (animation :: after).foldlM withAnimation _ = _
  rw [List.foldlM_cons, withAnimation_of_not_supported (flags.animated _) unsupported]
  rfl

/-! ## Tiles with land shape flags -/

/-- A tile whose flags count has no checks, wherever it lies. -/
theorem Usable.chain_rules (usable : tile.Usable) (flags : tile.landShapeFlags ≠ noLandShapeFlags)
    (industry : String) : (tile.chain industry).rules = [] := by
  have none : tile.requirements = .none := usable.flags.resolve_left flags
  rw [Tile.chain, TileRequirements.chain, TileRequirements.checks_eq_nil_iff.2 none, Chain.build,
    Chain.sort, List.mergeSort_nil]
  rfl

/-- So its callback allows every location. -/
theorem Usable.chain_start (usable : tile.Usable) (flags : tile.landShapeFlags ≠ noLandShapeFlags)
    (industry : String) : (tile.chain industry).start = .stop .allow := by
  rw [Chain.start, Chain.entryPoint?, usable.chain_rules flags]
  rfl

/-- However a tile is made, it is taken just if it is usable, and else refused for its flags or, if
these count, for the length of its animation. So every tile that is made is usable, keeps that with
every animation it is given, and allows every location if it has land shape flags. -/
theorem constructors_judged :
    (∀ id landShapeFlags requirements, Judged { id, landShapeFlags, requirements }
      (Tile.create id landShapeFlags requirements)) ∧
    (∀ source tile, declarationCodec.read source = .ok tile →
      ∃ result, Judged tile result ∧ Tile.codec.read source = result.mapError .refused) ∧
    (∀ (tile : Tile) (animation : Animation),
      Judged { tile with animation } (tile.withAnimation animation)) ∧
    ∀ tile, Made tile → tile.Usable ∧
      (∀ animations : List Animation, (∀ animation ∈ animations, animation.Supported) →
        animations.foldlM withAnimation tile =
          .ok { tile with animation := animations.getLast?.getD tile.animation }) ∧
      (∀ (before : List Animation) (animation : Animation) (after : List Animation),
        (∀ earlier ∈ before, earlier.Supported) → ¬animation.Supported →
        (before ++ animation :: after).foldlM withAnimation tile =
          .error (.animationLength tile.id animation.length)) ∧
      (tile.landShapeFlags ≠ noLandShapeFlags → ∀ industry, (tile.chain industry).rules = [] ∧
        (tile.chain industry).start = .stop .allow) := by
  refine ⟨fun _ _ _ => judged_validate _, fun source tile read => ?_,
    fun _ _ => judged_validate _, fun tile made => ?_⟩
  · refine ⟨tile.validate, judged_validate tile, ?_⟩
    rw [read_codec, read]
    rfl
  · have usable := made.usable
    exact ⟨usable, fun _ => foldlM_withAnimation usable.flags,
      fun _ _ _ => foldlM_withAnimation_of_error usable.flags, fun flags industry =>
        ⟨usable.chain_rules flags industry, usable.chain_start flags industry⟩⟩

/-- A tile of a wharf that lies on flat land only. -/
def flatWharf : Tile where
  id := "wharf_tile_1"
  landShapeFlags := "bitmask(LSF_ONLY_ON_FLAT_LAND)"
  requirements := .none

/-- Its declaration, in which the checks are left out, so that the founder check is wanted. -/
def flatWharfSource : Source :=
  .datum (.object [("id", .text "wharf_tile_1"),
    ("land_shape_flags", .text "bitmask(LSF_ONLY_ON_FLAT_LAND)")])

theorem constructors_judged_flatWharf :
    Tile.create "wharf_tile_1" "bitmask(LSF_ONLY_ON_FLAT_LAND)" .none = .ok flatWharf ∧
    declarationCodec.read flatWharfSource = .ok { flatWharf with requirements := {} } ∧
    Tile.codec.read flatWharfSource = .error (.refused (.landShapeFlagsIgnored "wharf_tile_1")) ∧
    [{ length := 253 }, { length := 4 }].foldlM withAnimation flatWharf =
      .ok { flatWharf with animation := { length := 4 } } ∧
    [{ length := 253 }, { length := 254 }, { length := 0 }].foldlM withAnimation flatWharf =
      .error (.animationLength "wharf_tile_1" 254) ∧
    (flatWharf.chain "wharf").start = .stop .allow := by
  obtain ⟨created, declared, _, everyMade⟩ := constructors_judged
  have taken : Tile.create "wharf_tile_1" "bitmask(LSF_ONLY_ON_FLAT_LAND)" .none = .ok flatWharf :=
    (created _ _ _).ok.2 ⟨.inr rfl, by decide⟩
  have read : declarationCodec.read flatWharfSource =
      .ok { flatWharf with requirements := {} } := by
    decide +kernel
  obtain ⟨result, judged, same⟩ := declared _ _ read
  obtain ⟨_, kept, refused, chain⟩ := everyMade flatWharf (.create taken)
  refine ⟨taken, read, ?_, kept _ (by decide), refused [_] _ [_] (by decide) (by decide),
    (chain (by decide) _).2⟩
  rw [same, judged.flags.2 (by unfold FlagsCount; decide)]
  rfl

end Tile

end IndustrySet
