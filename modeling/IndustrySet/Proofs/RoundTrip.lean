import IndustrySet.Declaration.Schema
import IndustrySet.Proofs.CodecLaws

set_option autoImplicit false

/-! # Declarations that are written and read again

Every type that is declared has a lawful codec, but for tiles: these are read back if the game can
use them. So a declared industry with such tiles survives (`IndustryDeclaration.read_shortened`). -/

namespace IndustrySet

namespace Fields

variable {α β σ : Type}

instance {fields : Fields σ (Option β → α)} {value : σ → Option β → α} [Lawful fields value]
    {name : String} {get : σ → Option β} {c : Codec β} [c.Lawful] [c.Solid] :
    Lawful (fields.maybe name get c) fun s => value s (get s) :=
  inferInstanceAs (Lawful (fields.optional name get c.option none) _)

instance {fields : Fields σ (List β → α)} {value : σ → List β → α} [Lawful fields value]
    {name : String} {get : σ → List β} {c : Codec β} [c.Lawful] :
    Lawful (fields.many name get c) fun s => value s (get s) :=
  inferInstanceAs (Lawful (fields.optional name get c.list []) _)

end Fields

/-! ## The configuration, economies and cargos -/

instance : Configuration.codec.Lawful := .record (by decide) fun _ => rfl

instance : Economy.codec.Lawful := .record (by decide) fun _ => rfl

instance : Cargo.codec.Lawful := .record (by decide) fun _ => rfl

/-! ## Properties -/

instance : PropertyKey.codec.Lawful := .enumeration PropertyKey.mem_all (by decide +kernel)

instance : PropertyValue.codec.Lawful where
  survives value := .of_whole rfl <| by
    cases value with
    | text expression => exact Codec.readSingle_eq_ok .text PropertyValue.text expression
    | int n => exact Codec.readSingle_eq_ok .int64 PropertyValue.int n
    | bool b => exact Codec.readSingle_eq_ok .bool PropertyValue.bool b
    | textList labels => exact Codec.readSingle_eq_ok (.list .text) PropertyValue.textList labels
    | cargoRatios ratios =>
      exact Codec.readSingle_eq_ok (.list (.pair .text .uint32)) PropertyValue.cargoRatios ratios

instance : Properties.codec.Lawful := by
  refine ⟨fun properties left short => ?_⟩
  obtain ⟨fields, found, rfl, order, read⟩ :=
    Codec.exists_entries PropertyKey.codec.read PropertyKey.declaredName Codec.Lawful.read_write
      (fun entry _ => Codec.Lawful.survives entry.2) short
  refine bind_eq_ok.2 ⟨_, rfl, bind_eq_ok.2 ⟨found, read, ?_⟩⟩
  exact congrArg Except.ok (Properties.ofList_perm_toList order)

/-! ## Location checks -/

instance : TileRequirements.codec.Lawful := .record (by decide) fun _ => rfl

instance : ClusterRequirement.codec.Lawful := .record (by decide) fun _ => rfl

instance : ClusterRequirement.codec.Solid := inferInstanceAs (Codec.recordWith ..).Solid

instance : SiteRequirements.codec.Lawful := .record (by decide) fun _ => rfl

/-! ## Tiles -/

instance : AnimationControl.codec.Lawful := .record (by decide) fun _ => rfl

instance : AnimationControl.codec.Solid := inferInstanceAs (Codec.recordWith ..).Solid

instance : Animation.codec.Lawful := .record (by decide) fun _ => rfl

-- What may be left out of an animation, and where there are such parts in it.
example : Animation.codec.shape =
    .record [("length", .whole, some (.int 1)), ("looping", .whole, some (.bool false)),
      ("speed", .whole, some (.int 0)), ("custom_next_frame", .whole, some .null),
      ("custom_control",
        .record [("macro_name", .whole, none), ("triggers", .whole, none)], some .null)] := rfl

instance : Tile.declarationCodec.Lawful := .record (by decide) fun _ => rfl

/-- A check does not change the tile. -/
theorem Tile.validate_eq_ok {tile : Tile} (usable : tile.validate.isOk = true) :
    tile.validate = .ok tile := by
  unfold validate at usable ⊢
  split_ifs at usable ⊢ with flags length
  · cases usable
  · cases usable
  · rfl

/-- A tile survives if the game can use it. -/
theorem Tile.survives {tile : Tile} (usable : tile.validate = .ok tile) :
    Tile.codec.Survives tile :=
  .checked (Codec.Lawful.survives tile) usable

/-! ## Graphics -/

instance : Sprite.codec.Lawful := .record (by decide) fun _ => rfl

instance : SmokeType.codec.Lawful := .enumeration (fun t => by cases t <;> decide) (by decide)

instance : SmokeSprite.codec.Lawful := .record (by decide) fun _ => rfl

instance : GroundType.codec.Lawful := .enumeration (fun t => by cases t <;> decide) (by decide)

instance : GroundType.codec.Solid := inferInstanceAs (Codec.enumeration ..).Solid

instance : SpriteRect.codec.Lawful where
  survives r := .of_whole rfl <| by
    refine bind_eq_ok.2 ⟨_, rfl, ?_⟩
    simp only [Codec.Lawful.read_write, List.map]
    rfl

instance : Spriteset.codec.Lawful := .record (by decide) fun _ => rfl

instance : SpriteRef.codec.Lawful where
  survives r := .of_whole rfl <| by
    cases r with
    | spriteset id => exact Codec.readSingle_eq_ok .text SpriteRef.spriteset id
    | sprite index => exact Codec.readSingle_eq_ok .uint64 SpriteRef.sprite index

instance : FenceSide.codec.Lawful := ⟨fun side => .of_whole rfl (by cases side <;> rfl)⟩

instance : Spritelayout.codec.Lawful := .record (by decide) fun _ => rfl

instance : SlopeSwitch.codec.Lawful := .record (by decide) fun _ => rfl

instance : LayoutPosition.codec.Lawful where
  survives p := .of_whole rfl <| by
    refine bind_eq_ok.2 ⟨_, rfl, ?_⟩
    simp only [Codec.Lawful.read_write, List.map]
    rfl

instance : Layout.codec.Lawful := .record (by decide) fun _ => rfl

instance : Graphics.codec.Lawful := .record (by decide) fun _ => rfl

/-! ## Industries -/

instance : Kind.secondaryCodec.Lawful := .recordWith (by decide) fun _ => rfl

/-- What is left of a kind with fields is the kind with what is left of these. -/
theorem Kind.survives_secondary (combined mnsp : Bool) :
    Kind.codec.Survives (.secondary combined mnsp) := by
  intro left short
  obtain ⟨inOrder, given, rfl, order, short⟩ := short.of_record rfl
  cases short with
  | keep short rest =>
    cases rest with
    | nil =>
      obtain ⟨_, fields, rfl, _⟩ := Shortened.of_record rfl short
      have read := Codec.Lawful.survives (c := Kind.secondaryCodec) (combined, mnsp) _ short
      rw [← List.singleton_perm.1 order]
      refine bind_eq_ok.2 ⟨("Secondary", _), rfl, ?_⟩
      exact bind_eq_ok.2 ⟨_, rfl, bind_eq_ok.2 ⟨_, read, rfl⟩⟩

instance : Kind.codec.Lawful where
  survives kind left short := by
    cases kind with
    | secondary combined mnsp => exact Kind.survives_secondary combined mnsp left short
    | _ =>
      rw [short.eq_of_text]
      rfl

instance : EconomyVariation.codec.Lawful := .record (by decide) fun _ => rfl

namespace IndustryDeclaration

theorem survives {declaration : IndustryDeclaration}
    (usable : ∀ tile ∈ declaration.tiles, tile.validate = .ok tile) :
    codec.Survives declaration := by
  obtain ⟨id, numericId, kind, properties, economies, requirements, dates, tiles, graphics⟩ :=
    declaration
  -- All codecs of fields are lawful but that of tiles, which come last but one.
  refine .recordWith (by decide) ?_
  refine .field ?_ "graphics" (Codec.Lawful.survives _) fun given _ => Codec.Lawful.survives given
  refine .field ?_ "tiles" ?_ fun given none => ?_
  · exact .of_lawful rfl
  · exact .list fun tile mem => Tile.survives (usable tile mem)
  · cases none
    exact .list fun _ mem => absurd mem List.not_mem_nil

/-- A declaration whose tiles the game can use is read back from what is written, whatever fields
that have their default are left out, at whatever depth. -/
theorem read_shortened {declaration : IndustryDeclaration}
    (usable : ∀ tile ∈ declaration.tiles, tile.validate.isOk = true) {left : Datum}
    (short : Shortened codec.shape (codec.write declaration) left) :
    codec.read (.datum left) = .ok declaration :=
  survives (fun tile mem => Tile.validate_eq_ok (usable tile mem)) left short

/-- A windmill that is animated and belongs to one economy. -/
def windmill : IndustryDeclaration where
  id := "windmill"
  numericId := 40
  kind := .secondary true false
  properties := .empty
  economies := .ofList [("FIRS", { enabled := true })]
  requirements := {}
  graphicsChangeDates := []
  tiles := [{ id := "windmill_tile", animation := { length := 4, speed := 2 } }]
  graphics := {}

/-- The windmill without any field that has its default. -/
def shortWindmill : Datum :=
  .object
    [("id", .text "windmill"), ("numeric_id", .int 40),
     ("kind", .object [("Secondary", .object [("combined_cargos_boost_prod", .bool true)])]),
     ("economies", .object [("FIRS", .object [("enabled", .bool true)])]),
     ("tiles", .list [.object
       [("id", .text "windmill_tile"),
        ("animation", .object [("length", .int 4), ("speed", .int 2)])]])]

theorem shortened_windmill : Shortened codec.shape (codec.write windmill) shortWindmill := by
  have kind : Shortened Kind.codec.shape (Kind.codec.write windmill.kind)
      (.object [("Secondary", .object [("combined_cargos_boost_prod", .bool true)])]) :=
    .record (.keep (.record (.keep (.same _ _) (.leave .nil)) .rfl) .nil) .rfl
  have variation : Shortened EconomyVariation.codec.shape
      (EconomyVariation.codec.write { enabled := true }) (.object [("enabled", .bool true)]) :=
    .record (.keep (.same _ _) (.leave .nil)) .rfl
  have animation : Shortened Animation.codec.shape
      (Animation.codec.write { length := 4, speed := 2 })
      (.object [("length", .int 4), ("speed", .int 2)]) :=
    .record (.keep (.same _ _) (.leave (.keep (.same _ _) (.leave (.leave .nil))))) .rfl
  have tile : Shortened Tile.codec.shape
      (Tile.codec.write { id := "windmill_tile", animation := { length := 4, speed := 2 } })
      (.object [("id", .text "windmill_tile"),
        ("animation", .object [("length", .int 4), ("speed", .int 2)])]) :=
    .record (.keep (.same _ _) (.leave (.leave (.leave (.leave (.leave (.keep animation .nil)))))))
      .rfl
  -- Of the nine fields are left out the properties, the two before the tiles, and the graphics.
  exact .record (.keep (.same _ _) (.keep (.same _ _) (.keep kind (.leave
    (.keep (.map (.keep variation .nil) .rfl) (.leave (.leave
      (.keep (.list (.cons tile .nil)) (.leave .nil))))))))) .rfl

theorem read_shortened_windmill :
    (∀ tile ∈ windmill.tiles, tile.validate.isOk = true) ∧
      Shortened codec.shape (codec.write windmill) shortWindmill ∧
      codec.read (.datum shortWindmill) = .ok windmill :=
  have usable : ∀ tile ∈ windmill.tiles, tile.validate.isOk = true := by decide
  ⟨usable, shortened_windmill, read_shortened usable shortened_windmill⟩

end IndustryDeclaration

end IndustrySet
