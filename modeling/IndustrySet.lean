import IndustrySet.Cargo
import IndustrySet.Command.Arguments
import IndustrySet.Command.Run
import IndustrySet.Configuration
import IndustrySet.Declaration.Codec
import IndustrySet.Declaration.LocationCheck
import IndustrySet.Declaration.Ron.Basic
import IndustrySet.Declaration.Ron.Reader
import IndustrySet.Declaration.Ron.Token
import IndustrySet.Declaration.Schema
import IndustrySet.Declaration.Source
import IndustrySet.Dictionary
import IndustrySet.Economy
import IndustrySet.Error
import IndustrySet.FileTree
import IndustrySet.Fragment.Cargo
import IndustrySet.Fragment.Graphics
import IndustrySet.Fragment.Industry
import IndustrySet.Fragment.Tile
import IndustrySet.Generation
import IndustrySet.Graphics
import IndustrySet.Graphics.HideCondition
import IndustrySet.Graphics.Layout
import IndustrySet.Graphics.Smoke
import IndustrySet.Graphics.Sprite
import IndustrySet.Industry.Basic
import IndustrySet.Industry.Cargos
import IndustrySet.Industry.Consistency
import IndustrySet.Industry.Kind
import IndustrySet.Industry.Sprites
import IndustrySet.Industry.Texts
import IndustrySet.Language
import IndustrySet.Loading
import IndustrySet.Location.Chain
import IndustrySet.Location.Industry
import IndustrySet.Location.Rule
import IndustrySet.Location.Tile
import IndustrySet.Main
import IndustrySet.Nml.Block
import IndustrySet.Nml.Item
import IndustrySet.Nml.Spritelayout
import IndustrySet.Nml.Switch
import IndustrySet.Nml.Value
import IndustrySet.Proofs.Boosts
import IndustrySet.Proofs.Callbacks
import IndustrySet.Proofs.CargoLabels
import IndustrySet.Proofs.CargoLimits
import IndustrySet.Proofs.CheckNumbers
import IndustrySet.Proofs.CodecLaws
import IndustrySet.Proofs.Consistency
import IndustrySet.Proofs.DateVariations
import IndustrySet.Proofs.Dictionaries
import IndustrySet.Proofs.EconomyLines
import IndustrySet.Proofs.EconomyPlayback
import IndustrySet.Proofs.EconomyTexts
import IndustrySet.Proofs.EmptiedProperties
import IndustrySet.Proofs.Fallible
import IndustrySet.Proofs.FileWrites
import IndustrySet.Proofs.FilledEconomies
import IndustrySet.Proofs.Flattening
import IndustrySet.Proofs.ForcedProperties
import IndustrySet.Proofs.FullRun
import IndustrySet.Proofs.GenerateCommand
import IndustrySet.Proofs.GraphicsBlocks
import IndustrySet.Proofs.GraphicsDispatch
import IndustrySet.Proofs.GraphicsReferences
import IndustrySet.Proofs.IndustryBlocks
import IndustrySet.Proofs.IndustryItems
import IndustrySet.Proofs.IndustryReferences
import IndustrySet.Proofs.LandShapes
import IndustrySet.Proofs.LanguageFiles
import IndustrySet.Proofs.LayoutNumbers
import IndustrySet.Proofs.Lines
import IndustrySet.Proofs.LoadingOrder
import IndustrySet.Proofs.LocationNames
import IndustrySet.Proofs.LocationOrder
import IndustrySet.Proofs.LocationPhases
import IndustrySet.Proofs.LocationWalk
import IndustrySet.Proofs.Omission
import IndustrySet.Proofs.OutputPlaces
import IndustrySet.Proofs.Places
import IndustrySet.Proofs.Playback
import IndustrySet.Proofs.PropertyLookup
import IndustrySet.Proofs.PropertyPrecedence
import IndustrySet.Proofs.PropertyValues
import IndustrySet.Proofs.Registration
import IndustrySet.Proofs.RegistrationOrder
import IndustrySet.Proofs.Registries
import IndustrySet.Proofs.Resolution
import IndustrySet.Proofs.RoundTrip
import IndustrySet.Proofs.Runs
import IndustrySet.Proofs.SingleIndustry
import IndustrySet.Proofs.SiteOrder
import IndustrySet.Proofs.SpritesetReferences
import IndustrySet.Proofs.StringDeclarations
import IndustrySet.Proofs.TileAcceptance
import IndustrySet.Proofs.UsableTiles
import IndustrySet.Proofs.VariationCalls
import IndustrySet.Proofs.Variations
import IndustrySet.Proofs.Warnings
import IndustrySet.Proofs.WindowTexts
import IndustrySet.Proofs.WrittenBlocks
import IndustrySet.Proofs.WrittenConditions
import IndustrySet.Proofs.WrittenLines
import IndustrySet.Proofs.WrittenNumbers
import IndustrySet.Proofs.WrittenProperties
import IndustrySet.Property.Basic
import IndustrySet.Property.Key
import IndustrySet.Property.Value
import IndustrySet.Registry
import IndustrySet.Text.Blank
import IndustrySet.Text.CaseTable
import IndustrySet.Text.Column
import IndustrySet.Text.Lines
import IndustrySet.Text.Lowercase
import IndustrySet.Text.Path
import IndustrySet.Tile
import IndustrySet.Update
