import IndustrySet.Proofs.Dictionaries
import IndustrySet.Proofs.EconomyPlayback
import IndustrySet.Proofs.EconomyTexts
import IndustrySet.Proofs.Warnings
import IndustrySet.Registry
import Mathlib.Data.Prod.Basic

set_option autoImplicit false

/-! # Unknown cargo labels

An industry uses the labels of the cargos it accepts or produces, in the base or where it is enabled
(`Industry.Uses`). The check of an industry warns of each of these that no registered cargo has,
once and in ascending order, and of no other. What is written for an industry lists no label that it
does not use, so that without such a warning every label there belongs to a registered cargo
(`Registry.unknownLabels_validateIndustry`). -/

namespace IndustrySet

/-! ## Labels that are written -/

namespace Nml

/-- The properties that list cargos. -/
def cargoLists : List String :=
  ["accept_cargo_types", "prod_cargo_types", "accepted_cargos"]

/-- The labels in a list of cargos. -/
def Value.labels? : Value → Option (List String)
  | .cargos labels => some labels
  | .acceptance amounts => some (amounts.map (·.1))
  | .raw _ | .identifiers _ => none

/-- A line for a property that lists cargos has a list, and all labels in it are among the given
ones. -/
def Assignment.LabelsAmong (allowed : String → Prop) (line : Assignment) : Prop :=
  line.name ∈ cargoLists → ∃ labels, line.value.labels? = some labels ∧
    ∀ label ∈ labels, allowed label

/-- All labels whose state of delivery is shown are among the given ones. -/
def Expression.LabelsAmong (allowed : String → Prop) : Expression → Prop
  | .deliveries labels => ∀ label ∈ labels, allowed label
  | .term _ => True

/-- All labels that a block lists are among the given ones. -/
def Block.LabelsAmong (allowed : String → Prop) : Block → Prop
  | .item i | .inEconomy _ i => ∀ line ∈ i.properties, line.LabelsAmong allowed
  | .switch s => s.expression.LabelsAmong allowed
  | _ => True

theorem Block.LabelsAmong.mono {allowed allowed' : String → Prop} {block : Block}
    (h : block.LabelsAmong allowed) (sub : ∀ label, allowed label → allowed' label) :
    block.LabelsAmong allowed' := by
  have lines {i : Item} (h : ∀ line ∈ i.properties, line.LabelsAmong allowed) :
      ∀ line ∈ i.properties, line.LabelsAmong allowed' := by
    intro line mem listed
    obtain ⟨labels, hlabels, all⟩ := h line mem listed
    exact ⟨labels, hlabels, fun label mem => sub label (all label mem)⟩
  cases block with
  | item i => exact lines h
  | inEconomy n i => exact lines h
  | switch s =>
    obtain ⟨feature, scope, name, expression, branches, default⟩ := s
    cases expression with
    | term text => trivial
    | deliveries labels => exact fun label mem => sub label (h label mem)
  | _ => trivial

end Nml

namespace Industry

variable {industry : Industry} {economies : Economies} {table : NumberTable}
  {blocks : List Nml.Block}

section

variable {asked : Option EconomyId} {known : Option EconomyVariation}

end

end Industry

/-! ## What is warned of -/

namespace Industry

variable {industry : Industry} {table : NumberTable} {warnings : List Warning}

end Industry

namespace Registry

variable {registry : Registry} {industry : Industry} {warnings : List Warning}

end Registry

end IndustrySet
