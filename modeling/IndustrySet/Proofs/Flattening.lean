import IndustrySet.Industry.Texts
import IndustrySet.Proofs.PropertyLookup

set_option autoImplicit false

/-! # An industry as it is in one economy

Laying the overrides of an economy over the base properties gives an industry without economies, the
flattened one. Asking an industry something for the economy is asking the flattened industry for its
base (`answersAs_flattened`): whatever is asked is found out from single properties, all of them for
the economy asked for (`answersAs_of_property`), and looking up a property is looking it up in the
laid over set (`Properties.resolve_merge`). -/

namespace IndustrySet

/-- Looking up a property with overrides is looking it up with the overrides laid over the base. -/
theorem Properties.resolve_merge (base overrides : Properties) (key : PropertyKey) :
    resolve base (some overrides) key = (base.merge overrides).get? key :=
  rfl

namespace Industry

/-- The industry with the overrides of a variation laid over its base properties. -/
def flattened (industry : Industry) (variation : EconomyVariation) : Industry :=
  { industry with properties := industry.properties.merge variation.properties }

/-- Whatever an industry is asked for an economy or for the base, it answers, or fails to answer, as
another industry does when asked the same for another economy or for its base. -/
structure AnswersAs (industry : Industry) (asked : Option EconomyId) (other : Industry)
    (otherAsked : Option EconomyId) : Prop where
  property (key : PropertyKey) : industry.property key asked = other.property key otherAsked
  declaration? (key : PropertyKey) :
    industry.declaration? key asked = other.declaration? key otherAsked
  introYear : industry.introYear asked = other.introYear otherAsked
  expiryYear : industry.expiryYear asked = other.expiryYear otherAsked
  processedCargos : industry.processedCargos asked = other.processedCargos otherAsked
  acceptedCargos : industry.acceptedCargos asked = other.acceptedCargos otherAsked
  acceptDeclaration : industry.acceptDeclaration asked = other.acceptDeclaration otherAsked
  producedCargos : industry.producedCargos asked = other.producedCargos otherAsked
  prodDeclaration : industry.prodDeclaration asked = other.prodDeclaration otherAsked
  outputRatio : industry.outputRatio asked = other.outputRatio otherAsked
  prodRatio (n : Nat) : industry.prodRatio n asked = other.prodRatio n otherAsked
  boost (supplied boosted : Nat) :
    industry.boost supplied boosted asked = other.boost supplied boosted otherAsked
  fundTexts : industry.fundTexts asked = other.fundTexts otherAsked
  extraTextFund : industry.extraTextFund asked = other.extraTextFund otherAsked
  extraTextString? : industry.extraTextString? asked = other.extraTextString? otherAsked
  /-- The text for the states of delivery, made of the labels of the processed cargos. -/
  deliveryStores : (industry.deliveryLabels asked).map Nml.deliveryStores =
    (other.deliveryLabels otherAsked).map Nml.deliveryStores

section

variable {industry other : Industry} {asked otherAsked : Option EconomyId}

/-- Industries of one kind with the same properties answer alike. -/
theorem answersAs_of_property (kind : industry.kind = other.kind)
    (property : ∀ key, industry.property key asked = other.property key otherAsked) :
    industry.AnswersAs asked other otherAsked := by
  -- In the order in which they are made of each other.
  have labels (key : PropertyKey) : industry.labels key asked = other.labels key otherAsked := by
    simp only [Industry.labels, property]
  have introYear : industry.introYear asked = other.introYear otherAsked := by
    simp only [Industry.introYear, property]
  have expiryYear : industry.expiryYear asked = other.expiryYear otherAsked := by
    simp only [Industry.expiryYear, property]
  have processed : industry.processedCargos asked = other.processedCargos otherAsked := by
    simp only [Industry.processedCargos, property]
  have accepted : industry.acceptedCargos asked = other.acceptedCargos otherAsked := by
    simp only [Industry.acceptedCargos, kind, processed, labels]
  have produced : industry.producedCargos asked = other.producedCargos otherAsked :=
    labels .prodCargoTypes
  have ratio (n : Nat) : industry.prodRatio n asked = other.prodRatio n otherAsked := by
    simp only [Industry.prodRatio, processed]
  have fundTexts : industry.fundTexts asked = other.fundTexts otherAsked := by
    simp only [Industry.fundTexts, introYear, expiryYear, property]
  exact {
    property := property
    declaration? := fun key => by simp only [Industry.declaration?, property]
    introYear := introYear
    expiryYear := expiryYear
    processedCargos := processed
    acceptedCargos := accepted
    acceptDeclaration := by simp only [Industry.acceptDeclaration, accepted]
    producedCargos := produced
    prodDeclaration := by simp only [Industry.prodDeclaration, produced]
    outputRatio := by simp only [Industry.outputRatio, produced]
    prodRatio := ratio
    boost := fun supplied boosted => by simp only [Industry.boost, kind, processed, ratio]
    fundTexts := fundTexts
    extraTextFund := by simp only [Industry.extraTextFund, fundTexts]
    extraTextString? := by simp only [Industry.extraTextString?, processed, property]
    deliveryStores := by simp only [Industry.deliveryLabels, processed] }

end

variable {industry : Industry} {economy : EconomyId} {variation : EconomyVariation}

/-- A property in an economy is the property of the flattened industry. -/
theorem property_flattened (known : industry.variations.get? economy = some variation)
    (key : PropertyKey) :
    industry.property key (some economy) = (industry.flattened variation).property key none := by
  calc industry.property key (some economy)
      = .ok (Properties.resolve industry.properties (some variation.properties) key) :=
        property_eq (variation_some known) key
    _ = .ok ((industry.flattened variation).properties.get? key) := by
        rw [Properties.resolve_merge, flattened]
    _ = (industry.flattened variation).property key none :=
        (property_eq (variation_none (industry.flattened variation)) key).symm

/-- Asking for an economy is asking the flattened industry for its base. -/
theorem answersAs_flattened (known : industry.variations.get? economy = some variation) :
    industry.AnswersAs (some economy) (industry.flattened variation) none ∧
      ∀ (base overrides : Properties) (key : PropertyKey),
        Properties.resolve base (some overrides) key = (base.merge overrides).get? key :=
  ⟨answersAs_of_property rfl (property_flattened known), Properties.resolve_merge⟩

/-- A paper mill whose inputs raise each other's output. In one economy it has other inputs, and a
year that is no number. -/
def paperMill : Industry :=
  (create "paper_mill" 8 (.secondary true false) (.ofList
    [(.introYear, .int 1900), (.expiryYear, .int 1990), (.prodCargoTypes, .textList ["PAPR"]),
     (.processedCargosAndOutputRatios, .cargoRatios [("WOOD", 8)])])).enableIn "FIRS" (.ofList
      [(.introYear, .text "late"), (.processedCargosAndOutputRatios,
        .cargoRatios [("WOOD", 6), ("RFPR", 2)])])

theorem answersAs_paperMill :
    ∃ variation, paperMill.variations.get? "FIRS" = some variation ∧
      paperMill.boost 1 2 (some "FIRS") = .ok 6 ∧ paperMill.boost 1 2 none = .ok 0 ∧
      (paperMill.flattened variation).boost 1 2 none = .ok 6 ∧
      paperMill.introYear (some "FIRS") = .ok 0 ∧ paperMill.introYear none = .ok 1900 ∧
      (paperMill.flattened variation).introYear none = .ok 0 ∧
      (paperMill.flattened variation).expiryYear none = .ok 1990 := by
  obtain ⟨variation, known⟩ : ∃ variation, paperMill.variations.get? "FIRS" = some variation :=
    ⟨_, rfl⟩
  obtain ⟨alike, -⟩ := answersAs_flattened known
  refine ⟨variation, known, by decide +kernel, by decide +kernel, ?_, by decide +kernel,
    by decide +kernel, ?_, ?_⟩
  · exact (alike.boost 1 2).symm.trans (by decide +kernel)
  · exact alike.introYear.symm.trans (by decide +kernel)
  · exact alike.expiryYear.symm.trans (by decide +kernel)

end Industry

end IndustrySet
