import IndustrySet.Proofs.Registries

set_option autoImplicit false

/-! # Runs of registrations

Economies are registered first, then cargos and industries in any order, and some of the calls may
be refused. Whatever the calls, a registry holds just what was accepted, in order, nothing is taken
twice, and the index, the variations and the warnings fit the industries (`invariant_runAll`). -/

namespace IndustrySet

/-- What is submitted to a registry. -/
inductive Submission
  | cargo (cargo : Cargo)
  | industry (industry : Industry)

namespace Submission

/-- The cargo that is submitted, if it is one. -/
def cargo? : Submission → Option Cargo
  | .cargo submitted => some submitted
  | .industry _ => none

/-- The industry that is submitted, if it is one. -/
def industry? : Submission → Option Industry
  | .cargo _ => none
  | .industry submitted => some submitted

end Submission

namespace Registry

/-- Registers what is submitted. -/
def submit : Submission → Update Registry Unit
  | .cargo cargo => enterCargo cargo
  | .industry industry => enterIndustry industry

/-- Is something of the submission taken, or does it name an economy that is not registered? -/
def Refuses (registry : Registry) : Submission → Prop
  | .cargo cargo => registry.cargos.Takes cargo
  | .industry industry =>
    registry.industries.Takes industry ∨ industry.hasUnknownEconomy registry.economies

/-- What holds of a registry after the submissions accepted. -/
structure Invariant (economies : Economies) (accepted : List Submission) (registry : Registry) :
    Prop where
  fixed : registry.economies = economies
  cargos : registry.cargos.Invariant (accepted.filterMap Submission.cargo?)
  industries : registry.industries.Invariant economies (accepted.filterMap Submission.industry?)

namespace Invariant

variable {economies : Economies} {accepted : List Submission} {registry next : Registry}
  {submission : Submission}

theorem create (economies : Economies) : Invariant economies [] (Registry.create economies) where
  fixed := rfl
  cargos := ⟨rfl, .nil, .nil, .nil⟩
  industries := .empty

/-- The economies are read first, which changes nothing. -/
theorem run_enterIndustry (industry : Industry) (registry : Registry) :
    (enterIndustry industry).run registry =
      (Update.onPart (·.industries) (fun registry industries => { registry with industries })
        (Industries.enter industry registry.economies)).run registry := rfl

/-- A registry refuses just what it cannot hold, and is then left as it was. -/
theorem submit_refusedIff (holds : Invariant economies accepted registry)
    (submission : Submission) :
    (Registry.submit submission).RefusedIff registry (registry.Refuses submission) := by
  cases submission with
  | cargo cargo => exact (Cargos.enter_refusedIff cargo registry.cargos).onPart rfl
  | industry industry =>
    have industries : Industries.Invariant registry.economies _ registry.industries :=
      holds.fixed ▸ holds.industries
    rw [Registry.submit, Update.RefusedIff, run_enterIndustry]
    exact (industries.enter_refusedIff industry).onPart rfl

theorem submit (holds : Invariant economies accepted registry)
    (run : (Registry.submit submission).run registry = .ok () next) :
    Invariant economies (accepted ++ [submission]) next := by
  cases submission with
  | cargo cargo =>
    rw [Registry.submit, enterCargo, Update.run_onPart] at run
    split at run
    · next cargos entered =>
      cases run
      refine ⟨holds.fixed, ?_, ?_⟩
      · rw [List.filterMap_append]
        exact holds.cargos.enter entered
      · rw [List.filterMap_append]
        simpa [List.filterMap_cons, Submission.industry?] using holds.industries
    · cases run
  | industry industry =>
    rw [Registry.submit, run_enterIndustry, Update.run_onPart, holds.fixed] at run
    split at run
    · next industries entered =>
      cases run
      refine ⟨rfl, ?_, ?_⟩
      · rw [List.filterMap_append]
        simpa [List.filterMap_cons, Submission.cargo?] using holds.cargos
      · rw [List.filterMap_append]
        exact holds.industries.enter entered
    · cases run

theorem runAll (economies : Economies) (submissions : List Submission) :
    let run := Update.runAll Registry.submit (Registry.create economies) submissions
    Invariant economies run.accepted run.state := by
  refine Update.runAll_invariant (Invariant economies) ?_ ?_ (create economies) submissions
  · intro before registry submission next holds run
    exact holds.submit run
  · intro before registry submission e after holds run
    exact (holds.submit_refusedIff submission).eq_of_error run ▸ holds

end Invariant

end Registry

/-! ## Economies -/

namespace Economies.Invariant

theorem start (standard : Bool) :
    let start := if standard then Economies.standard else .empty
    Economies.Invariant start [] start := by
  cases standard with
  | false => exact ⟨rfl, .nil, .nil⟩
  | true => exact ⟨rfl, by decide +kernel, by decide⟩

theorem runAll (standard : Bool) (calls : List Economy) :
    let start := if standard then Economies.standard else .empty
    let run := Update.runAll Economies.enter start calls
    Economies.Invariant start run.accepted run.state := by
  refine Update.runAll_invariant (Economies.Invariant _) ?_ ?_ (start standard) calls
  · intro before economies economy next holds run
    exact holds.enter run
  · intro before economies economy e after holds run
    exact (enter_refusedIff economy economies).eq_of_error run ▸ holds

end Economies.Invariant

/-! ## Everything together -/

/-- Economies are registered over none or over the standard ones, then cargos and industries; calls
may be refused on the way. In the end, nothing is taken twice, each registry holds what was
accepted, in order, an industry is found by its id, it has a variation for just the registered
economies, and a further call is refused just if something is taken or an economy is unknown, which
changes nothing. -/
theorem Registry.invariant_runAll (standard : Bool) (economyCalls : List Economy)
    (submissions : List Submission) :
    let start := if standard then Economies.standard else .empty
    let founding := Update.runAll Economies.enter start economyCalls
    let economies := founding.state
    let run := Update.runAll Registry.submit (Registry.create economies) submissions
    let registry := run.state
    Economies.Invariant start founding.accepted economies ∧
    (∀ economy, (Economies.enter economy).RefusedIff economies (economies.Takes economy)) ∧
    registry.Invariant economies run.accepted ∧
    (∀ id industry, registry.industries.get? id = some industry ↔
      industry ∈ registry.industries.toList ∧ industry.id = id) ∧
    (∀ industry ∈ registry.industries.toList, ∀ economy,
      industry.variations.contains economy = true ↔ economy ∈ economies.ids) ∧
    ∀ submission,
      (Registry.submit submission).RefusedIff registry (registry.Refuses submission) := by
  intro start founding economies run registry
  have holds : registry.Invariant economies run.accepted :=
    Registry.Invariant.runAll economies submissions
  refine ⟨Economies.Invariant.runAll standard economyCalls, ?_, holds, ?_, ?_, ?_⟩
  · intro economy
    exact Economies.enter_refusedIff economy economies
  · intro id industry
    exact holds.industries.get?_eq_some
  · intro industry mem economy
    exact holds.industries.contains_variations mem economy
  · intro submission
    exact holds.submit_refusedIff submission

end IndustrySet
