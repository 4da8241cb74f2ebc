import IndustrySet.Proofs.Fallible
import IndustrySet.Proofs.Runs
import IndustrySet.Proofs.Variations
import IndustrySet.Registry

set_option autoImplicit false

/-! # Registering one item

What registering an economy, a cargo or an industry does, exactly (`run_enter`); when it is refused
(`enter_refusedIff`), which leaves the registry as it was; and what it preserves (`Invariant`). -/

namespace IndustrySet

/-- Adding an item with a new value of some field leaves the values of that field distinct. -/
theorem nodup_concat_map {α β : Type} {f : α → β} {as : List α} {a : α}
    (distinct : (as.map f).Nodup) (new : ∀ b ∈ as, f b ≠ f a) : ((as ++ [a]).map f).Nodup := by
  rw [List.map_append, List.nodup_append]
  refine ⟨distinct, List.pairwise_singleton _ _, ?_⟩
  intro x hx y hy same
  obtain ⟨b, hb, rfl⟩ := List.mem_map.1 hx
  rw [List.map_singleton, List.mem_singleton] at hy
  exact new b hb (same.trans hy)

/-! ## Economies -/

namespace Economies

theorem run_enter (economy : Economy) (economies : Economies) :
    (enter economy).run economies =
      if ∃ other ∈ economies.toList, other.id = economy.id then
        .error (.duplicate .economy economy.id) economies
      else if ∃ other ∈ economies.toList, other.numericId = economy.numericId then
        .error (.duplicate .economyNumericId (toString economy.numericId.toNat)) economies
      else .ok () ⟨economies.toList ++ [economy]⟩ := by
  simp only [enter, EStateM.run_bind, EStateM.run_get, List.any_eq_true, decide_eq_true_eq]
  split
  · rfl
  · split <;> rfl

/-- Is the id or the numeric id of an economy taken? -/
def Takes (economies : Economies) (economy : Economy) : Prop :=
  ∃ other ∈ economies.toList, other.id = economy.id ∨ other.numericId = economy.numericId

theorem enter_refusedIff (economy : Economy) (economies : Economies) :
    (enter economy).RefusedIff economies (economies.Takes economy) := by
  have run := run_enter economy economies
  split at run
  · next taken =>
    obtain ⟨other, mem, same⟩ := taken
    exact Update.refusedIff_of_error run ⟨other, mem, .inl same⟩
  · next newId =>
    split at run
    · next taken =>
      obtain ⟨other, mem, same⟩ := taken
      exact Update.refusedIff_of_error run ⟨other, mem, .inr same⟩
    · next newNumber =>
      refine Update.refusedIff_of_ok run ?_
      rintro ⟨other, mem, same | same⟩
      · exact newId ⟨other, mem, same⟩
      · exact newNumber ⟨other, mem, same⟩

theorem eq_of_run_enter {economy : Economy} {economies next : Economies}
    (run : (enter economy).run economies = .ok () next) :
    next = ⟨economies.toList ++ [economy]⟩ := by
  rw [run_enter] at run
  split at run
  · cases run
  · split at run
    · cases run
    · cases run
      rfl

/-- What holds of the economies after those accepted were registered. -/
structure Invariant (start : Economies) (accepted : List Economy) (economies : Economies) :
    Prop where
  all : economies.toList = start.toList ++ accepted
  ids : (economies.toList.map (·.id)).Nodup
  numbers : (economies.toList.map (·.numericId)).Nodup

theorem Invariant.enter {start : Economies} {accepted : List Economy} {economies next : Economies}
    {economy : Economy} (holds : Invariant start accepted economies)
    (run : (Economies.enter economy).run economies = .ok () next) :
    Invariant start (accepted ++ [economy]) next := by
  have new := (enter_refusedIff economy economies).not_of_ok run
  rw [eq_of_run_enter run]
  refine ⟨by rw [holds.all, List.append_assoc], ?_, ?_⟩
  · exact nodup_concat_map holds.ids fun other mem same => new ⟨other, mem, .inl same⟩
  · exact nodup_concat_map holds.numbers fun other mem same => new ⟨other, mem, .inr same⟩

end Economies

/-! ## Cargos -/

namespace Cargos

theorem run_enter (cargo : Cargo) (cargos : Cargos) :
    (enter cargo).run cargos =
      if ∃ other ∈ cargos.toList, other.id = cargo.id then
        .error (.duplicate .cargo cargo.id) cargos
      else if ∃ other ∈ cargos.toList, other.label = cargo.label then
        .error (.duplicate .cargoLabel cargo.label) cargos
      else if ∃ other ∈ cargos.toList, other.numericId = cargo.numericId then
        .error (.duplicate .cargoNumericId (toString cargo.numericId.toNat)) cargos
      else .ok () ⟨cargos.toList ++ [cargo]⟩ := by
  simp only [enter, EStateM.run_bind, EStateM.run_get, List.any_eq_true, decide_eq_true_eq]
  split
  · rfl
  · split
    · rfl
    · split <;> rfl

/-- Is the id, the label or the numeric id of a cargo taken? -/
def Takes (cargos : Cargos) (cargo : Cargo) : Prop :=
  ∃ other ∈ cargos.toList, other.id = cargo.id ∨ other.label = cargo.label ∨
    other.numericId = cargo.numericId

theorem enter_refusedIff (cargo : Cargo) (cargos : Cargos) :
    (enter cargo).RefusedIff cargos (cargos.Takes cargo) := by
  have run := run_enter cargo cargos
  split at run
  · next taken =>
    obtain ⟨other, mem, same⟩ := taken
    exact Update.refusedIff_of_error run ⟨other, mem, .inl same⟩
  · next newId =>
    split at run
    · next taken =>
      obtain ⟨other, mem, same⟩ := taken
      exact Update.refusedIff_of_error run ⟨other, mem, .inr (.inl same)⟩
    · next newLabel =>
      split at run
      · next taken =>
        obtain ⟨other, mem, same⟩ := taken
        exact Update.refusedIff_of_error run ⟨other, mem, .inr (.inr same)⟩
      · next newNumber =>
        refine Update.refusedIff_of_ok run ?_
        rintro ⟨other, mem, same | same | same⟩
        · exact newId ⟨other, mem, same⟩
        · exact newLabel ⟨other, mem, same⟩
        · exact newNumber ⟨other, mem, same⟩

theorem eq_of_run_enter {cargo : Cargo} {cargos next : Cargos}
    (run : (enter cargo).run cargos = .ok () next) : next = ⟨cargos.toList ++ [cargo]⟩ := by
  rw [run_enter] at run
  split at run
  · cases run
  · split at run
    · cases run
    · split at run
      · cases run
      · cases run
        rfl

/-- What holds of the cargos after those accepted were registered. -/
structure Invariant (accepted : List Cargo) (cargos : Cargos) : Prop where
  all : cargos.toList = accepted
  ids : (cargos.toList.map (·.id)).Nodup
  labels : (cargos.toList.map (·.label)).Nodup
  numbers : (cargos.toList.map (·.numericId)).Nodup

theorem Invariant.enter {accepted : List Cargo} {cargos next : Cargos} {cargo : Cargo}
    (holds : Invariant accepted cargos) (run : (Cargos.enter cargo).run cargos = .ok () next) :
    Invariant (accepted ++ [cargo]) next := by
  have new := (enter_refusedIff cargo cargos).not_of_ok run
  rw [eq_of_run_enter run]
  refine ⟨by rw [holds.all], ?_, ?_, ?_⟩
  · exact nodup_concat_map holds.ids fun other mem same => new ⟨other, mem, .inl same⟩
  · exact nodup_concat_map holds.labels fun other mem same => new ⟨other, mem, .inr (.inl same)⟩
  · exact nodup_concat_map holds.numbers fun other mem same => new ⟨other, mem, .inr (.inr same)⟩

end Cargos

/-! ## Industries -/

namespace Industries

variable {economies : Economies}

/-- The industries with one more that has a variation for every economy. -/
def entered (industries : Industries) (filled : Industry) : Industries where
  toList := industries.toList ++ [filled]
  index := industries.index.insert filled.id industries.toList.length
  warnings := industries.warnings ++
    if filled.enabledEconomies.isEmpty then [.inNoEconomy filled.id] else []

theorem run_enter (industry : Industry) (economies : Economies) (industries : Industries) :
    (enter industry economies).run industries =
      if industries.contains industry.id then .error (.duplicate .industry industry.id) industries
      else match industries.toList.find? (·.numericId = industry.numericId) with
        | some other => .error (.duplicate .industryNumericId
            (toString industry.numericId.toNat ++ " (used by " ++ other.id ++ ")")) industries
        | none =>
          match industry.fillEconomies economies with
          | .error e => .error e industries
          | .ok filled => .ok () (industries.entered filled) := by
  simp only [enter, EStateM.run_bind, EStateM.run_get]
  split
  · rfl
  · cases industries.toList.find? fun other => other.numericId = industry.numericId with
    | some other => rfl
    | none =>
      cases industry.fillEconomies economies with
      | error e => rfl
      | ok filled =>
        simp only [EStateM.run_bind, Update.run_liftExcept_ok, entered]
        split
        · next unused => simp only [EStateM.run_bind, EStateM.run_modify]
        · next used => simp only [EStateM.run_bind, EStateM.run_modify, List.append_nil]

/-- Is the id or the numeric id of an industry taken? -/
def Takes (industries : Industries) (industry : Industry) : Prop :=
  ∃ other ∈ industries.toList, other.id = industry.id ∨ other.numericId = industry.numericId

/-- What holds of the industries after those accepted were registered. -/
structure Invariant (economies : Economies) (accepted : List Industry) (industries : Industries) :
    Prop where
  /-- The accepted ones are there, each with its variations filled up. -/
  all : List.Forall₂ (fun submitted stored => submitted.fillEconomies economies = .ok stored)
    accepted industries.toList
  ids : (industries.toList.map (·.id)).Nodup
  numbers : (industries.toList.map (·.numericId)).Nodup
  index : ∀ id place, industries.index.get? id = some place ↔
    (industries.toList[place]?).map (·.id) = some id
  warnings : industries.warnings =
    (industries.toList.filter (·.enabledEconomies.isEmpty)).map (.inNoEconomy ·.id)

namespace Invariant

variable {accepted : List Industry} {industries next : Industries} {industry filled : Industry}

theorem empty : Invariant economies [] Industries.empty where
  all := .nil
  ids := .nil
  numbers := .nil
  index := by simp [Industries.empty]
  warnings := rfl

/-- By the index, an id is registered just when an industry has it. -/
theorem contains_iff (holds : Invariant economies accepted industries) {id : IndustryId} :
    industries.contains id = true ↔ ∃ other ∈ industries.toList, other.id = id := by
  rw [contains, Dictionary.contains, Option.isSome_iff_exists]
  constructor
  · rintro ⟨place, found⟩
    obtain ⟨other, there, same⟩ := Option.map_eq_some_iff.1 ((holds.index id place).1 found)
    exact ⟨other, List.mem_of_getElem? there, same⟩
  · rintro ⟨other, mem, same⟩
    obtain ⟨place, there⟩ := List.getElem?_of_mem mem
    exact ⟨place, (holds.index id place).2 (by rw [there, Option.map_some, same])⟩

/-- By the index, one finds the industry with an id. -/
theorem get?_eq_some (holds : Invariant economies accepted industries) {id : IndustryId} :
    industries.get? id = some industry ↔ industry ∈ industries.toList ∧ industry.id = id := by
  rw [get?, Option.bind_eq_some_iff]
  constructor
  · rintro ⟨place, found, there⟩
    have same := (holds.index id place).1 found
    rw [there, Option.map_some, Option.some.injEq] at same
    exact ⟨List.mem_of_getElem? there, same⟩
  · rintro ⟨mem, same⟩
    obtain ⟨place, there⟩ := List.getElem?_of_mem mem
    exact ⟨place, (holds.index id place).2 (by rw [there, Option.map_some, same]), there⟩

/-- Every industry has a variation for just the registered economies. -/
theorem contains_variations (holds : Invariant economies accepted industries)
    (mem : industry ∈ industries.toList) (economy : EconomyId) :
    industry.variations.contains economy = true ↔ economy ∈ economies.ids := by
  obtain ⟨submitted, _, stored⟩ := exists_of_mem_mapM (mapM_eq_ok.2 holds.all) mem
  exact Industry.contains_variations stored economy

theorem enter_refusedIff (holds : Invariant economies accepted industries) (industry : Industry) :
    (enter industry economies).RefusedIff industries
      (industries.Takes industry ∨ industry.hasUnknownEconomy economies) := by
  have run := run_enter industry economies industries
  split at run
  · next taken =>
    obtain ⟨other, mem, same⟩ := holds.contains_iff.1 taken
    exact Update.refusedIff_of_error run (.inl ⟨other, mem, .inl same⟩)
  · next newId =>
    cases taken : industries.toList.find? fun other => other.numericId = industry.numericId with
    | some other =>
      rw [taken] at run
      have same : other.numericId = industry.numericId := by simpa using List.find?_some taken
      exact Update.refusedIff_of_error run
        (.inl ⟨other, List.mem_of_find?_eq_some taken, .inr same⟩)
    | none =>
      rw [taken] at run
      -- Nothing is taken: what is left to go wrong is the variations.
      by_cases unknown : industry.hasUnknownEconomy economies
      · obtain ⟨economy, fails⟩ := Industry.fillEconomies_eq_error unknown
        rw [fails] at run
        exact Update.refusedIff_of_error run (.inr unknown)
      · rw [Industry.fillEconomies_eq_ok unknown] at run
        refine Update.refusedIff_of_ok run ?_
        rintro (⟨other, mem, same | same⟩ | other)
        · exact newId (holds.contains_iff.2 ⟨other, mem, same⟩)
        · simpa [same] using List.find?_eq_none.1 taken other mem
        · exact unknown other

theorem eq_of_run_enter (run : (enter industry economies).run industries = .ok () next) :
    ∃ filled, industry.fillEconomies economies = .ok filled ∧ next = industries.entered filled := by
  rw [run_enter] at run
  split at run
  · cases run
  · split at run
    · cases run
    · split at run
      · cases run
      · next filled hfilled =>
        cases run
        exact ⟨filled, hfilled, rfl⟩

/-- A new id gets the place after all others. -/
theorem index_entered (holds : Invariant economies accepted industries)
    (new : ∀ other ∈ industries.toList, other.id ≠ filled.id) (id : IndustryId) (place : Nat) :
    (industries.entered filled).index.get? id = some place ↔
      ((industries.entered filled).toList[place]?).map (·.id) = some id := by
  simp only [entered, Dictionary.get?_insert]
  -- A place before the new one, the new one itself, and a place that is still free.
  rcases Nat.lt_trichotomy place industries.toList.length with before | rfl | after
  · rw [List.getElem?_append_left before]
    split
    · next same =>
      have other := new _ (List.getElem_mem before)
      rw [List.getElem?_eq_getElem before]
      simp only [Option.some.injEq, Option.map_some, same] at other ⊢
      constructor
      · intro there
        omega
      · intro there
        exact absurd there other
    · exact holds.index id place
  · rw [List.getElem?_concat_length]
    split
    · next same => simp [same]
    · next other =>
      constructor
      · intro there
        simpa using (holds.index id _).1 there
      · intro there
        exact absurd (Option.some.inj there) other
  · have beyondAll : (industries.toList ++ [filled])[place]? = none := by
      rw [List.getElem?_eq_none_iff, List.length_append, List.length_singleton]
      exact after
    have beyond : industries.toList[place]? = none :=
      List.getElem?_eq_none_iff.2 (Nat.le_of_lt after)
    rw [beyondAll]
    split
    · simp only [Option.some.injEq, Option.map_none, reduceCtorEq, iff_false]
      omega
    · rw [holds.index id place, beyond]

theorem enter (holds : Invariant economies accepted industries)
    (run : (Industries.enter industry economies).run industries = .ok () next) :
    Invariant economies (accepted ++ [industry]) next := by
  -- It was not refused, so nothing of it was taken.
  have new := (holds.enter_refusedIff industry).not_of_ok run
  obtain ⟨filled, hfilled, rfl⟩ := eq_of_run_enter run
  obtain ⟨_, same⟩ := Industry.eq_of_fillEconomies hfilled
  have id : filled.id = industry.id := by rw [same]
  have number : filled.numericId = industry.numericId := by rw [same]
  have newId : ∀ other ∈ industries.toList, other.id ≠ filled.id := by
    intro other mem taken
    exact new (.inl ⟨other, mem, .inl (taken.trans id)⟩)
  have newNumber : ∀ other ∈ industries.toList, other.numericId ≠ filled.numericId := by
    intro other mem taken
    exact new (.inl ⟨other, mem, .inr (taken.trans number)⟩)
  exact
    { all := List.rel_append holds.all (.cons hfilled .nil)
      ids := nodup_concat_map holds.ids newId
      numbers := nodup_concat_map holds.numbers newNumber
      index := holds.index_entered newId
      warnings := by
        simp only [entered, holds.warnings, List.filter_append, List.map_append]
        cases unused : filled.enabledEconomies.isEmpty <;> simp [unused] }

end Invariant

end Industries

end IndustrySet
