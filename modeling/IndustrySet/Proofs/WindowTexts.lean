import IndustrySet.Proofs.EconomyTexts
import IndustrySet.Proofs.Registration

set_option autoImplicit false

/-! # The text in the window of an industry that processes cargos

The window has a switch for each economy, named after the lower-case form of the economy's id. Ids
that differ in case only share the name, and this is the only way in which two economies do
(`Industry.windowText_blocks`). -/

namespace IndustrySet

/-- One element of a list of distinct ones is the only one that is kept just if no other is. -/
theorem filterMap_eq_singleton_iff {α β : Type} {keeps : α → Option β} {as : List α}
    (distinct : as.Nodup) {a : α} {b : β} (mem : a ∈ as) (kept : keeps a = some b) :
    as.filterMap keeps = [b] ↔ ∀ other ∈ as, keeps other ≠ none → other = a := by
  obtain ⟨before, after, rfl⟩ := List.append_of_mem mem
  have new : a ∉ before ++ after := (List.nodup_middle.1 distinct).notMem
  have others : (before ++ a :: after).filterMap keeps = [b] ↔
      ∀ other ∈ before ++ after, keeps other = none := by
    rw [List.filterMap_append, List.filterMap_cons_some kept, ← List.filterMap_eq_nil_iff,
      List.filterMap_append]
    constructor
    · intro single
      have := congrArg List.length single
      simp only [List.length_append, List.length_cons, List.length_nil] at this
      rw [← List.length_eq_zero_iff, List.length_append]
      omega
    · intro nothing
      obtain ⟨hbefore, hafter⟩ := List.append_eq_nil_iff.1 nothing
      rw [hbefore, hafter, List.nil_append]
  rw [others]
  constructor
  · intro nothing other hother keepsOther
    by_contra different
    refine keepsOther (nothing other ?_)
    simpa [different] using hother
  · intro only other hother
    by_contra keepsOther
    have : other ∈ before ++ a :: after := by
      rw [List.mem_append, List.mem_cons]
      exact (List.mem_append.1 hother).imp id .inr
    exact new (only other this keepsOther ▸ hother)

namespace Industry

variable {industry : Industry} {economies : Economies} {blocks : List Nml.Block}

/-! ## Where deliveries are shown -/

/-- Does the window of the industry show deliveries in the economy? It does where the industry is
enabled and processes one to three cargos. -/
def ShowsDeliveries (industry : Industry) (economy : Economy) : Prop :=
  industry.isEnabledIn economy.id = true ∧ ∃ cargos,
    industry.processedCargos (some economy.id) = .ok cargos ∧ 1 ≤ cargos.length ∧ cargos.length ≤ 3

theorem isSome_windowString? (n : Nat) : (windowString? n).isSome ↔ 1 ≤ n ∧ n ≤ 3 := by
  match n with
  | 0 | 1 | 2 | 3 => simp [windowString?]
  | n + 4 =>
    simp only [windowString?, Option.isSome_none, Bool.false_eq_true, false_iff]
    omega

/-- There is a text for the window just for one to three cargos. -/
theorem isSome_of_extraTextString {asked : Option EconomyId} {cargos : List (String × UInt32)}
    {text : Option String} (hcargos : industry.processedCargos asked = .ok cargos)
    (h : industry.extraTextString? asked = .ok text) :
    text.isSome ↔ 1 ≤ cargos.length ∧ cargos.length ≤ 3 := by
  rw [← isSome_windowString?]
  obtain ⟨processed, hprocessed, h⟩ := bind_eq_ok.1 h
  cases hprocessed.symm.trans hcargos
  split at h
  · next none =>
    rw [← pure_eq_ok.1 h, none]
  · next string some =>
    obtain ⟨extra, _, h⟩ := bind_eq_ok.1 h
    rw [← pure_eq_ok.1 h, some]
    rfl

/-- Where deliveries are shown there is a switch with the cargos and the text of that economy, and
nowhere else. -/
theorem windowSwitchIn_eq {economy : Economy} (enabled : industry.isEnabledIn economy.id = true) :
    (industry.ShowsDeliveries economy ∧ ∃ text labels,
      industry.extraTextString? (some economy.id) = .ok (some text) ∧
      industry.deliveryLabels (some economy.id) = .ok labels ∧
      industry.windowSwitchIn economy =
        .ok (some (economy.numericId, industry.deliverySwitch economy.id labels text))) ∨
    (¬industry.ShowsDeliveries economy ∧ industry.windowSwitchIn economy = .ok none) := by
  obtain ⟨variation, known⟩ := exists_variation_of_isEnabledIn enabled
  obtain ⟨cargos, hcargos⟩ := exists_processedCargos known
  obtain ⟨text, htext⟩ := exists_extraTextString known
  have hlabels : industry.deliveryLabels (some economy.id) = .ok (cargos.map (·.1)) := by
    rw [deliveryLabels, hcargos]
    rfl
  have few := isSome_of_extraTextString hcargos htext
  cases text with
  | none =>
    refine .inr ⟨?_, ?_⟩
    · rintro ⟨_, others, hothers, shown⟩
      cases hothers.symm.trans hcargos
      exact absurd (few.2 shown) (by simp)
    · rw [windowSwitchIn, htext, hlabels]
      rfl
  | some text =>
    refine .inl ⟨⟨enabled, cargos, hcargos, few.1 rfl⟩, text, _, htext, hlabels, ?_⟩
    rw [windowSwitchIn, htext, hlabels]
    rfl

theorem windowSwitchIn_ne_none_iff {economy : Economy}
    (enabled : industry.isEnabledIn economy.id = true) :
    (industry.windowSwitchIn economy).toOption.join ≠ none ↔ industry.ShowsDeliveries economy := by
  rcases windowSwitchIn_eq enabled with ⟨shows, text, labels, _, _, written⟩ | ⟨hides, unwritten⟩
  · simp [written, shows, Except.toOption]
  · simp [unwritten, hides, Except.toOption]

/-! ## The switch of an economy -/

theorem numericId_of_windowSwitchIn (economy : Economy) (shown : UInt8 × Nml.Switch)
    (h : (industry.windowSwitchIn economy).toOption.join = some shown) :
    shown.1 = economy.numericId := by
  obtain ⟨labels, text, rfl⟩ := eq_of_windowSwitchIn h
  rfl

/-- The number of an economy finds its switch. -/
theorem find?_deliverySwitches (distinct : (economies.toList.map (·.numericId)).Nodup)
    {economy : Economy} (mem : economy ∈ industry.enabledOf economies) :
    (industry.deliverySwitches economies).find?
        (fun shown => shown.1.toNat = economy.numericId.toNat) =
      (industry.windowSwitchIn economy).toOption.join :=
  find?_yields numericId_of_windowSwitchIn (nodup_enabledOf distinct) mem

theorem under_deliveryDispatch
    (dispatch : Nml.switchesNamed Nml.featIndustries industry.windowSwitchName blocks =
      (industry.deliveryDispatch economies).1) (p : Nat) :
    (industry.deliveryDispatch economies).2.under Nml.featIndustries blocks p =
      (((industry.deliverySwitches economies).find? fun shown => shown.1.toNat = p).map
        fun shown => .named shown.2.name).getD (.returned noText) := by
  rw [deliveryDispatch, Nml.Target.under_onEconomy dispatch, List.find?_map, Option.map_map]
  rfl

/-- Two economies share a switch name just if their ids have the same lower-case form. -/
theorem windowSwitchNameIn_inj {economy other : EconomyId} :
    industry.windowSwitchNameIn other = industry.windowSwitchNameIn economy ↔
      Text.lowercase other = Text.lowercase economy :=
  String.append_right_inj _

/-- An economy's switch is the only one of its name just if no other economy in which deliveries are
shown has an id with the same lower-case form. -/
theorem deliverySwitches_eq_singleton_iff
    (distinct : (economies.toList.map (·.numericId)).Nodup) {economy : Economy}
    (mem : economy ∈ industry.enabledOf economies) {labels : List String} {text : String}
    (written : industry.windowSwitchIn economy =
      .ok (some (economy.numericId, industry.deliverySwitch economy.id labels text))) :
    (((industry.deliverySwitches economies).map (·.2)).filter fun s =>
        s.name = industry.windowSwitchNameIn economy.id) =
        [industry.deliverySwitch economy.id labels text] ↔
      ∀ other ∈ economies.toList, industry.ShowsDeliveries other →
        Text.lowercase other.id = Text.lowercase economy.id → other = economy := by
  have distinctEconomies : (industry.enabledOf economies).Nodup := (nodup_enabledOf distinct).of_map
  have shares : ∀ other, industry.isEnabledIn other.id = true →
      ((((industry.windowSwitchIn other).toOption.join.map (·.2)).filter fun s =>
          s.name = industry.windowSwitchNameIn economy.id) ≠ none ↔
        industry.ShowsDeliveries other ∧ Text.lowercase other.id = Text.lowercase economy.id) := by
    intro other enabled
    rcases windowSwitchIn_eq enabled with ⟨shows, text, labels, _, _, written⟩ | ⟨hides, unwritten⟩
    · simp [written, shows, Except.toOption, deliverySwitch, Option.filter, windowSwitchNameIn_inj]
    · simp [unwritten, hides, Except.toOption]
  rw [deliverySwitches, List.map_filterMap, List.filter_filterMap,
    filterMap_eq_singleton_iff distinctEconomies mem]
  · constructor
    · intro only other registered shows same
      exact only other (mem_enabledOf.2 ⟨registered, shows.1⟩)
        ((shares other shows.1).2 ⟨shows, same⟩)
    · intro only other hother kept
      obtain ⟨registered, enabled⟩ := mem_enabledOf.1 hother
      obtain ⟨shows, same⟩ := (shares other enabled).1 kept
      exact only other registered shows same
  · simp [written, Except.toOption, deliverySwitch, Option.filter]

/-! ## The text in the window -/

/-- The switch of an economy is written with the states of delivery and the text it shows. -/
theorem text_deliverySwitch (economy : EconomyId) (labels : List String) (text : String) :
    (industry.deliverySwitch economy labels text).text =
      "switch (FEAT_INDUSTRIES, SELF, " ++ industry.windowSwitchNameIn economy ++ ", [" ++
        Nml.deliveryStores labels ++ "]) \x7b\n    return " ++ text ++ ";\n\x7d\n" := by
  rw [Nml.Switch.text_eq, Nml.Switch.textLines, Nml.unlines_nested, ← String.toList_inj]
  unfold Nml.Switch.opening
  simp [deliverySwitch, Nml.featIndustries, Nml.Expression.text, Nml.Target.text]

/-- Economies are registered over none or over the standard ones, and an industry processes cargos.
Its window gets to the switch for the economy that the player picked where deliveries are shown in
it, and elsewhere shows no text. The switch holds the cargos and the text of that economy, and is
the only one of its name just if no other economy in which deliveries are shown has an id that
differs in case only. It is written with these cargos and this text, and the lines of the callback
and of the switch on the economy tell where these lead. -/
theorem windowText_blocks (secondary : industry.kind.isSecondary = true) (standard : Bool)
    (calls : List Economy) :
    let start := if standard then Economies.standard else .empty
    let economies := (Update.runAll Economies.enter start calls).state
    ∀ table blocks, industry.blocks economies table = .ok blocks →
      ∃ target,
        (∀ p, Nml.callbackTargets Nml.featIndustries industry.id p "extra_text_industry" blocks =
          [target]) ∧
        (∀ economy ∈ economies.toList, industry.ShowsDeliveries economy → ∃ text labels,
          industry.extraTextString? (some economy.id) = .ok (some text) ∧
          industry.deliveryLabels (some economy.id) = .ok labels ∧
          target.under Nml.featIndustries blocks economy.numericId.toNat =
            .named (industry.windowSwitchNameIn economy.id) ∧
          industry.deliverySwitch economy.id labels text ∈
            Nml.switchesNamed Nml.featIndustries (industry.windowSwitchNameIn economy.id) blocks ∧
          (∃ before after, Nml.render blocks = before ++
            ("switch (FEAT_INDUSTRIES, SELF, " ++ industry.windowSwitchNameIn economy.id ++ ", [" ++
              Nml.deliveryStores labels ++ "]) \x7b\n    return " ++ text ++ ";\n\x7d\n") ++
            after) ∧
          (Nml.switchesNamed Nml.featIndustries (industry.windowSwitchNameIn economy.id) blocks =
              [industry.deliverySwitch economy.id labels text] ↔
            ∀ other ∈ economies.toList, industry.ShowsDeliveries other →
              Text.lowercase other.id = Text.lowercase economy.id → other = economy)) ∧
        (∀ p, (∀ economy ∈ economies.toList, industry.ShowsDeliveries economy →
            economy.numericId.toNat ≠ p) →
          target.under Nml.featIndustries blocks p = .returned noText) ∧
        Nml.CallbackWritten Nml.featIndustries industry.id "extra_text_industry" blocks target := by
  intro start economies table blocks rendered
  have distinct : (economies.toList.map (·.numericId)).Nodup :=
    (Economies.Invariant.runAll standard calls).numbers
  obtain ⟨hcallbacks, dispatch, switches⟩ := windowSwitches_blocks rendered secondary
  refine ⟨_, hcallbacks, fun economy registered shows => ?_, fun p absent => ?_,
    fun unbroken p => ?_, Nml.Switch.written_onEconomy dispatch⟩
  · have mem : economy ∈ industry.enabledOf economies := mem_enabledOf.2 ⟨registered, shows.1⟩
    rcases windowSwitchIn_eq shows.1 with ⟨_, text, labels, htext, hlabels, written⟩ | ⟨hides, _⟩
    · have yields : (industry.windowSwitchIn economy).toOption.join =
          some (economy.numericId, industry.deliverySwitch economy.id labels text) :=
        toOption_join_eq_some.2 written
      have there : industry.deliverySwitch economy.id labels text ∈
          Nml.switchesNamed Nml.featIndustries (industry.windowSwitchNameIn economy.id) blocks := by
        rw [switches, List.mem_filter, List.mem_map]
        exact ⟨⟨_, List.mem_filterMap.2 ⟨economy, mem, yields⟩, rfl⟩, decide_eq_true rfl⟩
      refine ⟨text, labels, htext, hlabels, ?_, there, ?_, ?_⟩
      · rw [under_deliveryDispatch dispatch, find?_deliverySwitches distinct mem, yields]
        rfl
      · rw [← text_deliverySwitch]
        exact Nml.exists_render_of_switch (Nml.mem_of_mem_switchesNamed there)
      · rw [switches]
        exact deliverySwitches_eq_singleton_iff distinct mem written
    · exact absurd shows hides
  · have missing : (industry.deliverySwitches economies).find? (fun shown => shown.1.toNat = p) =
        none := by
      refine find?_yields_eq_none numericId_of_windowSwitchIn fun economy mem yields => ?_
      obtain ⟨registered, enabled⟩ := mem_enabledOf.1 mem
      exact absent economy registered ((windowSwitchIn_ne_none_iff enabled).1 yields)
    rw [under_deliveryDispatch dispatch, missing]
    rfl
  · rw [writtenTargets_blocks rendered unbroken p (by decide), hcallbacks]
    rfl

theorem windowText_brickWorks :
    brickWorks.kind.isSecondary = true ∧ ∃ blocks target,
      brickWorks.blocks .standard (fun _ => none) = .ok blocks ∧
      (∀ p, Nml.callbackTargets Nml.featIndustries "brick_works" p "extra_text_industry" blocks =
        [target]) ∧
      target.under Nml.featIndustries blocks 3 =
        .named "brick_works_switch_extra_text_industry_firs" ∧
      Nml.switchesNamed Nml.featIndustries "brick_works_switch_extra_text_industry_firs" blocks =
        [brickWorks.deliverySwitch "FIRS" ["CLAY", "COAL"]
          "string(STR_EXTRA_TEXT_SECONDARY_TWO_INPUTS, string(STR_EMPTY))"] ∧
      target.under Nml.featIndustries blocks 0 = .returned "CB_RESULT_NO_TEXT" := by
  have secondary : brickWorks.kind.isSecondary = true := rfl
  obtain ⟨blocks, rendered⟩ : ∃ blocks, brickWorks.blocks .standard (fun _ => none) = .ok blocks :=
    exists_of_isOk (by decide +kernel)
  obtain ⟨target, hcallbacks, shown, hidden, _⟩ :=
    windowText_blocks secondary true [] (fun _ => none) blocks rendered
  have name : brickWorks.windowSwitchNameIn "FIRS" =
      "brick_works_switch_extra_text_industry_firs" := by decide +kernel
  obtain ⟨text, labels, htext, hlabels, under, _, _, single⟩ :=
    shown ⟨"FIRS", 3, "string(STR_ECONOMY_FIRS)"⟩ (by decide)
      ⟨by decide +kernel, [("CLAY", 4), ("COAL", 4)], by decide +kernel, by decide, by decide⟩
  have string : brickWorks.extraTextString? (some "FIRS") =
      .ok (some "string(STR_EXTRA_TEXT_SECONDARY_TWO_INPUTS, string(STR_EMPTY))") := by
    decide +kernel
  have cargos : brickWorks.deliveryLabels (some "FIRS") = .ok ["CLAY", "COAL"] := by
    decide +kernel
  cases htext.symm.trans string
  cases hlabels.symm.trans cargos
  rw [name] at under single
  refine ⟨secondary, blocks, target, rendered, hcallbacks, under, single.2 ?_, hidden 0 ?_⟩
  · have distinct : ∀ other ∈ Economies.standard.toList,
        Text.lowercase other.id = Text.lowercase "FIRS" →
          other = ⟨"FIRS", 3, "string(STR_ECONOMY_FIRS)"⟩ := by decide +kernel
    exact fun other mem _ => distinct other mem
  · have disabled : ∀ economy ∈ Economies.standard.toList,
        brickWorks.isEnabledIn economy.id = true → economy.numericId.toNat ≠ 0 := by
      decide +kernel
    exact fun economy mem shows => disabled economy mem shows.1

/-- A foundry in two economies whose ids differ in case only. -/
def foundry : Industry :=
  ((create "foundry" 12 (.secondary false false) (.ofList
    [(.processedCargosAndOutputRatios, .cargoRatios [("IORE", 8)])])).enableIn "FIRS"
      .empty).enableIn "firs" (.ofList
        [(.processedCargosAndOutputRatios, .cargoRatios [("IORE", 4), ("COAL", 4)])])

/-- The window of the foundry leads to the same name in both economies, and two switches have it. -/
theorem not_windowText_foundry :
    let first : Economy := ⟨"FIRS", 0, "string(STR_ECONOMY_FIRS)"⟩
    let second : Economy := ⟨"firs", 1, "string(STR_ECONOMY_FIRS)"⟩
    let economies := (Update.runAll Economies.enter .empty [first, second]).state
    economies.toList = [first, second] ∧
      ∃ blocks, foundry.blocks economies (fun _ => none) = .ok blocks ∧
        (∀ p ∈ [0, 1], (Nml.callbackTargets Nml.featIndustries "foundry" p "extra_text_industry"
            blocks).map (·.under Nml.featIndustries blocks p) =
          [.named "foundry_switch_extra_text_industry_firs"]) ∧
        ¬∃ s, Nml.switchesNamed Nml.featIndustries "foundry_switch_extra_text_industry_firs"
          blocks = [s] := by
  intro first second economies
  refine ⟨by decide +kernel, ?_⟩
  obtain ⟨blocks, rendered, leads, two⟩ : ∃ blocks,
      foundry.blocks economies (fun _ => none) = .ok blocks ∧
        (∀ p ∈ ([0, 1] : List Nat), (Nml.callbackTargets Nml.featIndustries "foundry" p
            "extra_text_industry" blocks).map (·.under Nml.featIndustries blocks p) =
          [.named "foundry_switch_extra_text_industry_firs"]) ∧
        (Nml.switchesNamed Nml.featIndustries "foundry_switch_extra_text_industry_firs"
          blocks).length = 2 :=
    exists_of_any (by decide +kernel)
  refine ⟨blocks, rendered, leads, ?_⟩
  rintro ⟨s, single⟩
  rw [single] at two
  cases two

end Industry

end IndustrySet
