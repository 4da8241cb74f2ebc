import IndustrySet.Proofs.Callbacks
import IndustrySet.Proofs.IndustryReferences

set_option autoImplicit false

/-! # Texts that depend on the economy

The texts of an industry stand behind switches on the economy. The text about funding has branches
for those economies only in which it differs from that of the base; whatever the economy, one gets
to the text that applies there (`Industry.fundText_blocks`). -/

namespace IndustrySet

/-! ## What economies yield -/

section

variable {τ : Type} {yields : Economy → Option (UInt8 × τ)} {among : List Economy}

/-- Where numeric ids are distinct, an economy's number finds what this economy yields. -/
theorem find?_yields
    (numbered : ∀ economy result, yields economy = some result → result.1 = economy.numericId)
    (distinct : (among.map (·.numericId)).Nodup) {economy : Economy} (mem : economy ∈ among) :
    (among.filterMap yields).find? (fun result => result.1.toNat = economy.numericId.toNat) =
      yields economy := by
  have own : ∀ result ∈ among.filterMap yields, result.1.toNat = economy.numericId.toNat →
      yields economy = some result := by
    intro result hresult same
    obtain ⟨other, hother, hyields⟩ := List.mem_filterMap.1 hresult
    have sameNumber : other.numericId = economy.numericId := by
      rw [← numbered other result hyields]
      exact UInt8.toNat_inj.1 same
    exact List.inj_on_of_nodup_map distinct hother mem sameNumber ▸ hyields
  cases found : (among.filterMap yields).find?
      (fun result => result.1.toNat = economy.numericId.toNat) with
  | none =>
    cases hyields : yields economy with
    | none => rfl
    | some result =>
      have there : result ∈ among.filterMap yields := List.mem_filterMap.2 ⟨economy, mem, hyields⟩
      have := List.find?_eq_none.1 found result there
      simp [numbered economy result hyields] at this
  | some result =>
    exact (own result (List.mem_of_find?_eq_some found) (by simpa using List.find?_some found)).symm

theorem find?_yields_eq_none
    (numbered : ∀ economy result, yields economy = some result → result.1 = economy.numericId)
    {p : Nat}
    (absent : ∀ economy ∈ among, yields economy ≠ none → economy.numericId.toNat ≠ p) :
    (among.filterMap yields).find? (fun result => result.1.toNat = p) = none := by
  refine List.find?_eq_none.2 fun result hresult => ?_
  obtain ⟨economy, mem, hyields⟩ := List.mem_filterMap.1 hresult
  simpa [numbered economy result hyields] using absent economy mem (by simp [hyields])

end

namespace Industry

variable {industry : Industry} {economies : Economies} {table : NumberTable}
  {blocks : List Nml.Block}

theorem mem_enabledOf {economy : Economy} :
    economy ∈ industry.enabledOf economies ↔
      economy ∈ economies.toList ∧ industry.isEnabledIn economy.id = true :=
  List.mem_filter

theorem nodup_enabledOf (distinct : (economies.toList.map (·.numericId)).Nodup) :
    ((industry.enabledOf economies).map (·.numericId)).Nodup :=
  distinct.sublist (List.filter_sublist.map _)

/-! ## The switch for the text about funding -/

theorem fundSwitch_eq_ok {fund : List Nml.Switch × Nml.Target}
    (h : industry.fundSwitch economies = .ok fund) :
    ∃ default, industry.extraTextFund none = .ok default ∧
      fund = Nml.Switch.onEconomy Nml.featIndustries industry.fundSwitchName
        ((industry.enabledOf economies).filterMap fun economy =>
          (industry.fundBranch default economy).toOption.join) (.returned default) := by
  obtain ⟨default, hdefault, h⟩ := bind_eq_ok.1 h
  obtain ⟨branches, hbranches, h⟩ := bind_eq_ok.1 h
  refine ⟨default, hdefault, ?_⟩
  rw [← pure_eq_ok.1 h, reduceOption_of_mapM hbranches]

/-! ## The switches for the text in the window -/

/-- The switch that shows the deliveries of some cargos in an economy. -/
def deliverySwitch (industry : Industry) (economy : EconomyId) (labels : List String)
    (text : String) : Nml.Switch where
  feature := Nml.featIndustries
  scope := "SELF"
  name := industry.windowSwitchNameIn economy
  expression := .deliveries labels
  branches := []
  default := .returned text

theorem eq_of_windowSwitchIn {economy : Economy} {shown : UInt8 × Nml.Switch}
    (h : (industry.windowSwitchIn economy).toOption.join = some shown) :
    ∃ labels text, shown = (economy.numericId, industry.deliverySwitch economy.id labels text) := by
  obtain ⟨text, _, h⟩ := bind_eq_ok.1 (toOption_join_eq_some.1 h)
  obtain ⟨labels, _, h⟩ := bind_eq_ok.1 h
  obtain ⟨text, _, rfl⟩ := Option.map_eq_some_iff.1 (pure_eq_ok.1 h)
  exact ⟨labels, text, rfl⟩

/-- The switches of the economies in which deliveries are shown, with the numbers of these. -/
def deliverySwitches (industry : Industry) (economies : Economies) : List (UInt8 × Nml.Switch) :=
  (industry.enabledOf economies).filterMap fun economy =>
    (industry.windowSwitchIn economy).toOption.join

/-- The switch on the economy that leads to these, and the target that stands for it. -/
def deliveryDispatch (industry : Industry) (economies : Economies) : List Nml.Switch × Nml.Target :=
  Nml.Switch.onEconomy Nml.featIndustries industry.windowSwitchName
    ((industry.deliverySwitches economies).map fun shown => (shown.1, .named shown.2.name))
    (.returned noText)

theorem windowSwitches_eq_ok {window : Option (List Nml.Switch × Nml.Target)}
    (h : industry.windowSwitches economies = .ok window) :
    window = if industry.kind.isSecondary then
        some ((industry.deliverySwitches economies).map (·.2) ++
          (industry.deliveryDispatch economies).1, (industry.deliveryDispatch economies).2)
      else industry.kind.supplyRequirements?.map fun supplies =>
        ([], .returned (supplyText supplies)) := by
  unfold windowSwitches at h
  split at h
  · next supplies requires =>
    have primary : industry.kind.isSecondary = false := by
      cases kind : industry.kind with
      | secondary => simp [kind, Kind.supplyRequirements?] at requires
      | _ => rfl
    cases h
    simp [primary, requires]
  · next requires =>
    split at h
    · next secondary =>
      obtain ⟨switches, hswitches, h⟩ := bind_eq_ok.1 h
      obtain ⟨perEconomy, hperEconomy, hswitches⟩ := bind_eq_ok.1 hswitches
      rw [if_pos secondary, ← pure_eq_ok.1 h, ← pure_eq_ok.1 hswitches,
        reduceOption_of_mapM hperEconomy]
      rfl
    · next primary =>
      cases h
      simp [primary, requires]

/-! ## Names of switches -/

theorem windowSwitchName_append_ne (industry : Industry) (rest : String) :
    industry.windowSwitchName ++ rest ≠ industry.fundSwitchName := by
  intro same
  have := congrArg String.toList same
  simp [windowSwitchName, fundSwitchName] at this

theorem windowSwitchNameIn_ne (industry : Industry) (economy : EconomyId) :
    industry.windowSwitchNameIn economy ≠ industry.windowSwitchName := by
  intro same
  have := congrArg String.toList same
  simp [windowSwitchNameIn] at this

theorem mem_deliverySwitches {s : Nml.Switch}
    (mem : s ∈ (industry.deliverySwitches economies).map (·.2)) :
    s.feature = Nml.featIndustries ∧ ∃ economy, s.name = industry.windowSwitchNameIn economy := by
  obtain ⟨shown, hshown, rfl⟩ := List.mem_map.1 mem
  obtain ⟨economy, _, hyields⟩ := List.mem_filterMap.1 hshown
  obtain ⟨labels, text, rfl⟩ := eq_of_windowSwitchIn hyields
  exact ⟨rfl, economy.id, rfl⟩

/-- The switch for funding has another name than any of those for the window. -/
theorem switchesNamed_window (h : industry.blocks economies table = .ok blocks)
    (secondary : industry.kind.isSecondary = true) (rest : String) :
    Nml.switchesNamed Nml.featIndustries (industry.windowSwitchName ++ rest) blocks =
      ((industry.deliverySwitches economies).map (·.2) ++
        (industry.deliveryDispatch economies).1).filter fun s =>
          s.feature = Nml.featIndustries ∧ s.name = industry.windowSwitchName ++ rest := by
  obtain ⟨chain, fund, window, hfund, hwindow, _, hswitches⟩ := callbackTargets_blocks h
  obtain ⟨default, _, rfl⟩ := fundSwitch_eq_ok hfund
  rw [hswitches, windowSwitches_eq_ok hwindow, if_pos secondary, List.filter_append,
    List.filter_eq_nil_iff.2]
  · rfl
  · intro s mem named
    refine industry.windowSwitchName_append_ne rest ?_
    rw [← (of_decide_eq_true named).2, (Nml.Switch.mem_onEconomy mem).2]

/-- The callback for the text in the window of an industry that processes cargos, and the switches
it leads to. -/
theorem windowSwitches_blocks (h : industry.blocks economies table = .ok blocks)
    (secondary : industry.kind.isSecondary = true) :
    (∀ p, Nml.callbackTargets Nml.featIndustries industry.id p "extra_text_industry" blocks =
      [(industry.deliveryDispatch economies).2]) ∧
    Nml.switchesNamed Nml.featIndustries industry.windowSwitchName blocks =
      (industry.deliveryDispatch economies).1 ∧
    ∀ economy, Nml.switchesNamed Nml.featIndustries (industry.windowSwitchNameIn economy) blocks =
      ((industry.deliverySwitches economies).map (·.2)).filter fun s =>
        s.name = industry.windowSwitchNameIn economy := by
  have named := switchesNamed_window h secondary
  refine ⟨fun p => ?_, ?_, fun economy => ?_⟩
  · obtain ⟨chain, fund, window, _, hwindow, hcallbacks, _⟩ := callbackTargets_blocks h
    rw [hcallbacks, windowSwitches_eq_ok hwindow, if_pos secondary]
    rfl
  · rw [← String.append_empty (s := industry.windowSwitchName), named, String.append_empty,
      List.filter_append, List.filter_eq_nil_iff.2, List.nil_append, List.filter_eq_self.2]
    · intro s mem
      exact decide_eq_true (Nml.Switch.mem_onEconomy mem)
    · intro s mem named
      obtain ⟨_, economy, hname⟩ := mem_deliverySwitches mem
      exact industry.windowSwitchNameIn_ne economy (hname ▸ (of_decide_eq_true named).2)
  · have others : (industry.deliveryDispatch economies).1.filter (fun s =>
        s.feature = Nml.featIndustries ∧ s.name = industry.windowSwitchNameIn economy) = [] := by
      refine List.filter_eq_nil_iff.2 fun s mem named => ?_
      refine industry.windowSwitchNameIn_ne economy ?_
      rw [← (of_decide_eq_true named).2, (Nml.Switch.mem_onEconomy mem).2]
    rw [windowSwitchNameIn, String.append_assoc] at others ⊢
    rw [named, List.filter_append, others, List.append_nil]
    refine List.filter_congr fun s mem => ?_
    simp [(mem_deliverySwitches mem).1]

/-! ## The text about funding -/

end Industry

end IndustrySet
