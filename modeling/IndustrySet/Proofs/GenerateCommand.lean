import IndustrySet.Command.Run
import IndustrySet.Proofs.Fallible
import IndustrySet.Proofs.FileWrites

set_option autoImplicit false

/-! # Running `generate`

A call of `generate` reads its configuration and the declarations, generates everything, and only
then writes. Where anything before the writing fails, the tree is as it was; where a file cannot be
written, the files before it are, and no later one is (`tree_call_generate`). -/

namespace IndustrySet

variable {arguments : List String} {config : Option String} {overrides : Overrides}

/-! ## How the parts run -/

theorem Registry.run_writeGenerated (registry : Registry) (settings : Configuration)
    (tree : FileTree) :
    (registry.writeGenerated settings).run tree =
      match registry.generate settings with
      | .error e => .error e tree
      | .ok generated =>
        match (FileTree.writeFiles (generated.files settings)).run tree with
        | .error e after => .error e after
        | .ok _ after =>
          .ok ⟨generated.fragments.length, generated.warnings,
            (generated.files settings).map (·.1)⟩ after := by
  rw [writeGenerated, Update.run_liftExcept_bind]
  cases registry.generate settings with
  | error e => rfl
  | ok generated =>
    dsimp only
    rw [EStateM.run_bind]
    cases (FileTree.writeFiles (generated.files settings)).run tree <;> rfl

/-- The tree is only read until there is something to write. -/
theorem Command.run_generateAll (config : Option String) (overrides : Overrides)
    (tree : FileTree) :
    (generateAll config overrides).run tree =
      match configuration tree config overrides with
      | .error e => .error e tree
      | .ok settings =>
        match tree.loadRegistry settings.declarationsDir with
        | .error e => .error e tree
        | .ok registry => (registry.writeGenerated settings).run tree := by
  show (liftExcept (configuration tree config overrides) >>= _ : Update FileTree _).run tree = _
  rw [Update.run_liftExcept_bind]
  cases configuration tree config overrides with
  | error e => rfl
  | ok settings =>
    dsimp only
    rw [Update.run_liftExcept_bind]
    cases tree.loadRegistry settings.declarationsDir <;> rfl

/-- What the program makes of a run. -/
theorem call_eq (parsed : Command.ofArguments arguments = .run (.generate config overrides))
    (tree : FileTree) :
    call tree arguments =
      match (Command.generateAll config overrides).run tree with
      | .ok _ after => ⟨after, 0, "", none⟩
      | .error e after => ⟨after, 1, "", some e⟩ := by
  cases run : (Command.generateAll config overrides).run tree <;>
    simp only [call, parsed, Command.run, Update.outcome, run] <;> rfl

/-! ## The whole call -/

/-- A call of `generate` fails and leaves the tree as it was if the configuration or the
declarations cannot be loaded, or something cannot be generated. Otherwise it writes the fragments
and then the file with all of them, and fails at the first file that cannot be written. Then the
files hold what the writes before that one make of them, and no directory is gone. -/
theorem tree_call_generate
    (parsed : Command.ofArguments arguments = .run (.generate config overrides))
    (tree : FileTree) :
    (∀ e, Command.configuration tree config overrides = .error e →
      call tree arguments = ⟨tree, 1, "", some e⟩) ∧
    ∀ settings, Command.configuration tree config overrides = .ok settings →
      (∀ e, tree.loadRegistry settings.declarationsDir = .error e →
        call tree arguments = ⟨tree, 1, "", some e⟩) ∧
      ∀ registry, tree.loadRegistry settings.declarationsDir = .ok registry →
        (∀ e, registry.generate settings = .error e →
          call tree arguments = ⟨tree, 1, "", some e⟩) ∧
        ∀ generated, registry.generate settings = .ok generated →
          let files := generated.files settings
          (files.map (·.1) =
            generated.fragments.map (fun fragment => Path.join settings.outputDir fragment.path) ++
              [Path.join settings.outputDir "firs.nml"]) ∧
          (∀ place e, tree.fault? files place = some e → ∃ after,
            call tree arguments = ⟨after, 1, "", some e⟩ ∧
              FileTree.Written (files.take place) tree after) ∧
          ((∀ place, tree.fault? files place = none) → ∃ after,
            call tree arguments = ⟨after, 0, "", none⟩ ∧ FileTree.Written files tree after) := by
  rw [call_eq parsed tree, Command.run_generateAll]
  refine ⟨fun e hsettings => ?_, fun settings hsettings => ?_⟩
  · rw [hsettings]
  rw [hsettings]
  refine ⟨fun e hregistry => ?_, fun registry hregistry => ?_⟩
  · simp only [hregistry]
  simp only [hregistry, Registry.run_writeGenerated]
  refine ⟨fun e hgenerated => ?_, fun generated hgenerated => ?_⟩
  · rw [hgenerated]
  rw [hgenerated]
  dsimp only
  refine ⟨?_, ?_, ?_⟩
  · simp [Generated.files, combinedFile]
  · intro place e fault
    obtain ⟨after, run, written⟩ := FileTree.run_writeFiles_of_fault fault
    exact ⟨after, by rw [run], written⟩
  · intro faultless
    cases run : (FileTree.writeFiles (generated.files settings)).run tree with
    | ok _ after => exact ⟨after, rfl, FileTree.written_of_run_writeFiles run⟩
    | error e after =>
      obtain ⟨place, fault⟩ := FileTree.exists_fault run
      rw [faultless place] at fault
      cases fault

/-- A wharf is declared, and a directory lies where the file with everything is to go. -/
def blockedTree : FileTree where
  entries := [(["data"], .directory), (["data", "industries"], .directory),
    (["data", "industries", "wharf.ron"],
      .file "(id:\"wharf\",numeric_id:9,kind:PrimaryPort)".toUTF8), (["generated"], .directory),
    (["generated", "firs.nml"], .directory)]
  distinct := by decide

/-- The file of the wharf is written before the fault, and no other file changes. -/
theorem tree_call_generate_blocked :
    Command.ofArguments ["generate"] = .run (.generate none ⟨none, none, none, none, none⟩) ∧
      ∃ after text,
        call blockedTree ["generate"] =
          ⟨after, 1, "", some (.file "generated/firs.nml" .isDirectory)⟩ ∧
        FileTree.Written [("generated/industries/wharf.nml", text)] blockedTree after := by
  have parsed : Command.ofArguments ["generate"] =
      .run (.generate none ⟨none, none, none, none, none⟩) := by decide
  obtain ⟨⟨registry, generated⟩, ready, paths, fault⟩ : ∃ ready : Registry × Generated,
      (do
        let registry ← blockedTree.loadRegistry "data"
        let generated ← registry.generate {}
        return (registry, generated) : Except Error (Registry × Generated)) = .ok ready ∧
      (ready.2.files {}).map (·.1) = ["generated/industries/wharf.nml", "generated/firs.nml"] ∧
      blockedTree.fault? (ready.2.files {}) 1 =
        some (.file "generated/firs.nml" .isDirectory) :=
    exists_of_any (by decide +kernel)
  obtain ⟨_, hregistry, ready⟩ := bind_eq_ok.1 ready
  obtain ⟨_, hgenerated, ready⟩ := bind_eq_ok.1 ready
  cases pure_eq_ok.1 ready
  obtain ⟨_, loaded⟩ := tree_call_generate parsed blockedTree
  obtain ⟨_, readied⟩ := loaded {} rfl
  obtain ⟨_, writes⟩ := readied registry hregistry
  obtain ⟨_, faulty, _⟩ := writes generated hgenerated
  obtain ⟨after, called, written⟩ := faulty 1 _ fault
  obtain ⟨⟨_, text⟩, rest, files, rfl, _⟩ := List.map_eq_cons_iff.1 paths
  rw [files] at written
  exact ⟨parsed, after, text, called, written⟩

end IndustrySet
