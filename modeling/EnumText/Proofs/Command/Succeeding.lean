import EnumText.Proofs.Command.Failing
import EnumText.Proofs.Config.Loading

/-!
# Runs that succeed

A run that generates code and succeeds writes one file, or none if it is a dry run. Its name, and
what is written to it, come from the package, and from values that are each given on the command
line, or else configured, or else the default.

* `Command.save_done`: a file that is written.
* `Command.run_done`: what a run that succeeds leaves of the tree.
-/

namespace EnumText

namespace GenerateOptions

variable {o : GenerateOptions} {t : FileTree}

/-- The casing of the command line is the one that its format names, if it has one. -/
theorem casing?_eq_ok_iff {casing : Option Casing} :
    o.casing? = .ok casing ↔ o.format.mapM Casing.parse? = some casing := by
  unfold casing?
  cases o.format with
  | none => simp [eq_comm]
  | some format =>
    cases known : Casing.parse? format with
    | none => simp [known]
    | some c => simp [known]

end GenerateOptions

namespace Command

section Running

variable [Platform] {t : FileTree} {least : Level} {errors : Text} {file : Path} {code : Text}

/-- A file that is written holds the code. -/
theorem save_done (done : (save t least errors file code).ending.exitCode = 0) :
    ∃ place, t.locate file = .ok place ∧ t.node? place ≠ some .directory ∧
      (save t least errors file code).tree = t.put place (.file code) := by
  unfold save at done ⊢
  split at done
  · cases done
  · cases done
  · next place opened =>
    obtain ⟨located, free⟩ := FileTree.placeFor_eq_ok_iff.1 opened
    split at done
    · cases done
    · cases done
    · cases done
    · exact ⟨place, located, free, tree_finish _⟩

/-- Code without stray bytes is written to the file that is planned for it, if the device takes it
and the file can be announced. -/
theorem run_of_plan {arguments : List Text} {level : Option Text} {o : GenerateOptions}
    {place : FileTree.Place} (parsed : Platform.parse? arguments = some (.generate o))
    (possible : impossiblePath? o = none) (planned : (o.plan t).outcome = .ok (some (file, code)))
    (wet : o.dryRun = false) (scalar : code.isScalar = true) (located : t.locate file = .ok place)
    (free : t.node? place ≠ some .directory) (whole : Platform.writing place code = .whole)
    (announced : Platform.output? (announcement file) ≠ none) :
    (run arguments level t).ending = .done ∧
      (run arguments level t).tree = t.put place (.file code) := by
  obtain ⟨shown, announced⟩ := Option.ne_none_iff_exists'.1 announced
  simp only [run, parsed, possible, generate, planned, wet, Bool.false_eq_true, if_false, save,
    FileTree.placeFor_eq_ok_iff.2 ⟨located, free⟩, whole, scalar, finish, announced, and_self]

/-- A run that generates code and succeeds changes no file if it is dry. Otherwise it gives one file
the code, and changes nothing else. The code is that of the loaded package for all named types. The
file is named for the first of them in the directory of the package, unless an output is given. -/
theorem run_done {arguments : List Text} {level : Option Text} {o : GenerateOptions}
    (parsed : Platform.parse? arguments = some (.generate o))
    (done : (run arguments level t).ending.exitCode = 0) :
    ∃ first others pkg config casing file code, o.typeNames = first :: others ∧
      (Package.load t (Path.ofText o.path)).outcome = .ok pkg ∧
      Config.Holds t pkg.directory config ∧ o.format.mapM Casing.parse? = some casing ∧
      (pkg.source.generate ⟨casing.getD config.casing, o.marshalField <|> config.marshalField,
        o.zero.getD config.zero⟩ o.typeNames).outcome = .ok (some code) ∧
      outputFile t pkg.directory first
        ((o.output.map fun output => (Path.ofText output).toText) <|> config.output) = .ok file ∧
      (o.dryRun = true → (run arguments level t).tree = t) ∧
      (o.dryRun = false → ∃ place, t.locate file = .ok place ∧
        (run arguments level t).tree.read file = .ok code ∧
        (run arguments level t).tree.node? place = some (.file code) ∧
        (run arguments level t).tree.remove place = t.remove place ∧
        ∀ other ≠ place, (run arguments level t).tree.node? other = t.node? other) := by
  rcases run_generate t level parsed with
    ⟨failed, -⟩ | ⟨file, code, errors, planned, ran⟩
  · exact absurd done failed
  · obtain ⟨first, pkg, config, casing, findings⟩ := GenerateOptions.plan_eq_some_iff.1 planned
    obtain ⟨others, names⟩ := List.head?_eq_some_iff.1 findings.named
    refine ⟨first, others, pkg, config, casing, file, code, names, findings.loaded,
      Config.load_eq_ok_iff.1 findings.configured,
      GenerateOptions.casing?_eq_ok_iff.1 findings.known, findings.generated, findings.placed, ?_⟩
    rcases ran with ⟨dry, ran⟩ | ⟨wet, least, ran⟩
    · rw [ran]
      exact ⟨fun _ => tree_finish _, fun wet => absurd (dry.symm.trans wet) (by decide)⟩
    · rw [ran] at done ⊢
      refine ⟨fun dry => absurd (wet.symm.trans dry) (by decide), fun _ => ?_⟩
      obtain ⟨place, located, free, tree⟩ := save_done done
      have inside := FileTree.ne_nil_of_free free
      rw [tree]
      refine ⟨place, located, FileTree.read_put free code located, ?_, FileTree.remove_put _ _ _,
        ?_⟩
      · rw [FileTree.node?_put_of_ne_nil inside, if_pos rfl]
      · intro other apart
        rw [FileTree.node?_put_of_ne_nil inside, if_neg apart]

end Running

/-- A package with a type whose instance a directive names. -/
def bareCards : FileTree where
  workingDirectory := []
  nodes := [([text "p"], .directory), ([text "p", text "card.go"], .file (text
    "package p\n\n// enumr:Ace\ntype Card struct \x7b\x7d\n"))]

example : (run [text "generate", text "p", text "-t", text "Card", text "--dry-run"] none
    bareCards).tree = bareCards := by decide +kernel

/-- A configuration with a casing and an output. -/
def configuration (casing : Text) : Text :=
  text "format = \"" ++ casing ++ text "\"\noutput = \"gen.go\"\n"

/-- The package with a configuration beside it. -/
def configuredCards (casing : Text) : FileTree :=
  bareCards.put [text "p", text "enumr.toml"] (.file (configuration casing))

/-- The package with the configuration of a casing that exists. -/
def camelCards : FileTree := configuredCards (text "camelCase")

/-- Arguments that ask for its type in a casing of their own. -/
def snakeArguments : List Text :=
  [text "generate", text "p", text "-t", text "Card", text "-f", text "snake_case"]

/-- What the arguments say. -/
def snakeOptions : GenerateOptions where
  path := text "p"
  types := text "Card"
  format := some (text "snake_case")
  output := none
  marshalField := none
  zero := none
  dryRun := false
  verbose := false

/-- What is loaded from the directory. -/
def camelPackage : Package where
  name := text "p"
  directory := ⟨.relative, [text "p"]⟩
  files := [⟨text "p", [⟨⟨text "Card", [text "// enumr:Ace"], []⟩, true, 4⟩], []⟩]

theorem load_camelCards :
    (Package.load camelCards ⟨.relative, [text "p"]⟩).outcome = .ok camelPackage := by
  have isDirectory : camelCards.isDirectory? ⟨.relative, [text "p"]⟩ = .ok true :=
    eq_ok_of_toOption (by decide +kernel)
  have located : camelCards.locate ⟨.relative, [text "p"]⟩ = .ok [text "p"] :=
    eq_ok_of_toOption (by decide +kernel)
  have names : Package.sourceNames camelCards [text "p"] = [text "card.go"] := by
    have fresh : bareCards.node? ([text "p"] ++ [text "enumr.toml"]) = none := by decide
    exact (Package.sourceNames_put fresh (by decide) _).trans (by decide +kernel)
  refine Package.load_eq_ok_iff.2 ⟨[⟨.relative, [text "p", text "card.go"]⟩],
    eq_ok_of_toOption (by decide +kernel), FileTree.exists?_of_isDirectory? isDirectory, ?_,
    by simp, eq_ok_of_toOption (by decide +kernel), by decide +kernel⟩
  rw [show camelPackage.directory = ⟨.relative, [text "p"]⟩ from rfl,
    Package.discover_eq isDirectory located, names]
  rfl

theorem config_camelCards :
    (Config.load camelCards ⟨.relative, [text "p"]⟩).outcome =
      .ok ⟨.camel, none, false, some (text "p/gen.go")⟩ := eq_ok_of_toOption (by decide +kernel)

theorem plan_camelCards : ∃ code, code.isScalar = true ∧
    (snakeOptions.plan camelCards).outcome =
      .ok (some (⟨.relative, [text "p", text "gen.go"]⟩, code)) := by
  obtain ⟨_, generated, shown⟩ := exists_ok_of_any
    (x := (camelPackage.source.generate ⟨.snake, none, false⟩ [text "Card"]).outcome)
    (p := (·.any Text.isScalar)) (by decide +kernel)
  obtain ⟨code, rfl, scalar⟩ := (Option.any_eq_true _ _).1 shown
  exact ⟨code, scalar, GenerateOptions.plan_eq_some_iff.2 ⟨text "Card", _, _, some .snake,
    by decide, eq_ok_of_toOption (by decide +kernel), load_camelCards, config_camelCards,
    eq_ok_of_toOption (by decide +kernel), generated, eq_ok_of_toOption (by decide +kernel)⟩⟩

theorem parse?_snakeArguments :
    Platform.parse? snakeArguments = some (.generate snakeOptions) := by decide +kernel

theorem locate_camelCards :
    camelCards.locate ⟨.relative, [text "p", text "gen.go"]⟩ = .ok [text "p", text "gen.go"] := rfl

theorem ending_camelCards : (run snakeArguments none camelCards).ending = .done := by
  obtain ⟨code, scalar, planned⟩ := plan_camelCards
  exact (run_of_plan parse?_snakeArguments rfl planned rfl scalar locate_camelCards
    (by decide) rfl (by decide +kernel)).1

/-- The output is the configured one, in the directory of the configuration. -/
theorem run_done_camelCards :
    (run snakeArguments none camelCards).ending.exitCode = 0 ∧
    ∃ code, (run snakeArguments none camelCards).tree.read
        ⟨.relative, [text "p", text "gen.go"]⟩ = .ok code ∧
      ∀ other ≠ [text "p", text "gen.go"],
        (run snakeArguments none camelCards).tree.node? other = camelCards.node? other := by
  have done : (run snakeArguments none camelCards).ending.exitCode = 0 := by
    rw [ending_camelCards]
    rfl
  refine ⟨done, ?_⟩
  obtain ⟨first, others, pkg, config, casing, file, code, -, loaded, holds, -, -, placed, -, wet⟩ :=
    run_done parse?_snakeArguments done
  cases loaded.symm.trans load_camelCards
  cases (Config.load_eq_ok_iff.2 holds).symm.trans config_camelCards
  have alone : camelCards.isDirectory? (Path.ofText (text "p/gen.go")) = .ok false := rfl
  obtain rfl : file = ⟨.relative, [text "p", text "gen.go"]⟩ := by
    obtain ⟨isDirectory, found, same⟩ := bind_eq_ok_iff.1 placed
    cases alone.symm.trans found
    exact (Except.ok.inj same).symm.trans (show Path.ofText (text "p/gen.go") = _ from rfl)
  obtain ⟨place, there, read, -, -, frame⟩ := wet rfl
  cases locate_camelCards.symm.trans there
  exact ⟨code, read, frame⟩

end Command

end EnumText
