import EnumText.Command
import EnumText.Proofs.Generation.Strays

/-!
# Runs that fail

The output file is opened after all else has succeeded. So a run that fails leaves all files as they
were, unless it fails from there on: the code turns out to have a stray byte, the device breaks off
the writing, or the line that announces the file cannot be printed. Then the former content of the
output file is lost, and no other file is changed.

* `GenerateOptions.Plans`: what a file to write, and code for it, follow from.
* `GenerateOptions.plan_eq_some_iff`: when there is a file to write.
* `Command.run_generate`: what a run comes to that generates code.
* `Command.Interrupted`: how a run fails after it has opened its output file, and what it leaves.
* `Command.save_failed`: a file that is not written, or not properly.
* `Command.run_failed`: what a run that fails leaves of the tree.
-/

namespace EnumText

theorem Source.generate_ne_none {s : Source} {form : TextForm} {typeNames : List Text}
    (some : typeNames ≠ []) : (s.generate form typeNames).outcome ≠ .ok none := by
  intro none
  simp only [generate, Report.outcome_bind, outcome_enumerations, bind_eq_ok_iff] at none
  obtain ⟨enumerations, each, rest⟩ := none
  obtain ⟨typeName, asked⟩ := List.exists_mem_of_ne_nil _ some
  obtain ⟨e, mem, -⟩ := exists_mem_of_mapM each typeName asked
  have notEmpty : enumerations.isEmpty = false := by
    simpa using List.ne_nil_of_mem mem
  simp only [notEmpty, Bool.false_eq_true, if_false, Report.outcome_bind, Report.outcome_pure,
    bind_eq_ok_iff] at rest
  obtain ⟨_, -, made⟩ := rest
  cases made

namespace GenerateOptions

variable {o : GenerateOptions} {t : FileTree} {file : Path} {code : Text}

/-- How a configuration and options say that instances are written as text. -/
def form (o : GenerateOptions) (config : Config) (casing : Option Casing) : TextForm :=
  let merged := config.merge (o.overrides casing)
  ⟨merged.casing, merged.marshalField, merged.zero⟩

/-- What is found out about a file to write and the code for it: the first type that is named, the
package, its configuration, and the casing that the options have. -/
structure Plans [SettingReader] (o : GenerateOptions) (t : FileTree) (file : Path)
    (code first : Text) (pkg : Package) (config : Config) (casing : Option Casing) : Prop where
  named : o.typeNames.head? = some first
  found : t.exists? (Path.ofText o.path) = .ok true
  loaded : (Package.load t (Path.ofText o.path)).outcome = .ok pkg
  configured : (Config.load t pkg.directory).outcome = .ok config
  known : o.casing? = .ok casing
  generated :
    (pkg.source.generate (o.form config casing) o.typeNames).outcome = .ok (some code)
  placed :
    outputFile t pkg.directory first (config.merge (o.overrides casing)).output = .ok file

/-- There is a file to write if a package and its configuration are loaded and code is generated. -/
theorem plan_eq_some_iff [SettingReader] : (o.plan t).outcome = .ok (some (file, code)) ↔
    ∃ first pkg config casing, o.Plans t file code first pkg config casing := by
  unfold plan
  split
  · next none =>
    constructor
    · intro h
      cases h
    · rintro ⟨first, pkg, config, casing, h⟩
      cases none ▸ h.named
  · next first others names =>
    simp only [Report.outcome_bind, Report.outcome_ofExcept, Report.outcome_mapError,
      Report.outcome_check_eq_ok_iff, bind_eq_ok_iff, mapError_eq_ok_iff, Bool.not_eq_true',
      Bool.not_eq_false]
    constructor
    · rintro ⟨_, found, rfl, pkg, loaded, config, configured, casing, known, answer, generated,
        rest⟩
      cases answer with
      | none => cases rest
      | some code' =>
        simp only [Report.outcome_bind, Report.outcome_ofExcept, Report.outcome_pure,
          bind_eq_ok_iff, mapError_eq_ok_iff] at rest
        obtain ⟨file', placed, same⟩ := rest
        cases same
        refine ⟨first, pkg, config, casing, congrArg _ names, found, loaded, configured, known, ?_,
          placed⟩
        rw [names]
        exact generated
    · rintro ⟨first', pkg, config, casing, h⟩
      cases (congrArg List.head? names).symm.trans h.named
      refine ⟨true, h.found, rfl, pkg, h.loaded, config, h.configured, casing, h.known, some code,
        names ▸ h.generated, ?_⟩
      simp only [Report.outcome_bind, Report.outcome_ofExcept, Report.outcome_pure, bind_eq_ok_iff,
        mapError_eq_ok_iff]
      exact ⟨file, h.placed, rfl⟩

/-- There is code wherever nothing fails, for a type is always named. -/
theorem plan_ne_none [SettingReader] : (o.plan t).outcome ≠ .ok none := by
  intro none
  unfold plan at none
  split at none
  · cases none
  · next first others names =>
    simp only [Report.outcome_bind, Report.outcome_ofExcept, Report.outcome_mapError,
      Report.outcome_check_eq_ok_iff, bind_eq_ok_iff, mapError_eq_ok_iff] at none
    obtain ⟨_, -, -, pkg, -, config, -, casing, -, answer, generated, rest⟩ := none
    cases answer with
    | none => exact Source.generate_ne_none (List.cons_ne_nil _ _) generated
    | some code =>
      simp only [Report.outcome_bind, Report.outcome_pure, bind_eq_ok_iff] at rest
      obtain ⟨_, -, placed⟩ := rest
      cases placed

end GenerateOptions

namespace Command

section Running

variable [Platform] {t : FileTree} {least : Level} {errors : Text} {file : Path} {code : Text}

@[simp] theorem tree_finish (outs : List Text) : (finish t errors outs).tree = t := by
  induction outs with
  | nil => rfl
  | cons out others ih =>
    rw [finish]
    split
    · rfl
    · exact ih

/-- A run that fails at its last output is one that cannot print it. -/
theorem finish_failed {out : Text} (failed : (finish t errors [out]).ending.exitCode ≠ 0) :
    Platform.output? out = none ∧ (finish t errors [out]).ending = .crashed .unencodable := by
  unfold finish at failed ⊢
  split at failed
  · next none => exact ⟨none, rfl⟩
  · exact absurd rfl failed

/-- What a run comes to that generates code: it fails before there is any, or prints the code of its
plan, or writes it to its file. -/
theorem run_generate (t : FileTree) (level : Option Text) {arguments : List Text}
    {o : GenerateOptions} (parsed : Platform.parse? arguments = some (.generate o)) :
    ((run arguments level t).ending.exitCode ≠ 0 ∧ (run arguments level t).tree = t) ∨
      ∃ file code errors, (o.plan t).outcome = .ok (some (file, code)) ∧
        (o.dryRun = true ∧ run arguments level t = finish t errors [code] ∨
          o.dryRun = false ∧ ∃ least, run arguments level t = save t least errors file code) := by
  unfold run
  rw [parsed]
  dsimp only
  split
  · exact .inl ⟨Nat.succ_ne_zero _, rfl⟩
  · unfold generate
    dsimp only
    split
    · exact .inl ⟨Nat.succ_ne_zero _, rfl⟩
    · exact .inl ⟨Nat.succ_ne_zero _, rfl⟩
    · exact .inl ⟨Nat.succ_ne_zero _, rfl⟩
    · next none => exact absurd none GenerateOptions.plan_ne_none
    · next file code planned =>
      split
      · next dry => exact .inr ⟨file, code, _, planned, .inl ⟨dry, rfl⟩⟩
      · next wet => exact .inr ⟨file, code, _, planned, .inr ⟨Bool.eq_false_iff.2 wet, _, rfl⟩⟩

/-- A run fails after it has opened its output file for the code. How it ends, and what the file
holds then. -/
inductive Interrupted (place : FileTree.Place) (file : Path) (code : Text) : Ending → Text → Prop
  /-- The code has a stray byte, so that nothing of it is written. -/
  | unencodable (stray : code.isScalar = false) :
      Interrupted place file code (.crashed .unencodable) []
  /-- The device breaks off after some bytes. -/
  | brokenOff {bytes : Nat} {reason : Text} (scalar : code.isScalar = true)
      (broken : Platform.writing place code = .broken bytes reason) :
      Interrupted place file code .failed (Utf8.decode (code.encode.take bytes))
  /-- The code is written, but that cannot be told. -/
  | unannounced (scalar : code.isScalar = true) (whole : Platform.writing place code = .whole)
      (mute : Platform.output? (announcement file) = none) :
      Interrupted place file code (.crashed .unencodable) code

/-- A failure to write a file leaves all files as they were, if the file is not opened. -/
theorem save_failed (failed : (save t least errors file code).ending.exitCode ≠ 0) :
    (save t least errors file code).tree = t ∨
      ∃ place content, t.locate file = .ok place ∧ t.node? place ≠ some .directory ∧
        Interrupted place file code (save t least errors file code).ending content ∧
        (save t least errors file code).tree = t.put place (.file content) := by
  unfold save at failed ⊢
  split
  · exact .inl rfl
  · exact .inl rfl
  · next place opened =>
    rw [opened] at failed
    obtain ⟨located, free⟩ := FileTree.placeFor_eq_ok_iff.1 opened
    dsimp only at failed ⊢
    split
    · exact .inl rfl
    · next stray _ => exact .inr ⟨place, [], located, free, .unencodable stray, rfl⟩
    · next bytes reason broken scalar =>
      exact .inr ⟨place, _, located, free, .brokenOff scalar broken, rfl⟩
    · next whole scalar =>
      rw [whole, scalar] at failed
      obtain ⟨mute, ending⟩ := finish_failed failed
      rw [ending]
      exact .inr ⟨place, code, located, free, .unannounced scalar whole mute, tree_finish _⟩

/-- A run that fails leaves all files as they were, unless it is interrupted after it has opened the
output file. The code has a stray byte if a directive of a type that is asked for has one. -/
theorem run_failed {arguments : List Text} {level : Option Text}
    (failed : (run arguments level t).ending.exitCode ≠ 0) : (run arguments level t).tree = t ∨
      ∃ o file code pkg place content, Platform.parse? arguments = some (.generate o) ∧
        o.dryRun = false ∧ (o.plan t).outcome = .ok (some (file, code)) ∧
        (Package.load t (Path.ofText o.path)).outcome = .ok pkg ∧
        (code.isScalar = false ↔ ∃ typeName ∈ o.typeNames, ∃ type,
          pkg.source.find? typeName = .ok (some type) ∧ type.HasStray) ∧
        t.locate file = .ok place ∧ t.node? place ≠ some .directory ∧
        Interrupted place file code (run arguments level t).ending content ∧
        (run arguments level t).tree = t.put place (.file content) := by
  cases parsed : Platform.parse? arguments with
  | none =>
    rw [run, parsed]
    exact .inl rfl
  | some invocation =>
    cases invocation with
    | version | formats =>
      rw [run, parsed]
      exact .inl (tree_finish _)
    | help =>
      rw [run, parsed]
      exact .inl rfl
    | generate o =>
      rcases run_generate t level parsed with
        ⟨-, same⟩ | ⟨file, code, errors, planned, ⟨-, ran⟩ | ⟨wet, least, ran⟩⟩
      · exact .inl same
      · rw [ran]
        exact .inl (tree_finish _)
      · rw [ran] at failed ⊢
        refine (save_failed failed).imp_right ?_
        rintro ⟨place, content, located, free, interrupted, tree⟩
        obtain ⟨_, pkg, _, _, findings⟩ := GenerateOptions.plan_eq_some_iff.1 planned
        have named := Package.isNamed_source findings.loaded
        exact ⟨o, file, code, pkg, place, content, rfl, wet, planned, findings.loaded,
          Source.isScalar_code_iff named findings.generated, located, free, interrupted, tree⟩

end Running

/-- A package with a directive that gives a stray byte to a field of integers, and a file that was
generated earlier. -/
def strayCards : FileTree where
  workingDirectory := []
  nodes := [([text "p"], .directory), ([text "p", text "card.go"], .file (text (
      "package p\n\n// enumr:Ace Rank:\"\\xff\"\ntype Card struct \x7b\n\tRank int\n\x7d\n"))),
    ([text "enum.go"], .file (text "package p\n\n// kept\n"))]

/-- Arguments that ask for its type, and name the file. -/
def strayArguments : List Text :=
  [text "generate", text "p", text "-t", text "Card", text "-o", text "enum.go"]

/-- What the arguments say. -/
def strayOptions : GenerateOptions where
  path := text "p"
  types := text "Card"
  format := none
  output := some (text "enum.go")
  marshalField := none
  zero := none
  dryRun := false
  verbose := false

theorem run_strayArguments : run strayArguments none strayCards =
    ⟨.crashed .unencodable, [], [], strayCards.put [text "enum.go"] (.file [])⟩ := by
  decide +kernel

theorem run_failed_strayCards :
    (run strayArguments none strayCards).ending.exitCode ≠ 0 ∧
    ∃ place content, strayCards.locate ⟨.relative, [text "enum.go"]⟩ = .ok place ∧
      (run strayArguments none strayCards).tree = strayCards.put place (.file content) := by
  have failed : (run strayArguments none strayCards).ending.exitCode ≠ 0 := by
    rw [run_strayArguments]
    decide
  have known : Platform.parse? strayArguments = some (.generate strayOptions) := by decide +kernel
  have output : (strayOptions.plan strayCards).outcome.toOption.any
      (·.any fun p => p.1 = ⟨.relative, [text "enum.go"]⟩) = true := by decide +kernel
  refine ⟨failed, ?_⟩
  rcases run_failed failed with
    same | ⟨o, file, code, pkg, place, content, parsed, -, planned, -, -, located, -, -, tree⟩
  · rw [run_strayArguments] at same
    exact absurd same (by decide)
  · cases known.symm.trans parsed
    rw [planned] at output
    obtain rfl : file = ⟨.relative, [text "enum.go"]⟩ := of_decide_eq_true output
    exact ⟨place, content, located, tree⟩

/-- The run fails, and the content of the earlier file is lost. -/
theorem run_strayCards :
    (run strayArguments none strayCards).ending.exitCode = 1 ∧
    strayCards.read ⟨.relative, [text "enum.go"]⟩ = .ok (text "package p\n\n// kept\n") ∧
    (run strayArguments none strayCards).tree.read ⟨.relative, [text "enum.go"]⟩ = .ok [] ∧
    (run strayArguments none strayCards).tree ≠ strayCards := by
  rw [run_strayArguments]
  exact ⟨rfl, rfl, rfl, by decide⟩

end Command

end EnumText
