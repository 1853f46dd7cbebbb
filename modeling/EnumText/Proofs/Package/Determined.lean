import EnumText.Proofs.FileTree.Entries
import EnumText.Proofs.Package.Declared

/-!
# A package is determined by its source files

Only the files of a directory count that are source files by their names, with their contents. Other
files, directories of any name and the order in which a directory is listed have no say, and a path
to a file of the directory leads to the same package.

* `mem_sourceNames_iff`, `sourceNames_congr`: the names of the source files.
* `load_eq_loadFiles`: a package is loaded from the files of these names.
* `loadFiles_eq_ok_iff`, `loadFiles_eq_error_iff`: what that comes to.
* `load_determined`: the package of a directory in two trees.
-/

namespace EnumText

/-- The content of the file of some name in a directory, if there is one. -/
def FileTree.fileIn? (t : FileTree) (here : FileTree.Place) (name : Text) : Option Text :=
  match t.node? (here ++ [name]) with
  | some (.file content) => some content
  | _ => none

theorem FileTree.fileIn?_eq_some_iff {t : FileTree} {here : FileTree.Place} {name content : Text} :
    t.fileIn? here name = some content ↔ t.node? (here ++ [name]) = some (.file content) := by
  unfold fileIn?
  split
  · next stands => simp [stands]
  · next other => exact iff_of_false nofun (other content)

namespace Package

open FileTree (Place)

variable {t t' : FileTree} {p d : Path} {here here' : Place}

/-! ## Names -/

theorem mem_sourceNames_iff {name : Text} :
    name ∈ sourceNames t here ↔
      isSourceName name = true ∧ ∃ content, t.fileIn? here name = some content := by
  rw [sourceNames, List.mem_filter, FileTree.mem_namesIn_iff, Bool.and_eq_true]
  simp only [FileTree.fileIn?_eq_some_iff]
  constructor
  · rintro ⟨-, isSource, file⟩
    refine ⟨isSource, ?_⟩
    unfold isFile at file
    split at file
    · next content stands => exact ⟨content, stands⟩
    · cases file
  · rintro ⟨isSource, content, stands⟩
    rw [stands]
    exact ⟨Option.some_ne_none _, isSource, rfl⟩

theorem pairwise_sourceNames (t : FileTree) (here : Place) :
    (sourceNames t here).Pairwise fun a b => a.le b = true :=
  (FileTree.pairwise_namesIn t here).filter _

theorem nodup_sourceNames (proper : t.Proper) (here : Place) : (sourceNames t here).Nodup :=
  (FileTree.nodup_namesIn proper here).filter _

/-- Directories with the same source files have their names in the same order. -/
theorem sourceNames_congr (proper : t.Proper) (proper' : t'.Proper)
    (same : ∀ name, isSourceName name = true → t'.fileIn? here' name = t.fileIn? here name) :
    sourceNames t' here' = sourceNames t here := by
  have members (name : Text) : name ∈ sourceNames t' here' ↔ name ∈ sourceNames t here := by
    rw [mem_sourceNames_iff, mem_sourceNames_iff]
    exact and_congr_right fun isSource => by rw [same name isSource]
  exact List.Perm.eq_of_pairwise (fun _ _ _ _ => Text.le_antisymm) (pairwise_sourceNames t' here')
    (pairwise_sourceNames t here) ((List.perm_ext_iff_of_nodup (nodup_sourceNames proper' here')
      (nodup_sourceNames proper here)).2 members)

/-! ## Files -/

/-- The package that files of a directory make, which have to be some and to agree on its name. -/
def loadFiles (t : FileTree) (d : Path) (paths : List Path) : Report LoadError Package := do
  if paths.isEmpty then throw (.noFiles d)
  let files ← readFiles t paths
  match packageNames files with
  | [name] => return ⟨name, d, files⟩
  | names => throw (.manyPackages names d)

theorem load_eq_loadFiles (chosen : directoryOf t p = .ok d)
    (directory : t.isDirectory? d = .ok true) (located : t.locate d = .ok here) :
    load t p = loadFiles t d ((sourceNames t here).map d.child) := by
  have go {α β ε : Type} (a : α) (f : α → Report ε β) : Report.ofExcept (.ok a) >>= f = f a := rfl
  rw [load, chosen]
  simp only [Except.mapError, go, FileTree.exists?_of_isDirectory? directory,
    discover_eq directory located]
  rfl

theorem outcome_loadFiles {paths : List Path} (some : paths ≠ []) :
    (loadFiles t d paths).outcome = paths.mapM (readFile t) >>= fun files =>
      match packageNames files with
      | [name] => .ok ⟨name, d, files⟩
      | names => .error (.manyPackages names d) := by
  rw [loadFiles, if_neg (mt List.isEmpty_iff.1 some), Report.outcome_bind, outcome_readFiles]
  congr 1
  funext files
  split <;> rfl

theorem loadFiles_eq_ok_iff {paths : List Path} {pkg : Package} :
    (loadFiles t d paths).outcome = .ok pkg ↔ pkg.directory = d ∧
      paths.mapM (readFile t) = .ok pkg.files ∧ pkg.files ≠ [] ∧
      ∀ f ∈ pkg.files, f.package = pkg.name := by
  rw [← packageNames_eq_singleton_iff]
  by_cases none : paths = []
  · subst none
    refine iff_of_false nofun ?_
    rintro ⟨-, read, named⟩
    rw [← Except.ok.inj read] at named
    exact absurd rfl (packageNames_eq_singleton_iff.1 named).1
  · rw [outcome_loadFiles none, bind_eq_ok_iff]
    constructor
    · rintro ⟨files, read, named⟩
      split at named
      · next name one =>
        cases named
        exact ⟨rfl, read, one⟩
      · cases named
    · rintro ⟨rfl, read, named⟩
      refine ⟨_, read, ?_⟩
      rw [named]

/-- Files that do not name one package name two. -/
theorem exists_package_ne {files : List SourceFile} (some : files ≠ [])
    (many : ∀ name, packageNames files ≠ [name]) :
    ∃ f ∈ files, ∃ g ∈ files, f.package ≠ g.package := by
  obtain ⟨f, mem⟩ := List.exists_mem_of_ne_nil _ some
  by_contra all
  refine many f.package (packageNames_eq_singleton_iff.2 ⟨some, fun g inside => ?_⟩)
  by_contra other
  exact all ⟨g, inside, f, mem, other⟩

theorem exists_split_map {α β : Type} {f : α → β} {xs : List α} {p q : β → Prop} :
    (∃ before y after, xs.map f = before ++ y :: after ∧ (∀ z ∈ before, p z) ∧ q y) ↔
      ∃ before x after, xs = before ++ x :: after ∧ (∀ z ∈ before, p (f z)) ∧ q (f x) := by
  constructor
  · rintro ⟨before, y, after, same, each, here⟩
    obtain ⟨front, back, rfl, rfl, rest⟩ := List.map_eq_append_iff.1 same
    obtain ⟨x, back, rfl, rfl, rfl⟩ := List.map_eq_cons_iff.1 rest
    exact ⟨front, x, back, rfl, List.forall_mem_map.1 each, here⟩
  · rintro ⟨before, x, after, rfl, each, here⟩
    exact ⟨_, _, _, by rw [List.map_append, List.map_cons], List.forall_mem_map.2 each, here⟩

/-- A file that cannot be read counts before the names of packages. -/
theorem loadFiles_eq_error_iff {paths : List Path} {e : LoadError} :
    (loadFiles t d paths).outcome = .error e ↔
      paths = [] ∧ e = .noFiles d ∨
      (∃ before file after, paths = before ++ file :: after ∧
        (∀ other ∈ before, ∃ f, readFile t other = .ok f) ∧ readFile t file = .error e) ∨
      ∃ files, paths.mapM (readFile t) = .ok files ∧
        (∃ f ∈ files, ∃ g ∈ files, f.package ≠ g.package) ∧
        e = .manyPackages (packageNames files) d := by
  by_cases none : paths = []
  · subst none
    constructor
    · intro failed
      cases failed
      exact .inl ⟨rfl, rfl⟩
    · rintro (⟨-, rfl⟩ | ⟨before, file, after, none, -⟩ | ⟨files, read, ⟨f, mem, -⟩, -⟩)
      · rfl
      · simp at none
      · cases read
        cases mem
  · have notEmpty : ¬ (paths = [] ∧ e = .noFiles d) := fun h => none h.1
    rw [outcome_loadFiles none, bind_eq_error_iff, mapM_eq_error_iff, or_iff_right notEmpty]
    refine or_congr_right (exists_congr fun files => and_congr_right fun read => ?_)
    split
    · next name one =>
      refine iff_of_false nofun ?_
      rintro ⟨⟨f, mem, g, inside, apart⟩, -⟩
      have same := (packageNames_eq_singleton_iff.1 one).2
      exact apart ((same f mem).trans (same g inside).symm)
    · next many =>
      have some : files ≠ [] := by
        rintro rfl
        exact none (List.map_eq_nil_iff.1 (map_eq_of_mapM read))
      rw [and_iff_right (exists_package_ne some many)]
      simp [eq_comm]

/-! ## Two trees -/

/-- What is read from a source file depends only on its content. -/
theorem readFile_congr {name : Text} (located : t.locate d = .ok here)
    (located' : t'.locate d = .ok here') (directory : t.isDirectory? d = .ok true)
    (directory' : t'.isDirectory? d = .ok true) (isSource : name ∈ sourceNames t here)
    (same : t'.fileIn? here' name = t.fileIn? here name) :
    readFile t' (d.child name) = readFile t (d.child name) := by
  obtain ⟨source, content, file⟩ := mem_sourceNames_iff.1 isSource
  have down : name ≠ text ".." := by
    rintro rfl
    exact absurd source (by decide)
  have stands := FileTree.fileIn?_eq_some_iff.1 file
  have stands' := FileTree.fileIn?_eq_some_iff.1 (same.trans file)
  rw [readFile, readFile, FileTree.read_child located located'
    (FileTree.node?_of_isDirectory? located directory)
    (FileTree.node?_of_isDirectory? located' directory') down (stands'.trans stands.symm)]

/-- The package of a directory is determined by its source files. Two trees in which a path leads to
directories with the same files of such names and contents load the same from it, and the path of a
name in the directory that is not that of a directory leads to the same too. Names that are too long
for the system are left out there: their paths are refused with a fault. The files are read in the
order of their names. If all can be read and name one package, that is loaded, where the first
declaration of a type counts; otherwise there is no source file, or the first that cannot be read is
told, or there are files of several packages. -/
theorem load_determined (proper : t.Proper) (proper' : t'.Proper)
    (directory : t.isDirectory? d = .ok true) (directory' : t'.isDirectory? d = .ok true)
    (located : t.locate d = .ok here) (located' : t'.locate d = .ok here')
    (same : ∀ name, isSourceName name = true → t'.fileIn? here' name = t.fileIn? here name) :
    load t' d = load t d ∧
    (∀ name, t.isDirectory? (d.child name) = .ok false → load t (d.child name) = load t d) ∧
    ∃ names : List Text, (names.Pairwise fun a b => a.le b = true) ∧ names.Nodup ∧
      (∀ name, name ∈ names ↔
        isSourceName name = true ∧ ∃ content, t.fileIn? here name = some content) ∧
      (∀ pkg, (load t d).outcome = .ok pkg ↔ pkg.directory = d ∧
        (names.map d.child).mapM (readFile t) = .ok pkg.files ∧ pkg.files ≠ [] ∧
        ∀ f ∈ pkg.files, f.package = pkg.name) ∧
      (∀ pkg, (load t d).outcome = .ok pkg → pkg.source.package = pkg.name ∧
        pkg.source.bindings = pkg.files.flatMap (·.bindings) ∧
        ∀ typeName, pkg.source.find? typeName = match pkg.decl? typeName with
          | none => .ok none
          | some decl => decl.toTypeInfo.check.map some) ∧
      ∀ e, (load t d).outcome = .error e ↔
        names = [] ∧ e = .noFiles d ∨
        (∃ before name after, names = before ++ name :: after ∧
          (∀ other ∈ before, ∃ f, readFile t (d.child other) = .ok f) ∧
          readFile t (d.child name) = .error e) ∨
        ∃ files, (names.map d.child).mapM (readFile t) = .ok files ∧
          (∃ f ∈ files, ∃ g ∈ files, f.package ≠ g.package) ∧
          e = .manyPackages (packageNames files) d := by
  have chosen : directoryOf t d = .ok d := by
    rw [directoryOf, directory]
    rfl
  have chosen' : directoryOf t' d = .ok d := by
    rw [directoryOf, directory']
    rfl
  have loads := load_eq_loadFiles chosen directory located
  refine ⟨?_, fun name other => ?_, sourceNames t here, pairwise_sourceNames t here,
    nodup_sourceNames proper here, fun name => mem_sourceNames_iff, fun pkg => ?_,
    fun pkg _ => ⟨rfl, rfl, find?_source pkg⟩, fun e => ?_⟩
  · rw [load_eq_loadFiles chosen' directory' located', sourceNames_congr proper proper' same, loads,
      loadFiles, loadFiles, readFiles_congr]
    intro file mem
    obtain ⟨name, isSource, rfl⟩ := List.mem_map.1 mem
    exact readFile_congr located located' directory directory' isSource
      (same name (mem_sourceNames_iff.1 isSource).1)
  · have inside : directoryOf t (d.child name) = .ok d := by
      rw [directoryOf, other]
      refine congrArg Except.ok (?_ : (d.child name).parent = d)
      rw [Path.parent, Path.child, List.dropLast_concat]
    rw [load_eq_loadFiles inside directory located, loads]
  · rw [loads]
    exact loadFiles_eq_ok_iff
  · rw [loads, loadFiles_eq_error_iff, exists_split_map, List.map_eq_nil_iff]

/-- A directory with two source files, a test of another package and a text. -/
def deckTree : FileTree where
  workingDirectory := []
  nodes := [([text "p"], .directory),
    ([text "p", text "card.go"], .file (text "package deck\n\ntype Card struct\x7b\x7d\n")),
    ([text "p", text "card_test.go"], .file (text "package deck_test\n")),
    ([text "p", text "ace.go"], .file (text "package deck\n\nvar Ace = Card\x7b\x7d\n")),
    ([text "p", text "notes.md"], .file (text "Cards."))]

/-- A directory with the same source files, in another order and below another directory, and with a
directory that is named like a source file. -/
def movedDeckTree : FileTree where
  workingDirectory := [text "home"]
  nodes := [([text "home", text "p", text "ace.go"],
      .file (text "package deck\n\nvar Ace = Card\x7b\x7d\n")),
    ([text "home", text "p", text "old.go"], .directory),
    ([text "home", text "p", text "card.go"],
      .file (text "package deck\n\ntype Card struct\x7b\x7d\n")),
    ([text "home", text "p"], .directory), ([text "home"], .directory)]

/-- The package of both. -/
def deckPackage : Package where
  name := text "deck"
  directory := ⟨.relative, [text "p"]⟩
  files := [⟨text "deck", [], [⟨[text "Ace"], [some ⟨text "Card", []⟩]⟩]⟩,
    ⟨text "deck", [⟨⟨text "Card", [], []⟩, true, 3⟩], []⟩]

/-- No other name is that of a source file in one of them. -/
theorem fileIn?_deckTree {name : Text} (isSource : isSourceName name = true)
    (other : name ∉ [text "ace.go", text "card.go"]) :
    deckTree.fileIn? [text "p"] name = none ∧
      movedDeckTree.fileIn? [text "home", text "p"] name = none := by
  simp only [List.mem_cons, List.not_mem_nil, or_false, not_or] at other
  have ace : (name == text "ace.go") = false := beq_false_of_ne other.1
  have card : (name == text "card.go") = false := beq_false_of_ne other.2
  have apart {word : Text} (excluded : isSourceName word = false) : (name == word) = false := by
    refine beq_false_of_ne ?_
    rintro rfl
    exact absurd isSource (by simp [excluded])
  constructor
  · simp [FileTree.fileIn?, FileTree.node?, deckTree, List.lookup_cons, ace, card,
      apart (by decide : isSourceName (text "card_test.go") = false),
      apart (by decide : isSourceName (text "notes.md") = false)]
  · cases old : name == text "old.go" <;>
      simp [FileTree.fileIn?, FileTree.node?, movedDeckTree, List.lookup_cons, ace, card, old]

theorem load_determined_deckTree :
    let d : Path := ⟨.relative, [text "p"]⟩
    (∀ name, isSourceName name = true → movedDeckTree.fileIn? [text "home", text "p"] name =
        deckTree.fileIn? [text "p"] name) ∧
      load movedDeckTree d = load deckTree d ∧
      load deckTree (d.child (text "notes.md")) = load deckTree d ∧
      (load deckTree d).outcome = .ok deckPackage := by
  intro d
  have same : ∀ name, isSourceName name = true →
      movedDeckTree.fileIn? [text "home", text "p"] name =
        deckTree.fileIn? [text "p"] name := by
    intro name isSource
    by_cases own : name ∈ [text "ace.go", text "card.go"]
    · have each : ∀ name ∈ [text "ace.go", text "card.go"],
          movedDeckTree.fileIn? [text "home", text "p"] name =
            deckTree.fileIn? [text "p"] name := by decide
      exact each name own
    · obtain ⟨none, moved⟩ := fileIn?_deckTree isSource own
      rw [none, moved]
  have located : deckTree.locate d = .ok [text "p"] := eq_ok_of_toOption (by decide)
  have located' : movedDeckTree.locate d = .ok [text "home", text "p"] :=
    eq_ok_of_toOption (by decide)
  obtain ⟨moved, other, names, sorted, once, listed, loaded, -⟩ := load_determined (by decide)
    (by decide) (eq_ok_of_toOption (by decide)) (eq_ok_of_toOption (by decide))
    located located' same
  have names : names = [text "ace.go", text "card.go"] := by
    refine List.Perm.eq_of_pairwise (fun _ _ _ _ => Text.le_antisymm) sorted (by decide)
      ((List.perm_ext_iff_of_nodup once (by decide)).2 fun name => (listed name).trans ⟨?_, ?_⟩)
    · rintro ⟨isSource, content, file⟩
      by_contra other
      rw [(fileIn?_deckTree isSource other).1] at file
      cases file
    · have each : ∀ name ∈ [text "ace.go", text "card.go"], isSourceName name = true ∧
          (deckTree.fileIn? [text "p"] name).isSome = true := by decide
      intro own
      exact ⟨(each name own).1, Option.isSome_iff_exists.1 (each name own).2⟩
  subst names
  exact ⟨same, moved, other _ (eq_ok_of_toOption (by decide)), (loaded deckPackage).2
    ⟨rfl, eq_ok_of_toOption (by decide), by decide, by decide⟩⟩

end Package

end EnumText
