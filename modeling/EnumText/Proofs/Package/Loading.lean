import EnumText.Package
import EnumText.Proofs.FileTree.NewFile
import EnumText.Proofs.Report

/-!
# Packages with one file more

`load_eq_ok_iff` says when a package is loaded, and with what. A new source file of the same package
is read in its place among the others, and they are read as before.

* `sourceNames_put`, `exists_sourceNames_put`: the source files of a directory with a new file.
* `exists_load_put`: the package of a directory with a new file.
-/

namespace EnumText.Package

open FileTree (Place)

/-! ## Loading -/

theorem readFile_eq_ok_iff {t : FileTree} {file : Path} {f : SourceFile} :
    readFile t file = .ok f ↔ ∃ content, t.read file = .ok content ∧
      content.isScalar = true ∧ SourceFile.ofText? file content.unifyNewlines = .ok f := by
  unfold readFile
  rw [bind_eq_ok_iff]
  refine exists_congr fun content => and_congr mapError_eq_ok_iff ?_
  split
  · next scalar => rw [mapError_eq_ok_iff, and_iff_right scalar]
  · next stray => simp [stray, throw, throwThe, MonadExceptOf.throw]

theorem outcome_readFiles (t : FileTree) (paths : List Path) :
    (readFiles t paths).outcome = paths.mapM (readFile t) := by
  induction paths with
  | nil => rfl
  | cons file rest ih =>
    simp only [readFiles, Report.outcome_bind, Report.outcome_note, Report.outcome_ofExcept, ih,
      List.mapM_cons]
    rfl

theorem readFiles_congr {t t' : FileTree} {paths : List Path}
    (each : ∀ file ∈ paths, readFile t' file = readFile t file) :
    readFiles t' paths = readFiles t paths := by
  induction paths with
  | nil => rfl
  | cons file rest ih =>
    obtain ⟨first, others⟩ := List.forall_mem_cons.1 each
    rw [readFiles, readFiles, first, ih others]

/-- A package is loaded from a directory that has source files, which all are read and name one
package. -/
theorem load_eq_ok_iff {t : FileTree} {p : Path} {pkg : Package} :
    (load t p).outcome = .ok pkg ↔ ∃ paths, directoryOf t p = .ok pkg.directory ∧
      t.exists? pkg.directory = .ok true ∧ discover t pkg.directory = .ok paths ∧ paths ≠ [] ∧
      paths.mapM (readFile t) = .ok pkg.files ∧ packageNames pkg.files = [pkg.name] := by
  simp only [load, Report.outcome_bind, Report.outcome_ofExcept, Report.outcome_check_eq_ok_iff,
    outcome_readFiles, bind_eq_ok_iff, mapError_eq_ok_iff, Bool.not_eq_true',
    Bool.not_eq_false, List.isEmpty_iff]
  constructor
  · rintro ⟨directory, chosen, found, standing, here, paths, discovered, some, files, read, named⟩
    subst here
    split at named
    · next name one =>
      cases named
      exact ⟨paths, chosen, standing, discovered, some, read, one⟩
    · cases named
  · rintro ⟨paths, chosen, standing, discovered, some, read, named⟩
    refine ⟨_, chosen, true, standing, rfl, paths, discovered, some, _, read, ?_⟩
    rw [named]
    rfl

/-- Files name one package if there are any and all name it. -/
theorem packageNames_eq_singleton_iff {files : List SourceFile} {name : Text} :
    packageNames files = [name] ↔ files ≠ [] ∧ ∀ f ∈ files, f.package = name := by
  have perm := List.mergeSort_perm (files.map (·.package)).eraseDups Text.le
  constructor
  · intro one
    have only : (files.map (·.package)).eraseDups = [name] :=
      List.perm_singleton.1 (perm.symm.trans (.of_eq one))
    refine ⟨?_, fun f mem => ?_⟩
    · rintro rfl
      cases only
    · have kept := List.mem_eraseDups.2 (List.mem_map_of_mem (f := (·.package)) mem)
      rw [only] at kept
      exact List.mem_singleton.1 kept
  · rintro ⟨some, same⟩
    cases files with
    | nil => exact absurd rfl some
    | cons f rest =>
      rcases List.forall_mem_cons.1 same with ⟨rfl, others⟩
      have none_left : (rest.map (·.package)).filter (fun other => !other == f.package) = [] := by
        rw [List.filter_eq_nil_iff, List.forall_mem_map]
        intro g mem
        simp [others g mem]
      rw [packageNames, List.map_cons, List.eraseDups_cons, none_left, List.eraseDups_nil,
        List.mergeSort_singleton]

/-! ## A new file -/

/-- The names of the source files in a directory, in order. -/
def sourceNames (t : FileTree) (here : Place) : List Text :=
  (t.namesIn here).filter fun name => isSourceName name && isFile (t.node? (here ++ [name]))

theorem discover_eq {t : FileTree} {directory : Path} {here : Place}
    (isDirectory : t.isDirectory? directory = .ok true)
    (located : t.locate directory = .ok here) :
    discover t directory = .ok
      ((sourceNames t here).map fun name => ⟨directory.start, directory.parts ++ [name]⟩) := by
  rw [discover, isDirectory]
  simp only [bind, Except.bind, if_true, located]
  rfl

/-- A directory with source files is one that can be found. -/
theorem isDirectory?_of_discover {t : FileTree} {directory : Path} {paths : List Path}
    (h : discover t directory = .ok paths) (some : paths ≠ []) :
    t.isDirectory? directory = .ok true ∧ ∃ here, t.locate directory = .ok here := by
  rcases bind_eq_ok_iff.1 h with ⟨found, isDirectory, body⟩
  cases found with
  | false =>
    cases body
    exact absurd rfl some
  | true =>
    rcases bind_eq_ok_iff.1 body with ⟨here, located, -⟩
    exact ⟨isDirectory, here, located⟩

theorem exists_place_of_load {t : FileTree} {p : Path} {pkg : Package}
    (loaded : (load t p).outcome = .ok pkg) : ∃ here, t.locate pkg.directory = .ok here := by
  obtain ⟨paths, -, -, discovered, some, -⟩ := load_eq_ok_iff.1 loaded
  exact (isDirectory?_of_discover discovered some).2

/-- Which other names are those of source files does not depend on a new file. -/
theorem isSource_node?_put {t : FileTree} {here : Place} {name : Text}
    (fresh : t.node? (here ++ [name]) = none) (content : Text) : ∀ other ∈ t.namesIn here,
      (isSourceName other &&
        isFile ((t.put (here ++ [name]) (.file content)).node? (here ++ [other]))) =
      (isSourceName other && isFile (t.node? (here ++ [other]))) := by
  intro other mem
  have apart : here ++ [other] ≠ here ++ [name] := by
    intro same
    exact FileTree.mem_namesIn_iff.1 mem (same ▸ fresh)
  rw [FileTree.node?_put fresh, if_neg apart]

/-- A new file that is no source file leaves the source files as they are. -/
theorem sourceNames_put {t : FileTree} {here : Place} {name : Text}
    (fresh : t.node? (here ++ [name]) = none) (notSource : isSourceName name = false)
    (content : Text) :
    sourceNames (t.put (here ++ [name]) (.file content)) here = sourceNames t here := by
  obtain ⟨before, after, names, longer⟩ := FileTree.exists_namesIn_put fresh (.file content)
  rw [sourceNames, longer, List.filter_append, List.filter_cons_of_neg (by simp [notSource]),
    ← List.filter_append, ← names]
  exact List.filter_congr (isSource_node?_put fresh content)

/-- A new source file stands among the source files of its directory, which stay in their order. -/
theorem exists_sourceNames_put {t : FileTree} {here : Place} {name : Text}
    (fresh : t.node? (here ++ [name]) = none) (isSource : isSourceName name = true)
    (content : Text) :
    ∃ before after, sourceNames t here = before ++ after ∧
      sourceNames (t.put (here ++ [name]) (.file content)) here = before ++ name :: after := by
  obtain ⟨before, after, names, longer⟩ := FileTree.exists_namesIn_put fresh (.file content)
  have same := isSource_node?_put fresh content
  rw [names] at same
  rcases List.forall_mem_append.1 same with ⟨first, later⟩
  refine ⟨_, _, by rw [sourceNames, names, List.filter_append], ?_⟩
  rw [sourceNames, longer, List.filter_append, List.filter_congr first, List.filter_cons_of_pos,
    List.filter_congr later]
  rw [isSource, FileTree.node?_put fresh, if_pos rfl]
  rfl

/-- The package of a directory with a new file of the same package: it is read among the others, and
they are read as before. -/
theorem exists_load_put {t : FileTree} {p : Path} {pkg : Package} {name content : Text}
    {here : Place} {f : SourceFile} (loaded : (load t p).outcome = .ok pkg)
    (isSource : isSourceName name = true) (located : t.locate pkg.directory = .ok here)
    (fresh : t.node? (here ++ [name]) = none)
    (read : readFile (t.put (here ++ [name]) (.file content))
      ⟨pkg.directory.start, pkg.directory.parts ++ [name]⟩ = .ok f)
    (package : f.package = pkg.name) :
    ∃ before after, pkg.files = before ++ after ∧
      (load (t.put (here ++ [name]) (.file content)) p).outcome =
        .ok { pkg with files := before ++ f :: after } := by
  obtain ⟨paths, chosen, -, discovered, some, files, named⟩ := load_eq_ok_iff.1 loaded
  obtain ⟨isDirectory, -⟩ := isDirectory?_of_discover discovered some
  obtain ⟨before, after, names, longer⟩ := exists_sourceNames_put fresh isSource content
  rw [discover_eq isDirectory located, names, List.map_append] at discovered
  cases discovered
  obtain ⟨first, later, front, back, all⟩ := mapM_append_eq_ok_iff.1 files
  have isDirectory' : (t.put (here ++ [name]) (.file content)).isDirectory? pkg.directory =
      .ok true := (FileTree.isDirectory?_put fresh content _).trans isDirectory
  have again (file : Path) (g : SourceFile) :
      readFile t file = .ok g → readFile (t.put (here ++ [name]) (.file content)) file = .ok g := by
    rw [readFile_eq_ok_iff, readFile_eq_ok_iff]
    exact fun ⟨c, found, rest⟩ => ⟨c, FileTree.read_put_of_ok fresh content found, rest⟩
  have here' := FileTree.locate_put_of_ok (FileTree.free_of_fresh fresh) content located
  refine ⟨first, later, all, load_eq_ok_iff.2 ⟨_, ?_, FileTree.exists?_of_isDirectory? isDirectory',
    discover_eq isDirectory' here', ?_, ?_, ?_⟩⟩
  · rw [directoryOf, FileTree.isDirectory?_put fresh]
    exact chosen
  · simp [longer]
  · rw [longer, List.map_append, List.map_cons]
    exact mapM_append_eq_ok_iff.2 ⟨first, _, mapM_eq_ok_of_imp again front,
      mapM_cons_eq_ok_iff.2 ⟨f, later, read, mapM_eq_ok_of_imp again back, rfl⟩, rfl⟩
  · rw [packageNames_eq_singleton_iff, all] at named
    rcases List.forall_mem_append.1 named.2 with ⟨ours, others⟩
    exact packageNames_eq_singleton_iff.2
      ⟨by simp, List.forall_mem_append.2 ⟨ours, List.forall_mem_cons.2 ⟨package, others⟩⟩⟩

end EnumText.Package
