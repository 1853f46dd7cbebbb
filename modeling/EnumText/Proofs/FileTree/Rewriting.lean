import EnumText.OutputFile
import EnumText.Proofs.FileTree.NewFile

/-!
# Trees that differ in the content of one file

Where one file has different contents in two trees, paths lead to the same places in both. What is
asked of a path is answered alike, but for the content of the file itself.

* `SameBut`: two trees that differ in the content of the file at a place.
* `sameBut_put`: a tree with two contents for one file.
* `SameBut.locate`, `SameBut.isDirectory?`, `SameBut.read`: what does not tell such trees apart.
* `SameBut.placeFor`: what is opened to be written in both.
-/

namespace EnumText.FileTree

/-- Two trees are the same but for what a file holds that both have at a place. -/
structure SameBut (place : Place) (t t' : FileTree) : Prop where
  workingDirectory : t'.workingDirectory = t.workingDirectory
  names : ∀ here, t'.namesIn here = t.namesIn here
  elsewhere : ∀ other ≠ place, t'.node? other = t.node? other
  file : ∃ content, t.node? place = some (.file content)
  file' : ∃ content, t'.node? place = some (.file content)

theorem namesIn_put (t : FileTree) (place : Place) (node node' : Node) (here : Place) :
    (t.put place node').namesIn here = (t.put place node).namesIn here := by
  simp only [namesIn, put, List.filterMap_cons]

theorem sameBut_put {t : FileTree} {place : Place} (free : t.node? place ≠ some .directory)
    (content content' : Text) :
    SameBut place (t.put place (.file content)) (t.put place (.file content')) where
  workingDirectory := rfl
  names := namesIn_put t place _ _
  elsewhere other apart := by
    simp only [node?_put_of_ne_nil (ne_nil_of_free free), if_neg apart]
  file := ⟨content, by rw [node?_put_of_ne_nil (ne_nil_of_free free), if_pos rfl]⟩
  file' := ⟨content', by rw [node?_put_of_ne_nil (ne_nil_of_free free), if_pos rfl]⟩

theorem find_of_locate {t : FileTree} {p : Path} {here : Place} {node : Node}
    (located : t.locate p = .ok here) (stands : t.node? here = some node) :
    t.find p = .ok node :=
  bind_eq_ok_iff.2 ⟨here, located, by rw [stands]; rfl⟩

theorem find?_of_locate {t : FileTree} {p : Path} {here : Place} {node : Node}
    (located : t.locate p = .ok here) (stands : t.node? here = some node) :
    t.find? p = .ok (some node) := by
  rw [find?, find_of_locate located stands]

theorem read_of_locate {t : FileTree} {p : Path} {here : Place} {content : Text}
    (located : t.locate p = .ok here) (stands : t.node? here = some (.file content)) :
    t.read p = .ok content :=
  bind_eq_ok_iff.2 ⟨_, find_of_locate located stands, rfl⟩

namespace SameBut

variable {place : Place} {t t' : FileTree} (same : SameBut place t t')

include same

theorem walk (here : Place) (parts : List Text) : t'.walk here parts = t.walk here parts := by
  induction parts generalizing here with
  | nil => rfl
  | cons part rest ih =>
    rw [FileTree.walk, FileTree.walk]
    by_cases there : here = place
    · obtain ⟨content, stands⟩ := same.file
      obtain ⟨content', stands'⟩ := same.file'
      rw [there, stands, stands']
    · rw [same.elsewhere here there]
      split
      · rfl
      · rfl
      · rw [ih, ih]

theorem locate (p : Path) : t'.locate p = t.locate p := by
  have start : t'.startOf p = t.startOf p := by rw [startOf, startOf, same.workingDirectory]
  rw [FileTree.locate, FileTree.locate, start, same.walk]

theorem find_of_apart {p : Path} (apart : t.locate p ≠ .ok place) : t'.find p = t.find p := by
  rw [FileTree.find, FileTree.find, same.locate]
  cases located : t.locate p with
  | error fault => rfl
  | ok here =>
    have other : here ≠ place := by
      rintro rfl
      exact apart located
    simp only [bind, Except.bind, same.elsewhere here other]

/-- Paths lead to the same in both trees, or to the file. -/
theorem find?_eq (p : Path) : t'.find? p = t.find? p ∨ ∃ content content',
    t.find? p = .ok (some (.file content)) ∧ t'.find? p = .ok (some (.file content')) := by
  by_cases there : t.locate p = .ok place
  · obtain ⟨content, stands⟩ := same.file
    obtain ⟨content', stands'⟩ := same.file'
    exact .inr ⟨content, content', find?_of_locate there stands,
      find?_of_locate ((same.locate p).trans there) stands'⟩
  · rw [FileTree.find?, FileTree.find?, same.find_of_apart there]
    exact .inl rfl

theorem exists? (p : Path) : t'.exists? p = t.exists? p := by
  unfold FileTree.exists?
  rcases same.find?_eq p with alike | ⟨content, content', found, found'⟩
  · rw [alike]
  · rw [found, found']
    rfl

theorem isDirectory? (p : Path) : t'.isDirectory? p = t.isDirectory? p := by
  unfold FileTree.isDirectory?
  rcases same.find?_eq p with alike | ⟨content, content', found, found'⟩
  · rw [alike]
  · rw [found, found']
    rfl

theorem read_of_apart {p : Path} (apart : t.locate p ≠ .ok place) : t'.read p = t.read p := by
  rw [FileTree.read, FileTree.read, same.find_of_apart apart]

/-- Where a directory stands, or does not, in one of the trees, so it is in the other. -/
theorem isDirectory_iff (here : Place) :
    t'.node? here = some .directory ↔ t.node? here = some .directory := by
  by_cases there : here = place
  · obtain ⟨content, stands⟩ := same.file
    obtain ⟨content', stands'⟩ := same.file'
    rw [there, stands, stands']
    simp
  · rw [same.elsewhere here there]

/-- A file is opened at the same place in both trees, or refused for the same reason. -/
theorem placeFor (p : Path) : t'.placeFor p = t.placeFor p := by
  simp only [FileTree.placeFor, same.locate, same.isDirectory_iff]

theorem outputFile (directory : Path) (typeName : Text) (output : Option Text) :
    EnumText.outputFile t' directory typeName output =
      EnumText.outputFile t directory typeName output := by
  unfold EnumText.outputFile
  split
  · rfl
  · rfl
  · simp only [same.isDirectory?]

end SameBut

end EnumText.FileTree
