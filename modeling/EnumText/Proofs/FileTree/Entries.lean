import Mathlib.Data.List.Nodup
import EnumText.Proofs.FileTree.NewFile

/-!
# The files of a directory

In a tree that lists each place once, the names in a directory are in strict order, so which names
they are says all. What a name in a directory leads to, and what is read there, depends on what
stands there and on the path, not on the rest of the tree.

* `Proper`: each place is listed once. The operations keep it: `Proper.put`, `Proper.withFile`.
* `nodup_namesIn`, `pairwise_namesIn`: the names in a directory.
* `read_child`: reading a file of a directory.
-/

namespace EnumText

/-- The path of a name in a directory. -/
def Path.child (d : Path) (name : Text) : Path := ⟨d.start, d.parts ++ [name]⟩

namespace FileTree

/-! ## Trees that list each place once -/

/-- Each place is listed once. -/
def Proper (t : FileTree) : Prop := (t.nodes.map (·.1)).Nodup

instance (t : FileTree) : Decidable t.Proper := inferInstanceAs (Decidable (List.Nodup _))

variable {t : FileTree} {here : Place}

theorem Proper.put (proper : t.Proper) (place : Place) (node : Node) :
    (t.put place node).Proper := by
  have kept : ((t.nodes.filter (·.1 ≠ place)).map (·.1)).Sublist (t.nodes.map (·.1)) :=
    List.filter_sublist.map _
  refine List.nodup_cons.2 ⟨fun mem => ?_, kept.nodup proper⟩
  obtain ⟨entry, mem, same⟩ := List.mem_map.1 mem
  exact of_decide_eq_true (List.mem_filter.1 mem).2 same

theorem Proper.withDirectories (proper : t.Proper) (here : Place) (parts : List Text) :
    (t.withDirectories here parts).Proper := by
  induction parts generalizing t here with
  | nil => exact proper
  | cons part parts ih =>
    rw [FileTree.withDirectories]
    split
    · exact ih proper _
    · exact ih (proper.put _ _) _

theorem Proper.withFile (proper : t.Proper) (place : Place) (content : Text) :
    (t.withFile place content).Proper :=
  (proper.withDirectories _ _).put _ _

theorem Proper.write {t' : FileTree} {p : Path} {content : Text} (proper : t.Proper)
    (written : t.write p content = .ok t') : t'.Proper := by
  obtain ⟨place, -, -, rfl⟩ := write_eq_ok_iff.1 written
  exact proper.put _ _

theorem nodup_namesIn (proper : t.Proper) (here : Place) : (t.namesIn here).Nodup := by
  have names : (t.nodes.filterMap fun entry : Place × Node =>
      if entry.1.dropLast = here then entry.1.getLast? else none) =
      (t.nodes.map (·.1)).filterMap fun place =>
        if place.dropLast = here then place.getLast? else none := by
    rw [List.filterMap_map]
    rfl
  refine (List.mergeSort_perm _ _).nodup_iff.2 ?_
  rw [names]
  -- A place is its directory with its name, so places of one directory have different names.
  refine List.Nodup.filterMap (fun a b name first second => ?_) proper
  simp only [Option.mem_def, Option.ite_none_right_eq_some] at first second
  obtain ⟨above, last⟩ := first
  obtain ⟨above', last'⟩ := second
  obtain ⟨front, rfl⟩ := List.getLast?_eq_some_iff.1 last
  obtain ⟨front', rfl⟩ := List.getLast?_eq_some_iff.1 last'
  rw [List.dropLast_concat] at above above'
  rw [above, above']

theorem pairwise_namesIn (t : FileTree) (here : Place) :
    (t.namesIn here).Pairwise fun a b => a.le b = true :=
  List.pairwise_mergeSort Text.le_trans Text.le_total _

/-! ## Where names lead -/

theorem node?_of_isDirectory? {d : Path} (located : t.locate d = .ok here)
    (directory : t.isDirectory? d = .ok true) : t.node? here = some .directory := by
  obtain ⟨node, found, isDirectory⟩ := map_eq_ok_iff.1 directory
  rw [beq_iff_eq.1 isDirectory, find?, find, located] at found
  cases stands : t.node? here with
  | none =>
    simp only [bind, Except.bind, stands] at found
    cases found
  | some node =>
    simp only [bind, Except.bind, stands] at found
    cases found
    rfl

/-- Where a name in a directory leads: the limits on paths are those of every directory. -/
theorem locate_child {d : Path} (located : t.locate d = .ok here)
    (directory : t.node? here = some .directory) {name : Text} (down : name ≠ text "..") :
    t.locate (d.child name) =
      if (d.child name).hasNull then .error .nullInPath
      else if pathBytesLimit ≤ (d.child name).toText.encode.length then .error .nameTooLong
      else if maxNameBytes < name.encode.length then .error .nameTooLong
      else .ok (here ++ [name]) := by
  have below : t.walk (t.startOf (d.child name)) (d.child name).parts =
      if maxNameBytes < name.encode.length then .error .nameTooLong else .ok (here ++ [name]) := by
    refine (walk_append t (t.startOf d) d.parts [name]).trans ?_
    rw [walk_of_locate located]
    change t.walk here [name] = _
    rw [walk, directory]
    exact if_neg down
  rw [locate, below]

/-- What is read under a name in a directory depends only on what stands there. -/
theorem read_child {t' : FileTree} {d : Path} {here' : Place} {name : Text}
    (located : t.locate d = .ok here) (located' : t'.locate d = .ok here')
    (directory : t.node? here = some .directory) (directory' : t'.node? here' = some .directory)
    (down : name ≠ text "..") (same : t'.node? (here' ++ [name]) = t.node? (here ++ [name])) :
    t'.read (d.child name) = t.read (d.child name) := by
  rw [read, read, find, find, locate_child located directory down,
    locate_child located' directory' down]
  split
  · rfl
  split
  · rfl
  split
  · rfl
  · simp only [bind, Except.bind, same]

end FileTree

end EnumText
