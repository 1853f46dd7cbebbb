import EnumText.FileTree
import EnumText.Proofs.Assignments
import EnumText.Proofs.Outcome
import EnumText.Proofs.Text.Order

/-!
# A new file in a tree

A file that is put where no directory stands changes little: what a path leads to is still there, no
path leads to a further directory, and the directory of a new file has one more name.

* `node?_put_of_ne_nil`: what is put at a place changes nothing elsewhere.
* `walk_put`, `read_put`: where paths lead in the tree with the file, and what is read from it.
* `find?_put`: what paths lead to in the tree with a new file.
* `mem_namesIn_iff`: the names in a directory.
* `exists_namesIn_put`: the name of a new file stands among the names of its directory.
* `placeFor_eq_ok_iff`, `write_eq_ok_iff`: when a file can be opened, and is given its content.
-/

namespace EnumText.FileTree

/-- What is put at a place stands there, and nothing changes elsewhere. -/
theorem node?_put_of_ne_nil {t : FileTree} {place : Place} (inside : place ≠ []) (node : Node)
    (here : Place) :
    (t.put place node).node? here = if here = place then some node else t.node? here := by
  rw [put, node?, node?, List.lookup_cons]
  by_cases same : here = place
  · rw [same, beq_self_eq_true, if_pos rfl, if_neg (by simpa using inside)]
  · rw [beq_false_of_ne same, if_neg same, lookup_filter_ne same]

section Free

variable {t : FileTree} {place : Place} (free : t.node? place ≠ some .directory) (content : Text)

include free

theorem ne_nil_of_free : place ≠ [] := by
  rintro rfl
  exact free rfl

/-- Paths lead where they led before, unless they would lead on from a file that is new. -/
theorem walk_put (here : Place) (parts : List Text) :
    (t.put place (.file content)).walk here parts = t.walk here parts ∨
      t.node? place = none ∧ t.walk here parts = .error .missing ∧
        (t.put place (.file content)).walk here parts = .error .notDirectory := by
  induction parts generalizing here with
  | nil => exact .inl rfl
  | cons part rest ih =>
    rw [walk, walk, node?_put_of_ne_nil (ne_nil_of_free free)]
    by_cases same : here = place
    · rw [same, if_pos rfl]
      cases stands : t.node? place with
      | none => exact .inr ⟨rfl, rfl, rfl⟩
      | some node =>
        cases node with
        | file old => exact .inl rfl
        | directory => exact absurd stands free
    · rw [if_neg same]
      split
      · exact .inl rfl
      · exact .inl rfl
      · split
        · exact ih _
        split
        · exact .inl rfl
        · exact ih _

theorem locate_put (p : Path) :
    (t.put place (.file content)).locate p = t.locate p ∨
      t.node? place = none ∧ t.locate p = .error .missing ∧
        (t.put place (.file content)).locate p = .error .notDirectory := by
  unfold locate
  split
  · exact .inl rfl
  split
  · exact .inl rfl
  · exact walk_put free content (t.startOf p) p.parts

theorem locate_put_of_ok {p : Path} {here : Place} (h : t.locate p = .ok here) :
    (t.put place (.file content)).locate p = .ok here := by
  rcases locate_put free content p with same | ⟨-, lost, -⟩
  · exact same.trans h
  · rw [h] at lost
    cases lost

/-- What a file is given is read from it. -/
theorem read_put {p : Path} (h : t.locate p = .ok place) :
    (t.put place (.file content)).read p = .ok content := by
  have found : (t.put place (.file content)).find p = .ok (.file content) := by
    refine bind_eq_ok_iff.2 ⟨place, locate_put_of_ok free content h, ?_⟩
    rw [node?_put_of_ne_nil (ne_nil_of_free free), if_pos rfl]
    rfl
  exact bind_eq_ok_iff.2 ⟨_, found, rfl⟩

end Free

section Put

variable {t : FileTree} {place : Place} (fresh : t.node? place = none) (content : Text)

include fresh

theorem free_of_fresh : t.node? place ≠ some .directory := by
  simp [fresh]

theorem put_of_fresh (node : Node) :
    t.put place node = { t with nodes := (place, node) :: t.nodes } := by
  have absent : ∀ entry ∈ t.nodes, entry.1 ≠ place := by
    intro entry mem same
    rw [node?] at fresh
    split at fresh
    · cases fresh
    · have other := List.lookup_eq_none_iff.1 fresh entry mem
      simp [same] at other
  rw [put, List.filter_eq_self.2]
  exact fun entry mem => decide_eq_true (absent entry mem)

theorem node?_put (node : Node) (here : Place) :
    (t.put place node).node? here = if here = place then some node else t.node? here :=
  node?_put_of_ne_nil (ne_nil_of_free (free_of_fresh fresh)) node here

theorem find_put_of_ok {p : Path} {node : Node} (h : t.find p = .ok node) :
    (t.put place (.file content)).find p = .ok node := by
  rcases bind_eq_ok_iff.1 h with ⟨here, located, found⟩
  refine bind_eq_ok_iff.2 ⟨here, locate_put_of_ok (free_of_fresh fresh) content located, ?_⟩
  have other : here ≠ place := by
    rintro rfl
    rw [fresh] at found
    cases found
  rw [node?_put fresh, if_neg other]
  exact found

/-- Paths lead to what they led to before, but for those that lead to the file. -/
theorem find?_put (p : Path) :
    (t.put place (.file content)).find? p = t.find? p ∨
      t.find? p = .ok none ∧ (t.put place (.file content)).find? p = .ok (some (.file content)) := by
  unfold find? find
  rcases locate_put (free_of_fresh fresh) content p with same | ⟨-, lost, found⟩
  · rw [same]
    cases t.locate p with
    | error fault => exact .inl rfl
    | ok here =>
      by_cases new : here = place
      · subst new
        refine .inr ?_
        simp [bind, Except.bind, node?_put fresh, fresh, throw, throwThe, MonadExceptOf.throw, pure,
          Except.pure]
      · refine .inl ?_
        simp only [bind, Except.bind, node?_put fresh, if_neg new]
  · rw [lost, found]
    exact .inl rfl

theorem isDirectory?_put (p : Path) :
    (t.put place (.file content)).isDirectory? p = t.isDirectory? p := by
  unfold isDirectory?
  rcases find?_put fresh content p with same | ⟨absent, found⟩
  · rw [same]
  · rw [absent, found]
    rfl

theorem read_put_of_ok {p : Path} {c : Text} (h : t.read p = .ok c) :
    (t.put place (.file content)).read p = .ok c := by
  rcases bind_eq_ok_iff.1 h with ⟨node, found, file⟩
  exact bind_eq_ok_iff.2 ⟨node, find_put_of_ok fresh content found, file⟩

theorem read_put_self {p : Path} (h : t.locate p = .ok place) :
    (t.put place (.file content)).read p = .ok content :=
  read_put (free_of_fresh fresh) content h

end Put

/-- Nothing is changed but what stands at the place and below it. -/
theorem remove_put (t : FileTree) (place : Place) (node : Node) :
    (t.put place node).remove place = t.remove place := by
  have self : place.isPrefixOf place = true := List.isPrefixOf_iff_prefix.2 (List.prefix_refl _)
  rw [remove, remove, put, List.filter_cons_of_neg (by simp [self]), List.filter_filter]
  congr 1
  refine List.filter_congr fun entry _ => ?_
  by_cases same : entry.1 = place
  · simp [same, self]
  · simp [same]

/-- The names in a directory are those that something stands at. -/
theorem mem_namesIn_iff {t : FileTree} {here : Place} {name : Text} :
    name ∈ t.namesIn here ↔ t.node? (here ++ [name]) ≠ none := by
  have nonroot : ¬ (here ++ [name]).isEmpty = true := by simp
  rw [node?, if_neg nonroot, ne_eq, List.lookup_eq_none_iff, namesIn, List.mem_mergeSort,
    List.mem_filterMap]
  constructor
  · rintro ⟨⟨place, node⟩, entry, last⟩ absent
    dsimp only at last
    split at last
    · next above =>
      obtain ⟨front, rfl⟩ := List.getLast?_eq_some_iff.1 last
      rw [List.dropLast_concat] at above
      subst above
      simpa using absent _ entry
    · cases last
  · intro stands
    obtain ⟨⟨place, node⟩, differs⟩ := Classical.not_forall.1 stands
    obtain ⟨entry, same⟩ := Classical.not_imp.1 differs
    obtain rfl : here ++ [name] = place := by simpa using same
    exact ⟨_, entry, by simp⟩

/-- The name of a new file stands among the names of its directory, which stay in their order. -/
theorem exists_namesIn_put {t : FileTree} {here : Place} {name : Text}
    (fresh : t.node? (here ++ [name]) = none) (node : Node) :
    ∃ before after, t.namesIn here = before ++ after ∧
      (t.put (here ++ [name]) node).namesIn here = before ++ name :: after := by
  obtain ⟨before, after, longer, names, -⟩ := List.mergeSort_cons Text.le_trans Text.le_total name
    (t.nodes.filterMap fun entry : Place × Node =>
      if entry.1.dropLast = here then entry.1.getLast? else none)
  refine ⟨before, after, names, ?_⟩
  rw [← longer, put_of_fresh fresh, namesIn]
  congr 1
  simp

/-- A directory is something. -/
theorem exists?_of_isDirectory? {t : FileTree} {p : Path} (h : t.isDirectory? p = .ok true) :
    t.exists? p = .ok true := by
  rcases map_eq_ok_iff.1 h with ⟨node, found, directory⟩
  rw [beq_iff_eq.1 directory] at found
  exact map_eq_ok_iff.2 ⟨_, found, rfl⟩

theorem walk_append (t : FileTree) (here : Place) (a b : List Text) :
    t.walk here (a ++ b) = t.walk here a >>= (t.walk · b) := by
  induction a generalizing here with
  | nil => rfl
  | cons part a ih =>
    rw [List.cons_append, walk, walk]
    split
    · rfl
    · rfl
    · split
      · exact ih _
      split
      · rfl
      · exact ih _

theorem walk_of_locate {t : FileTree} {p : Path} {place : Place} (h : t.locate p = .ok place) :
    t.walk (t.startOf p) p.parts = .ok place := by
  unfold locate at h
  split at h
  · cases h
  split at h
  · cases h
  · exact h

theorem walk_name {t : FileTree} {here place : Place} {name : Text}
    (h : t.walk here [name] = .ok place) (down : name ≠ text "..") : place = here ++ [name] := by
  rw [walk] at h
  split at h
  · cases h
  · cases h
  · rw [if_neg down] at h
    split at h
    · cases h
    · exact (Except.ok.inj h).symm

/-- Where a name in a directory leads. -/
theorem locate_name {t : FileTree} {directory : Path} {name : Text} {here place : Place}
    (located : t.locate directory = .ok here)
    (h : t.locate ⟨directory.start, directory.parts ++ [name]⟩ = .ok place)
    (down : name ≠ text "..") : place = here ++ [name] := by
  have both := walk_append t (t.startOf directory) directory.parts [name]
  rw [walk_of_locate located] at both
  exact walk_name (both.symm.trans (walk_of_locate h)) down

/-- A path that ends in a name leads to a place of this name. -/
theorem exists_eq_concat_of_locate {t : FileTree} {p : Path} {name : Text} {place : Place}
    {front : List Text} (h : t.locate p = .ok place) (parts : p.parts = front ++ [name])
    (down : name ≠ text "..") : ∃ here, place = here ++ [name] := by
  have both := walk_of_locate h
  rw [parts, walk_append] at both
  obtain ⟨here, -, last⟩ := bind_eq_ok_iff.1 both
  exact ⟨here, walk_name last down⟩

/-- A file can be opened to be written where no directory stands. -/
theorem placeFor_eq_ok_iff {t : FileTree} {p : Path} {place : Place} :
    t.placeFor p = .ok place ↔ t.locate p = .ok place ∧ t.node? place ≠ some .directory := by
  constructor
  · intro opened
    obtain ⟨here, located, rest⟩ := bind_eq_ok_iff.1 opened
    split at rest
    · cases rest
    · next free =>
      cases rest
      exact ⟨located, free⟩
  · rintro ⟨located, free⟩
    exact bind_eq_ok_iff.2 ⟨place, located, if_neg free⟩

/-- A file is given its content where it can be opened. -/
theorem write_eq_ok_iff {t t' : FileTree} {p : Path} {content : Text} :
    t.write p content = .ok t' ↔ ∃ place, t.locate p = .ok place ∧
      t.node? place ≠ some .directory ∧ t' = t.put place (.file content) := by
  simp only [write, bind_eq_ok_iff, placeFor_eq_ok_iff, and_assoc]
  refine exists_congr fun place => and_congr_right fun _ => and_congr_right fun _ => ?_
  exact ⟨fun same => (Except.ok.inj same).symm, fun same => congrArg _ same.symm⟩

theorem write_of_fresh {t : FileTree} {p : Path} {place : Place} (located : t.locate p = .ok place)
    (fresh : t.node? place = none) (content : Text) :
    t.write p content = .ok (t.put place (.file content)) :=
  write_eq_ok_iff.2 ⟨place, located, free_of_fresh fresh, rfl⟩

/-- Giving a file its content, where there was none, puts it in its place. -/
theorem exists_put_of_write {t t' : FileTree} {p : Path} {content : Text}
    (absent : t.exists? p = .ok false) (h : t.write p content = .ok t') :
    ∃ place, t.locate p = .ok place ∧ t.node? place = none ∧ t' = t.put place (.file content) := by
  obtain ⟨place, located, -, rfl⟩ := write_eq_ok_iff.1 h
  refine ⟨place, located, ?_, rfl⟩
  unfold exists? find? find at absent
  rw [located] at absent
  cases stands : t.node? place with
  | some node =>
    simp only [bind, Except.bind, stands] at absent
    cases absent
  | none => rfl

end EnumText.FileTree
