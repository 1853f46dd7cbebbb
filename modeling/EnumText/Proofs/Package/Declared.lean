import EnumText.Proofs.Declaration.Structs
import EnumText.Proofs.Generation.Answers
import EnumText.Proofs.Package.Loading

/-!
# The types that a package declares

The generator asks a package for a type by its name. The first declaration of that name answers,
unless two of its fields have one name.

* `firstRepeated?_eq_some_iff`: the first name of a list that is repeated.
* `Package.find?_source_eq_some_iff`, `Package.find?_source_eq_error_iff`: what the generator is
  told of a type.
* `Package.isStruct_of_load`: a type of a loaded package that has fields is a struct type.
-/

namespace EnumText

/-! ## Repeated names -/

/-- The first name in a list that repeats an earlier one. -/
def FirstRepeated (names : List Text) (name : Text) : Prop :=
  ∃ before after, names = before ++ name :: after ∧ before.Nodup ∧ name ∈ before

theorem firstRepeatedAfter_eq_some_iff {seen names : List Text} {name : Text} :
    firstRepeatedAfter seen names = some name ↔ ∃ before after, names = before ++ name :: after ∧
      before.Nodup ∧ (∀ other ∈ before, other ∉ seen) ∧ (name ∈ before ∨ name ∈ seen) := by
  induction names generalizing seen with
  | nil => simp [firstRepeatedAfter]
  | cons first rest ih =>
    rw [firstRepeatedAfter]
    by_cases repeated : first ∈ seen
    · rw [if_pos (List.contains_iff_mem.2 repeated)]
      constructor
      · intro same
        cases same
        exact ⟨[], rest, rfl, List.nodup_nil, List.forall_mem_nil _, .inr repeated⟩
      · rintro ⟨before, after, same, -, unseen, -⟩
        cases before with
        | nil =>
          cases same
          rfl
        | cons other before =>
          cases same
          exact absurd repeated (unseen _ List.mem_cons_self)
    · rw [if_neg (mt List.contains_iff_mem.1 repeated), ih]
      constructor
      · rintro ⟨before, after, rfl, distinct, unseen, again⟩
        have apart : first ∉ before := fun mem => unseen first mem List.mem_cons_self
        refine ⟨first :: before, after, rfl, List.nodup_cons.2 ⟨apart, distinct⟩,
          List.forall_mem_cons.2 ⟨repeated, fun other mem old => ?_⟩, ?_⟩
        · exact unseen other mem (List.mem_cons_of_mem _ old)
        · simpa [or_left_comm, or_assoc] using again
      · rintro ⟨before, after, same, distinct, unseen, again⟩
        cases before with
        | nil =>
          cases same
          rcases again with none | old
          · cases none
          · exact absurd old repeated
        | cons other before =>
          cases same
          obtain ⟨apart, distinct⟩ := List.nodup_cons.1 distinct
          obtain ⟨-, unseen⟩ := List.forall_mem_cons.1 unseen
          refine ⟨before, after, rfl, distinct, fun other mem old => ?_, ?_⟩
          · rcases List.mem_cons.1 old with rfl | old
            · exact apart mem
            · exact unseen other mem old
          · simpa [or_left_comm, or_assoc] using again

theorem firstRepeated?_eq_some_iff {names : List Text} {name : Text} :
    firstRepeated? names = some name ↔ FirstRepeated names name := by
  rw [firstRepeated?, firstRepeatedAfter_eq_some_iff]
  simp [FirstRepeated]

theorem TypeInfo.check_eq_error_iff {type : TypeInfo} {e : RepeatedField} :
    type.check = .error e ↔ FirstRepeated (type.fields.map (·.name)) e.name := by
  rw [← firstRepeated?_eq_some_iff, check]
  obtain ⟨name⟩ := e
  split
  · next name' repeated => simp [repeated]
  · next none => simp [none]

namespace Package

variable {p : Package} {typeName : Text}

/-- The first declaration of a type in the files of a package. -/
def decl? (p : Package) (typeName : Text) : Option TypeDecl :=
  (p.files.flatMap (·.types)).find? (·.name = typeName)

/-! ## What the generator is told -/

theorem find?_source (p : Package) (typeName : Text) :
    p.source.find? typeName = match p.decl? typeName with
      | none => .ok none
      | some decl => decl.toTypeInfo.check.map some := by
  have first : p.source.types.find? (·.name = typeName) =
      (p.decl? typeName).map (·.toTypeInfo) := by
    rw [source, decl?, ← List.map_flatMap, List.find?_map]
    rfl
  rw [Source.find?, first]
  cases p.decl? typeName <;> rfl

theorem find?_source_eq_some_iff {type : TypeInfo} :
    p.source.find? typeName = .ok (some type) ↔ ∃ decl, p.decl? typeName = some decl ∧
      (decl.fields.map (·.name)).Nodup ∧ type = decl.toTypeInfo := by
  rw [find?_source]
  cases p.decl? typeName with
  | none => simp
  | some decl =>
    dsimp only
    rw [map_eq_ok_iff]
    simp only [Option.some.injEq, exists_eq_right, exists_eq_left', TypeInfo.check_eq_ok_iff]

theorem find?_source_eq_error_iff {e : RepeatedField} :
    p.source.find? typeName = .error e ↔ ∃ decl, p.decl? typeName = some decl ∧
      FirstRepeated (decl.fields.map (·.name)) e.name := by
  rw [find?_source]
  cases p.decl? typeName with
  | none => simp
  | some decl =>
    simp only [Option.some.injEq, exists_eq_left', ← TypeInfo.check_eq_error_iff]
    cases decl.toTypeInfo.check <;> simp [Except.map]

/-! ## Loaded packages -/

/-- Each file of a loaded package is read from a text. -/
theorem exists_text_of_load {t : FileTree} {path : Path} (loaded : (load t path).outcome = .ok p) :
    ∀ f ∈ p.files, ∃ file content, SourceFile.ofText? file content = .ok f := by
  obtain ⟨paths, -, -, -, -, read, -⟩ := load_eq_ok_iff.1 loaded
  intro f mem
  obtain ⟨file, -, read⟩ := exists_of_mem_mapM read f mem
  obtain ⟨content, -, -, read⟩ := readFile_eq_ok_iff.1 read
  exact ⟨file, _, read⟩

/-- A type of a loaded package that has fields is a struct type. -/
theorem isStruct_of_load {t : FileTree} {path : Path} {decl : TypeDecl}
    (loaded : (load t path).outcome = .ok p) (declared : p.decl? typeName = some decl) :
    decl.fields ≠ [] → decl.isStruct = true := by
  obtain ⟨f, mem, inside⟩ := List.mem_flatMap.1 (List.mem_of_find?_eq_some declared)
  obtain ⟨file, content, read⟩ := exists_text_of_load loaded f mem
  exact SourceFile.isStruct_of_ofText? read decl inside

end Package

end EnumText
