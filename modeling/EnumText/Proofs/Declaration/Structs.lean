import EnumText.Proofs.Declaration.Relocation.Declarations

/-!
# Which declared types have fields

Types are read one at a time, alone or in a group, so what holds of each type that `typeSpec` reads
holds of all types of a file. Only a struct type is given fields.

* `forall_of_typeDecl`, `forall_of_decls`: from one type to all of them.
* `SourceFile.isStruct_of_ofText?`: a type of a file that has fields is a struct type.
-/

namespace EnumText

namespace Listing

open Declaration

variable {l : Listing} {ts rest : List Token} {types : List TypeDecl} {P : TypeDecl → Prop}

section

variable (each : ∀ {doc ts type rest}, l.typeSpec doc ts = .ok (type, rest) → P type)

include each

theorem forall_of_typeDecl (h : l.typeDecl ts = .ok (types, rest)) : ∀ type ∈ types, P type := by
  cases typeDecl_eq_ok_iff.1 h with
  | single _ _ read => exact List.forall_mem_singleton.2 (each read)
  | group _ _ _ found => exact found.forall_mem each

theorem forall_of_decls {n : Nat} {bindings : List Binding}
    (h : l.Decls n ts types bindings) : ∀ type ∈ types, P type := by
  induction h with
  | nil => exact List.forall_mem_nil _
  | semicolon _ _ ih => exact ih
  | types _ read _ ih => exact List.forall_mem_append.2 ⟨forall_of_typeDecl each read, ih⟩
  | vars _ _ _ ih => exact ih
  | statement _ _ _ _ _ ih => exact ih

end

/-- Only a struct type is given fields. -/
theorem isStruct_of_typeSpec {doc : List Text} {type : TypeDecl}
    (h : l.typeSpec doc ts = .ok (type, rest)) : type.fields ≠ [] → type.isStruct = true := by
  obtain ⟨name, after, params, fields, tail, run, last, -, -, -, read, -, rfl, -⟩ :=
    typeSpec_eq_ok_iff.1 h
  intro some
  by_contra other
  rw [typeFields, if_neg other] at read
  cases read
  exact some rfl

end Listing

/-- A type of a file that has fields is a struct type. -/
theorem SourceFile.isStruct_of_ofText? {file : Path} {t : Text} {f : SourceFile}
    (h : ofText? file t = .ok f) : ∀ type ∈ f.types, type.fields ≠ [] → type.isStruct = true := by
  obtain ⟨l, -, read⟩ := ofText?_eq_ok_iff.1 h
  obtain ⟨word, name, rest, types, bindings, -, -, -, found, rfl⟩ := ofListing?_eq_ok_iff.1 read
  obtain ⟨n, -, found⟩ := Listing.declarations_eq_ok_iff.1 found
  exact Listing.forall_of_decls Listing.isStruct_of_typeSpec found

end EnumText
