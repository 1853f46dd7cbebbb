import EnumText.Proofs.Assignments
import EnumText.Proofs.Declaration.Groups

/-!
# Values by key and by position

A literal gives values to the fields of its type by key or by position, and both mean the same.
Elements under keys that are no fields do not count, and neither do elements behind the last field.

* `Composite.fieldValues_elementsOf`, `Composite.fieldValues_bareElements`: what each form gives.
* `Composite.fieldValues_keyed_positional`: values by key are those by position, in any order.
-/

namespace EnumText

open Listing (elementsOf)

namespace Assignments

/-- Pairs with different keys are given as they are. -/
theorem get?_ofList_eq_some_iff {pairs : List (Text × Text)}
    (distinct : (pairs.map Prod.fst).Nodup) {key value : Text} :
    (ofList pairs).get? key = some value ↔ (key, value) ∈ pairs := by
  rw [ofList_of_nodup distinct, get?_eq_some_iff distinct]

end Assignments

namespace Composite

variable {typeName : Text} {fields : List Field} {values : List Text}
variable {entries : List (Text × Text)}

/-- Elements that stand at positions. -/
def bareElements (values : List Text) : List Element := values.map (⟨none, ·⟩)

/-- By key, the fields get the values of the elements that are named like them. -/
theorem fieldValues_elementsOf (typeName : Text) (entries : List (Text × Text))
    (fields : List Field) : (Composite.mk typeName (elementsOf entries)).fieldValues fields =
      .ofList (entries.filter fun p => p.1 ∈ fields.map (·.name)) := by
  have each (p : Text × Text) : (if fields.any (·.name = p.1) then some (p.1, p.2) else none) =
      Option.guard (fun p => decide (p.1 ∈ fields.map (·.name))) p := by
    simp only [Option.guard, List.any_eq_true, decide_eq_true_eq, List.mem_map]
  unfold fieldValues
  split
  · rw [elementsOf, List.filterMap_map, ← List.filterMap_eq_filter]
    exact congrArg _ (List.filterMap_congr fun p _ => each p)
  · next unkeyed =>
    cases entries with
    | nil => simp [elementsOf]
    | cons p entries => simp [isKeyed, elementsOf] at unkeyed

/-- By position, the fields get the values in order. -/
theorem fieldValues_bareElements (typeName : Text) (values : List Text) (fields : List Field) :
    (Composite.mk typeName (bareElements values)).fieldValues fields =
      .ofList ((fields.map (·.name)).zip values) := by
  have unkeyed : (Composite.mk typeName (bareElements values)).isKeyed = false := by
    simp [isKeyed, bareElements]
  rw [fieldValues, if_neg (by simp [unkeyed]), bareElements, List.zip_map_right, List.map_map,
    List.zip_map_left]
  rfl

theorem keys_zip_sublist (names values : List Text) :
    ((names.zip values).map Prod.fst).Sublist names := by
  induction names generalizing values with
  | nil => exact .slnil
  | cons name names ih =>
    cases values with
    | nil => exact List.nil_sublist _
    | cons value values => exact (ih values).cons_cons name

/-- Values behind the last name have none. -/
theorem zip_append_of_length_le {names values further : List Text}
    (enough : names.length ≤ values.length) :
    names.zip (values ++ further) = names.zip values := by
  induction names generalizing values with
  | nil => rfl
  | cons name names ih =>
    cases values with
    | nil => simp at enough
    | cons value values =>
      rw [List.cons_append, List.zip_cons_cons, List.zip_cons_cons,
        ih (Nat.le_of_succ_le_succ enough)]

/-- Values under the names of their fields, and others under other keys, are the values at the
positions of the fields. -/
theorem get?_fieldValues_elementsOf_iff (distinct : (fields.map (·.name)).Nodup)
    {strays : List (Text × Text)} (strange : ∀ p ∈ strays, p.1 ∉ fields.map (·.name))
    (mixed : entries.Perm ((fields.map (·.name)).zip values ++ strays)) (key value : Text) :
    ((Composite.mk typeName (elementsOf entries)).fieldValues fields).get? key = some value ↔
      (key, value) ∈ (fields.map (·.name)).zip values := by
  have known : entries.filter (fun p => p.1 ∈ fields.map (·.name)) |>.Perm
      ((fields.map (·.name)).zip values) := by
    refine (mixed.filter _).trans (.of_eq ?_)
    rw [List.filter_append, List.filter_eq_self.2, List.filter_eq_nil_iff.2, List.append_nil]
    · intro p mem
      simpa using strange p mem
    · intro p mem
      exact decide_eq_true (List.of_mem_zip mem).1
  have keys : ((entries.filter fun p => p.1 ∈ fields.map (·.name)).map Prod.fst).Nodup :=
    ((known.map Prod.fst).nodup_iff).2 ((keys_zip_sublist _ _).nodup distinct)
  rw [fieldValues_elementsOf, Assignments.get?_ofList_eq_some_iff keys]
  exact known.mem_iff

/-- The values at positions and the same values under the names of their fields, in any order, give
the fields the same. Elements under keys that are no fields add nothing to the latter, and elements
behind the last field nothing to the former. -/
theorem fieldValues_keyed_positional (distinct : (fields.map (·.name)).Nodup)
    (named : entries.Perm ((fields.map (·.name)).zip values)) (typeName typeName' : Text) :
    (∀ key value,
      ((Composite.mk typeName (bareElements values)).fieldValues fields).get? key = some value ↔
        (key, value) ∈ (fields.map (·.name)).zip values) ∧
    (∀ key, ((Composite.mk typeName' (elementsOf entries)).fieldValues fields).get? key =
      ((Composite.mk typeName (bareElements values)).fieldValues fields).get? key) ∧
    (∀ strays mixed, (∀ p ∈ strays, p.1 ∉ fields.map (·.name)) → mixed.Perm (entries ++ strays) →
      ∀ key, ((Composite.mk typeName' (elementsOf mixed)).fieldValues fields).get? key =
        ((Composite.mk typeName' (elementsOf entries)).fieldValues fields).get? key) ∧
    ∀ further, fields.length ≤ values.length →
      (Composite.mk typeName (bareElements (values ++ further))).fieldValues fields =
        (Composite.mk typeName (bareElements values)).fieldValues fields := by
  have positions (key value : Text) :
      ((Composite.mk typeName (bareElements values)).fieldValues fields).get? key = some value ↔
        (key, value) ∈ (fields.map (·.name)).zip values := by
    rw [fieldValues_bareElements]
    exact Assignments.get?_ofList_eq_some_iff ((keys_zip_sublist _ _).nodup distinct)
  have keys (strays mixed : List (Text × Text)) (strange : ∀ p ∈ strays, p.1 ∉ fields.map (·.name))
      (perm : mixed.Perm (entries ++ strays)) (key value : Text) :
      ((Composite.mk typeName' (elementsOf mixed)).fieldValues fields).get? key = some value ↔
        (key, value) ∈ (fields.map (·.name)).zip values :=
    get?_fieldValues_elementsOf_iff distinct strange (perm.trans (named.append_right strays)) key
      value
  have alone := keys [] entries (List.forall_mem_nil _) (.of_eq (List.append_nil _).symm)
  refine ⟨positions, fun key => ?_, fun strays mixed strange perm key => ?_, fun further full => ?_⟩
  · exact Option.ext fun value => (alone key value).trans (positions key value).symm
  · exact Option.ext fun value =>
      (keys strays mixed strange perm key value).trans (alone key value).symm
  · have enough : (fields.map (·.name)).length ≤ values.length := by
      rwa [List.length_map]
    rw [fieldValues_bareElements, fieldValues_bareElements, zip_append_of_length_le enough]

/-- The fields of a card. -/
def handFields : List Field := [⟨text "Name", text "string"⟩, ⟨text "Rank", text "int"⟩]

/-- The values of a card in the order of its fields. -/
def handValues : List Text := [text "\"Ace\"", text "14"]

/-- The values of a card under their names, in another order. -/
def handEntries : List (Text × Text) :=
  [(text "Rank", text "14"), (text "Name", text "\"Ace\"")]

/-- A key that is no field stands between the others, and a value behind the last field. -/
theorem fieldValues_keyed_positional_hand :
    (handFields.map (·.name)).Nodup ∧ handEntries.Perm ((handFields.map (·.name)).zip handValues) ∧
    (∀ key, ((Composite.mk (text "Card") (elementsOf [(text "Rank", text "14"),
        (text "Suit", text "3"), (text "Name", text "\"Ace\"")])).fieldValues handFields).get? key =
      ((Composite.mk (text "Card") (bareElements (handValues ++ [text "3"]))).fieldValues
        handFields).get? key) ∧
    ((Composite.mk (text "Card") (bareElements handValues)).fieldValues handFields).get?
      (text "Rank") = some (text "14") := by
  have distinct : (handFields.map (·.name)).Nodup := by decide
  have named : handEntries.Perm ((handFields.map (·.name)).zip handValues) := by decide
  obtain ⟨positions, keys, mixed, further⟩ :=
    fieldValues_keyed_positional distinct named (text "Card") (text "Card")
  refine ⟨distinct, named, fun key => ?_, (positions _ _).2 (by decide)⟩
  rw [mixed [(text "Suit", text "3")] _ (by decide) (by decide), keys, further _ (by decide)]

end Composite

end EnumText
