import EnumText.Assignments
import Mathlib.Data.List.Nodup

/-!
# Assignments as maps

Where keys differ, assignments are the map that they list: `get?_eq_some_iff` reads a value off the
list, and `ofList_of_nodup` says that giving new keys their values in turn lists them in order.
`get?_put` and `get?_erase` say what a key has after another was given a value or lost it.
-/

namespace EnumText

/-- What is left out under one key does not count for the others. -/
theorem lookup_filter_ne {α β : Type} [BEq α] [LawfulBEq α] [DecidableEq α] {k key : α}
    (apart : k ≠ key) (entries : List (α × β)) :
    (entries.filter (·.1 ≠ key)).lookup k = entries.lookup k := by
  induction entries with
  | nil => rfl
  | cons entry rest ih =>
    rw [List.filter_cons, List.lookup_cons]
    by_cases same : entry.1 = key
    · rw [if_neg (by simpa using same), ih, beq_false_of_ne (same ▸ apart)]
    · rw [if_pos (by simpa using same), List.lookup_cons, ih]

namespace Assignments

theorem get?_eq_none_iff {values : Assignments} {key : Text} :
    values.lookup key = none ↔ key ∉ values.map Prod.fst := by
  simp only [List.lookup_eq_none_iff, bne_iff_ne, ne_eq, List.mem_map, not_exists, not_and]
  exact ⟨fun h p mem same => h p mem same.symm, fun h p mem same => h p mem same.symm⟩

theorem get?_eq_some_iff {values : Assignments} (distinct : (values.map Prod.fst).Nodup)
    {key value : Text} : values.get? key = some value ↔ (key, value) ∈ values := by
  rw [get?, List.lookup_eq_some_iff]
  constructor
  · intro h
    rcases h with ⟨before, after, rfl, _⟩
    exact List.mem_append_right _ List.mem_cons_self
  · intro mem
    rcases List.append_of_mem mem with ⟨before, after, rfl⟩
    refine ⟨before, after, rfl, fun p earlier => ?_⟩
    rw [List.map_append] at distinct
    rw [bne_iff_ne]
    intro same
    subst same
    have apart := (List.nodup_append.1 distinct).2.2
    exact apart _ (List.mem_map_of_mem earlier) _ List.mem_cons_self rfl

theorem get?_cons (key value other : Text) (values : Assignments) :
    get? ((key, value) :: values) other =
      if other = key then some value else values.get? other := by
  rw [get?, List.lookup_cons]
  split
  · next same => rw [if_pos (beq_iff_eq.1 same)]
  · next apart => rw [if_neg (by simpa using apart), get?]

theorem get?_put (key value other : Text) (values : Assignments) :
    (values.put key value).get? other = if other = key then some value else values.get? other := by
  induction values with
  | nil => exact get?_cons key value other []
  | cons p values ih =>
    obtain ⟨k, v⟩ := p
    rw [put]
    split
    · next same =>
      subst same
      rw [get?_cons, get?_cons]
      split <;> rfl
    · next apart =>
      rw [get?_cons, get?_cons, ih]
      by_cases here : other = k
      · have other_ne : other ≠ key := fun same => apart (here ▸ same)
        rw [if_pos here, if_neg other_ne, if_pos here]
      · rw [if_neg here, if_neg here]

theorem get?_erase (key other : Text) (values : Assignments) :
    (values.erase key).get? other = if other = key then none else values.get? other := by
  rw [erase, get?]
  split
  · next same =>
    subst same
    rw [List.lookup_eq_none_iff]
    intro p mem
    have kept : p.1 ≠ other := by simpa using (List.mem_filter.1 mem).2
    simpa using kept.symm
  · next apart => exact lookup_filter_ne apart values

/-- Keys that are given values are those that have one. -/
theorem get?_ofList_eq_none_iff {pairs : List (Text × Text)} {key : Text} :
    (ofList pairs).get? key = none ↔ key ∉ pairs.map Prod.fst := by
  have fold (values : Assignments) :
      get? (pairs.foldl (fun values p => values.put p.1 p.2) values) key = none ↔
        values.get? key = none ∧ key ∉ pairs.map Prod.fst := by
    induction pairs generalizing values with
    | nil => simp
    | cons p pairs ih =>
      rw [List.foldl_cons, ih, get?_put, List.map_cons, List.mem_cons, not_or]
      by_cases same : key = p.1 <;> simp [same]
  exact (fold []).trans (and_iff_right rfl)

/-- A new key comes after all others. -/
theorem put_of_not_mem {values : Assignments} {key : Text} (absent : key ∉ values.map Prod.fst)
    (value : Text) : Assignments.put key value values = values ++ [(key, value)] := by
  induction values with
  | nil => rfl
  | cons p values ih =>
    obtain ⟨k, v⟩ := p
    rw [List.map_cons, List.mem_cons, not_or] at absent
    rw [Assignments.put, if_neg (Ne.symm absent.1), ih absent.2]
    rfl

theorem ofList_of_nodup {pairs : List (Text × Text)} (distinct : (pairs.map Prod.fst).Nodup) :
    ofList pairs = pairs := by
  have fold (values rest : Assignments) (distinct : ((values ++ rest).map Prod.fst).Nodup) :
      rest.foldl (fun values p => Assignments.put p.1 p.2 values) values = values ++ rest := by
    induction rest generalizing values with
    | nil => exact (List.append_nil values).symm
    | cons p rest ih =>
      have absent : p.1 ∉ values.map Prod.fst := by
        rw [List.map_append] at distinct
        exact fun mem => (List.nodup_append.1 distinct).2.2 _ mem _ List.mem_cons_self rfl
      rw [List.foldl_cons, put_of_not_mem absent, ih _ (by simpa using distinct)]
      simp
  exact fold [] pairs distinct

/-- Entries made from items under their keys have keys in the order of the items. -/
theorem keys_filterMap_sublist {α : Type} (key : α → Text) {entry : α → Option (Text × Text)}
    (under : ∀ x p, entry x = some p → p.1 = key x) (items : List α) :
    ((items.filterMap entry).map Prod.fst).Sublist (items.map key) := by
  induction items with
  | nil => exact .slnil
  | cons x items ih =>
    cases made : entry x with
    | none =>
      rw [List.filterMap_cons_none made]
      exact ih.cons _
    | some p =>
      rw [List.filterMap_cons_some made, List.map_cons, List.map_cons, under x p made]
      exact ih.cons_cons _

end Assignments

end EnumText
