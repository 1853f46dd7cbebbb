import EnumText.Proofs.Enumeration.Decoding

/-!
# Where the keys of an enumeration collide

The check takes the instances in order and remembers who owns each key so far. `Owner` says the same
of the instances themselves: the zero value owns the empty text, where it may be read, and each
other key belongs to the instance that has it.

* `owner_concat_iff`: what an instance with a free key adds to the owners.
* `firstCollision_cons_iff`: the first collision along the instances.
* `checkFrom_eq_error_iff`: from owners that are recorded, the check reports the first collision.
* `check_first_collision`: the keys that pass, and what is reported of the others.
-/

namespace EnumText.Enumeration

variable {e : Enumeration} {before rest : List Instance} {i : Instance} {key owner : Text}

/-! ## Owners -/

/-- The key that an instance is read by. -/
def key? (e : Enumeration) (i : Instance) : Except EncodingError Text :=
  (e.text? i).map decodeKey

/-- Who owns a key behind some instances. The zero value comes before all of them. -/
inductive Owner (e : Enumeration) (before : List Instance) (key : Text) : Text → Prop
  | zero (allowed : e.allowZero = true) (empty : key = []) : Owner e before key e.zeroLiteral
  | member {i : Instance} (mem : i ∈ before) (own : e.key? i = .ok key)
      (other : ¬ (e.allowZero = true ∧ key = [])) : Owner e before key i.name

/-- A key cannot be given to an instance behind some others: one of them has it, or it is empty and
read as the zero value. -/
def Taken (e : Enumeration) (before : List Instance) (key : Text) : Prop :=
  (e.allowZero = true ∧ key = []) ∨ ∃ i ∈ before, e.key? i = .ok key

instance : Decidable (e.Taken before key) :=
  inferInstanceAs (Decidable (_ ∨ ∃ i ∈ before, e.key? i = .ok key))

/-- Of some instances that stand behind others, none has a key that is taken when its turn comes. -/
def AllFree (e : Enumeration) (before here : List Instance) : Prop :=
  ∀ front i back key, here = front ++ i :: back → e.key? i = .ok key →
    ¬ e.Taken (before ++ front) key

/-- A taken key has an owner, and no other key has one. -/
theorem taken_iff : e.Taken before key ↔ ∃ owner, e.Owner before key owner := by
  constructor
  · intro taken
    rcases taken with ⟨allowed, empty⟩ | ⟨i, mem, own⟩
    · exact ⟨_, .zero allowed empty⟩
    · by_cases zero : e.allowZero = true ∧ key = []
      · exact ⟨_, .zero zero.1 zero.2⟩
      · exact ⟨_, .member mem own zero⟩
  · intro h
    obtain ⟨owner, owns⟩ := h
    cases owns with
    | zero allowed empty => exact .inl ⟨allowed, empty⟩
    | member mem own _ => exact .inr ⟨_, mem, own⟩

/-- An instance with a free key becomes its owner, and the other keys keep theirs. -/
theorem owner_concat_iff {taken : Text} (own : e.key? i = .ok taken)
    (free : ¬ e.Taken before taken) : e.Owner (before ++ [i]) key owner ↔
      if key = taken then owner = i.name else e.Owner before key owner := by
  split
  · next same =>
    subst same
    obtain ⟨notZero, notOwned⟩ := not_or.1 free
    constructor
    · intro owns
      cases owns with
      | zero allowed empty => exact absurd ⟨allowed, empty⟩ notZero
      | @member j mem theirs _ =>
        rcases List.mem_append.1 mem with mem | mem
        · exact absurd ⟨j, mem, theirs⟩ notOwned
        · rw [List.mem_singleton.1 mem]
    · intro name
      subst name
      exact .member (List.mem_append_right _ List.mem_cons_self) own notZero
  · next other =>
    constructor
    · intro owns
      cases owns with
      | zero allowed empty => exact .zero allowed empty
      | @member j mem theirs notZero =>
        rcases List.mem_append.1 mem with mem | mem
        · exact .member mem theirs notZero
        · rw [List.mem_singleton.1 mem, own] at theirs
          exact absurd (Except.ok.inj theirs).symm other
    · intro owns
      cases owns with
      | zero allowed empty => exact .zero allowed empty
      | member mem theirs notZero => exact .member (List.mem_append_left _ mem) theirs notZero

/-! ## The first collision -/

theorem allFree_nil : e.AllFree before [] := by
  intro front i back key none
  simp at none

theorem allFree_cons_iff (own : e.key? i = .ok key) :
    e.AllFree before (i :: rest) ↔ ¬ e.Taken before key ∧ e.AllFree (before ++ [i]) rest := by
  constructor
  · intro free
    refine ⟨fun taken => free [] i rest key rfl own (by rwa [List.append_nil]), ?_⟩
    intro front j back k same theirs
    have later := free (i :: front) j back k (congrArg _ same) theirs
    rwa [List.append_cons] at later
  · intro h front j back k same theirs
    obtain ⟨free, later⟩ := h
    cases front with
    | nil =>
      obtain ⟨rfl, -⟩ := List.cons.inj same
      rw [own] at theirs
      cases theirs
      rwa [List.append_nil]
    | cons j' front =>
      obtain ⟨rfl, below⟩ := List.cons.inj same
      rw [List.append_cons]
      exact later front j back k below theirs

/-- What is reported of some instances that stand behind others: the first of them whose key is
taken, with the owner that the key has before it. -/
def FirstCollision (e : Enumeration) (before here : List Instance) (error : EncodingError) : Prop :=
  ∃ front i back key owner, here = front ++ i :: back ∧ e.AllFree before front ∧
    e.key? i = .ok key ∧ e.Owner (before ++ front) key owner ∧
    error = .duplicate e.typeName owner i.name key

variable {error : EncodingError}

theorem not_firstCollision_nil : ¬ e.FirstCollision before [] error := by
  intro h
  obtain ⟨front, i, back, key, owner, none, -⟩ := h
  simp at none

theorem firstCollision_cons_iff (own : e.key? i = .ok key) :
    e.FirstCollision before (i :: rest) error ↔
      (∃ owner, e.Owner before key owner ∧ error = .duplicate e.typeName owner i.name key) ∨
        ¬ e.Taken before key ∧ e.FirstCollision (before ++ [i]) rest error := by
  constructor
  · intro h
    obtain ⟨front, j, back, k, owner, same, free, theirs, owns, report⟩ := h
    cases front with
    | nil =>
      obtain ⟨rfl, -⟩ := List.cons.inj same
      rw [own] at theirs
      cases theirs
      rw [List.append_nil] at owns
      exact .inl ⟨owner, owns, report⟩
    | cons j' front =>
      obtain ⟨rfl, below⟩ := List.cons.inj same
      obtain ⟨first, later⟩ := (allFree_cons_iff own).1 free
      rw [List.append_cons] at owns
      exact .inr ⟨first, front, j, back, k, owner, below, later, theirs, owns, report⟩
  · intro h
    rcases h with ⟨owner, owns, report⟩ | ⟨free, front, j, back, k, owner, rfl, later, theirs, owns,
      report⟩
    · exact ⟨[], i, rest, key, owner, rfl, allFree_nil, own, by rwa [List.append_nil], report⟩
    · rw [← List.append_cons] at owns
      exact ⟨i :: front, j, back, k, owner, rfl, (allFree_cons_iff own).2 ⟨free, later⟩, theirs,
        owns, report⟩

/-! ## The check -/

/-- The list of owners records those behind some instances. -/
def Records (e : Enumeration) (owners : List (Text × Text)) (before : List Instance) : Prop :=
  ∀ key owner, owners.lookup key = some owner ↔ e.Owner before key owner

theorem records_start :
    e.Records (if e.allowZero then [([], e.zeroLiteral)] else []) [] := by
  intro key owner
  constructor
  · intro found
    split at found
    · next allowed =>
      rw [List.lookup_cons] at found
      split at found
      · next same =>
        cases found
        exact .zero allowed (beq_iff_eq.1 same)
      · cases found
    · cases found
  · intro owns
    cases owns with
    | zero allowed empty => rw [if_pos allowed, empty, List.lookup_cons_self]
    | member none => cases none

/-- A further instance with a free key is recorded. -/
theorem Records.cons {owners : List (Text × Text)} (h : e.Records owners before)
    (own : e.key? i = .ok key) (free : ¬ e.Taken before key) :
    e.Records ((key, i.name) :: owners) (before ++ [i]) := by
  intro k owner
  rw [owner_concat_iff own free, List.lookup_cons]
  by_cases same : k = key
  · rw [if_pos same, same, beq_self_eq_true]
    simp only [Option.some.injEq]
    exact eq_comm
  · rw [if_neg same, beq_eq_false_iff_ne.2 same]
    exact h k owner

/-- From recorded owners the check fails at the first instance whose key is taken. -/
theorem checkFrom_eq_error_iff {owners : List (Text × Text)} (records : e.Records owners before)
    (defined : ∀ i ∈ rest, ∃ t, e.text? i = .ok t) :
    e.checkFrom owners rest = .error error ↔ e.FirstCollision before rest error := by
  -- each instance that passes goes over to those before, and stays recorded
  induction rest generalizing before owners with
  | nil =>
    constructor
    · intro h
      cases h
    · exact fun h => absurd h not_firstCollision_nil
  | cons i rest ih =>
    obtain ⟨⟨t, text⟩, defined⟩ := List.forall_mem_cons.1 defined
    have own : e.key? i = .ok (decodeKey t) := map_eq_ok_iff.2 ⟨t, text, rfl⟩
    rw [checkFrom, text, firstCollision_cons_iff own]
    simp only [bind, Except.bind]
    cases found : owners.lookup (decodeKey t) with
    | some owner =>
      have owns := (records _ _).1 found
      constructor
      · intro h
        cases h
        exact .inl ⟨owner, owns, rfl⟩
      · intro h
        rcases h with ⟨other, theirs, rfl⟩ | ⟨free, -⟩
        · rw [← records, found] at theirs
          cases theirs
          rfl
        · exact absurd (taken_iff.2 ⟨owner, owns⟩) free
    | none =>
      have free : ¬ e.Taken before (decodeKey t) := by
        intro taken
        obtain ⟨owner, owns⟩ := taken_iff.1 taken
        rw [(records _ _).2 owns] at found
        cases found
      dsimp only
      rw [ih (records.cons own free) defined]
      constructor
      · exact fun later => .inr ⟨free, later⟩
      · intro h
        rcases h with ⟨owner, owns, -⟩ | ⟨-, later⟩
        · exact absurd (taken_iff.2 ⟨owner, owns⟩) free
        · exact later

/-- Where every instance has a text, the check passes exactly if the keys of the instances differ
and none of them is empty where that is read as the zero value. Otherwise it reports the first
instance whose key is taken, with the owner that the key has before it. -/
theorem check_first_collision (defined : ∀ i ∈ e.instances, ∃ t, e.text? i = .ok t) :
    (∃ texts, e.instances.mapM e.text? = .ok texts ∧
      (e.check = .ok () ↔
        (texts.map decodeKey).Nodup ∧ ¬ (e.allowZero = true ∧ [] ∈ texts.map decodeKey))) ∧
    ∀ error, e.check = .error error ↔
      ∃ before i after key owner, e.instances = before ++ i :: after ∧
        e.AllFree [] before ∧ e.key? i = .ok key ∧ e.Owner before key owner ∧
        error = .duplicate e.typeName owner i.name key := by
  refine ⟨?_, fun error => checkFrom_eq_error_iff records_start defined⟩
  obtain ⟨texts, read⟩ := exists_mapM_eq_ok defined
  refine ⟨texts, read, ?_⟩
  rw [check_eq_ok_iff, ← nodup_zeroKeys_iff]
  constructor
  · intro h
    obtain ⟨_, read', distinct⟩ := h
    rw [read] at read'
    cases read'
    exact distinct
  · exact fun distinct => ⟨texts, read, distinct⟩

/-- Cards with labels that their texts are taken from. -/
def labelledCards (labels : List (String × String)) : Enumeration where
  typeName := text "Card"
  instances := labels.map fun (name, label) => ⟨text name, [(text "Label", text label)], .directive⟩
  casing := .identity
  generateVars := true
  marshalField := some (text "Label")
  allowZero := true
  fields := [⟨text "Label", text "string"⟩]

/-- Labels of which the third differs from the first in case and quotes alone. -/
def repeatedCards : Enumeration :=
  labelledCards [("Ace", "\"One\""), ("Two", "2"), ("One", "ONE"), ("Deuce", "2")]

/-- A label with nothing in it but a quote. -/
def quotedCards : Enumeration := labelledCards [("Ace", "\"\\\"\"")]

theorem check_first_collision_cards :
    (∀ i ∈ repeatedCards.instances, ∃ t, repeatedCards.text? i = .ok t) ∧
    (∀ i ∈ quotedCards.instances, ∃ t, quotedCards.text? i = .ok t) ∧
    repeatedCards.check =
      .error (.duplicate (text "Card") (text "Ace") (text "One") (text "one")) ∧
    quotedCards.check =
      .error (.duplicate (text "Card") (text "Card\x7b\x7d") (text "Ace") []) := by
  have defined (labels : List (String × String)) :
      ∀ i ∈ (labelledCards labels).instances, ∃ t, (labelledCards labels).text? i = .ok t := by
    intro i mem
    obtain ⟨p, -, rfl⟩ := List.mem_map.1 mem
    exact ⟨_, rfl⟩
  refine ⟨defined _, defined _, ?_, ?_⟩
  · have free : repeatedCards.AllFree [] (repeatedCards.instances.take 2) := by
      have ace : repeatedCards.key? repeatedCards.instances[0] = .ok (text "one") := by
        decide +kernel
      have two : repeatedCards.key? repeatedCards.instances[1] = .ok (text "2") := by
        decide +kernel
      exact (allFree_cons_iff ace).2 ⟨by decide +kernel,
        (allFree_cons_iff two).2 ⟨by decide +kernel, allFree_nil⟩⟩
    have owner : repeatedCards.Owner (repeatedCards.instances.take 2) (text "one") (text "Ace") :=
      .member List.mem_cons_self (by decide +kernel) (by decide)
    exact ((check_first_collision (defined _)).2 _).2
      ⟨_, repeatedCards.instances[2], _, _, _, rfl, free, by decide +kernel, owner, rfl⟩
  · exact ((check_first_collision (defined _)).2 _).2
      ⟨[], quotedCards.instances[0], [], [], _, rfl, allFree_nil, by decide +kernel, .zero rfl rfl,
        rfl⟩

end EnumText.Enumeration
