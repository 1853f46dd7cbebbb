import EnumText.Enumeration.Code
import EnumText.Proofs.Assignments
import EnumText.Proofs.Literal.Quoting
import EnumText.Proofs.Outcome
import Mathlib.Data.List.Nodup

/-!
# The generated methods write and read the texts of instances

`View.encodings`, `View.caseLabels` and `View.caseValues` take what stands in the lines of the
generated methods out of them, in file order. `View.decode` is what the reading method makes of a
text: the first case whose label denotes the key of the text counts.

* `check_eq_ok_iff`: what an accepted enumeration is.
* `exists_view`: what the methods of an enumeration show whose instances have texts.
* `decode_texts`: reading is the inverse of writing, and all else is refused.
-/

namespace EnumText

/-! ## Keys -/

theorem Rune.isScalar_of_mem_lower {c d : Rune} (h : c.isScalar = true) (mem : d ∈ c.lower) :
    d.isScalar = true := by
  cases c with
  | stray b => cases h
  | scalar c =>
    simp only [Rune.lower] at mem
    split at mem
    · simp only [List.mem_cons, List.not_mem_nil, or_false] at mem
      rcases mem with rfl | rfl <;> rfl
    · split at mem <;>
      · rw [List.mem_singleton] at mem
        subst mem
        rfl

theorem Text.isScalar_lowerAfter {before t : Text} (h : Text.isScalar t = true) :
    Text.isScalar (Text.lowerAfter before t) = true := by
  induction t generalizing before with
  | nil => rfl
  | cons c t ih =>
    obtain ⟨hc, ht⟩ : c.isScalar = true ∧ Text.isScalar t = true := by
      simpa [Text.isScalar] using h
    unfold Text.lowerAfter
    simp only [Text.isScalar, List.all_append, Bool.and_eq_true]
    refine ⟨?_, ih ht⟩
    split
    · split <;> rfl
    · exact List.all_eq_true.2 fun d mem => Rune.isScalar_of_mem_lower hc mem

/-- The key of a text without stray bytes has none. -/
theorem isScalar_decodeKey {t : Text} (h : Text.isScalar t = true) :
    Text.isScalar (decodeKey t) = true := by
  have lower : Text.isScalar t.lower = true := Text.isScalar_lowerAfter h
  apply List.all_eq_true.2
  intro c mem
  exact List.all_eq_true.1 lower c (List.mem_filter.1 mem).1

namespace Enumeration

variable {e : Enumeration}

/-! ## Accepted enumerations -/

/-- The keys that belong to no instance: the empty text, where it is read as the zero value. -/
def zeroKeys (e : Enumeration) : List Text := if e.allowZero then [[]] else []

/-- Instances are accepted if each has a text, and no two keys agree, those of earlier owners
included. -/
theorem checkFrom_eq_ok_iff {owners : List (Text × Text)} {instances : List Instance} :
    e.checkFrom owners instances = .ok () ↔
      ∃ texts, instances.mapM e.text? = .ok texts ∧ (texts.map decodeKey).Nodup ∧
        ∀ t ∈ texts, decodeKey t ∉ owners.map Prod.fst := by
  induction instances generalizing owners with
  | nil => simp [checkFrom, pure, Except.pure]
  | cons i rest ih =>
    rw [checkFrom, bind_eq_ok_iff]
    constructor
    · intro h
      rcases h with ⟨t, text, accepted⟩
      dsimp only at accepted
      split at accepted
      · cases accepted
      · next free =>
        rcases ih.1 accepted with ⟨texts, others, distinct, fresh⟩
        have apart : decodeKey t ∉ texts.map decodeKey := by
          intro mem
          rcases List.mem_map.1 mem with ⟨u, mem, same⟩
          exact fresh u mem (by simp [same])
        refine ⟨t :: texts, mapM_cons_eq_ok_iff.2 ⟨t, texts, text, others, rfl⟩,
          List.nodup_cons.2 ⟨apart, distinct⟩, ?_⟩
        rintro u mem
        rcases List.mem_cons.1 mem with rfl | mem
        · exact Assignments.get?_eq_none_iff.1 free
        · exact fun owned => fresh u mem (List.mem_cons_of_mem _ owned)
    · intro h
      rcases h with ⟨all, read, distinct, fresh⟩
      rcases mapM_cons_eq_ok_iff.1 read with ⟨t, texts, text, others, rfl⟩
      rcases List.nodup_cons.1 distinct with ⟨apart, distinct⟩
      refine ⟨t, text, ?_⟩
      simp only [Assignments.get?_eq_none_iff.2 (fresh t List.mem_cons_self)]
      refine ih.2 ⟨texts, others, distinct, fun u mem => ?_⟩
      rw [List.map_cons, List.mem_cons, not_or]
      refine ⟨fun same => apart ?_, fresh u (List.mem_cons_of_mem _ mem)⟩
      exact List.mem_map.2 ⟨u, mem, same⟩

/-- An enumeration is accepted if each instance has a text, and the keys of the instances and of the
zero value all differ. -/
theorem check_eq_ok_iff :
    e.check = .ok () ↔ ∃ texts, e.instances.mapM e.text? = .ok texts ∧
      (e.zeroKeys ++ texts.map decodeKey).Nodup := by
  rw [check, checkFrom_eq_ok_iff]
  refine exists_congr fun texts => and_congr_right fun _ => ?_
  unfold zeroKeys
  cases e.allowZero with
  | false => simp
  | true =>
    simp only [if_true, List.map_cons, List.map_nil, List.mem_singleton, List.singleton_append,
      List.nodup_cons, List.mem_map, not_exists, not_and]
    exact and_comm

/-- Keys with that of the zero value differ if they differ from each other, and none is the empty
text where that is read as the zero value. -/
theorem nodup_zeroKeys_iff (e : Enumeration) (keys : List Text) :
    (e.zeroKeys ++ keys).Nodup ↔ keys.Nodup ∧ ¬ (e.allowZero = true ∧ [] ∈ keys) := by
  unfold zeroKeys
  cases e.allowZero with
  | false => simp
  | true => simp [and_comm]

/-! ## What the generated code shows -/

/-- A view shows an enumeration whose instances have the given texts. -/
structure View.Shows (v : View) (e : Enumeration) (texts : List Text) : Prop where
  typeName : v.typeName = e.typeName
  generateVars : v.generateVars = e.generateVars
  allowZero : v.allowZero = e.allowZero
  names : v.members.map (·.name) = e.instances.map (·.name)
  paddedNames : v.members.map (·.paddedName) = e.instances.map (·.name.padRight e.nameWidth)
  encodings : v.members.map (·.encoding) = texts.map Literal.quote
  decodeKeys : v.members.map (·.decodeKey) = (texts.map decodeKey).map Literal.quote
  initializers : v.members.map (·.initializer) =
    e.instances.map fun i => e.typeName ++ text "\x7b" ++ i.initializer e.fields ++ text "\x7d"

section Shows

variable {v : View} {texts : List Text} {m : Member}

theorem View.Shows.exists_instance (h : v.Shows e texts) (mem : m ∈ v.members) :
    ∃ i ∈ e.instances, m.name = i.name := by
  have name : m.name ∈ e.instances.map (·.name) := h.names ▸ List.mem_map_of_mem mem
  rcases List.mem_map.1 name with ⟨i, inside, same⟩
  exact ⟨i, inside, same.symm⟩

theorem View.Shows.exists_encoding (h : v.Shows e texts) (mem : m ∈ v.members) :
    ∃ t, m.encoding = Literal.quote t := by
  have shown : m.encoding ∈ texts.map Literal.quote := h.encodings ▸ List.mem_map_of_mem mem
  rcases List.mem_map.1 shown with ⟨t, -, same⟩
  exact ⟨t, same.symm⟩

theorem View.Shows.exists_decodeKey (h : v.Shows e texts) (mem : m ∈ v.members) :
    ∃ t, m.decodeKey = Literal.quote t := by
  have shown : m.decodeKey ∈ (texts.map EnumText.decodeKey).map Literal.quote :=
    h.decodeKeys ▸ List.mem_map_of_mem mem
  rcases List.mem_map.1 shown with ⟨t, -, same⟩
  exact ⟨t, same.symm⟩

end Shows

theorem member?_eq_ok {i : Instance} {t : Text} (read : e.text? i = .ok t) :
    e.member? i = .ok {
      name := i.name
      paddedName := i.name.padRight e.nameWidth
      encoding := Literal.quote t
      decodeKey := Literal.quote (decodeKey t)
      initializer := e.typeName ++ text "\x7b" ++ i.initializer e.fields ++ text "\x7d" } := by
  rw [member?, read]
  rfl

theorem mapM_member? {instances : List Instance} {texts : List Text}
    (read : instances.mapM e.text? = .ok texts) :
    ∃ members, instances.mapM e.member? = .ok members ∧
      members.map (·.name) = instances.map (·.name) ∧
      members.map (·.paddedName) = instances.map (·.name.padRight e.nameWidth) ∧
      members.map (·.encoding) = texts.map Literal.quote ∧
      members.map (·.decodeKey) = (texts.map decodeKey).map Literal.quote ∧
      members.map (·.initializer) = instances.map fun i =>
        e.typeName ++ text "\x7b" ++ i.initializer e.fields ++ text "\x7d" := by
  induction instances generalizing texts with
  | nil =>
    cases read
    exact ⟨[], rfl, rfl, rfl, rfl, rfl, rfl⟩
  | cons i rest ih =>
    rcases mapM_cons_eq_ok_iff.1 read with ⟨t, more, first, others, rfl⟩
    rcases ih others with ⟨members, shown, names, padded, encodings, keys, initializers⟩
    refine ⟨_ :: members, mapM_cons_eq_ok_iff.2 ⟨_, members, member?_eq_ok first, shown, rfl⟩, ?_⟩
    simp only [List.map_cons, names, padded, encodings, keys, initializers, and_self]

/-- Where each instance has a text, the generated code shows all of them. -/
theorem exists_view {texts : List Text} (read : e.instances.mapM e.text? = .ok texts) :
    ∃ v, e.view? = .ok v ∧ v.Shows e texts := by
  rcases mapM_member? read with ⟨members, shown, names, padded, encodings, keys, initializers⟩
  refine ⟨⟨e.typeName, e.generateVars, e.allowZero, members⟩, ?_,
    rfl, rfl, rfl, names, padded, encodings, keys, initializers⟩
  rw [view?, shown]
  rfl

namespace View

/-- What stands after a mark on the lines that begin with it. -/
def marked (mark : Text) (lines : List Text) : List Text :=
  lines.filterMap fun line => if line.startsWith mark then some (line.drop mark.length) else none

/-- The literals that the writing method returns for the instances, in file order. -/
def encodings (v : View) : List Text := marked (text "\t\treturn ") v.stringMethod

/-- The labels of the reading method, in file order, without the colons after them. -/
def caseLabels (v : View) : List Text :=
  (marked (text "\tcase ") v.unmarshalMethod).map List.dropLast

/-- The values that the cases of the reading method assign, in file order. -/
def caseValues (v : View) : List Text := marked (text "\t\t*t = ") v.unmarshalMethod

/-- What the reading method makes of a text. -/
inductive Decoded
  | zero
  | member (index : Nat)
  | unsupported
deriving DecidableEq

/-- The first case counts whose label denotes the key of a text. -/
def decode (v : View) (t : Text) : Decoded :=
  match v.caseLabels.findIdx? fun label => Literal.unquote? label = some (decodeKey t) with
  | none => .unsupported
  | some n => if v.allowZero then (match n with | 0 => .zero | n + 1 => .member n) else .member n

/-- Among lines of which only those of a middle part bear the mark, one for each item. -/
theorem marked_flatMap {α : Type} {mark : Text} {before after : List Text} {items : List α}
    {lines : α → List Text} {shown : α → Text} (none_before : marked mark before = [])
    (one : ∀ x, marked mark (lines x) = [shown x]) (none_after : marked mark after = []) :
    marked mark (before ++ items.flatMap lines ++ after) = items.map shown := by
  unfold marked at *
  rw [List.filterMap_append, List.filterMap_append, none_before, none_after,
    List.filterMap_flatMap, List.nil_append, List.append_nil]
  simp only [one]
  exact List.map_eq_flatMap.symm

theorem encodings_eq (v : View) : v.encodings = v.members.map (·.encoding) :=
  marked_flatMap rfl (fun _ => rfl) rfl

theorem caseLabels_eq (v : View) : v.caseLabels = v.decodeCases.map Prod.fst := by
  have labels : marked (text "\tcase ") v.unmarshalMethod =
      v.decodeCases.map fun c => c.1 ++ text ":" := marked_flatMap rfl (fun _ => rfl) rfl
  rw [caseLabels, labels, List.map_map]
  exact List.map_congr_left fun c _ => List.dropLast_concat

theorem caseValues_eq (v : View) : v.caseValues = v.decodeCases.map Prod.snd :=
  marked_flatMap rfl (fun _ => rfl) rfl

end View

/-! ## Reading what was written -/

variable {v : View} {texts : List Text}

theorem View.Shows.caseLabels (h : v.Shows e texts) :
    v.caseLabels = (e.zeroKeys ++ texts.map decodeKey).map Literal.quote := by
  rw [caseLabels_eq, decodeCases, List.map_append, List.map_append, ← h.decodeKeys, List.map_map,
    zeroKeys, h.allowZero]
  cases e.allowZero <;> rfl

theorem View.Shows.caseValues (h : v.Shows e texts) :
    v.caseValues =
      (if e.allowZero then [e.zeroLiteral] else []) ++ e.instances.map (·.name) := by
  rw [caseValues_eq, decodeCases, List.map_append, List.map_map, ← h.names, h.allowZero, h.typeName]
  cases e.allowZero <;> rfl

/-- Where the keys of all cases differ, the case of a key is the one at its place. -/
theorem findIdx?_eq_some_iff {keys : List Text} (distinct : keys.Nodup) {key : Text} {n : Nat} :
    keys.findIdx? (· = key) = some n ↔ keys[n]? = some key := by
  rw [List.findIdx?_eq_some_iff_getElem, List.getElem?_eq_some_iff]
  refine exists_congr fun inside => ?_
  simp only [decide_eq_true_eq, and_iff_left_iff_imp]
  rintro same j before earlier
  exact absurd (distinct.getElem_inj_iff.1 (earlier.trans same.symm)) (Nat.ne_of_lt before)

theorem findIdx?_quote {keys : List Text} (scalar : ∀ k ∈ keys, Text.isScalar k = true)
    (key : Text) :
    (keys.map Literal.quote).findIdx? (fun label => Literal.unquote? label = some key) =
      keys.findIdx? (· = key) := by
  induction keys with
  | nil => rfl
  | cons k keys ih =>
    rw [List.map_cons, List.findIdx?_cons, List.findIdx?_cons,
      Literal.unquote?_quote_of_isScalar (scalar k List.mem_cons_self),
      ih fun k mem => scalar k (List.mem_cons_of_mem _ mem)]
    simp only [Option.some.injEq]

theorem map_unquote?_quote {keys : List Text} (scalar : ∀ k ∈ keys, Text.isScalar k = true) :
    (keys.map Literal.quote).map Literal.unquote? = keys.map some := by
  rw [List.map_map]
  exact List.map_congr_left fun k mem => Literal.unquote?_quote_of_isScalar (scalar k mem)

theorem isScalar_of_mapM {instances : List Instance}
    (read : instances.mapM e.text? = .ok texts)
    (scalar : ∀ i ∈ instances, ∀ t, e.text? i = .ok t → Text.isScalar t = true) :
    ∀ t ∈ texts, Text.isScalar t = true := by
  induction instances generalizing texts with
  | nil =>
    cases read
    exact fun t mem => nomatch mem
  | cons i rest ih =>
    rcases mapM_cons_eq_ok_iff.1 read with ⟨t, more, first, others, rfl⟩
    rintro u mem
    rcases List.mem_cons.1 mem with rfl | mem
    · exact scalar i List.mem_cons_self _ first
    · exact ih others (fun i mem => scalar i (List.mem_cons_of_mem _ mem)) u mem

theorem isScalar_keys (scalar : ∀ t ∈ texts, Text.isScalar t = true) :
    ∀ k ∈ e.zeroKeys ++ texts.map decodeKey, Text.isScalar k = true := by
  intro k mem
  rcases List.mem_append.1 mem with zero | key
  · unfold zeroKeys at zero
    split at zero
    · rw [List.mem_singleton.1 zero]
      rfl
    · cases zero
  · rcases List.mem_map.1 key with ⟨t, own, rfl⟩
    exact isScalar_decodeKey (scalar t own)

/-- The cases that a shown enumeration is read by, told by the places of the keys. -/
theorem View.Shows.decode_eq (h : v.Shows e texts)
    (scalar : ∀ k ∈ e.zeroKeys ++ texts.map decodeKey, Text.isScalar k = true) (t : Text) :
    v.decode t =
      match (e.zeroKeys ++ texts.map decodeKey).findIdx? (· = decodeKey t) with
      | none => .unsupported
      | some n =>
        if e.allowZero then (match n with | 0 => .zero | n + 1 => .member n) else .member n := by
  rw [View.decode, h.caseLabels, findIdx?_quote scalar, h.allowZero]

theorem View.Shows.decode_eq_member_iff (h : v.Shows e texts)
    (scalar : ∀ k ∈ e.zeroKeys ++ texts.map decodeKey, Text.isScalar k = true)
    (distinct : (e.zeroKeys ++ texts.map decodeKey).Nodup) (t : Text) (i : Nat) :
    v.decode t = .member i ↔
      (texts.map decodeKey)[i]? = some (decodeKey t) := by
  rw [h.decode_eq scalar]
  have place := @findIdx?_eq_some_iff _ distinct (decodeKey t)
  unfold zeroKeys at *
  cases zero : e.allowZero with
  | false =>
    simp only [zero, Bool.false_eq_true, if_false, List.nil_append] at place ⊢
    rw [← place]
    cases (texts.map decodeKey).findIdx? (· = decodeKey t) with
    | none => simp
    | some n => simp
  | true =>
    simp only [zero, if_true, List.singleton_append] at place ⊢
    rw [← List.getElem?_cons_succ (a := []), ← place]
    cases ([] :: texts.map decodeKey).findIdx? (· = decodeKey t) with
    | none => simp
    | some n => cases n <;> simp

theorem View.Shows.decode_eq_zero_iff (h : v.Shows e texts)
    (scalar : ∀ k ∈ e.zeroKeys ++ texts.map decodeKey, Text.isScalar k = true) (t : Text) :
    v.decode t = .zero ↔ e.allowZero = true ∧ decodeKey t = [] := by
  rw [h.decode_eq scalar, zeroKeys]
  cases e.allowZero with
  | false =>
    simp only [Bool.false_eq_true, if_false, List.nil_append, false_and, iff_false]
    split <;> simp
  | true =>
    simp only [if_true, List.singleton_append, List.findIdx?_cons, true_and]
    by_cases empty : decodeKey t = []
    · simp [empty]
    · have other : ¬ [] = decodeKey t := fun same => empty same.symm
      simp only [other, decide_false, Bool.false_eq_true, if_false, empty, iff_false]
      cases (texts.map decodeKey).findIdx? (· = decodeKey t) <;> simp

theorem View.Shows.decode_eq_unsupported_iff (h : v.Shows e texts)
    (scalar : ∀ k ∈ e.zeroKeys ++ texts.map decodeKey, Text.isScalar k = true) (t : Text) :
    v.decode t = .unsupported ↔
      decodeKey t ∉ e.zeroKeys ++ texts.map decodeKey := by
  rw [h.decode_eq scalar]
  cases place : (e.zeroKeys ++ texts.map decodeKey).findIdx?
      (· = decodeKey t) with
  | none =>
    rw [List.findIdx?_eq_none_iff] at place
    simp only [true_iff]
    exact fun mem => absurd (place _ mem) (by simp)
  | some n =>
    rcases List.findIdx?_eq_some_iff_getElem.1 place with ⟨inside, same, _⟩
    have mem := List.getElem_mem inside
    rw [of_decide_eq_true same] at mem
    simp only [mem, not_true_eq_false, iff_false]
    cases e.allowZero <;> cases n <;> simp

/-- The generated methods of an accepted enumeration are inverse to each other. Their cases have
different labels, which denote the keys in order; the literals returned for the instances denote
their texts; and a text is read as the instance that has its key, as the zero value if that owns the
key, and is refused otherwise. -/
theorem decode_texts (accepted : e.check = .ok ())
    (scalar : ∀ i ∈ e.instances, ∀ t, e.text? i = .ok t → Text.isScalar t = true) :
    ∃ v texts, e.view? = .ok v ∧ e.instances.mapM e.text? = .ok texts ∧
      v.caseLabels.Nodup ∧
      v.caseLabels.map Literal.unquote? =
        (e.zeroKeys ++ texts.map decodeKey).map some ∧
      (e.zeroKeys ++ texts.map decodeKey).Nodup ∧
      v.caseValues =
        (if e.allowZero then [e.zeroLiteral] else []) ++ e.instances.map (·.name) ∧
      v.encodings.map Literal.unquote? = texts.map some ∧
      (∀ i t, texts[i]? = some t → v.decode t = .member i) ∧
      ∀ t,
        (∀ i, v.decode t = .member i ↔
          (texts.map decodeKey)[i]? = some (decodeKey t)) ∧
        (v.decode t = .zero ↔ e.allowZero = true ∧ decodeKey t = []) ∧
        (v.decode t = .unsupported ↔
          decodeKey t ∉ e.zeroKeys ++ texts.map decodeKey) := by
  rcases check_eq_ok_iff.1 accepted with ⟨texts, read, distinct⟩
  rcases exists_view read with ⟨v, view, shows⟩
  have scalarTexts := isScalar_of_mapM read scalar
  have scalarKeys : ∀ k ∈ e.zeroKeys ++ texts.map decodeKey, Text.isScalar k = true :=
    isScalar_keys scalarTexts
  have labels := map_unquote?_quote scalarKeys
  rw [← shows.caseLabels] at labels
  have apart : v.caseLabels.Nodup := by
    refine List.Nodup.of_map Literal.unquote? ?_
    rw [labels]
    exact distinct.map fun _ _ => Option.some.inj
  have encodings : v.encodings.map Literal.unquote? = texts.map some := by
    rw [View.encodings_eq, shows.encodings, map_unquote?_quote scalarTexts]
  refine ⟨v, texts, view, read, apart, labels, distinct, shows.caseValues, encodings, ?_, fun t =>
    ⟨shows.decode_eq_member_iff scalarKeys distinct t, shows.decode_eq_zero_iff scalarKeys t,
      shows.decode_eq_unsupported_iff scalarKeys t⟩⟩
  intro i t own
  rw [shows.decode_eq_member_iff scalarKeys distinct, List.getElem?_map, own]
  rfl

/-- Two instances with a field for their texts, one of which has quotes and a line break. -/
def greetings : Enumeration where
  typeName := text "Greeting"
  instances := [
    ⟨text "Loud", [(text "Label", text "\"Say \\\"HI\\\"\\n\"")], .directive⟩,
    ⟨text "Plain", [(text "Label", text "Été")], .directive⟩]
  casing := .snake
  generateVars := true
  marshalField := some (text "Label")
  allowZero := true
  fields := [⟨text "Label", text "string"⟩]

theorem decode_texts_greetings :
    greetings.check = .ok () ∧
    (∀ i ∈ greetings.instances, ∀ t, greetings.text? i = .ok t → Text.isScalar t = true) ∧
    ∃ v, greetings.view? = .ok v ∧ v.encodings.map Literal.unquote? =
        [some (text "Say \"HI\"\n"), some (text "Été")] ∧
      v.decode (text "say hi\n") = .member 0 ∧ v.decode (text "ÉTÉ") = .member 1 ∧
      v.decode (text "\"\"") = .zero ∧ v.decode (text "loud") = .unsupported := by
  have accepted : greetings.check = .ok () := by decide +kernel
  have scalar : ∀ i ∈ greetings.instances, ∀ t, greetings.text? i = .ok t →
      Text.isScalar t = true := by
    intro i mem t read
    simp only [greetings, List.mem_cons, List.not_mem_nil, or_false] at mem
    rcases mem with rfl | rfl <;> cases read <;> decide
  rcases decode_texts accepted scalar with ⟨v, texts, view, read, -, -, -, -, encodings, -, others⟩
  have same : texts = [text "Say \"HI\"\n", text "Été"] := by
    refine Except.ok.inj (read.symm.trans ?_)
    decide +kernel
  subst same
  refine ⟨accepted, scalar, v, view, encodings, ?_, ?_, ?_, ?_⟩
  · exact ((others _).1 0).2 (by decide +kernel)
  · exact ((others _).1 1).2 (by decide +kernel)
  · exact (others _).2.1.2 (by decide +kernel)
  · exact (others _).2.2.2 (by decide +kernel)

end Enumeration

end EnumText
