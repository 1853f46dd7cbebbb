import EnumText.Proofs.Enumeration.Reading
import EnumText.Text.Lines

/-!
# The generated code survives in a file

When a file is read, each carriage return becomes a line feed. Neither stands in a line of the
generated code, unless a value has one: names have only letters, digits and underscores, and in
literals both are escaped. So the code is read from a file as it was written, and its lines are
found again between its line feeds.

* `Text.OneLine`: a text without line ends.
* `isExpression_unifyNewlines_iff`: a value that is an expression in a file.
* `oneLine_codeLines`: the lines of generated code.
* `unifyNewlines_codeFile`, `splitOn_codeFile`: the code in a file.
-/

namespace EnumText

namespace Text

/-- No line ends in a text when it is read from a file. -/
def OneLine (t : Text) : Prop := .scalar '\r' ∉ t ∧ .scalar '\n' ∉ t

instance (t : Text) : Decidable t.OneLine := inferInstanceAs (Decidable (_ ∧ _))

theorem oneLine_append {a b : Text} : (a ++ b).OneLine ↔ a.OneLine ∧ b.OneLine := by
  simp only [OneLine, List.mem_append, not_or]
  exact and_and_and_comm

theorem unifyNewlines_of_not_mem {t : Text} (h : .scalar '\r' ∉ t) : t.unifyNewlines = t := by
  induction t with
  | nil => rfl
  | cons c t ih =>
    rw [List.mem_cons, not_or] at h
    rw [unifyNewlines, if_neg (Ne.symm h.1), ih h.2]
    rintro rest rfl -
    exact h.1 rfl

theorem newline_mem_unifyNewlines {t : Text} (h : .scalar '\r' ∈ t) :
    .scalar '\n' ∈ t.unifyNewlines := by
  induction t using unifyNewlines.induct with
  | case1 => cases h
  | case2 rest ih => exact List.mem_cons_self
  | case3 c rest single ih =>
    rw [unifyNewlines.eq_3 _ _ single]
    rcases List.mem_cons.1 h with rfl | below
    · exact List.mem_cons_self
    · exact List.mem_cons_of_mem _ (ih below)

/-- A text is an expression in a file if it is one and has no carriage return, which would end its
line. -/
theorem isExpression_unifyNewlines_iff {v : Text} :
    v.unifyNewlines.IsExpression ↔ v.IsExpression ∧ .scalar '\r' ∉ v := by
  constructor
  · intro expression
    have flat : .scalar '\r' ∉ v := fun mem =>
      (isExpression_iff.1 expression).1 (newline_mem_unifyNewlines mem)
    exact ⟨unifyNewlines_of_not_mem flat ▸ expression, flat⟩
  · rintro ⟨expression, flat⟩
    rwa [unifyNewlines_of_not_mem flat]

/-! ## Names and literals -/

theorem oneLine_of_isName {t : Text} (h : t.isName = true) : t.OneLine :=
  ⟨not_mem_of_isIdentifier (isName_iff.1 h).1 (by decide),
    not_mem_of_isIdentifier (isName_iff.1 h).1 (by decide)⟩

theorem oneLine_padRight {t : Text} (h : t.OneLine) (width : Nat) : (t.padRight width).OneLine :=
  oneLine_append.2 ⟨h, by simp [OneLine, spaces]⟩

end Text

/-- Line ends are escaped. -/
theorem Literal.Escape.oneLine {c : Rune} {written : Text} (form : Escape c written) :
    written.OneLine := by
  have digits (width n : Nat) : (Text.hex width n).OneLine := by
    have all : ∀ d < 16, Rune.scalar '\r' ≠ .scalar d.digitChar ∧
        Rune.scalar '\n' ≠ .scalar d.digitChar := by decide
    constructor <;> intro mem <;>
      obtain ⟨d, small, same⟩ := Text.exists_digitChar_of_mem_hex mem
    · exact (all d small).1 same
    · exact (all d small).2 same
  cases form with
  | plain printable =>
    constructor <;> intro mem <;> cases List.mem_singleton.1 mem <;>
      exact absurd printable (by decide)
  | letter read =>
    constructor <;> intro mem <;> rcases List.mem_cons.1 mem with same | mem
    · cases same
    · cases List.mem_singleton.1 mem
      cases read
    · cases same
    · cases List.mem_singleton.1 mem
      cases read
  | quote => decide
  | byte | four | eight => simpa [Text.OneLine] using digits _ _

theorem Literal.oneLine_quote (t : Text) : (quote t).OneLine := by
  have escaped : Text.OneLine (t.flatMap escape) := by
    simp only [Text.OneLine, List.mem_flatMap, not_exists, not_and]
    exact ⟨fun c _ => (escape_isEscape c).oneLine.1, fun c _ => (escape_isEscape c).oneLine.2⟩
  have whole : quote t = [.scalar '"'] ++ t.flatMap escape ++ [.scalar '"'] := rfl
  rw [whole, Text.oneLine_append, Text.oneLine_append]
  exact ⟨⟨by decide, escaped⟩, by decide⟩

/-! ## Code -/

theorem not_mem_intercalate {separator : Text} {parts : List Text} {c : Rune}
    (apart : c ∉ separator) (h : ∀ part ∈ parts, c ∉ part) :
    c ∉ List.intercalate separator parts := by
  induction parts with
  | nil => exact List.not_mem_nil
  | cons part rest ih =>
    rcases List.forall_mem_cons.1 h with ⟨first, others⟩
    cases rest with
    | nil => simpa using first
    | cons next rest =>
      rw [List.intercalate_cons_cons, List.mem_append, List.mem_append, not_or, not_or]
      exact ⟨⟨first, apart⟩, ih others⟩

open Listing (elementsText)

namespace Enumeration

namespace View

variable {v : View} (typeName : v.typeName.OneLine)
  (members : ∀ m ∈ v.members, m.name.OneLine ∧ m.encoding.OneLine ∧ m.decodeKey.OneLine)

theorem oneLine_varBlock
    (vars : ∀ m ∈ v.members, m.paddedName.OneLine ∧ m.initializer.OneLine) :
    ∀ line ∈ v.varBlock, line.OneLine := by
  simp only [varBlock, List.forall_mem_append, List.forall_mem_map, Text.oneLine_append]
  exact ⟨⟨by decide, fun m mem => ⟨⟨⟨by decide, (vars m mem).1⟩, by decide⟩, (vars m mem).2⟩⟩,
    by decide⟩

include typeName members

theorem oneLine_methods :
    ∀ line ∈ v.stringMethod ++ v.marshalMethod ++ v.unmarshalMethod, line.OneLine := by
  have zero : ∀ p ∈ (if v.allowZero then [(text "\"\"", v.typeName ++ text "\x7b\x7d")] else []),
      p.1.OneLine ∧ p.2.OneLine := by
    split
    · have empty : (text "\"\"").OneLine := by decide
      exact List.forall_mem_singleton.2 ⟨empty, Text.oneLine_append.2 ⟨typeName, by decide⟩⟩
    · exact List.forall_mem_nil _
  have decoded : ∀ p ∈ v.decodeCases, p.1.OneLine ∧ p.2.OneLine := by
    refine List.forall_mem_append.2 ⟨zero, List.forall_mem_map.2 fun m mem => ?_⟩
    exact ⟨(members m mem).2.2, (members m mem).1⟩
  simp only [stringMethod, marshalMethod, unmarshalMethod, List.forall_mem_append,
    List.forall_mem_flatMap]
  refine ⟨⟨⟨⟨?_, fun m mem => ?_⟩, ?_⟩, ?_⟩, ⟨?_, fun p mem => ?_⟩, ?_⟩
  · simp [Text.OneLine, text, typeName.1, typeName.2]
  · obtain ⟨name, encoding, -⟩ := members m mem
    simp [Text.OneLine, text, name.1, name.2, encoding.1, encoding.2]
  · decide
  · simp [Text.OneLine, text, typeName.1, typeName.2]
  · simp [Text.OneLine, text, typeName.1, typeName.2]
  · obtain ⟨key, value⟩ := decoded p mem
    simp [Text.OneLine, text, key.1, key.2, value.1, value.2]
  · simp [Text.OneLine, text, typeName.1, typeName.2]

theorem oneLine_lines (vars : v.generateVars = true →
    ∀ m ∈ v.members, m.paddedName.OneLine ∧ m.initializer.OneLine) :
    ∀ line ∈ v.lines, line.OneLine := by
  have methods := oneLine_methods typeName members
  rw [List.append_assoc] at methods
  rw [lines, List.append_assoc, List.append_assoc]
  refine List.forall_mem_append.2 ⟨?_, methods⟩
  split
  · next generated => exact oneLine_varBlock (vars generated)
  · exact List.forall_mem_nil _

end View

variable {e : Enumeration} {v : View} {texts : List Text}

/-- None of the values that are written in the variables of an enumeration has a carriage return. -/
def Flat (e : Enumeration) : Prop :=
  e.generateVars = true → ∀ i ∈ e.instances, ∀ f ∈ e.fields, ∀ value ∈ i.fields.get? f.name,
    .scalar '\r' ∉ value

theorem Writable.oneLine_elementsText (h : e.Writable) (flat : e.Flat) {i : Instance}
    (generated : e.generateVars = true) (mem : i ∈ e.instances) :
    (elementsText (i.valuesOf e.fields)).OneLine := by
  have values : ∀ p ∈ i.valuesOf e.fields, (p.1 ++ text ": " ++ p.2).OneLine := by
    intro p set
    obtain ⟨name, expression⟩ := h.elements mem p set
    obtain ⟨f, declared, found⟩ := List.mem_filterMap.1 set
    obtain ⟨value, own, rfl⟩ := Option.map_eq_some_iff.1 found
    exact Text.oneLine_append.2 ⟨Text.oneLine_append.2 ⟨Text.oneLine_of_isName name, by decide⟩,
      flat generated i mem f declared value own, (Text.isExpression_iff.1 expression).1⟩
  constructor <;> refine not_mem_intercalate (by decide) (List.forall_mem_map.2 fun p set => ?_)
  · exact (values p set).1
  · exact (values p set).2

theorem Readable.oneLine_lines (h : e.Readable) (flat : e.Flat) (shows : v.Shows e texts) :
    ∀ line ∈ v.lines, line.OneLine := by
  have plain := h.plain shows
  refine View.oneLine_lines (Text.oneLine_of_isName plain.typeName) (fun m mem => ?_)
    fun generated m mem => ⟨?_, ?_⟩
  · obtain ⟨t, encoding⟩ := plain.encodings m mem
    obtain ⟨key, decodeKey⟩ := plain.decodeKeys m mem
    rw [encoding, decodeKey]
    exact ⟨Text.oneLine_of_isName (plain.names m mem), Literal.oneLine_quote _,
      Literal.oneLine_quote _⟩
  · have padded : m.paddedName ∈ e.instances.map (·.name.padRight e.nameWidth) :=
      shows.paddedNames ▸ List.mem_map_of_mem mem
    obtain ⟨i, inside, same⟩ := List.mem_map.1 padded
    rw [← same]
    exact Text.oneLine_padRight (Text.oneLine_of_isName (h.names i inside)) _
  · rw [shows.generateVars] at generated
    have shown : m.initializer ∈ v.members.map (·.initializer) := List.mem_map_of_mem mem
    rw [shows.initializers] at shown
    obtain ⟨i, inside, same⟩ := List.mem_map.1 shown
    rw [← same, i.initializer_eq]
    have values := (h.writable generated).oneLine_elementsText flat generated inside
    simp only [Text.oneLine_append]
    exact ⟨⟨⟨Text.oneLine_of_isName h.typeName, by decide⟩, values⟩, by decide⟩

end Enumeration

section Files

variable {package code : Text} {enumerations : List Enumeration}

theorem codeFile?_eq_ok_iff : codeFile? package enumerations = .ok code ↔
    ∃ views, enumerations.mapM Enumeration.view? = .ok views ∧
      code = unlines (headerLines package ++ views.flatMap Enumeration.View.lines) := by
  refine bind_eq_ok_iff.trans (exists_congr fun views => and_congr_right fun _ => ?_)
  rw [unlines_append, unlines_flatMap]
  exact ⟨fun same => (Except.ok.inj same).symm, fun same => congrArg _ same.symm⟩

variable (name : package.isName = true) (readable : ∀ e ∈ enumerations, e.Readable)
  (flat : ∀ e ∈ enumerations, e.Flat)

include name readable flat

/-- No line end stands in a line of the generated file. -/
theorem oneLine_codeLines {views : List Enumeration.View}
    (shown : enumerations.mapM Enumeration.view? = .ok views) :
    ∀ line ∈ headerLines package ++ views.flatMap Enumeration.View.lines, line.OneLine := by
  refine List.forall_mem_append.2 ⟨?_, List.forall_mem_flatMap.2 fun v mem => ?_⟩
  · have own := Text.oneLine_of_isName name
    simp [headerLines, Text.OneLine, text, own.1, own.2]
  · obtain ⟨e, known, view⟩ := exists_of_mem_mapM shown v mem
    obtain ⟨texts, read⟩ := exists_mapM_eq_ok (readable e known).texts
    obtain ⟨_, view', shows⟩ := Enumeration.exists_view read
    cases view.symm.trans view'
    exact (readable e known).oneLine_lines (flat e known) shows

theorem unifyNewlines_codeFile (written : codeFile? package enumerations = .ok code) :
    code.unifyNewlines = code := by
  obtain ⟨views, shown, rfl⟩ := codeFile?_eq_ok_iff.1 written
  refine Text.unifyNewlines_of_not_mem ?_
  rw [unlines, List.mem_flatMap]
  rintro ⟨line, mem, inside⟩
  rcases List.mem_append.1 inside with own | newline
  · exact (oneLine_codeLines name readable flat shown line mem).1 own
  · exact absurd newline (by decide)

/-- The lines of the generated file stand between its line feeds, and nothing behind the last. -/
theorem splitOn_codeFile {views : List Enumeration.View}
    (shown : enumerations.mapM Enumeration.view? = .ok views)
    (written : codeFile? package enumerations = .ok code) :
    code.splitOn '\n' =
      headerLines package ++ views.flatMap Enumeration.View.lines ++ [[]] := by
  obtain ⟨views', shown', rfl⟩ := codeFile?_eq_ok_iff.1 written
  cases shown.symm.trans shown'
  exact splitOn_unlines fun line mem => (oneLine_codeLines name readable flat shown line mem).2

end Files

end EnumText
