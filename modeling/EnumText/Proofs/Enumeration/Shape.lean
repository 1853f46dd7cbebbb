import EnumText.Proofs.Enumeration.Decoding
import EnumText.Proofs.Enumeration.Methods
import EnumText.Proofs.Listing.Alike

/-!
# The texts of instances do not change the shape of a file

Where the text of an instance stands in a generated file, it is quoted, so nothing of it is read as
code. Files for enumerations of the same names fall into the same tokens, but for the quoted texts.

* `alike_unlines`: texts are alike if their lines are.
* `lineAlike_word`, `lineAlike_quoted`: lines with a name or with a quoted text in them.
* `View.Alike.code`: the code of two enumerations that show the same names.
* `Listing.ofText?_codeFile?_alike`: the listings of two generated files.
-/

namespace EnumText

open List (Forall₂)
open Lexeme (split Apart Closed)

/-! ## Lines -/

/-- Lines that are alike, with the line breaks after them. -/
def LineAlike (a b : Text) : Prop := Text.Alike (a ++ text "\n") (b ++ text "\n")

variable {more more' : Text}

theorem alike_unlines {lines lines' : List Text} (each : Forall₂ LineAlike lines lines')
    (rest : more.Alike more') : Text.Alike (unlines lines ++ more) (unlines lines' ++ more') := by
  induction each with
  | nil => exact rest
  | cons first _ ih =>
    rw [unlines_cons, unlines_cons, ← List.append_assoc, ← List.append_assoc, List.append_assoc,
      List.append_assoc _ _ more']
    exact first.append List.getLast?_concat List.getLast?_concat ih

section Lines

variable {line before word after body body' : Text}

/-- A line that is always the same. -/
theorem lineAlike_line (cut : (split (line ++ text "\n")).2 = none) : LineAlike line line :=
  Text.alike_self cut

theorem alike_lines {lines : List Text}
    (cut : ∀ line ∈ lines, (split (line ++ text "\n")).2 = none) :
    Forall₂ LineAlike lines lines :=
  List.forall₂_same.2 fun line mem => lineAlike_line (cut line mem)

theorem lineAlike_word (closed : Closed before) (identifier : word.isIdentifier = true)
    (next : Apart (after ++ text "\n")) (last : (split (after ++ text "\n")).2 = none) :
    LineAlike (before ++ word ++ after) (before ++ word ++ after) := by
  have soft := Lexeme.soft_of_isIdentifier (a := before) identifier (after ++ text "\n")
  have whole : before ++ word ++ after ++ text "\n" = before ++ (word ++ (after ++ text "\n")) := by
    simp only [List.append_assoc]
  rw [LineAlike, whole]
  exact Text.Alike.closed closed soft soft (.word identifier next next (Text.alike_self last))

theorem lineAlike_guarded (closed : Closed before) (guarded : Literal.Guarded body)
    (guarded' : Literal.Guarded body') (last : (split (after ++ text "\n")).2 = none) :
    LineAlike (before ++ (.scalar '"' :: (body ++ [.scalar '"'])) ++ after)
      (before ++ (.scalar '"' :: (body' ++ [.scalar '"'])) ++ after) := by
  have soft (t : Text) : Lexeme.Soft before (.scalar '"' :: t) := by
    have quote : Apart [.scalar '"'] := by decide +kernel
    exact (Lexeme.apart_append ⟨List.cons_ne_nil _ _, quote⟩ t).soft
  have whole (body : Text) : before ++ (.scalar '"' :: (body ++ [.scalar '"'])) ++ after ++
      text "\n" = before ++ (.scalar '"' :: (body ++ [.scalar '"']) ++ (after ++ text "\n")) := by
    simp only [List.append_assoc]
  rw [LineAlike, whole, whole]
  exact Text.Alike.closed closed (soft _) (soft _)
    (.quoted guarded guarded' (Text.alike_self last))

theorem lineAlike_quoted (closed : Closed before) (t t' : Text)
    (last : (split (after ++ text "\n")).2 = none) :
    LineAlike (before ++ Literal.quote t ++ after) (before ++ Literal.quote t' ++ after) :=
  lineAlike_guarded closed (Literal.guarded_flatMap_escape t) (Literal.guarded_flatMap_escape t')
    last

end Lines

/-! ## Methods -/

namespace Enumeration

/-- What the code shows of two instances of one name. -/
structure Member.Alike (m n : Member) : Prop where
  name : m.name = n.name
  identifier : m.name.isIdentifier = true
  encodings : ∃ t u, m.encoding = Literal.quote t ∧ n.encoding = Literal.quote u
  decodeKeys : ∃ t u, m.decodeKey = Literal.quote t ∧ n.decodeKey = Literal.quote u

namespace View

/-- What the code shows of two enumerations of the same names, where no variables are declared. -/
structure Alike (v w : View) : Prop where
  typeName : v.typeName = w.typeName
  identifier : v.typeName.isIdentifier = true
  allowZero : v.allowZero = w.allowZero
  generateVars : v.generateVars = false
  generateVars' : w.generateVars = false
  members : Forall₂ Member.Alike v.members w.members

theorem alike_method {docBefore docAfter receiver signature typeName : Text}
    {body body' : List Text} (inline : .scalar '\n' ∉ docBefore ∧ .scalar '\n' ∉ docAfter)
    (head : Closed receiver) (identifier : typeName.isIdentifier = true)
    (next : Apart (signature ++ text "\n")) (last : (split (signature ++ text "\n")).2 = none)
    (inside : Forall₂ LineAlike body body') :
    Forall₂ LineAlike (methodLines docBefore docAfter receiver signature typeName body)
      (methodLines docBefore docAfter receiver signature typeName body') := by
  have doc : .scalar '\n' ∉ docBefore ++ typeName ++ docAfter := by
    have word : .scalar '\n' ∉ typeName :=
      Text.not_mem_of_isIdentifier identifier (by decide +kernel)
    simp [inline, word]
  have blank : LineAlike [] [] := lineAlike_line (by decide +kernel)
  have closing : LineAlike (text "\x7d") (text "\x7d") := lineAlike_line (by decide +kernel)
  exact .cons blank <| .cons (Text.alike_comment doc) <|
    .cons (lineAlike_word head identifier next last) <|
    List.rel_append inside (.cons closing .nil)

variable {v w : View}

theorem Alike.stringMethod (h : v.Alike w) : Forall₂ LineAlike v.stringMethod w.stringMethod := by
  have cases : Forall₂ LineAlike
      (v.members.flatMap fun m =>
        [text "\tcase " ++ m.name ++ text ":", text "\t\treturn " ++ m.encoding])
      (w.members.flatMap fun m =>
        [text "\tcase " ++ m.name ++ text ":", text "\t\treturn " ++ m.encoding]) := by
    apply List.rel_flatMap h.members
    intro m n alike
    obtain ⟨t, u, encoding, encoding'⟩ := alike.encodings
    have label : LineAlike (text "\tcase " ++ m.name ++ text ":")
        (text "\tcase " ++ m.name ++ text ":") :=
      lineAlike_word (by decide +kernel) alike.identifier (by decide +kernel) (by decide +kernel)
    have value : LineAlike (text "\t\treturn " ++ Literal.quote t ++ [])
        (text "\t\treturn " ++ Literal.quote u ++ []) :=
      lineAlike_quoted (by decide +kernel) t u (by decide +kernel)
    rw [List.append_nil, List.append_nil] at value
    dsimp only
    rw [← alike.name, encoding, encoding']
    exact .cons label (.cons value .nil)
  rw [stringMethod_eq, stringMethod_eq, ← h.typeName]
  apply alike_method (by decide +kernel) (by decide +kernel) h.identifier (by decide +kernel)
    (by decide +kernel)
  exact .cons (lineAlike_line (by decide +kernel)) <|
    List.rel_append cases (alike_lines (by decide +kernel))

theorem Alike.marshalMethod (h : v.Alike w) :
    Forall₂ LineAlike v.marshalMethod w.marshalMethod := by
  rw [marshalMethod_eq, marshalMethod_eq, ← h.typeName]
  exact alike_method (by decide +kernel) (by decide +kernel) h.identifier (by decide +kernel)
    (by decide +kernel) (alike_lines (by decide +kernel))

/-- The lines of a case of the method that reads an instance. -/
def decodeLines (c : Text × Text) : List Text :=
  [text "\tcase " ++ c.1 ++ text ":", text "\t\t*t = " ++ c.2]

theorem Alike.decodeCases (h : v.Alike w) :
    Forall₂ (fun c d => Forall₂ LineAlike (decodeLines c) (decodeLines d)) v.decodeCases
      w.decodeCases := by
  have label (t u : Text) : LineAlike (text "\tcase " ++ Literal.quote t ++ text ":")
      (text "\tcase " ++ Literal.quote u ++ text ":") :=
    lineAlike_quoted (by decide +kernel) t u (by decide +kernel)
  have zero : LineAlike (text "\t\t*t = " ++ v.typeName ++ text "\x7b\x7d")
      (text "\t\t*t = " ++ v.typeName ++ text "\x7b\x7d") :=
    lineAlike_word (by decide +kernel) h.identifier (by decide +kernel) (by decide +kernel)
  rw [List.append_assoc] at zero
  -- the case of the zero value stands in both methods or in neither
  rw [View.decodeCases, View.decodeCases, ← h.allowZero, ← h.typeName]
  refine List.rel_append ?_ (List.rel_map ?_ h.members)
  · split
    · exact .cons (.cons (label [] []) (.cons zero .nil)) .nil
    · exact .nil
  · intro m n alike
    obtain ⟨t, u, key, key'⟩ := alike.decodeKeys
    have value : LineAlike (text "\t\t*t = " ++ m.name ++ []) (text "\t\t*t = " ++ m.name ++ []) :=
      lineAlike_word (by decide +kernel) alike.identifier (by decide +kernel) (by decide +kernel)
    rw [List.append_nil] at value
    dsimp only
    rw [key, key', ← alike.name]
    exact .cons (label t u) (.cons value .nil)

theorem Alike.unmarshalMethod (h : v.Alike w) :
    Forall₂ LineAlike v.unmarshalMethod w.unmarshalMethod := by
  have cases : Forall₂ LineAlike (v.decodeCases.flatMap decodeLines)
      (w.decodeCases.flatMap decodeLines) := List.rel_flatMap h.decodeCases fun _ _ same => same
  have refusal : LineAlike
      (text "\t\treturn fmt.Errorf(\"unsupported " ++ v.typeName ++ text " value: %q\", text)")
      (text "\t\treturn fmt.Errorf(\"unsupported " ++ v.typeName ++ text " value: %q\", text)") := by
    have guarded := guarded_unsupported h.identifier
    rw [unsupported_eq]
    exact lineAlike_guarded (by decide +kernel) guarded guarded (by decide +kernel)
  have body : Forall₂ LineAlike v.unmarshalBody w.unmarshalBody := by
    rw [unmarshalBody, unmarshalBody, ← h.typeName]
    exact List.rel_append (List.rel_append (alike_lines (by decide +kernel)) cases) <|
      .cons (lineAlike_line (by decide +kernel)) <| .cons refusal <|
        alike_lines (by decide +kernel)
  rw [unmarshalMethod_eq, unmarshalMethod_eq, ← h.typeName]
  exact alike_method (by decide +kernel) (by decide +kernel) h.identifier (by decide +kernel)
    (by decide +kernel) body

theorem Alike.code (h : v.Alike w) (rest : more.Alike more') :
    Text.Alike (v.code ++ more) (w.code ++ more') := by
  rw [View.code, View.code, View.lines, View.lines, h.generateVars, h.generateVars']
  apply alike_unlines _ rest
  exact List.rel_append (List.rel_append h.stringMethod h.marshalMethod) h.unmarshalMethod

theorem alike_flatMap_code {views views' : List View} (each : Forall₂ Alike views views') :
    Text.Alike (views.flatMap code) (views'.flatMap code) := by
  induction each with
  | nil => exact Text.alike_self rfl
  | cons first _ ih =>
    rw [List.flatMap_cons, List.flatMap_cons]
    exact first.code ih

end View

/-! ## Files -/

/-- Enumerations with the same names in the same order, which read the empty text both or
neither. -/
structure Agrees (e f : Enumeration) : Prop where
  typeName : e.typeName = f.typeName
  names : e.instances.map (·.name) = f.instances.map (·.name)
  allowZero : e.allowZero = f.allowZero

/-- An enumeration whose names are words and whose instances have texts, and which declares no
variables. -/
structure MethodsOnly (e : Enumeration) : Prop where
  typeName : e.typeName.isIdentifier = true
  names : ∀ i ∈ e.instances, i.name.isIdentifier = true
  texts : ∀ i ∈ e.instances, ∃ t, e.text? i = .ok t
  generateVars : e.generateVars = false

/-- Members under the same names in order. -/
theorem forall₂_of_names {R : Member → Member → Prop} {members members' : List Member}
    (names : members.map (·.name) = members'.map (·.name))
    (each : ∀ m ∈ members, ∀ n ∈ members', m.name = n.name → R m n) :
    Forall₂ R members members' := by
  induction members generalizing members' with
  | nil =>
    obtain rfl := List.map_eq_nil_iff.1 names.symm
    exact .nil
  | cons m members ih =>
    obtain ⟨n, others, rfl, name, rest⟩ := List.map_eq_cons_iff.1 names.symm
    have first := each m List.mem_cons_self n List.mem_cons_self name.symm
    refine .cons first (ih rest.symm fun m mem n mem' => ?_)
    exact each m (List.mem_cons_of_mem _ mem) n (List.mem_cons_of_mem _ mem')

theorem exists_views {e f : Enumeration} (plain : e.MethodsOnly) (plain' : f.MethodsOnly)
    (agrees : e.Agrees f) : ∃ v w, e.view? = .ok v ∧ f.view? = .ok w ∧ v.Alike w := by
  obtain ⟨texts, read⟩ := exists_mapM_eq_ok plain.texts
  obtain ⟨texts', read'⟩ := exists_mapM_eq_ok plain'.texts
  obtain ⟨v, view, shows⟩ := exists_view read
  obtain ⟨w, view', shows'⟩ := exists_view read'
  have names : v.members.map (·.name) = w.members.map (·.name) := by
    rw [shows.names, shows'.names, agrees.names]
  have members : Forall₂ Member.Alike v.members w.members := by
    apply forall₂_of_names names
    intro m mem n mem' same
    obtain ⟨t, encoding⟩ := shows.exists_encoding mem
    obtain ⟨u, encoding'⟩ := shows'.exists_encoding mem'
    obtain ⟨k, key⟩ := shows.exists_decodeKey mem
    obtain ⟨k', key'⟩ := shows'.exists_decodeKey mem'
    obtain ⟨i, inside, name⟩ := shows.exists_instance mem
    refine ⟨same, ?_, ⟨t, u, encoding, encoding'⟩, ⟨k, k', key, key'⟩⟩
    rw [name]
    exact plain.names i inside
  refine ⟨v, w, view, view', ?_, ?_, ?_, ?_, ?_, members⟩
  · rw [shows.typeName, shows'.typeName, agrees.typeName]
  · rw [shows.typeName]
    exact plain.typeName
  · rw [shows.allowZero, shows'.allowZero, agrees.allowZero]
  · rw [shows.generateVars, plain.generateVars]
  · rw [shows'.generateVars, plain'.generateVars]

theorem exists_mapM_view? {es fs : List Enumeration} (plain : ∀ e ∈ es, e.MethodsOnly)
    (plain' : ∀ f ∈ fs, f.MethodsOnly) (agree : Forall₂ Agrees es fs) :
    ∃ views views', es.mapM view? = .ok views ∧ fs.mapM view? = .ok views' ∧
      Forall₂ View.Alike views views' := by
  induction agree with
  | nil => exact ⟨[], [], rfl, rfl, .nil⟩
  | cons first _ ih =>
    rcases List.forall_mem_cons.1 plain with ⟨own, others⟩
    rcases List.forall_mem_cons.1 plain' with ⟨own', others'⟩
    obtain ⟨v, w, view, view', alike⟩ := exists_views own own' first
    obtain ⟨views, views', shown, shown', rest⟩ := ih others others'
    exact ⟨v :: views, w :: views', mapM_cons_eq_ok_iff.2 ⟨v, views, view, shown, rfl⟩,
      mapM_cons_eq_ok_iff.2 ⟨w, views', view', shown', rfl⟩, .cons alike rest⟩

end Enumeration

theorem alike_codeHeader {package : Text} (clause : package.isIdentifier = true)
    (rest : more.Alike more') :
    Text.Alike (codeHeader package ++ more) (codeHeader package ++ more') := by
  have name : LineAlike (text "package " ++ package ++ []) (text "package " ++ package ++ []) :=
    lineAlike_word (by decide +kernel) clause (by decide +kernel) (by decide +kernel)
  rw [List.append_nil] at name
  apply alike_unlines _ rest
  exact .cons (lineAlike_line (by decide +kernel)) <| .cons (lineAlike_line (by decide +kernel)) <|
    .cons name <| alike_lines (by decide +kernel)

/-- Files for enumerations of the same names, which declare no variables: both can be listed, with
the same comments, and their tokens are one by one of the same kinds and on the same lines. Only
quoted texts are spelled differently. What the fields of instances hold, which of them is the text,
and in which casing names are written, does not count. -/
theorem Listing.ofText?_codeFile?_alike {package : Text} {es fs : List Enumeration}
    (clause : package.isIdentifier = true) (plain : ∀ e ∈ es, e.MethodsOnly)
    (plain' : ∀ f ∈ fs, f.MethodsOnly) (agree : Forall₂ Enumeration.Agrees es fs) :
    ∃ code code' l l', codeFile? package es = .ok code ∧ codeFile? package fs = .ok code' ∧
      Listing.ofText? code = .ok l ∧ Listing.ofText? code' = .ok l' ∧ l.comments = l'.comments ∧
      l.allTokens.length = l'.allTokens.length ∧ Forall₂ Token.Alike l.allTokens l'.allTokens := by
  obtain ⟨views, views', shown, shown', alike⟩ := Enumeration.exists_mapM_view? plain plain' agree
  have files := alike_codeHeader clause (Enumeration.View.alike_flatMap_code alike)
  obtain ⟨l, l', listed, listed', comments, tokens⟩ := Listing.ofText?_alike files
  exact ⟨_, _, l, l', bind_eq_ok_iff.2 ⟨views, shown, rfl⟩, bind_eq_ok_iff.2 ⟨views', shown', rfl⟩,
    listed, listed', comments, tokens.length_eq, tokens⟩

/-- Two instances whose texts look like code: comments, ends of strings and of lines, and a stray
byte. -/
def slogans : Enumeration where
  typeName := text "Slogan"
  instances := [
    ⟨text "Loud", [(text "Label", text "\"// \\\"\\n\\t\x7d /*\"")], .directive⟩,
    ⟨text "Plain", [(text "Label", .stray ⟨127, by decide⟩ :: text "\"\nfunc \x60")], .directive⟩]
  casing := .identity
  generateVars := false
  marshalField := some (text "Label")
  allowZero := true
  fields := []

theorem Listing.ofText?_codeFile?_alike_slogans :
    let titles : Enumeration := { slogans with marshalField := none, casing := .title }
    ∃ code code' l l', codeFile? (text "slogans") [slogans] = .ok code ∧
      codeFile? (text "slogans") [titles] = .ok code' ∧ code ≠ code' ∧
      Listing.ofText? code = .ok l ∧ Listing.ofText? code' = .ok l' ∧ l.comments = l'.comments ∧
      l.allTokens.length = l'.allTokens.length ∧ Forall₂ Token.Alike l.allTokens l'.allTokens := by
  intro titles
  have clause : (text "slogans").isIdentifier = true := by decide +kernel
  have typeName : (text "Slogan").isIdentifier = true := by decide +kernel
  have names : ∀ i ∈ slogans.instances, i.name.isIdentifier = true := by decide +kernel
  have texts : ∀ i ∈ slogans.instances, ∃ t, slogans.text? i = .ok t := by
    intro i mem
    simp only [slogans, List.mem_cons, List.not_mem_nil, or_false] at mem
    rcases mem with rfl | rfl <;> exact ⟨_, rfl⟩
  have plain : ∀ e ∈ [slogans], e.MethodsOnly :=
    List.forall_mem_singleton.2 ⟨typeName, names, texts, rfl⟩
  have plain' : ∀ e ∈ [titles], e.MethodsOnly :=
    List.forall_mem_singleton.2 ⟨typeName, names, fun _ _ => ⟨_, rfl⟩, rfl⟩
  have apart : codeFile? (text "slogans") [slogans] ≠ codeFile? (text "slogans") [titles] := by
    decide +kernel
  obtain ⟨code, code', l, l', made, made', same⟩ :=
    Listing.ofText?_codeFile?_alike clause plain plain' (.cons ⟨rfl, rfl, rfl⟩ .nil)
  refine ⟨code, code', l, l', made, made', ?_, same⟩
  rintro rfl
  exact apart (made.trans made'.symm)

end EnumText
