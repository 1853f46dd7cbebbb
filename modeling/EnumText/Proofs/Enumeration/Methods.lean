import EnumText.Enumeration.Code
import EnumText.Proofs.Declaration.Statements
import EnumText.Proofs.Text.Lines

/-!
# The generated methods declare no variables

`Leads d lines e` says that lines inside of a statement take `d` open brackets to `e`, so that lines
are passed over one after the other. Names and quoted texts stand in the lines of the three methods,
and nothing of them is read as a bracket or as the end of a line.

* `leads_line`, `leads_word`, `leads_quoted`: one line.
* `yields_method`: a method is passed over as a whole.
* `yields_stringMethod`, `yields_marshalMethod`, `yields_unmarshalMethod`: the generated methods.
-/

namespace EnumText

open Declaration
open Lexeme (Apart Soft)
open Listing

/-! ## Lines inside of a statement -/

/-- Lines inside of a statement take one number of open brackets to another. -/
def Leads (d : Nat) (lines : List Text) (e : Nat) : Prop :=
  ∀ (more : Text) (Q : Listing → List Token → Prop), Yields false more (Skipping e Q) →
    Yields false (unlines lines ++ more) (Skipping d Q)

variable {a b c d e : Nat} {lines lines' : List Text} {more : Text}

theorem leads_nil (d : Nat) : Leads d [] d := fun _ _ h => h

theorem Leads.append (first : Leads a lines b) (next : Leads b lines' c) :
    Leads a (lines ++ lines') c := by
  intro more Q h
  rw [unlines_append, List.append_assoc]
  exact first _ Q (next more Q h)

theorem Leads.cons {line : Text} (first : Leads a [line] b) (next : Leads b lines c) :
    Leads a (line :: lines) c := first.append next

theorem leads_flatMap {α : Type} {f : α → List Text} {xs : List α}
    (each : ∀ x ∈ xs, Leads d (f x) d) : Leads d (xs.flatMap f) d := by
  induction xs with
  | nil => exact leads_nil d
  | cons x xs ih =>
    rcases List.forall_mem_cons.1 each with ⟨first, others⟩
    exact first.append (ih others)

section Lines

variable {ends : Bool} {line before after word body : Text}

/-- A line that is always the same. -/
theorem leads_line (moves : Moves false d (line ++ text "\n") false e) : Leads d [line] e := by
  intro more Q h
  have soft : Soft (line ++ text "\n") more := .inl ⟨.scalar '\n', List.getLast?_concat, rfl⟩
  have whole : unlines [line] ++ more = line ++ text "\n" ++ more := by
    simp [unlines]
  rw [whole]
  exact Yields.skipChunk moves soft h

theorem leads_word (first : Moves false d before ends c)
    (white : ∃ w ∈ before.getLast?, Lexeme.isWhite w = true) (name : word.isName = true)
    (next : Apart (after ++ text "\n")) (last : Moves true c (after ++ text "\n") false e) :
    Leads d [before ++ word ++ after] e := by
  intro more Q h
  have soft : Soft (after ++ text "\n") more := .inl ⟨.scalar '\n', List.getLast?_concat, rfl⟩
  have start : Apart (after ++ text "\n" ++ more) := Lexeme.apart_append ⟨by simp [text], next⟩ more
  have whole : unlines [before ++ word ++ after] ++ more =
      before ++ (word ++ (after ++ text "\n" ++ more)) := by
    simp [unlines]
  rw [whole]
  exact Yields.skipChunk first (.inl white) <| Yields.skipWord name start <|
    Yields.skipChunk last soft h

theorem leads_quoted (first : Moves false d before ends c) (guarded : Literal.Guarded body)
    (last : Moves true c (after ++ text "\n") false e) :
    Leads d [before ++ (.scalar '"' :: (body ++ [.scalar '"'])) ++ after] e := by
  intro more Q h
  have start (t : Text) : Apart (.scalar '"' :: t) := by
    have quote : Apart [.scalar '"'] := by decide
    exact Lexeme.apart_append ⟨List.cons_ne_nil _ _, quote⟩ t
  have soft : Soft (after ++ text "\n") more := .inl ⟨.scalar '\n', List.getLast?_concat, rfl⟩
  have whole : unlines [before ++ (.scalar '"' :: (body ++ [.scalar '"'])) ++ after] ++ more =
      before ++ (.scalar '"' :: (body ++ [.scalar '"']) ++ (after ++ text "\n" ++ more)) := by
    simp [unlines]
  rw [whole]
  exact Yields.skipChunk first (start _).soft <| Yields.skipQuoted guarded <|
    Yields.skipChunk last soft h

end Lines

/-! ## Methods -/

namespace Enumeration.View

/-- A method as it is generated: a blank line, a comment and the head with the name of the type in
them, and the body. -/
def methodLines (docBefore docAfter receiver signature typeName : Text) (body : List Text) :
    List Text :=
  [] :: (text "//" ++ (docBefore ++ typeName ++ docAfter)) ::
    (receiver ++ typeName ++ signature) :: (body ++ [text "\x7d"])

variable {docBefore docAfter receiver signature typeName : Text} {body : List Text} {ends : Bool}
variable {found : List Token.Sign} {bindings : List Binding}

theorem yields_method (inline : .scalar '\n' ∉ docBefore ∧ .scalar '\n' ∉ docAfter)
    (head : Chunk false receiver ((.keyword, text "func") :: found) ends)
    (opened : openAfter [.semicolon] 0 (found.map Prod.fst) = some 1)
    (next : signature ≠ [] ∧ Apart signature) (signed : Moves true 1 signature false 1)
    (name : typeName.isName = true) (inside : Leads 1 body 1)
    (h : Yields false more (Declares bindings)) :
    Yields false (unlines (methodLines docBefore docAfter receiver signature typeName body) ++ more)
      (Declares bindings) := by
  have brace : Chunk false (text "\x7d") [(.closing .curly, text "\x7d")] true := by decide
  have closed : Yields false (unlines [text "\x7d"] ++ more) (Skipping 1 (Declares bindings)) := by
    rw [unlines_cons, List.append_assoc, List.append_assoc]
    exact Yields.skipEnd brace h
  have rest : Yields false (unlines (body ++ [text "\x7d"]) ++ more)
      (Skipping 1 (Declares bindings)) := by
    rw [unlines_append, List.append_assoc]
    exact inside _ _ closed
  have func : Yields false (receiver ++ (typeName ++ (signature ++
      (text "\n" ++ (unlines (body ++ [text "\x7d"]) ++ more))))) (Declares bindings) := by
    refine Yields.statement head (Lexeme.soft_of_isName name _) (by decide)
      (by decide) opened ?_
    exact Yields.skipWord name (Lexeme.apart_append next _) <| Yields.skipChunk signed
      (Lexeme.apart_newline _).soft (Yields.skipNewline (by decide) rest)
  have doc : .scalar '\n' ∉ docBefore ++ typeName ++ docAfter := by
    have word : .scalar '\n' ∉ typeName :=
      Text.not_mem_of_isIdentifier (Text.isName_iff.1 name).1 (by decide)
    simp [inline, word]
  have comment := Yields.lineComment doc (Yields.blankLine func)
  have whole := Yields.blankLine comment
  simpa only [methodLines, unlines_cons, List.append_assoc, List.nil_append] using whole

/-- A view whose names are identifiers and whose texts are quoted. -/
structure Plain (v : View) : Prop where
  typeName : v.typeName.isName = true
  names : ∀ m ∈ v.members, m.name.isName = true
  encodings : ∀ m ∈ v.members, ∃ t, m.encoding = Literal.quote t
  decodeKeys : ∀ m ∈ v.members, ∃ t, m.decodeKey = Literal.quote t

variable {v : View}

theorem chunk_receiver : Chunk false (text "func (t ") [(.keyword, text "func"),
    (.opening .round, text "("), (.identifier, text "t")] true := by decide

theorem stringMethod_eq (v : View) : v.stringMethod =
    methodLines (text " String returns the text form of a ") (text ".") (text "func (t ")
      (text ") String() string \x7b") v.typeName
      (text "\tswitch t \x7b" :: (v.members.flatMap (fun m =>
        [text "\tcase " ++ m.name ++ text ":", text "\t\treturn " ++ m.encoding]) ++
        [text "\t\x7d", text "\treturn \"\""])) := by
  have marker : text "// String returns the text form of a " =
      text "//" ++ text " String returns the text form of a " := by decide
  rw [stringMethod, marker]
  simp [methodLines]

theorem yields_stringMethod (plain : v.Plain) (h : Yields false more (Declares bindings)) :
    Yields false (unlines v.stringMethod ++ more) (Declares bindings) := by
  have member : ∀ m ∈ v.members, Leads 2
      [text "\tcase " ++ m.name ++ text ":", text "\t\treturn " ++ m.encoding] 2 := by
    intro m mem
    rcases plain.encodings m mem with ⟨t, quoted⟩
    have label : Leads 2 [text "\tcase " ++ m.name ++ text ":"] 2 :=
      leads_word (show Moves false 2 _ false 2 by decide) ⟨.scalar ' ', rfl, rfl⟩
        (plain.names m mem) (by decide) (by decide)
    have value : Leads 2 [text "\t\treturn " ++ Literal.quote t ++ []] 2 :=
      leads_quoted (show Moves false 2 _ true 2 by decide)
        (Literal.guarded_flatMap_escape t) (by decide)
    rw [List.append_nil] at value
    rw [quoted]
    exact label.cons value
  have switch : Leads 1 [text "\tswitch t \x7b"] 2 := leads_line (by decide)
  have close : Leads 2 [text "\t\x7d"] 1 := leads_line (by decide)
  have result : Leads 1 [text "\treturn \"\""] 1 := leads_line (by decide +kernel)
  have body := switch.cons (Leads.append (leads_flatMap member) (close.cons result))
  rw [stringMethod_eq]
  exact yields_method (by decide) chunk_receiver rfl (by decide)
    (by decide) plain.typeName body h

theorem marshalMethod_eq (v : View) : v.marshalMethod =
    methodLines (text " MarshalText encodes a ") (text " as its text form.") (text "func (t ")
      (text ") MarshalText() ([]byte, error) \x7b") v.typeName
      [text "\treturn []byte(t.String()), nil"] := by
  have marker : text "// MarshalText encodes a " = text "//" ++ text " MarshalText encodes a " := by
    decide
  rw [marshalMethod, marker]
  simp [methodLines]

theorem yields_marshalMethod (plain : v.Plain) (h : Yields false more (Declares bindings)) :
    Yields false (unlines v.marshalMethod ++ more) (Declares bindings) := by
  have body : Leads 1 [text "\treturn []byte(t.String()), nil"] 1 := leads_line (by decide)
  rw [marshalMethod_eq]
  exact yields_method (by decide) chunk_receiver rfl (by decide)
    (by decide) plain.typeName body h

/-- The lines between the head and the closing bracket of the method that reads an instance. -/
def unmarshalBody (v : View) : List Text :=
  [text "\tswitch strings.ReplaceAll(strings.ToLower(string(text)), \"\\\"\", \"\") \x7b"] ++
    v.decodeCases.flatMap (fun (key, value) =>
      [text "\tcase " ++ key ++ text ":", text "\t\t*t = " ++ value]) ++
    [text "\tdefault:",
      text "\t\treturn fmt.Errorf(\"unsupported " ++ v.typeName ++ text " value: %q\", text)",
      text "\t\x7d", text "\treturn nil"]

theorem unmarshalMethod_eq (v : View) : v.unmarshalMethod =
    methodLines (text " UnmarshalText decodes a ")
      (text " from its text form, ignoring case and quotes.") (text "func (t *")
      (text ") UnmarshalText(text []byte) error \x7b") v.typeName v.unmarshalBody := by
  have marker : text "// UnmarshalText decodes a " =
      text "//" ++ text " UnmarshalText decodes a " := by decide
  rw [unmarshalMethod, marker]
  simp [methodLines, unmarshalBody]

/-- The cases of the zero value and of the instances. -/
theorem leads_decodeCases (plain : v.Plain) :
    Leads 2 (v.decodeCases.flatMap fun (key, value) =>
      [text "\tcase " ++ key ++ text ":", text "\t\t*t = " ++ value]) 2 := by
  have label (t : Text) : Leads 2 [text "\tcase " ++ Literal.quote t ++ text ":"] 2 :=
    leads_quoted (show Moves false 2 _ false 2 by decide)
      (Literal.guarded_flatMap_escape t) (by decide)
  apply leads_flatMap
  intro p mem
  rcases List.mem_append.1 mem with zero | member
  · have zeroValue : Leads 2 [text "\t\t*t = " ++ v.typeName ++ text "\x7b\x7d"] 2 :=
      leads_word (show Moves false 2 _ false 2 by decide) ⟨.scalar ' ', rfl, rfl⟩
        plain.typeName (by decide) (by decide)
    have only : p = (Literal.quote [], v.typeName ++ text "\x7b\x7d") := by
      split at zero
      · rw [List.mem_singleton.1 zero]
        rfl
      · cases zero
    rw [List.append_assoc] at zeroValue
    rw [only]
    exact (label []).cons zeroValue
  · rcases List.mem_map.1 member with ⟨m, inside, rfl⟩
    rcases plain.decodeKeys m inside with ⟨t, quoted⟩
    have value : Leads 2 [text "\t\t*t = " ++ m.name ++ []] 2 :=
      leads_word (show Moves false 2 _ false 2 by decide) ⟨.scalar ' ', rfl, rfl⟩
        (plain.names m inside) (by decide) (by decide)
    rw [List.append_nil] at value
    rw [quoted]
    exact (label t).cons value

/-- A word closes no double quotes around it. -/
theorem guarded_of_isIdentifier {word : Text} (identifier : word.isIdentifier = true) :
    Literal.Guarded word := by
  have mark (c : Rune) (part : Lexeme.isIdentifierPart c = true) :
      c ≠ .scalar '"' ∧ c ≠ .scalar '\\' ∧ c ≠ .scalar '\n' := by
    refine ⟨?_, ?_, ?_⟩ <;>
    · intro same
      subst same
      revert part
      decide
  exact Literal.guarded_of_plain fun c mem => mark c (Text.isIdentifierPart_of_mem identifier c mem)

theorem guarded_unsupported (identifier : typeName.isIdentifier = true) :
    Literal.Guarded (text "unsupported " ++ typeName ++ text " value: %q") := by
  have before : Literal.Guarded (text "unsupported ") :=
    Literal.guarded_of_plain (by decide)
  have after : Literal.Guarded (text " value: %q") := Literal.guarded_of_plain (by decide)
  exact (before.append (guarded_of_isIdentifier identifier)).append after

/-- The line that refuses a text has a quoted text in it, with the name of the type. -/
theorem unsupported_eq (typeName : Text) :
    text "\t\treturn fmt.Errorf(\"unsupported " ++ typeName ++ text " value: %q\", text)" =
      text "\t\treturn fmt.Errorf(" ++
        (.scalar '"' :: (text "unsupported " ++ typeName ++ text " value: %q" ++ [.scalar '"'])) ++
        text ", text)" := by
  have before : text "\t\treturn fmt.Errorf(\"unsupported " =
      text "\t\treturn fmt.Errorf(" ++ (.scalar '"' :: text "unsupported ") := by decide
  have after : text " value: %q\", text)" =
      text " value: %q" ++ (.scalar '"' :: text ", text)") := by decide
  rw [before, after]
  simp

theorem leads_unsupported (name : typeName.isName = true) :
    Leads 2 [text "\t\treturn fmt.Errorf(\"unsupported " ++ typeName ++
      text " value: %q\", text)"] 2 := by
  have guarded := guarded_unsupported (Text.isName_iff.1 name).1
  have opening : Moves false 2 (text "\t\treturn fmt.Errorf(") false 3 := by decide
  have closing : Moves true 3 (text ", text)" ++ text "\n") false 2 := by decide
  rw [unsupported_eq]
  exact leads_quoted opening guarded closing

theorem yields_unmarshalMethod (plain : v.Plain) (h : Yields false more (Declares bindings)) :
    Yields false (unlines v.unmarshalMethod ++ more) (Declares bindings) := by
  have head : Chunk false (text "func (t *") [(.keyword, text "func"), (.opening .round, text "("),
      (.identifier, text "t"), (.operator, text "*")] false := by decide
  have switch : Leads 1 [text
      "\tswitch strings.ReplaceAll(strings.ToLower(string(text)), \"\\\"\", \"\") \x7b"] 2 :=
    leads_line (by decide +kernel)
  have fallback : Leads 2 [text "\tdefault:"] 2 := leads_line (by decide)
  have refusal := leads_unsupported plain.typeName
  have close : Leads 2 [text "\t\x7d"] 1 := leads_line (by decide)
  have result : Leads 1 [text "\treturn nil"] 1 := leads_line (by decide)
  have body : Leads 1 v.unmarshalBody 1 :=
    (switch.append (leads_decodeCases plain)).append
      (fallback.cons (refusal.cons (close.cons result)))
  rw [unmarshalMethod_eq]
  exact yields_method (by decide) head rfl (by decide) (by decide)
    plain.typeName body h

end Enumeration.View

end EnumText
