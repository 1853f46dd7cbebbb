import EnumText.Proofs.Declaration.Relocation.Declarations
import EnumText.Proofs.Listing.DocComments
import EnumText.Proofs.Listing.Yielding
import EnumText.Proofs.SourceFile.PackageClause

/-!
# Two texts below one package clause

Declarations are read independently of each other. Where a text ends with a whole statement and a
line break, another text may follow after a blank line, and the file declares what the two declare
by themselves: `ofText?_join`. The types of the second text stand further down by the lines of the
first one and the blank line. Texts of whole statements are joined one after the other:
`DeclaresBelow.join`.
-/

namespace EnumText

/-- A declared type a number of lines further down. -/
def TypeDecl.below (lines : Nat) (d : TypeDecl) : TypeDecl := { d with line := d.line + lines }

theorem Field.rewrite_id (f : Field) : f.rewrite id = f := rfl

theorem Composite.rewrite_id (c : Composite) : c.rewrite id = c := by
  simp [Composite.rewrite]

theorem Binding.rewrite_id (b : Binding) : b.rewrite id = b := by
  simp [Binding.rewrite, Composite.rewrite_id]

theorem TypeDecl.move_id (lines : Nat) (d : TypeDecl) : d.move id lines = d.below lines := by
  simp [TypeDecl.move, TypeDecl.below, Field.rewrite_id]

/-! ## The layout of both texts -/

section Layout

variable {p D₁ D₂ : Text} {first second : List Lexeme}

/-- How far down the second text moves when the first one and a line break stand before it. -/
def shiftBelow (D₁ : Text) : Shift := ⟨D₁.length + 1, D₁.count (.scalar '\n') + 1, 0⟩

theorem advance_below (p D₁ : Text) :
    ((afterClause p).advance D₁).step (.scalar '\n') = (afterClause p).shift (shiftBelow D₁) := by
  have column : (afterClause p).column = 1 :=
    Cursor.advance_column_of_newline _ (by rw [packageClause]; exact List.getLast?_concat)
  have line := (afterClause p).advance_line D₁
  have offset := (afterClause p).advance_offset D₁
  rw [Cursor.step, if_pos rfl, offset, line, Cursor.shift, column]
  rfl

theorem split_join (split : Lexeme.split D₁ = (first, none))
    (lines : D₁ = [] ∨ D₁.getLast? = some (.scalar '\n'))
    (split' : Lexeme.split D₂ = (second, none)) :
    Lexeme.split (D₁ ++ text "\n" ++ D₂) = (first ++ ⟨.newline, text "\n"⟩ :: second, none) := by
  have line : Lexeme.split (text "\n" ++ D₂) = (⟨.newline, text "\n"⟩ :: second, none) := by
    have line := Lexeme.split_cons (.newline D₂)
    rw [List.drop_zero, split'] at line
    exact line
  rw [List.append_assoc]
  rcases lines with rfl | last
  · cases split
    exact line
  · rw [Lexeme.split_append_of_newline split last, line]

/-- The second text is laid out as by itself, further down. -/
theorem place_join (split : Lexeme.split D₁ = (first, none))
    (lines : D₁ = [] ∨ D₁.getLast? = some (.scalar '\n')) :
    Layout.place (afterClause p) none (first ++ ⟨.newline, text "\n"⟩ :: second) =
      (Layout.run (afterClause p) none first).followedBy
        ((Layout.place (afterClause p) none second).shift (shiftBelow D₁)) := by
  have none_left := last_run_of_lines split lines (afterClause p)
  have below : Layout.place ((afterClause p).shift (shiftBelow D₁)) none second =
      (Layout.place (afterClause p) none second).shift (shiftBelow D₁) :=
    Layout.place_shift (shiftBelow D₁) (afterClause p) none (.inl rfl)
  rw [Layout.place_append, none_left, Lexeme.flatMap_spelling split, ← below, ← advance_below]
  rfl

theorem tokens_place_join (split : Lexeme.split D₁ = (first, none))
    (lines : D₁ = [] ∨ D₁.getLast? = some (.scalar '\n')) :
    (Layout.place (afterClause p) none (first ++ ⟨.newline, text "\n"⟩ :: second)).tokens =
      (Layout.place (afterClause p) none first).tokens ++
        (Layout.place (afterClause p) none second).tokens.map (·.shift (shiftBelow D₁)) := by
  rw [place_join split lines, Layout.place_of_last (last_run_of_lines split lines _)]
  rfl

/-- A comment ends above the line break that ends its text. -/
theorem endLine_lt_of_lines (split : Lexeme.split D₁ = (first, none))
    (lines : D₁ = [] ∨ D₁.getLast? = some (.scalar '\n')) {here : Cursor} {x : Comment}
    (mem : x ∈ (Layout.run here none first).comments) : x.endLine < (here.advance D₁).line := by
  rcases lines with rfl | last
  · cases split
    cases mem
  · rcases Lexeme.exists_newline_of_split split last with ⟨init, rfl⟩
    have spelled := Lexeme.flatMap_spelling split
    rw [List.flatMap_append] at spelled
    rw [Layout.run_append] at mem
    have inside : x ∈ (Layout.run here none init).comments := by
      simpa [Layout.Run.append, Layout.run, Layout.commentsOf] using mem
    have ends := ((Layout.between_run _ _ _).comments _ inside).endLine
    rw [← spelled, Cursor.advance_append]
    exact Nat.lt_of_le_of_lt ends (by simp [Cursor.advance_line, text])

/-- A blank line stands between the comments of the two texts. -/
theorem gap_of_lines (split : Lexeme.split D₁ = (first, none))
    (lines : D₁ = [] ∨ D₁.getLast? = some (.scalar '\n')) :
    ∀ x ∈ (Layout.run (afterClause p) none first).comments,
      ∀ y ∈ (Layout.place (afterClause p) none second).comments.map (·.shift (shiftBelow D₁)),
        x.Clear y := by
  intro x mem y mem'
  rcases List.mem_map.1 mem' with ⟨z, inside, rfl⟩
  have above := endLine_lt_of_lines split lines mem
  have below := (Layout.between_of_mem_place_comments inside).line
  rw [Cursor.advance_line] at above
  refine .inr ?_
  simp only [Comment.shift, shiftBelow]
  omega

end Layout

/-! ## Both texts are found again -/

section Relocation

variable {p D₁ D₂ : Text} {first second : List Lexeme}

theorem one_le_line_afterClause (p : Text) : 1 ≤ (afterClause p).line := by
  rw [afterClause, Cursor.advance_line]
  exact Nat.le_add_right _ _

open Listing (belowClause)

theorem comments_belowClause (p body : Text) (lexemes : List Lexeme) :
    (belowClause p body lexemes).comments =
      (Layout.run (afterClause p) none lexemes).comments := by
  simp only [belowClause, Layout.withTokens, Layout.place_eq_run]

/-- The listing of two texts and a blank line between them. -/
def Listing.joined (p D₁ D₂ : Text) (first second : List Lexeme) : Listing :=
  belowClause p (D₁ ++ text "\n" ++ D₂) (first ++ ⟨.newline, text "\n"⟩ :: second)

open Listing (joined)

theorem comments_joined (split : Lexeme.split D₁ = (first, none))
    (lines : D₁ = [] ∨ D₁.getLast? = some (.scalar '\n')) :
    (joined p D₁ D₂ first second).comments =
      (Layout.run (afterClause p) none first).comments ++
        (Layout.place (afterClause p) none second).comments.map (·.shift (shiftBelow D₁)) := by
  simp only [joined, belowClause, Layout.withTokens, place_join split lines]
  rfl

theorem tokens_joined (split : Lexeme.split D₁ = (first, none))
    (lines : D₁ = [] ∨ D₁.getLast? = some (.scalar '\n')) :
    (joined p D₁ D₂ first second).tokens =
      clauseTokens p ++ ((Layout.place (afterClause p) none first).tokens ++
        (Layout.place (afterClause p) none second).tokens.map (·.shift (shiftBelow D₁))) := by
  simp only [joined, belowClause, Layout.withTokens, tokens_place_join split lines]

theorem eof_joined (split : Lexeme.split D₁ = (first, none))
    (lines : D₁ = [] ∨ D₁.getLast? = some (.scalar '\n')) (body : Text) (lexemes : List Lexeme) :
    (joined p D₁ D₂ first second).eof.kind = (belowClause p body lexemes).eof.kind := by
  simp only [joined, belowClause, place_join split lines, Layout.place_eq_run]
  rfl

theorem textOf_upper (split : Lexeme.split D₁ = (first, none)) {ts : List Token}
    (inside : ∀ t ∈ ts, t ∈ (Layout.place (afterClause p) none first).tokens) :
    (joined p D₁ D₂ first second).textOf (ts.map id) = (belowClause p D₁ first).textOf ts := by
  refine Listing.textOf_shift (s := ⟨0, 0, 0⟩) [] (packageClause p ++ D₁) [] (text "\n" ++ D₂)
    rfl ?_ rfl ?_
  · simp only [joined, belowClause, List.nil_append, List.append_assoc]
  · intro t mem
    rcases Layout.between_of_mem_place_tokens (inside t mem) with ⟨-, order, stop, -, -⟩
    refine ⟨Nat.zero_le _, order, ?_⟩
    rw [Lexeme.flatMap_spelling split, Cursor.advance_offset, afterClause,
      Cursor.advance_offset] at stop
    simpa [belowClause, Cursor.start] using stop

theorem docAbove_upper (split : Lexeme.split D₁ = (first, none))
    (lines : D₁ = [] ∨ D₁.getLast? = some (.scalar '\n')) {t : Token}
    (inside : t ∈ (Layout.place (afterClause p) none first).tokens) :
    (joined p D₁ D₂ first second).docAbove t = (belowClause p D₁ first).docAbove t := by
  rcases Layout.between_of_mem_place_tokens inside with ⟨-, -, -, line, line_le⟩
  have low : 1 ≤ t.line := Nat.le_trans (one_le_line_afterClause p) line
  rw [Listing.docAbove_eq _ low, Listing.docAbove_eq _ low]
  rw [comments_joined split lines, comments_belowClause]
  apply Listing.docIn_append_left (gap_of_lines split lines)
  intro y mem
  rcases List.mem_map.1 mem with ⟨z, later, rfl⟩
  have below := (Layout.between_of_mem_place_comments later).line
  have order := (Layout.between_of_mem_place_comments later).order
  rw [Lexeme.flatMap_spelling split, Cursor.advance_line] at line_le
  simp only [Comment.shift, shiftBelow]
  omega

/-- The tokens of the first text stay where they are. -/
def Listing.Relocation.upper (split : Lexeme.split D₁ = (first, none))
    (lines : D₁ = [] ∨ D₁.getLast? = some (.scalar '\n')) :
    Relocation (belowClause p D₁ first) (joined p D₁ D₂ first second) where
  move := id
  region := (Layout.place (afterClause p) none first).tokens
  rewrite := id
  lines := 0
  kind _ := rfl
  spelling _ _ := rfl
  line _ := rfl
  eof := eof_joined split lines D₁ first
  textOf _ _ inside _ := textOf_upper split inside
  docAbove _ inside := (docAbove_upper split lines inside).trans (List.map_id _).symm

theorem textOf_lower (split : Lexeme.split D₂ = (second, none)) {ts : List Token}
    (inside : ∀ t ∈ ts, t ∈ (Layout.place (afterClause p) none second).tokens) :
    (joined p D₁ D₂ first second).textOf (ts.map (·.shift (shiftBelow D₁))) =
      (belowClause p D₂ second).textOf ts := by
  refine Listing.textOf_shift (packageClause p) D₂ (packageClause p ++ D₁ ++ text "\n") []
    rfl ?_ ?_ ?_
  · simp only [joined, belowClause, List.append_nil, List.append_assoc]
  · simp [shiftBelow, text]
  · intro t mem
    rcases Layout.between_of_mem_place_tokens (inside t mem) with ⟨start, order, stop, -, -⟩
    rw [Lexeme.flatMap_spelling split, Cursor.advance_offset] at stop
    rw [afterClause, Cursor.advance_offset] at start stop
    refine ⟨by simpa [Cursor.start] using start, order, ?_⟩
    simpa [belowClause, Cursor.start] using stop

theorem docAbove_lower (split : Lexeme.split D₁ = (first, none))
    (lines : D₁ = [] ∨ D₁.getLast? = some (.scalar '\n')) {t : Token}
    (inside : t ∈ (Layout.place (afterClause p) none second).tokens) :
    (joined p D₁ D₂ first second).docAbove (t.shift (shiftBelow D₁)) =
      (belowClause p D₂ second).docAbove t := by
  rcases Layout.between_of_mem_place_tokens inside with ⟨-, -, -, line, -⟩
  have low : 1 ≤ t.line := Nat.le_trans (one_le_line_afterClause p) line
  have low' : 1 ≤ (t.shift (shiftBelow D₁)).line := Nat.le_trans low (Nat.le_add_right _ _)
  have further : (t.shift (shiftBelow D₁)).line - 1 = t.line - 1 + (shiftBelow D₁).line := by
    simp only [Token.shift]
    omega
  have comments : (belowClause p D₂ second).comments =
      (Layout.place (afterClause p) none second).comments := rfl
  rw [Listing.docAbove_eq _ low, Listing.docAbove_eq _ low', comments, comments_joined split lines,
    further, Listing.docIn_append_right (gap_of_lines split lines) fun x mem => ?_,
    Listing.docIn_shift]
  have above := endLine_lt_of_lines split lines mem
  rw [Cursor.advance_line] at above
  simp only [shiftBelow]
  omega

/-- The tokens of the second text stand further down. -/
def Listing.Relocation.lower (split : Lexeme.split D₁ = (first, none))
    (lines : D₁ = [] ∨ D₁.getLast? = some (.scalar '\n'))
    (split' : Lexeme.split D₂ = (second, none)) :
    Relocation (belowClause p D₂ second) (joined p D₁ D₂ first second) where
  move := (·.shift (shiftBelow D₁))
  region := (Layout.place (afterClause p) none second).tokens
  rewrite := id
  lines := (shiftBelow D₁).line
  kind _ := rfl
  spelling _ _ := rfl
  line _ := rfl
  eof := eof_joined split lines D₂ second
  textOf _ _ inside _ := textOf_lower split' inside
  docAbove _ inside := (docAbove_lower split lines inside).trans (List.map_id _).symm

/-- The second text is read to its end as by itself. -/
theorem declarations_lower (split : Lexeme.split D₁ = (first, none))
    (lines : D₁ = [] ∨ D₁.getLast? = some (.scalar '\n'))
    (split' : Lexeme.split D₂ = (second, none)) {types : List TypeDecl} {bindings : List Binding}
    {fuel : Nat} (declared : (belowClause p D₂ second).declarations fuel
      (Layout.place (afterClause p) none second).tokens = .ok (types, bindings)) :
    (joined p D₁ D₂ first second).declarations fuel
        ((Layout.place (afterClause p) none second).tokens.map (·.shift (shiftBelow D₁))) =
      .ok (types.map (·.below (D₁.count (.scalar '\n') + 1)), bindings) := by
  let r : Listing.Relocation (belowClause p D₂ second) (joined p D₁ D₂ first second) :=
    .lower split lines split'
  have part : r.Part (Layout.place (afterClause p) none second).tokens [] :=
    ⟨fun t mem => mem, .inl rfl⟩
  have found := Listing.declarations_move (k := 0) (.inr part) declared rfl
  simp only [r, Listing.Relocation.lower, List.append_nil, Nat.add_zero, TypeDecl.move_id,
    Binding.rewrite_id, List.map_id_fun'] at found
  exact found

/-- The first text is read before whatever is read below it. -/
theorem declarations_upper (split : Lexeme.split D₁ = (first, none))
    (lines : D₁ = [] ∨ D₁.getLast? = some (.scalar '\n'))
    (ended : ∃ t ∈ (belowClause p D₁ first).tokens.getLast?, t.kind = .semicolon)
    {types types' : List TypeDecl} {bindings bindings' : List Binding} {fuel k : Nat}
    {more : List Token} (declared : (belowClause p D₁ first).declarations fuel
      (Layout.place (afterClause p) none first).tokens = .ok (types, bindings))
    (below : (joined p D₁ D₂ first second).declarations k more = .ok (types', bindings')) :
    (joined p D₁ D₂ first second).declarations (fuel + k)
        ((Layout.place (afterClause p) none first).tokens ++ more) =
      .ok (types ++ types', bindings ++ bindings') := by
  let r : Listing.Relocation (belowClause p D₁ first) (joined p D₁ D₂ first second) :=
    .upper split lines
  have part : (Layout.place (afterClause p) none first).tokens = [] ∨
      r.Part (Layout.place (afterClause p) none first).tokens more := by
    by_cases empty : (Layout.place (afterClause p) none first).tokens = []
    · exact .inl empty
    · have joins : Listing.Joins (belowClause p D₁ first).tokens more := .inr ended
      exact .inr ⟨fun t mem => mem, joins.suffix (List.suffix_append _ _) empty⟩
  have found := Listing.declarations_move part declared below
  have same : types.map (·.below 0) = types := List.map_id types
  simp only [r, Listing.Relocation.upper, List.map_id_fun, id, TypeDecl.move_id,
    Binding.rewrite_id, List.map_id_fun', same] at found
  exact found

/-! ## Texts of whole statements -/

/-- A text of whole statements and lines declares types and variables below a package clause. -/
structure DeclaresBelow (p D : Text) (types : List TypeDecl) (bindings : List Binding) : Prop where
  lines : D = [] ∨ D.getLast? = some (.scalar '\n')
  read : ∃ lexemes, Lexeme.split D = (lexemes, none) ∧
    (∃ t ∈ (belowClause p D lexemes).tokens.getLast?, t.kind = .semicolon) ∧
    (belowClause p D lexemes).declarations (Layout.place (afterClause p) none lexemes).tokens.length
      (Layout.place (afterClause p) none lexemes).tokens = .ok (types, bindings)

variable {types types' : List TypeDecl} {bindings bindings' : List Binding}

/-- Nothing is declared below a package clause that stands alone. -/
theorem declaresBelow_nil (name : p.isName = true) : DeclaresBelow p [] [] [] := by
  obtain ⟨t, ends, clause⟩ := clauseTokens_of_identifier (Text.isName_iff.1 name).2
  refine ⟨.inl rfl, [], rfl, ⟨t, ?_, ends⟩, rfl⟩
  have tokens : (belowClause p [] []).tokens = clauseTokens p := List.append_nil _
  rw [tokens, clause]
  rfl

/-- What two texts of whole statements declare, a blank line between them. -/
theorem DeclaresBelow.join (h : DeclaresBelow p D₁ types bindings)
    (h' : DeclaresBelow p D₂ types' bindings') :
    DeclaresBelow p (D₁ ++ text "\n" ++ D₂)
      (types ++ types'.map (·.below (D₁.count (.scalar '\n') + 1))) (bindings ++ bindings') := by
  obtain ⟨lines, first, split, ended, declared⟩ := h
  obtain ⟨lines', second, split', ended', declared'⟩ := h'
  refine ⟨.inr ?_, _, split_join split lines split', ?_, ?_⟩
  · rcases lines' with rfl | last
    · rw [List.append_nil]
      exact List.getLast?_concat
    · rw [List.getLast?_append, last]
      rfl
  · have whole : (joined p D₁ D₂ first second).tokens = _ := tokens_joined split lines
    rw [← List.append_assoc] at whole
    rw [← joined, whole]
    by_cases empty : (Layout.place (afterClause p) none second).tokens = []
    · rw [empty, List.map_nil, List.append_nil]
      exact ended
    · obtain ⟨t, last, kind⟩ := ended'
      have own : t ∈ (Layout.place (afterClause p) none second).tokens.getLast? := by
        rwa [belowClause, Layout.withTokens, List.getLast?_append_of_ne_nil _ empty] at last
      refine ⟨t.shift (shiftBelow D₁), ?_, kind⟩
      rw [List.getLast?_append_of_ne_nil _ (by simpa using empty), List.getLast?_map,
        Option.mem_def.1 own]
      rfl
  · have below := declarations_upper split lines ended declared
      (declarations_lower split lines split' declared')
    rw [← joined, tokens_place_join split lines, List.length_append, List.length_map]
    exact below

/-- A package clause with a text of whole statements below it is a file that declares just that. -/
theorem DeclaresBelow.ofText? (name : p.isName = true) (h : DeclaresBelow p D₁ types bindings)
    (file : Path) :
    SourceFile.ofText? file (packageClause p ++ D₁) = .ok ⟨p, types, bindings⟩ := by
  obtain ⟨-, lexemes, split, -, declared⟩ := h
  obtain ⟨identifier, kind⟩ := Text.isName_iff.1 name
  exact SourceFile.ofText?_eq_ok_iff.2 ⟨_, (Listing.ofText?_packageClause identifier).2
    ⟨lexemes, split, rfl⟩, (SourceFile.ofListing?_clauseTokens rfl).2
      ⟨kind, types, bindings, declared, rfl⟩⟩

end Relocation

open Listing (joined)

namespace SourceFile

/-- Declarations are read independently of each other: none of the two texts is lost and none
reaches into the other. -/
theorem ofText?_join {p D₁ D₂ : Text} (name : p.isIdentifier = true)
    (lines : D₁ = [] ∨ D₁.getLast? = some (.scalar '\n')) {file : Path} {l : Listing}
    (listed : Listing.ofText? (packageClause p ++ D₁) = .ok l)
    (ended : ∃ t ∈ l.tokens.getLast?, t.kind = .semicolon) {first second : SourceFile}
    (read : ofText? file (packageClause p ++ D₁) = .ok first)
    (read' : ofText? file (packageClause p ++ D₂) = .ok second) :
    ofText? file (packageClause p ++ D₁ ++ text "\n" ++ D₂) =
      .ok ⟨p, first.types ++ second.types.map (·.below (D₁.count (.scalar '\n') + 1)),
        first.bindings ++ second.bindings⟩ := by
  rcases ofText?_eq_ok_iff.1 read with ⟨l₁, listed₁, found⟩
  rcases ofText?_eq_ok_iff.1 read' with ⟨l₂, listed₂, found'⟩
  obtain rfl : l = l₁ := Except.ok.inj (listed.symm.trans listed₁)
  rcases (Listing.ofText?_packageClause name).1 listed with ⟨lexemes, split, rfl⟩
  rcases (Listing.ofText?_packageClause name).1 listed₂ with ⟨lexemes', split', rfl⟩
  rcases (ofListing?_clauseTokens rfl).1 found with ⟨kind, types, bindings, declared, rfl⟩
  rcases (ofListing?_clauseTokens rfl).1 found' with ⟨-, types', bindings', declared', rfl⟩
  have tokens : (joined p D₁ D₂ lexemes lexemes').tokens = _ := tokens_joined split lines
  refine ofText?_eq_ok_iff.2 ⟨joined p D₁ D₂ lexemes lexemes', ?_,
    (ofListing?_clauseTokens tokens).2 ⟨kind, _, _, ?_, rfl⟩⟩
  · rw [List.append_assoc, List.append_assoc, ← List.append_assoc D₁]
    exact (Listing.ofText?_packageClause name).2 ⟨_, split_join split lines split', rfl⟩
  · rw [List.length_append, List.length_map]
    exact declarations_upper split lines ended declared
      (declarations_lower split lines split' declared')

/-- A type and a variable of it. -/
def colors : Text :=
  text "type Color struct \x7b\n\tname string\n\x7d\n\nvar Red = Color\x7bname: \"red\"\x7d\n"

/-- A type with a doc comment, and a variable that no line break follows. -/
def shades : Text :=
  text "// A Shade is dark.\ntype Shade struct\x7b c Color \x7d\n\n" ++
    text "var Dim = Shade\x7bRed\x7d // last"

theorem ofText?_join_colors_shades :
    let clause := packageClause (text "paint")
    let color : TypeDecl := ⟨⟨text "Color", [], [⟨text "name", text "string"⟩]⟩, true, 2⟩
    let red : Binding :=
      ⟨[text "Red"], [some ⟨text "Color", [⟨some (text "name"), text "\"red\""⟩]⟩]⟩
    let shade : TypeDecl :=
      ⟨⟨text "Shade", [text "// A Shade is dark."], [⟨text "c", text "Color"⟩]⟩, true, 3⟩
    let dim : Binding := ⟨[text "Dim"], [some ⟨text "Shade", [⟨none, text "Red"⟩]⟩]⟩
    Text.isIdentifier (text "paint") = true ∧ colors.getLast? = some (.scalar '\n') ∧
      (∃ l, Listing.ofText? (clause ++ colors) = .ok l ∧
        ∃ t ∈ l.tokens.getLast?, t.kind = .semicolon) ∧
      ofText? .here (clause ++ colors) = .ok ⟨text "paint", [color], [red]⟩ ∧
      ofText? .here (clause ++ shades) = .ok ⟨text "paint", [shade], [dim]⟩ ∧
      ofText? .here (clause ++ colors ++ text "\n" ++ shades) =
        .ok ⟨text "paint", [color, shade.below 6], [red, dim]⟩ := by
  intro clause color red shade dim
  have name : Text.isIdentifier (text "paint") = true := by decide +kernel
  have lines : colors.getLast? = some (.scalar '\n') := by decide
  have read : ofText? .here (clause ++ colors) = .ok ⟨text "paint", [color], [red]⟩ :=
    eq_ok_of_toOption (by decide +kernel)
  have read' : ofText? .here (clause ++ shades) = .ok ⟨text "paint", [shade], [dim]⟩ :=
    eq_ok_of_toOption (by decide +kernel)
  rcases ofText?_eq_ok_iff.1 read with ⟨l, listed, -⟩
  have ended : ∃ t ∈ l.tokens.getLast?, t.kind = .semicolon := by
    have ends : (Listing.ofText? (clause ++ colors)).toOption.any
        (·.tokens.getLast?.any (·.kind = .semicolon)) = true := by decide +kernel
    rw [listed] at ends
    rcases (Option.any_eq_true _ _).1 ends with ⟨t, mem, kind⟩
    cases mem
    rcases (Option.any_eq_true _ _).1 kind with ⟨t, mem, kind⟩
    exact ⟨t, mem, of_decide_eq_true kind⟩
  exact ⟨name, lines, ⟨l, listed, ended⟩, read, read',
    ofText?_join name (.inr lines) listed ended read read'⟩

end SourceFile

end EnumText
