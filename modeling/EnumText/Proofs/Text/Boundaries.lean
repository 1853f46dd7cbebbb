import Mathlib.Data.List.Basic
import Mathlib.Data.List.TakeWhile
import EnumText.Proofs.Text.Lines
import EnumText.Text.Lines

/-!
# Two ways to count lines

Line feeds alone end the lines that are counted, and each piece between them is cut again at the
other boundaries (`Text.pieces`) when the lines of a text are listed. A line is plain if that cuts
off no more than a carriage return at its end. So the two ways agree up to a line above which all
are plain.

* `splitOn_spec`: the lines between line feeds.
* `lines_unlines_append`: the listed lines, line by line.
* `pieces_of_isPlain`, `two_le_length_pieces`: plain lines stay whole, and others are cut.
* `exists_shown`: which line is listed under the number of a line between line feeds.
-/

namespace EnumText.Text

/-- A line without a carriage return at its end. -/
def withoutReturn (line : Text) : Text :=
  if line.getLast? = some (.scalar '\r') then line.dropLast else line

/-- Whether a line has no other boundary in it than a carriage return at its end. -/
def IsPlain (line : Text) : Prop := ∀ c ∈ line.withoutReturn, c.breaksLine = false

instance (line : Text) : Decidable line.IsPlain :=
  inferInstanceAs (Decidable (∀ c ∈ line.withoutReturn, _))

/-- What a line that a line feed ends is cut into. -/
def pieces (line : Text) : List Text := lines (line ++ [.scalar '\n'])

/-- The runes up to the first boundary. -/
def upToBoundary (t : Text) : Text := t.takeWhile (!·.breaksLine)

variable {a b t line : Text} {c : Rune}

/-! ## Line feeds -/

/-- The pieces of a text have no separator in them, make up the text with separators between them,
and are one more than there are separators. -/
theorem splitOn_spec (separator : Rune) (t : Text) :
    (∀ line ∈ splitOn separator t, separator ∉ line) ∧
      List.intercalate [separator] (splitOn separator t) = t ∧
      (splitOn separator t).length = t.count separator + 1 := by
  induction t with
  | nil => exact ⟨by simp [splitOn], rfl, rfl⟩
  | cons c t ih =>
    obtain ⟨apart, whole, length⟩ := ih
    rw [splitOn]
    cases split : splitOn separator t with
    | nil => simp [split] at length
    | cons first others =>
      rw [split] at apart whole length
      dsimp only [List.headD_cons, List.tail_cons]
      split
      · next same =>
        subst same
        refine ⟨List.forall_mem_cons.2 ⟨List.not_mem_nil, apart⟩, ?_, ?_⟩
        · rw [List.intercalate_cons_cons, whole]
          rfl
        · rw [List.length_cons, length, List.count_cons_self]
      · next other =>
        obtain ⟨here, later⟩ := List.forall_mem_cons.1 apart
        refine ⟨List.forall_mem_cons.2 ⟨?_, later⟩, ?_, ?_⟩
        · rw [List.mem_cons, not_or]
          exact ⟨Ne.symm other, here⟩
        · rw [← whole]
          cases others with
          | nil => simp
          | cons next others => simp [List.intercalate_cons_cons]
        · rw [List.length_cons, ← List.length_cons, length, List.count_cons_of_ne other]

theorem intercalate_newline (above : List Text) (named : Text) (below : List Text) :
    List.intercalate [Rune.scalar '\n'] (above ++ named :: below) =
      unlines above ++ List.intercalate [Rune.scalar '\n'] (named :: below) := by
  induction above with
  | nil => rfl
  | cons line above ih =>
    obtain ⟨next, others, same⟩ : ∃ next others, above ++ named :: below = next :: others :=
      List.exists_cons_of_ne_nil (by simp)
    rw [List.cons_append, same, List.intercalate_cons_cons, ← same, ih, unlines_cons,
      List.append_assoc, List.append_assoc]
    rfl

/-- There is a line below each number of line feeds that a text has. -/
theorem exists_splitOn (source : Text) {n : Nat} (le : n ≤ source.count (.scalar '\n')) :
    ∃ above named below, splitOn '\n' source = above ++ named :: below ∧ above.length = n ∧
      (∀ line ∈ above, .scalar '\n' ∉ line) ∧ .scalar '\n' ∉ named ∧
      ∃ rest, source = unlines above ++ (named ++ rest) ∧
        (below = [] ∧ rest = [] ∨ below ≠ [] ∧ ∃ more, rest = .scalar '\n' :: more) := by
  obtain ⟨apart, whole, length⟩ := splitOn_spec '\n' source
  have inside : n < (splitOn '\n' source).length := by omega
  have split : splitOn '\n' source = (splitOn '\n' source).take n ++
      (splitOn '\n' source)[n] :: (splitOn '\n' source).drop (n + 1) := by
    rw [List.getElem_cons_drop, List.take_append_drop]
  refine ⟨_, _, _, split, List.length_take_of_le (Nat.le_of_lt inside),
    fun line mem => apart line (List.mem_of_mem_take mem), apart _ (List.getElem_mem inside), ?_⟩
  rw [split, intercalate_newline] at whole
  cases left : (splitOn '\n' source).drop (n + 1) with
  | nil =>
    rw [left] at whole
    exact ⟨[], by simpa using whole.symm, .inl ⟨rfl, rfl⟩⟩
  | cons next others =>
    rw [left, List.intercalate_cons_cons] at whole
    exact ⟨_, by simpa using whole.symm, .inr ⟨List.cons_ne_nil _ _, _, rfl⟩⟩

/-! ## Lines -/

theorem lines_pair (t : Text) : lines (.scalar '\r' :: .scalar '\n' :: t) = [] :: lines t := rfl

theorem lines_cons_of_breaks (breaks : c.breaksLine = true)
    (single : c = .scalar '\r' → t.head? ≠ some (.scalar '\n')) :
    lines (c :: t) = [] :: lines t := by
  rw [lines, if_pos breaks]
  rintro rest rfl rfl
  exact single rfl rfl

theorem lines_cons_of_plain (plain : c.breaksLine = false) :
    lines (c :: t) = (c :: (lines t).headD []) :: (lines t).tail := by
  rw [lines, if_neg (by simp [plain])]
  rintro rest rfl -
  cases plain

theorem lines_ne_nil (some : t ≠ []) : lines t ≠ [] := by
  rw [ne_eq, lines.eq_def]
  split
  · exact absurd rfl some
  · exact List.cons_ne_nil _ _
  · split <;> exact List.cons_ne_nil _ _

theorem pieces_ne_nil (line : Text) : line.pieces ≠ [] := lines_ne_nil (by simp)

theorem lines_append_newline (a b : Text) :
    lines (a ++ .scalar '\n' :: b) = a.pieces ++ b.lines := by
  induction a using lines.induct with
  | case1 => rfl
  | case2 rest ih =>
    rw [pieces, List.cons_append, List.cons_append, lines_pair, ih]
    rfl
  | case3 c rest single breaks ih =>
    -- A carriage return at the end makes a pair with the line feed.
    by_cases pair : c = .scalar '\r' ∧ rest = []
    · obtain ⟨rfl, rfl⟩ := pair
      rfl
    · have alone (b : Text) : c = .scalar '\r' →
          (rest ++ .scalar '\n' :: b).head? ≠ some (.scalar '\n') := by
        rintro rfl
        cases rest with
        | nil => exact absurd ⟨rfl, rfl⟩ pair
        | cons d rest =>
          rw [List.cons_append, List.head?_cons, ne_eq, Option.some.injEq]
          rintro rfl
          exact single _ rfl rfl
      rw [pieces, List.cons_append, List.cons_append, lines_cons_of_breaks breaks (alone b),
        lines_cons_of_breaks breaks (alone []), ih]
      rfl
  | case4 c rest single other ih =>
    have plain : c.breaksLine = false := Bool.eq_false_iff.2 other
    rw [pieces, List.cons_append, List.cons_append, lines_cons_of_plain plain,
      lines_cons_of_plain plain, ih]
    change _ = (c :: (pieces rest).headD []) :: (pieces rest).tail ++ lines b
    cases first : pieces rest with
    | nil => exact absurd first (pieces_ne_nil rest)
    | cons piece others => rfl

theorem lines_unlines_append (above : List Text) (rest : Text) :
    lines (unlines above ++ rest) = above.flatMap pieces ++ rest.lines := by
  induction above with
  | nil => rfl
  | cons line above ih =>
    rw [unlines_cons, List.append_assoc, List.append_assoc, List.flatMap_cons, List.append_assoc,
      ← ih]
    exact lines_append_newline line _

theorem head?_lines (some : t ≠ []) : (lines t).head? = Option.some (upToBoundary t) := by
  induction t using lines.induct with
  | case1 => exact absurd rfl some
  | case2 rest ih => rfl
  | case3 c rest single breaks ih =>
    rw [upToBoundary, List.takeWhile_cons_of_neg (by simp [breaks]), lines, if_pos breaks]
    · rfl
    · exact single
  | case4 c rest single other ih =>
    have plain : c.breaksLine = false := Bool.eq_false_iff.2 other
    rw [lines_cons_of_plain plain, upToBoundary, List.takeWhile_cons_of_pos (by simp [plain])]
    cases rest with
    | nil => rfl
    | cons d rest =>
      rw [List.headD_eq_head?_getD, ih (List.cons_ne_nil d rest)]
      rfl

/-- A line feed behind a line is a boundary. -/
theorem upToBoundary_append {rest : Text} (ends : rest = [] ∨ ∃ more, rest = .scalar '\n' :: more) :
    upToBoundary (line ++ rest) = line.upToBoundary := by
  have none : upToBoundary rest = [] := by
    rcases ends with rfl | ⟨more, rfl⟩ <;> rfl
  rw [upToBoundary, List.takeWhile_append]
  split
  · next all =>
    rw [upToBoundary] at none
    rw [none, List.append_nil]
    exact (List.takeWhile_prefix _).eq_of_length all |>.symm
  · rfl

/-! ## Plain lines -/

theorem lines_append_of_unbroken {w : Text} (unbroken : ∀ c ∈ w, c.breaksLine = false)
    {first : Text} {others : List Text} (behind : lines t = first :: others) :
    lines (w ++ t) = (w ++ first) :: others := by
  induction w with
  | nil => exact behind
  | cons c w ih =>
    obtain ⟨plain, unbroken⟩ := List.forall_mem_cons.1 unbroken
    rw [List.cons_append, lines_cons_of_plain plain, ih unbroken]
    rfl

/-- A line is itself without the carriage return, or with it. -/
theorem eq_withoutReturn_or (line : Text) :
    line = line.withoutReturn ∨ line = line.withoutReturn ++ [.scalar '\r'] := by
  unfold withoutReturn
  split
  · next last =>
    obtain ⟨front, rfl⟩ := List.getLast?_eq_some_iff.1 last
    exact .inr (by rw [List.dropLast_concat])
  · exact .inl rfl

/-- A plain line stays whole up to the carriage return. -/
theorem pieces_of_isPlain (plain : line.IsPlain) : line.pieces = [line.withoutReturn] := by
  have same := eq_withoutReturn_or line
  have unbroken : ∀ c ∈ line.withoutReturn, c.breaksLine = false := plain
  generalize line.withoutReturn = w at same unbroken
  rcases same with rfl | rfl
  · refine (lines_append_of_unbroken unbroken rfl).trans ?_
    rw [List.append_nil]
    rfl
  · rw [pieces, List.append_assoc]
    refine (lines_append_of_unbroken unbroken rfl).trans ?_
    rw [List.append_nil]
    rfl

theorem upToBoundary_of_isPlain (plain : line.IsPlain) :
    line.upToBoundary = line.withoutReturn := by
  have same := eq_withoutReturn_or line
  have unbroken : ∀ c ∈ line.withoutReturn, (!c.breaksLine) = true := fun c mem => by
    rw [plain c mem]
    rfl
  generalize line.withoutReturn = w at same unbroken
  rcases same with rfl | rfl
  · exact List.takeWhile_eq_self_iff.2 unbroken
  · rw [upToBoundary, List.takeWhile_append_of_pos unbroken]
    exact List.append_nil _

theorem breaksLine_of_mem_upToBoundary (mem : c ∈ t.upToBoundary) : c.breaksLine = false := by
  simpa using List.mem_takeWhile_imp mem

/-- A line that is not plain has a boundary that does not end it. -/
theorem exists_boundary (broken : ¬ line.IsPlain) : ∃ c rest,
    line = line.upToBoundary ++ c :: rest ∧ c.breaksLine = true ∧
      (c = .scalar '\r' → rest ≠ []) := by
  have whole : line.upToBoundary ++ line.dropWhile (!·.breaksLine) = line :=
    List.takeWhile_append_dropWhile
  cases left : line.dropWhile (!·.breaksLine) with
  | nil =>
    rw [left, List.append_nil] at whole
    refine absurd (fun c mem => ?_) broken
    refine breaksLine_of_mem_upToBoundary (t := line) ?_
    rw [whole]
    rcases eq_withoutReturn_or line with same | same
    · exact same ▸ mem
    · exact same ▸ List.mem_append_left _ mem
  | cons c rest =>
    rw [left] at whole
    have breaks : c.breaksLine = true := by
      have stops := List.head_dropWhile_not (l := line) (fun c : Rune => !c.breaksLine)
        (by rw [left]; exact List.cons_ne_nil _ _)
      simpa [left] using stops
    refine ⟨c, rest, whole.symm, breaks, ?_⟩
    -- With a carriage return at its end and no other boundary the line would be plain.
    rintro rfl rfl
    refine broken ?_
    have bare : line.withoutReturn = line.upToBoundary := by
      rw [withoutReturn, if_pos (by rw [← whole]; exact List.getLast?_concat), ← whole,
        List.dropLast_concat, whole]
    rw [IsPlain, bare]
    exact fun c mem => breaksLine_of_mem_upToBoundary mem

/-- A line that is not plain is cut. -/
theorem two_le_length_pieces (inline : .scalar '\n' ∉ line) (broken : ¬ line.IsPlain) :
    2 ≤ line.pieces.length := by
  obtain ⟨c, rest, whole, breaks, single⟩ := exists_boundary broken
  have alone : c = .scalar '\r' → (rest ++ [Rune.scalar '\n']).head? ≠ some (.scalar '\n') := by
    intro return_
    obtain ⟨d, rest, rfl⟩ := List.exists_cons_of_ne_nil (single return_)
    rw [List.cons_append, List.head?_cons, ne_eq, Option.some.injEq]
    rintro rfl
    exact inline (whole ▸ by simp)
  have cut := lines_append_of_unbroken (w := line.upToBoundary)
    (fun c mem => breaksLine_of_mem_upToBoundary mem) (lines_cons_of_breaks breaks alone)
  have more : 0 < (pieces rest).length := List.length_pos_iff.2 (pieces_ne_nil rest)
  have count : line.pieces.length = (pieces rest).length + 1 := by
    rw [pieces, whole, List.append_assoc, List.cons_append]
    exact congrArg List.length cut
  omega

theorem length_upToBoundary_lt (broken : ¬ line.IsPlain) :
    line.upToBoundary.length < line.withoutReturn.length := by
  obtain ⟨c, rest, whole, -, single⟩ := exists_boundary broken
  have length := congrArg List.length whole
  rw [List.length_append, List.length_cons] at length
  rw [withoutReturn]
  split
  · next last =>
    have more : rest ≠ [] := by
      rintro rfl
      rw [whole, List.getLast?_concat] at last
      exact single (Option.some.inj last) rfl
    have some := List.length_pos_iff.2 more
    rw [List.length_dropLast]
    omega
  · omega

/-! ## Numbered lines -/

/-- Below plain lines, the line of a number is listed up to the first boundary. -/
theorem getElem?_lines_of_plain {above : List Text} (plain : ∀ line ∈ above, line.IsPlain)
    (rest : Text) : (lines (unlines above ++ rest))[above.length]? = (lines rest).head? := by
  have whole : above.flatMap pieces = above.map withoutReturn := by
    rw [List.map_eq_flatMap]
    exact List.flatMap_congr fun line mem => pieces_of_isPlain (plain line mem)
  have length : (above.map withoutReturn).length = above.length := List.length_map _
  rw [lines_unlines_append, whole, List.getElem?_append_right (by omega), length, Nat.sub_self,
    List.head?_eq_getElem?]

theorem length_le_length_flatMap_pieces (above : List Text) :
    above.length ≤ (above.flatMap pieces).length := by
  induction above with
  | nil => exact Nat.le_refl _
  | cons line above ih =>
    have some := List.length_pos_iff.2 (pieces_ne_nil line)
    rw [List.flatMap_cons, List.length_append, List.length_cons]
    omega

/-- Below a line that is cut, a piece of a line above is listed under a number. -/
theorem exists_getElem?_lines {above : List Text}
    (inline : ∀ line ∈ above, .scalar '\n' ∉ line) (broken : ¬ ∀ line ∈ above, line.IsPlain)
    (rest : Text) : ∃ piece, (above.flatMap pieces)[above.length]? = some piece ∧
      (lines (unlines above ++ rest))[above.length]? = some piece := by
  -- Each line has a piece, and the one that is cut has two.
  have more : above.length < (above.flatMap pieces).length := by
    obtain ⟨line, other⟩ := Classical.not_forall.1 broken
    obtain ⟨mem, two⟩ := Classical.not_imp.1 other
    obtain ⟨front, back, rfl⟩ := List.append_of_mem mem
    have cut := two_le_length_pieces (inline line mem) two
    have first := length_le_length_flatMap_pieces front
    have last := length_le_length_flatMap_pieces back
    simp only [List.flatMap_append, List.flatMap_cons, List.length_append, List.length_cons]
    omega
  have here := List.getElem?_eq_getElem more
  refine ⟨_, here, ?_⟩
  rw [lines_unlines_append, List.getElem?_append_left more, here]

/-- What is shown for a line that stands between others: the line itself where it and those above
are plain, unless it is empty and the last; its beginning where only those above are plain; and
otherwise a piece of a line above. -/
structure Shown (above : List Text) (named : Text) (below : List Text) (snippet : Option Text) :
    Prop where
  whole : (∀ line ∈ above, line.IsPlain) → named.IsPlain →
    snippet = if named = [] ∧ below = [] then none else some named.withoutReturn
  cut : (∀ line ∈ above, line.IsPlain) → ¬ named.IsPlain →
    snippet = some named.upToBoundary ∧ named.upToBoundary.length < named.withoutReturn.length
  moved : (¬ ∀ line ∈ above, line.IsPlain) →
    ∃ piece, (above.flatMap pieces)[above.length]? = some piece ∧ snippet = some piece

/-- The line that is listed under the number of a line between line feeds. -/
theorem exists_shown (source : Text) {n : Nat} (le : n ≤ source.count (.scalar '\n')) :
    ∃ above named below, splitOn '\n' source = above ++ named :: below ∧ above.length = n ∧
      Shown above named below source.lines[n]? := by
  obtain ⟨above, named, below, split, rfl, inline, -, rest, rfl, ends⟩ := exists_splitOn source le
  have ends' : rest = [] ∨ ∃ more, rest = .scalar '\n' :: more := ends.imp (·.2) (·.2)
  have first (plain : ∀ line ∈ above, line.IsPlain) (some : named ++ rest ≠ []) :
      (lines (unlines above ++ (named ++ rest)))[above.length]? =
        Option.some named.upToBoundary := by
    rw [getElem?_lines_of_plain plain, head?_lines some, upToBoundary_append ends']
  refine ⟨above, named, below, split, rfl, fun plain whole => ?_, fun plain broken => ?_,
    fun broken => exists_getElem?_lines inline broken _⟩
  · split_ifs with empty
    · obtain ⟨rfl, rfl⟩ := empty
      obtain rfl : rest = [] := ends.elim (·.2) fun h => absurd rfl h.1
      rw [getElem?_lines_of_plain plain]
      rfl
    · rw [first plain, upToBoundary_of_isPlain whole]
      intro none
      obtain ⟨rfl, rfl⟩ := List.append_eq_nil_iff.1 none
      exact empty ⟨rfl, ends.elim (·.1) fun h => by obtain ⟨more, same⟩ := h.2; cases same⟩
  · refine ⟨first plain fun none => ?_, length_upToBoundary_lt broken⟩
    obtain ⟨rfl, -⟩ := List.append_eq_nil_iff.1 none
    exact broken (List.forall_mem_nil _)

end EnumText.Text
