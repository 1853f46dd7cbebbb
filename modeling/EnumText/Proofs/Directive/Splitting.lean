import EnumText.Directive

/-!
# Where directives are split

A quoted run reaches from a quote to the next one that no backslash protects, or to the end of the
text. `Unspaced` takes a text apart into quoted runs and runes outside of them, and leaves out the
white space among the latter. The splitter is in plain text between the parts, so each fact about it
is an induction along this relation.

* `exists_unspaced`: every text is taken apart.
* `Unspaced.flatten_argumentsAfter`: the arguments are made of what is not left out.
* `Unspaced.splitArguments_intercalate`: arguments are read again from their text with single spaces
  between them.
* `splitArguments_lossless`: all this for the arguments of a text.
-/

namespace EnumText.Directive

/-! ## Quoted runs -/

/-- A text between quotes: a quote stands in it only behind a backslash, which protects whatever
comes after it. -/
inductive Protected : Text → Prop
  | nil : Protected []
  | plain {c : Rune} {rest : Text} (ne_quote : c ≠ .scalar '"') (ne_backslash : c ≠ .scalar '\\') :
    Protected rest → Protected (c :: rest)
  | backslash (c : Rune) {rest : Text} : Protected rest → Protected (.scalar '\\' :: c :: rest)

/-- A run from a quote to the next one that is not protected. -/
def IsQuoted (run : Text) : Prop :=
  ∃ body, Protected body ∧ run = .scalar '"' :: body ++ [.scalar '"']

/-- A run from a quote to the end of the text, where no quote follows that is not protected. -/
def IsUnclosed (run : Text) : Prop :=
  ∃ body, run = .scalar '"' :: body ∧
    ∀ front more, body = front ++ .scalar '"' :: more → ¬ Protected front

/-- The second text is the first without its white space outside of quoted runs. -/
inductive Unspaced : Text → Text → Prop
  | nil : Unspaced [] []
  | blank {c : Rune} {t u : Text} (blank : c.isBlank = true) : Unspaced t u → Unspaced (c :: t) u
  | plain {c : Rune} {t u : Text} (ne_quote : c ≠ .scalar '"') (dark : c.isBlank = false) :
    Unspaced t u → Unspaced (c :: t) (c :: u)
  | quoted {run t u : Text} (quoted : IsQuoted run) : Unspaced t u → Unspaced (run ++ t) (run ++ u)
  | unclosed {run : Text} (unclosed : IsUnclosed run) : Unspaced run run

/-- Every text is taken apart. -/
theorem exists_unspaced (t : Text) : ∃ u, Unspaced t u := by
  induction length : t.length using Nat.strongRecOn generalizing t with
  | ind n ih =>
    cases t with
    | nil => exact ⟨[], .nil⟩
    | cons c t =>
      rw [List.length_cons] at length
      by_cases quote : c = .scalar '"'
      · subst quote
        by_cases closed : ∃ front more, t = front ++ .scalar '"' :: more ∧ Protected front
        · obtain ⟨front, more, rfl, protects⟩ := closed
          rw [List.length_append, List.length_cons] at length
          obtain ⟨u, rest⟩ := ih more.length (by omega) more rfl
          have whole := Unspaced.quoted ⟨front, protects, rfl⟩ rest
          rw [List.append_assoc] at whole
          exact ⟨_, whole⟩
        · have unclosed : IsUnclosed (.scalar '"' :: t) :=
            ⟨t, rfl, fun front more same protects => closed ⟨front, more, same, protects⟩⟩
          exact ⟨_, .unclosed unclosed⟩
      · obtain ⟨u, rest⟩ := ih t.length (by omega) t rfl
        cases blank : c.isBlank with
        | true => exact ⟨u, .blank blank rest⟩
        | false => exact ⟨c :: u, .plain quote blank rest⟩

/-! ## The splitter -/

theorem argumentsAfter_plain {c : Rune} (ne_quote : c ≠ .scalar '"') (blank : c.isBlank = false)
    (current rest : Text) :
    argumentsAfter .plain current (c :: rest) = argumentsAfter .plain (c :: current) rest := by
  simp only [argumentsAfter, ne_quote, blank, Bool.false_eq_true, if_false]

/-- Runes other than white space and quotes stay in the argument. -/
theorem argumentsAfter_word {word : Text}
    (plain : ∀ c ∈ word, c ≠ .scalar '"' ∧ c.isBlank = false) (current rest : Text) :
    argumentsAfter .plain current (word ++ rest) =
      argumentsAfter .plain (word.reverse ++ current) rest := by
  induction word generalizing current with
  | nil => rfl
  | cons c word ih =>
    rcases plain c List.mem_cons_self with ⟨ne_quote, blank⟩
    rw [List.cons_append, argumentsAfter_plain ne_quote blank,
      ih fun d mem => plain d (List.mem_cons_of_mem _ mem), List.reverse_cons, List.append_assoc]
    rfl

theorem argumentsAfter_blank {c : Rune} (blank : c.isBlank = true) (current rest : Text) :
    argumentsAfter .plain current (c :: rest) =
      finishArgument current ++ argumentsAfter .plain [] rest := by
  have ne_quote : c ≠ .scalar '"' := by
    intro same
    rw [same] at blank
    exact absurd blank (by decide)
  simp only [argumentsAfter, ne_quote, blank, if_true, if_false]

theorem argumentsAfter_space (current rest : Text) :
    argumentsAfter .plain current (text " " ++ rest) =
      finishArgument current ++ argumentsAfter .plain [] rest :=
  argumentsAfter_blank (by decide) current rest

/-- What stands between quotes stays in the argument. -/
theorem argumentsAfter_protected {body : Text} (protects : Protected body) (current rest : Text) :
    argumentsAfter .quoted current (body ++ rest) =
      argumentsAfter .quoted (body.reverse ++ current) rest := by
  induction protects generalizing current with
  | nil => rfl
  | @plain c body ne_quote ne_backslash _ ih =>
    rw [List.cons_append, argumentsAfter, if_neg ne_backslash, if_neg ne_quote, ih,
      List.reverse_cons, List.append_assoc]
    rfl
  | @backslash c body _ ih =>
    rw [List.cons_append, List.cons_append, argumentsAfter, if_pos rfl, argumentsAfter, ih,
      List.reverse_cons, List.reverse_cons, List.append_assoc, List.append_assoc]
    rfl

/-- A quoted run stays in the argument. -/
theorem argumentsAfter_quoted {run : Text} (quoted : IsQuoted run) (current rest : Text) :
    argumentsAfter .plain current (run ++ rest) =
      argumentsAfter .plain (run.reverse ++ current) rest := by
  obtain ⟨body, protects, rfl⟩ := quoted
  rw [List.append_assoc, List.cons_append, argumentsAfter, if_pos rfl,
    argumentsAfter_protected protects, List.singleton_append, argumentsAfter,
    if_neg (by decide), if_pos rfl]
  simp

/-- Where no quote is left that is not protected, the argument takes all the rest. -/
theorem argumentsAfter_of_open (body current : Text)
    (closes : ∀ front more, body = front ++ .scalar '"' :: more → ¬ Protected front) :
    argumentsAfter .quoted current body = finishArgument (body.reverse ++ current) := by
  match body with
  | [] => rfl
  | [c] =>
    rw [argumentsAfter]
    split
    · rfl
    · have ne_quote : c ≠ .scalar '"' := fun same => closes [] [] (by rw [same]; rfl) .nil
      rw [if_neg ne_quote]
      rfl
  | c :: d :: rest =>
    rw [argumentsAfter]
    split
    · next backslash =>
      subst backslash
      have later := argumentsAfter_of_open rest (d :: .scalar '\\' :: current)
        fun front more same protects =>
          closes (.scalar '\\' :: d :: front) more (by rw [same]; rfl) (.backslash d protects)
      rw [argumentsAfter, later]
      simp
    · next ne_backslash =>
      have ne_quote : c ≠ .scalar '"' := fun same => closes [] (d :: rest) (by rw [same]; rfl) .nil
      have later := argumentsAfter_of_open (d :: rest) (c :: current)
        fun front more same protects =>
          closes (c :: front) more (by rw [same]; rfl) (.plain ne_quote ne_backslash protects)
      rw [if_neg ne_quote, later]
      simp

theorem finishArgument_of_ne_nil {current : Text} (some : current ≠ []) :
    finishArgument current = [current.reverse] := by
  rw [finishArgument, if_neg (by simpa using some)]

/-- A run that is not closed ends the last argument. -/
theorem argumentsAfter_unclosed {run : Text} (unclosed : IsUnclosed run) (current : Text) :
    argumentsAfter .plain current run = [current.reverse ++ run] := by
  obtain ⟨body, rfl, closes⟩ := unclosed
  rw [argumentsAfter, if_pos rfl, argumentsAfter_of_open body _ closes,
    finishArgument_of_ne_nil (by simp)]
  simp

/-! ## What becomes of a text -/

theorem ne_nil_of_mem_argumentsAfter (mode : Mode) (current t : Text) :
    ∀ a ∈ argumentsAfter mode current t, a ≠ [] := by
  have finished (current : Text) : ∀ a ∈ finishArgument current, a ≠ [] := by
    intro a mem
    unfold finishArgument at mem
    split at mem
    · cases mem
    · next some =>
      obtain rfl := List.mem_singleton.1 mem
      simpa using some
  induction t generalizing mode current with
  | nil => exact finished current
  | cons c t ih =>
    cases mode with
    | escaped => exact ih .quoted (c :: current)
    | quoted =>
      rw [argumentsAfter]
      split
      · exact ih .escaped (c :: current)
      split
      · exact ih .plain (c :: current)
      · exact ih .quoted (c :: current)
    | plain =>
      rw [argumentsAfter]
      split
      · exact ih .quoted (c :: current)
      split
      · exact List.forall_mem_append.2 ⟨finished current, ih .plain []⟩
      · exact ih .plain (c :: current)

/-- An argument that was begun is the first one. -/
theorem exists_argumentsAfter_eq_cons (mode : Mode) {current : Text} (begun : current ≠ [])
    (t : Text) :
    ∃ more others, argumentsAfter mode current t = (current.reverse ++ more) :: others := by
  induction t generalizing mode current with
  | nil => exact ⟨[], [], by rw [argumentsAfter, finishArgument_of_ne_nil begun, List.append_nil]⟩
  | cons c t ih =>
    have extended (mode : Mode) : ∃ more others,
        argumentsAfter mode (c :: current) t = (current.reverse ++ more) :: others := by
      obtain ⟨more, others, same⟩ := ih mode (List.cons_ne_nil c current)
      rw [List.reverse_cons, List.append_assoc] at same
      exact ⟨_, others, same⟩
    cases mode with
    | escaped => exact extended .quoted
    | quoted =>
      rw [argumentsAfter]
      split
      · exact extended .escaped
      split
      · exact extended .plain
      · exact extended .quoted
    | plain =>
      rw [argumentsAfter]
      split
      · exact extended .quoted
      split
      · refine ⟨[], argumentsAfter .plain [] t, ?_⟩
        rw [finishArgument_of_ne_nil begun, List.append_nil]
        rfl
      · exact extended .plain

theorem flatten_finishArgument (current : Text) :
    (finishArgument current).flatten = current.reverse := by
  unfold finishArgument
  cases current <;> simp

variable {t u current : Text}

/-- The arguments are made of all that is not left out. -/
theorem Unspaced.flatten_argumentsAfter (h : Unspaced t u) (current : Text) :
    (argumentsAfter .plain current t).flatten = current.reverse ++ u := by
  induction h generalizing current with
  | nil => simp [argumentsAfter, flatten_finishArgument]
  | blank blank _ ih =>
    rw [argumentsAfter_blank blank, List.flatten_append, flatten_finishArgument, ih]
    rfl
  | plain ne_quote dark _ ih => simp [argumentsAfter_plain ne_quote dark, ih]
  | quoted quoted _ ih => simp [argumentsAfter_quoted quoted, ih]
  | unclosed unclosed => simp [argumentsAfter_unclosed unclosed]

/-- A splitter that reads an unfinished argument from its beginning is again where it was. -/
def Settled (current : Text) : Prop :=
  ∀ rest, argumentsAfter .plain [] (current.reverse ++ rest) = argumentsAfter .plain current rest

theorem settled_nil : Settled [] := fun _ => rfl

theorem Settled.plain {c : Rune} (h : Settled current) (ne_quote : c ≠ .scalar '"')
    (dark : c.isBlank = false) : Settled (c :: current) := by
  intro rest
  rw [List.reverse_cons, List.append_assoc, List.singleton_append, h,
    argumentsAfter_plain ne_quote dark]

theorem Settled.quoted {run : Text} (h : Settled current) (quoted : IsQuoted run) :
    Settled (run.reverse ++ current) := by
  intro rest
  rw [List.reverse_append, List.reverse_reverse, List.append_assoc, h,
    argumentsAfter_quoted quoted]

/-- A finished argument and others with a space between them are read as they are. -/
theorem Settled.splitArguments_finishArgument (h : Settled current) {arguments : List Text}
    (rest : splitArguments (List.intercalate (text " ") arguments) = arguments) :
    splitArguments (List.intercalate (text " ") (finishArgument current ++ arguments)) =
      finishArgument current ++ arguments := by
  cases current with
  | nil => exact rest
  | cons c current =>
    have finish := finishArgument_of_ne_nil (List.cons_ne_nil c current)
    rw [finish, List.singleton_append]
    cases arguments with
    | nil =>
      have alone := h []
      rw [List.append_nil] at alone
      rw [List.intercalate_singleton, splitArguments, alone, argumentsAfter, finish]
    | cons a arguments =>
      rw [List.intercalate_cons_cons, List.append_assoc, splitArguments, h, argumentsAfter_space,
        finish]
      exact congrArg _ rest

/-- Arguments are read again from their text with single spaces between them. -/
theorem Unspaced.splitArguments_intercalate (h : Unspaced t u) (settled : Settled current) :
    splitArguments (List.intercalate (text " ") (argumentsAfter .plain current t)) =
      argumentsAfter .plain current t := by
  induction h generalizing current with
  | nil =>
    have none : splitArguments (List.intercalate (text " ") []) = [] := rfl
    have alone := settled.splitArguments_finishArgument none
    rwa [List.append_nil] at alone
  | blank blank _ ih =>
    rw [argumentsAfter_blank blank]
    exact settled.splitArguments_finishArgument (ih settled_nil)
  | plain ne_quote dark _ ih =>
    rw [argumentsAfter_plain ne_quote dark]
    exact ih (settled.plain ne_quote dark)
  | quoted quoted _ ih =>
    rw [argumentsAfter_quoted quoted]
    exact ih (settled.quoted quoted)
  | unclosed unclosed =>
    rw [argumentsAfter_unclosed unclosed, List.intercalate_singleton, splitArguments, settled,
      argumentsAfter_unclosed unclosed]

/-- The splitter loses nothing and is stable: no argument is empty, the arguments together are the
text without its white space outside of quoted runs, and their text with single spaces between them
has the same arguments again. -/
theorem splitArguments_lossless (t : Text) :
    (∀ a ∈ splitArguments t, a ≠ []) ∧
      (∀ u, Unspaced t u ↔ u = (splitArguments t).flatten) ∧
      splitArguments (List.intercalate (text " ") (splitArguments t)) = splitArguments t := by
  obtain ⟨u, unspaced⟩ := exists_unspaced t
  have flatten {v : Text} (h : Unspaced t v) : v = (splitArguments t).flatten :=
    (h.flatten_argumentsAfter []).symm
  refine ⟨ne_nil_of_mem_argumentsAfter .plain [] t, fun v => ⟨flatten, fun same => ?_⟩,
    unspaced.splitArguments_intercalate settled_nil⟩
  rw [same, ← flatten unspaced]
  exact unspaced

example : splitArguments (text "a:\"x \\\" y\"z  \"open b") =
    ["a:\"x \\\" y\"z", "\"open b"].map text := by decide

end EnumText.Directive
