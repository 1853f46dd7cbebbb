import EnumText.Proofs.Casing.Converting
import EnumText.Proofs.Text.Case
import EnumText.Proofs.Text.Spans

/-!
# Where names are split

The splitter keeps the word that it is in, and takes a capital back from it when a small letter
follows. Each cut can as well be told from the runes next to it: it lies between a small letter and
a capital, or before the last of several capitals with a small letter behind it.

* `wordsAfter_eq_wordsAhead`: the splitter lags one rune behind one that looks ahead.
* `IsPiece`: a part of a name between two cuts next to each other.
* `words_exact`: the words of a name are its pieces in order.
-/

namespace EnumText

/-! ## Looking ahead -/

/-- Whether a word ends between two runes, told from them and the one right after them: a capital
stands after a small letter, or after another capital and before a small letter. -/
def endsBetween (a b : Rune) (next : Option Rune) : Bool :=
  a.isLower && b.isUpper || a.isUpper && b.isUpper && next.any Rune.isLower

/-- The words of a text that stands after an unfinished word, which is given backwards, with each
cut made as soon as it is reached. -/
def wordsAhead (current : Text) : Text → List Text
  | [] => finishWord current
  | c :: rest =>
    if !c.isDelimiter && current.head?.any (fun a => !endsBetween a c rest.head?) then
      wordsAhead (c :: current) rest
    else finishWord current ++ wordsAhead (if c.isDelimiter then [] else [c]) rest

variable {a b c : Rune} {current earlier t : Text}

theorem wordsAhead_delimiter (delimiter : c.isDelimiter = true) (current t : Text) :
    wordsAhead current (c :: t) = finishWord current ++ wordsAhead [] t := by
  rw [wordsAhead, if_neg (by simp [delimiter]), if_pos delimiter]

theorem wordsAhead_first (plain : c.isDelimiter = false) (t : Text) :
    wordsAhead [] (c :: t) = wordsAhead [c] t := by
  rw [wordsAhead, if_neg (by simp), if_neg (by simp [plain])]
  rfl

theorem wordsAhead_cut (plain : c.isDelimiter = false) (ends : endsBetween a c t.head? = true)
    (earlier : Text) :
    wordsAhead (a :: earlier) (c :: t) = (a :: earlier).reverse :: wordsAhead [c] t := by
  rw [wordsAhead, if_neg (by simp [ends]), if_neg (by simp [plain]),
    finishWord_of_ne_nil (List.cons_ne_nil a earlier)]
  rfl

theorem wordsAhead_inside (plain : c.isDelimiter = false) (inside : endsBetween a c t.head? = false)
    (earlier : Text) : wordsAhead (a :: earlier) (c :: t) = wordsAhead (c :: a :: earlier) t := by
  rw [wordsAhead, if_pos (by simp [plain, inside])]

/-- Where the second rune is not the last capital of several, it is joined to an unfinished word. -/
theorem wordsAhead_cons (plain : b.isDelimiter = false)
    (joined : ∀ a ∈ earlier.head?, endsBetween a b t.head? = false) :
    wordsAhead earlier (b :: t) = wordsAhead (b :: earlier) t := by
  cases earlier with
  | nil => exact wordsAhead_first plain t
  | cons a earlier => exact wordsAhead_inside plain (joined a rfl) earlier

/-- The splitter has taken a rune into the word before it knows what comes next, and so stands one
rune behind the splitter that looks ahead. -/
theorem wordsAfter_eq_wordsAhead (t : Text) :
    wordsAfter [] t = wordsAhead [] t ∧
      ∀ (b : Rune) (earlier : Text), b.isDelimiter = false →
        (∀ a ∈ earlier.head?, (a.isLower && b.isUpper) = false) →
        wordsAfter (b :: earlier) t = wordsAhead earlier (b :: t) := by
  induction t with
  | nil =>
    refine ⟨rfl, fun b earlier plain taken => ?_⟩
    have joined : ∀ a ∈ earlier.head?, endsBetween a b none = false := fun a last => by
      simp [endsBetween, taken a last]
    rw [wordsAhead_cons plain joined]
    rfl
  | cons c t ih =>
    obtain ⟨fresh, ih⟩ := ih
    constructor
    · by_cases delimiter : c.isDelimiter = true
      · rw [wordsAhead_delimiter delimiter, wordsAfter, if_pos delimiter, fresh]
      · rw [wordsAfter, if_neg delimiter]
        exact ih c [] (Bool.eq_false_iff.2 delimiter) (by simp)
    intro b earlier plain taken
    -- what the rune after `b` says about a cut before `b`
    have joined (small : c.isLower = false) :
        ∀ a ∈ earlier.head?, endsBetween a b (some c) = false := fun a last => by
      simp [endsBetween, taken a last, small]
    by_cases delimiter : c.isDelimiter = true
    · have small := Rune.isLower_eq_false_of_isDelimiter delimiter
      rw [wordsAhead_cons plain (joined small), wordsAhead_delimiter delimiter, wordsAfter,
        if_pos delimiter, fresh]
    have other := Bool.eq_false_iff.2 delimiter
    rw [wordsAfter, if_neg delimiter]
    split
    · next capital =>
      obtain ⟨small, capital⟩ := Bool.and_eq_true_iff.1 capital
      have ends : endsBetween b c t.head? = true := by simp [endsBetween, small, capital]
      rw [wordsAhead_cons plain (joined (Rune.isLower_eq_false_of_isUpper capital)),
        wordsAhead_cut other ends, ih c [] other (by simp), wordsAhead_first other]
    split
    · next acronym =>
      obtain ⟨small, last⟩ : (c.isLower = true ∧ b.isUpper = true) ∧
          earlier.head?.any Rune.isUpper = true := by simpa using acronym
      cases earlier with
      | nil => cases last
      | cons a earlier =>
        have capital : a.isUpper = true := last
        have ends : endsBetween a b (some c) = true := by simp [endsBetween, small, capital]
        have single : (b.isLower && c.isUpper) = false := by
          simp [Rune.isLower_eq_false_of_isUpper small.2]
        rw [wordsAhead_cut plain ends, ih c [b] other (by simpa using single)]
    · next noCapital noAcronym =>
      have joined : ∀ a ∈ earlier.head?, endsBetween a b (some c) = false := fun a last => by
        have apart : (c.isLower && b.isUpper && a.isUpper) = false := by
          rw [Bool.eq_false_iff]
          intro all
          exact noAcronym (by simpa [Option.mem_def.1 last] using all)
        simp only [endsBetween, taken a last, Bool.false_or, Option.any_some]
        rw [← apart]
        ac_rfl
      rw [wordsAhead_cons plain joined, ih c (b :: earlier) other (by simpa using noCapital)]

theorem words_eq_wordsAhead (name : Text) : words name = wordsAhead [] name :=
  (wordsAfter_eq_wordsAhead name).1

theorem flatten_finishWord (current : Text) : (finishWord current).flatten = current.reverse := by
  unfold finishWord
  cases current <;> simp

theorem flatten_wordsAhead (current t : Text) :
    (wordsAhead current t).flatten = current.reverse ++ t.filter fun c => !c.isDelimiter := by
  induction t generalizing current with
  | nil => simp [wordsAhead, flatten_finishWord]
  | cons c t ih =>
    rw [wordsAhead]
    split
    · next inside =>
      have plain : c.isDelimiter = false := by
        simpa using (Bool.and_eq_true_iff.1 inside).1
      simp [ih, plain]
    · rw [List.flatten_append, flatten_finishWord, ih]
      cases delimiter : c.isDelimiter <;> simp [delimiter]

/-! ## Pieces -/

/-- Two neighbours in a name belong to one word: neither is a delimiter, and no word ends between
them. -/
def Joined (name : Text) (i : Nat) : Prop :=
  ∃ a b, name[i]? = some a ∧ name[i + 1]? = some b ∧ a.isDelimiter = false ∧
    b.isDelimiter = false ∧ endsBetween a b name[i + 2]? = false

/-- A word is under way from one offset to another: what stands there belongs to one word, and what
stands before does not belong to it. -/
structure Underway (name : Text) (start stop : Nat) : Prop where
  le : start ≤ stop
  plain : ∀ i, start ≤ i → i < stop → ∃ c, name[i]? = some c ∧ c.isDelimiter = false
  joined : ∀ i, start ≤ i → i + 1 < stop → Joined name i
  first : ∀ i, i + 1 = start → ¬ Joined name i

/-- A part of a name that is not empty and belongs to one word, which goes on neither before nor
after it. -/
structure IsPiece (name : Text) (span : Span) : Prop extends
    Underway name span.start span.stop where
  lt : span.start < span.stop
  last : ∀ i, i + 1 = span.stop → ¬ Joined name i

variable {name : Text} {start stop : Nat} {span span' : Span} {spans : List Span}

/-- Pieces that overlap are the same. -/
theorem IsPiece.eq_of_overlap (h : IsPiece name span) (h' : IsPiece name span')
    (overlap : span.Holds span'.start) : span = span' := by
  obtain ⟨start, stop⟩ := span
  obtain ⟨start', stop'⟩ := span'
  obtain ⟨le, lt⟩ : start ≤ start' ∧ start' < stop := overlap
  have lt' : start' < stop' := h'.lt
  rcases Nat.eq_or_lt_of_le le with rfl | before
  · rcases Nat.lt_trichotomy stop stop' with shorter | rfl | longer
    · have inside := h'.joined (stop - 1) (by simp only; omega) (by simp only; omega)
      exact absurd inside (h.last _ (by simp only; omega))
    · rfl
    · have inside := h.joined (stop' - 1) (by simp only; omega) (by simp only; omega)
      exact absurd inside (h'.last _ (by simp only; omega))
  · have inside := h.joined (start' - 1) (by simp only; omega) (by simp only; omega)
    exact absurd inside (h'.first _ (by simp only; omega))

/-- A rune that is joined to the one before it belongs to the word under way. -/
theorem Underway.succ (h : Underway name start stop) (here : name[stop]? = some c)
    (plain : c.isDelimiter = false) (joined : ∀ i, start ≤ i → i + 1 = stop → Joined name i) :
    Underway name start (stop + 1) := by
  refine ⟨Nat.le_succ_of_le h.le, fun i from_start before => ?_, fun i from_start before => ?_,
    h.first⟩
  · rcases Nat.lt_succ_iff_lt_or_eq.1 before with inside | rfl
    · exact h.plain i from_start inside
    · exact ⟨c, here, plain⟩
  · rcases Nat.lt_succ_iff_lt_or_eq.1 before with inside | last
    · exact h.joined i from_start inside
    · exact joined i from_start last

/-- No word is under way where none goes on. -/
theorem underway_nil (first : ∀ i, i + 1 = start → ¬ Joined name i) :
    Underway name start start :=
  ⟨Nat.le_refl _, fun i _ _ => by omega, fun i _ _ => by omega, first⟩

theorem not_joined_of_isDelimiter {i : Nat} (here : name[i]? = some c)
    (delimiter : c.isDelimiter = true) : ¬ Joined name i := by
  intro joined
  obtain ⟨a, -, there, -, plain, -⟩ := joined
  obtain rfl := Option.some.inj (here.symm.trans there)
  rw [plain] at delimiter
  cases delimiter

/-- The splitter that looks ahead goes on with a word if the next rune is joined to it. -/
theorem Underway.goesOn_iff (h : Underway name start stop) (here : name[stop]? = some c) :
    (!c.isDelimiter && (name.slice start stop).reverse.head?.any
        fun a => !endsBetween a c name[stop + 1]?) = true ↔
      ∃ i, start ≤ i ∧ i + 1 = stop ∧ Joined name i := by
  rcases Nat.eq_or_lt_of_le h.le with rfl | lt
  · rw [Text.slice_self]
    constructor
    · intro goesOn
      simp at goesOn
    · intro before
      obtain ⟨i, from_start, ends, -⟩ := before
      omega
  · obtain ⟨m, rfl⟩ : ∃ m, stop = m + 1 := ⟨stop - 1, by omega⟩
    obtain ⟨a, before, plain⟩ := h.plain m (by omega) (by omega)
    rw [Text.slice_succ (by omega) before, List.reverse_append]
    constructor
    · intro goesOn
      have ⟨other, inside⟩ : c.isDelimiter = false ∧ endsBetween a c name[m + 2]? = false := by
        simpa using goesOn
      exact ⟨m, by omega, rfl, a, c, before, here, plain, other, inside⟩
    · intro joined
      obtain ⟨i, -, ends, a', c', before', here', -, other, inside⟩ := joined
      obtain rfl : i = m := by omega
      obtain rfl := Option.some.inj (before.symm.trans before')
      obtain rfl := Option.some.inj (here.symm.trans here')
      simp [other, inside]

/-! ## All pieces -/

/-- The pieces of a name from an offset on: they stand in order, and all runes but the delimiters
belong to them. -/
structure Splits (name : Text) (start : Nat) (spans : List Span) : Prop where
  ordered : spans.Pairwise fun span next => span.stop ≤ next.start
  pieces : ∀ span ∈ spans, start ≤ span.start ∧ IsPiece name span
  cover : ∀ i c, start ≤ i → name[i]? = some c → c.isDelimiter = false →
    ∃ span ∈ spans, span.Holds i

theorem splits_nil (le : name.length ≤ start) : Splits name start [] := by
  refine ⟨.nil, fun span mem => (List.not_mem_nil mem).elim, fun i c from_start here _ => ?_⟩
  obtain ⟨inside, -⟩ := List.getElem?_eq_some_iff.1 here
  omega

theorem Splits.delimiter (h : Splits name (start + 1) spans) (here : name[start]? = some c)
    (delimiter : c.isDelimiter = true) : Splits name start spans := by
  refine ⟨h.ordered, fun span mem => ?_, fun i d from_start there plain => ?_⟩
  · have ⟨later, piece⟩ := h.pieces span mem
    exact ⟨Nat.le_of_succ_le later, piece⟩
  · rcases Nat.eq_or_lt_of_le from_start with rfl | later
    · obtain rfl := Option.some.inj (here.symm.trans there)
      rw [plain] at delimiter
      cases delimiter
    · exact h.cover i d later there plain

theorem Splits.piece (h : Splits name span.stop spans) (piece : IsPiece name span) :
    Splits name span.start (span :: spans) := by
  refine ⟨List.pairwise_cons.2 ⟨fun next mem => (h.pieces next mem).1, h.ordered⟩,
    List.forall_mem_cons.2 ⟨⟨Nat.le_refl _, piece⟩, fun next mem => ?_⟩,
    fun i c from_start here plain => ?_⟩
  · have ⟨later, other⟩ := h.pieces next mem
    exact ⟨Nat.le_trans piece.le later, other⟩
  · rcases Nat.lt_or_ge i span.stop with inside | later
    · exact ⟨span, List.mem_cons_self, from_start, inside⟩
    · obtain ⟨next, mem, holds⟩ := h.cover i c later here plain
      exact ⟨next, List.mem_cons_of_mem _ mem, holds⟩

/-- What is under way becomes a piece when nothing is joined to it. -/
theorem Splits.finish (h : Splits name stop spans) (underway : Underway name start stop)
    (last : ∀ i, start ≤ i → i + 1 = stop → ¬ Joined name i) :
    ∃ all, finishWord (name.slice start stop).reverse ++
        spans.map (fun span => name.slice span.start span.stop) =
          all.map (fun span => name.slice span.start span.stop) ∧ Splits name start all := by
  rcases Nat.eq_or_lt_of_le underway.le with rfl | lt
  · refine ⟨spans, ?_, h⟩
    rw [Text.slice_self]
    rfl
  · obtain ⟨c, here, -⟩ := underway.plain start (Nat.le_refl _) lt
    obtain ⟨inside, -⟩ := List.getElem?_eq_some_iff.1 here
    have some := Text.slice_ne_nil lt inside
    have piece : IsPiece name ⟨start, stop⟩ :=
      { underway with
        lt := lt
        last := fun i ends => last i (by simp only at ends; omega) ends }
    refine ⟨⟨start, stop⟩ :: spans, ?_, h.piece piece⟩
    rw [finishWord_of_ne_nil (by simpa using some), List.reverse_reverse]
    rfl

/-- What the splitter that looks ahead makes of a name from a word under way on. -/
theorem exists_splits (t : Text) {start stop : Nat} (rest : name.drop stop = t)
    (underway : Underway name start stop) :
    ∃ spans, wordsAhead (name.slice start stop).reverse t =
        spans.map (fun span => name.slice span.start span.stop) ∧ Splits name start spans := by
  induction t generalizing start stop with
  | nil =>
    have atEnd : name.length ≤ stop := List.drop_eq_nil_iff.1 rest
    have last : ∀ i, start ≤ i → i + 1 = stop → ¬ Joined name i := by
      intro i _ ends joined
      obtain ⟨-, b, -, there, -⟩ := joined
      obtain ⟨inside, -⟩ := List.getElem?_eq_some_iff.1 there
      omega
    obtain ⟨all, same, splits⟩ := (splits_nil atEnd).finish underway last
    rw [List.map_nil, List.append_nil] at same
    exact ⟨all, same, splits⟩
  | cons c t ih =>
    have here : name[stop]? = some c := by
      rw [← List.head?_drop, rest]
      rfl
    have rest : name.drop (stop + 1) = t := by
      rw [← List.tail_drop, rest]
      rfl
    have next : t.head? = name[stop + 1]? := by rw [← List.head?_drop, rest]
    rw [wordsAhead, next]
    split
    · next goesOn =>
      obtain ⟨i, -, rfl, joined⟩ := (underway.goesOn_iff here).1 goesOn
      have plain : c.isDelimiter = false := by simpa using (Bool.and_eq_true_iff.1 goesOn).1
      have longer := ih rest (underway.succ here plain fun j _ ends => by
        obtain rfl : j = i := by omega
        exact joined)
      rwa [Text.slice_succ underway.le here, List.reverse_append] at longer
    next ends =>
    have last : ∀ i, start ≤ i → i + 1 = stop → ¬ Joined name i :=
      fun i from_start before joined =>
        ends ((underway.goesOn_iff here).2 ⟨i, from_start, before, joined⟩)
    by_cases delimiter : c.isDelimiter = true
    · have fresh : Underway name (stop + 1) (stop + 1) := by
        apply underway_nil
        intro i before
        obtain rfl : i = stop := by omega
        exact not_joined_of_isDelimiter here delimiter
      obtain ⟨spans, same, splits⟩ := ih rest fresh
      rw [Text.slice_self, List.reverse_nil] at same
      rw [if_pos delimiter, same]
      exact (splits.delimiter here delimiter).finish underway last
    · have fresh : Underway name stop stop := by
        apply underway_nil
        intro i before
        rcases Nat.lt_or_ge i start with earlier | from_start
        · have le := underway.le
          exact underway.first i (by omega)
        · exact last i from_start before
      have single := fresh.succ here (Bool.eq_false_iff.2 delimiter) fun i _ _ => by omega
      obtain ⟨spans, same, splits⟩ := ih rest single
      rw [Text.slice_succ (Nat.le_refl _) here, Text.slice_self, List.nil_append,
        List.reverse_singleton] at same
      rw [if_neg delimiter, same]
      exact splits.finish underway last

/-- The words of a name are its pieces in order: a name is cut at its delimiters, which are dropped,
and between two neighbours where a capital stands after a small letter, or after another capital and
before a small letter; no rune is a small letter and a capital. So words are not empty, hold no
delimiters, and make up the name without its delimiters. -/
theorem words_exact (name : Text) :
    (∀ c : Rune, ¬ (c.isLower = true ∧ c.isUpper = true)) ∧
      (∃ spans : List Span,
        words name = spans.map (fun span => name.slice span.start span.stop) ∧
        spans.Pairwise (fun span next => span.stop ≤ next.start) ∧
        ∀ span, span ∈ spans ↔ IsPiece name span) ∧
      (∀ w ∈ words name, w ≠ [] ∧ ∀ c ∈ w, c.isDelimiter = false) ∧
      (words name).flatten = name.filter fun c => !c.isDelimiter := by
  have neither : ∀ c : Rune, ¬ (c.isLower = true ∧ c.isUpper = true) := by
    intro c both
    exact Bool.eq_false_iff.1 (Rune.isUpper_eq_false_of_isLower both.1) both.2
  have fresh : Underway name 0 0 := underway_nil fun i before => by omega
  obtain ⟨spans, same, splits⟩ := exists_splits name rfl fresh
  rw [Text.slice_self] at same
  have pieces : ∀ span, span ∈ spans ↔ IsPiece name span := by
    intro span
    constructor
    · intro mem
      exact (splits.pieces _ mem).2
    · intro piece
      obtain ⟨c, here, plain⟩ := piece.plain span.start (Nat.le_refl _) piece.lt
      obtain ⟨own, mem, holds⟩ := splits.cover span.start c (Nat.zero_le _) here plain
      obtain rfl := (splits.pieces own mem).2.eq_of_overlap piece holds
      exact mem
  refine ⟨neither, ⟨spans, (words_eq_wordsAhead name).trans same, splits.ordered, pieces⟩,
    fun w mem => (isWord_of_mem_words mem).1, ?_⟩
  rw [words_eq_wordsAhead, flatten_wordsAhead]
  rfl

example : words (text "parse_HTTPResponse2") = ["parse", "HTTP", "Response2"].map text := by decide

end EnumText
