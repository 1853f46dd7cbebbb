import EnumText.Proofs.Text.Ascii

/-!
# Names in another casing

A convention writes the words of a name so that the same words are read again, but for their case:
any words with delimiters between them, and without delimiters those of two letters or more that
begin and end with a letter. Each convention looks at the lower case of the words alone, so nothing
is lost for a second conversion.

* `words_intercalate`, `words_append_flatten`: words that are put together are split again.
* `Casing.words_join`: the words of a written name, as the convention spells them.
* `Casing.transform_transform`: a name that is converted twice.
-/

namespace EnumText

variable {current a b t w : Text} {c d : Rune} {ws : List Text}

/-! ## One rune -/

/-- The words that a rune finishes. -/
def finishedBefore (current : Text) (c : Rune) : List Text :=
  if c.isDelimiter then finishWord current
  else
    match current with
    | [] => []
    | last :: earlier =>
      if last.isLower && c.isUpper then [current.reverse]
      else if c.isLower && last.isUpper && earlier.head?.any Rune.isUpper then [earlier.reverse]
      else []

/-- The unfinished word after a rune, given backwards. -/
def wordWith (current : Text) (c : Rune) : Text :=
  if c.isDelimiter then []
  else
    match current with
    | [] => [c]
    | last :: earlier =>
      if last.isLower && c.isUpper then [c]
      else if c.isLower && last.isUpper && earlier.head?.any Rune.isUpper then [c, last]
      else c :: current

theorem wordsAfter_cons (current : Text) (c : Rune) (t : Text) :
    wordsAfter current (c :: t) =
      finishedBefore current c ++ wordsAfter (wordWith current c) t := by
  unfold finishedBefore wordWith
  rw [wordsAfter.eq_def]
  dsimp only
  split
  · rfl
  · cases current with
    | nil => rfl
    | cons last earlier =>
      dsimp only
      split
      · rfl
      split <;> rfl

theorem of_mem_finishWord (mem : w ∈ finishWord current) : w ≠ [] ∧ ∀ d ∈ w, d ∈ current := by
  unfold finishWord at mem
  split at mem
  · cases mem
  · next some =>
    obtain rfl := List.mem_singleton.1 mem
    exact ⟨by simpa using some, fun d inside => List.mem_reverse.1 inside⟩

theorem of_mem_finishedBefore (mem : w ∈ finishedBefore current c) :
    w ≠ [] ∧ ∀ d ∈ w, d ∈ current := by
  unfold finishedBefore at mem
  split at mem
  · exact of_mem_finishWord mem
  split at mem
  · cases mem
  · next last earlier =>
    split at mem
    · obtain rfl := List.mem_singleton.1 mem
      exact ⟨by simp, fun d inside => List.mem_reverse.1 inside⟩
    split at mem
    · next acronym =>
      obtain rfl := List.mem_singleton.1 mem
      have some : earlier ≠ [] := by
        rintro rfl
        simp at acronym
      exact ⟨by simpa using some, fun d inside => .tail _ (List.mem_reverse.1 inside)⟩
    · cases mem

theorem of_mem_wordWith (mem : d ∈ wordWith current c) :
    d = c ∧ c.isDelimiter = false ∨ d ∈ current := by
  unfold wordWith at mem
  split at mem
  · cases mem
  next plain =>
  have plain := Bool.eq_false_iff.2 plain
  have here {s : Text} (sub : s ⊆ current) (mem : d ∈ c :: s) :
      d = c ∧ c.isDelimiter = false ∨ d ∈ current :=
    (List.mem_cons.1 mem).imp (fun same => ⟨same, plain⟩) fun inside => sub inside
  split at mem
  · exact here (List.nil_subset _) mem
  split at mem
  · exact here (List.nil_subset _) mem
  split at mem
  · exact here (by simp) mem
  · exact here (List.Subset.refl _) mem

/-- A rune that is no delimiter is the last of the unfinished word. -/
theorem exists_wordWith_eq_cons (plain : c.isDelimiter = false) (current : Text) :
    ∃ earlier, wordWith current c = c :: earlier := by
  unfold wordWith
  rw [if_neg (by simp [plain])]
  split
  · exact ⟨_, rfl⟩
  split
  · exact ⟨_, rfl⟩
  split <;> exact ⟨_, rfl⟩

/-! ## Words -/

/-- Words are not empty, and are made of the runes of a name that are no delimiters. -/
theorem of_mem_wordsAfter (clean : ∀ d ∈ current, d.isDelimiter = false)
    (mem : w ∈ wordsAfter current t) :
    w ≠ [] ∧ ∀ d ∈ w, d.isDelimiter = false ∧ (d ∈ current ∨ d ∈ t) := by
  induction t generalizing current with
  | nil =>
    obtain ⟨some, inside⟩ := of_mem_finishWord mem
    exact ⟨some, fun d mem => ⟨clean d (inside d mem), .inl (inside d mem)⟩⟩
  | cons c t ih =>
    rw [wordsAfter_cons] at mem
    rcases List.mem_append.1 mem with mem | mem
    · obtain ⟨some, inside⟩ := of_mem_finishedBefore mem
      exact ⟨some, fun d mem => ⟨clean d (inside d mem), .inl (inside d mem)⟩⟩
    · have clean : ∀ d ∈ wordWith current c, d.isDelimiter = false := by
        intro d mem
        rcases of_mem_wordWith mem with ⟨rfl, plain⟩ | earlier
        · exact plain
        · exact clean d earlier
      obtain ⟨some, inside⟩ := ih clean mem
      refine ⟨some, fun d mem => ⟨(inside d mem).1, ?_⟩⟩
      rcases (inside d mem).2 with front | later
      · exact (of_mem_wordWith front).symm.imp_right fun ⟨same, _⟩ => same ▸ List.mem_cons_self
      · exact .inr (List.mem_cons_of_mem _ later)

/-- Two texts whose seam is the end of a word have the words of both. -/
theorem wordsAfter_append (current : Text)
    (seam : wordsAfter (a.foldl wordWith current) b =
      finishWord (a.foldl wordWith current) ++ words b) :
    wordsAfter current (a ++ b) = wordsAfter current a ++ words b := by
  induction a generalizing current with
  | nil => exact seam
  | cons c a ih =>
    rw [List.cons_append, wordsAfter_cons, wordsAfter_cons, ih _ seam, List.append_assoc]

theorem words_append_delimiter (delimiter : d.isDelimiter = true) (a b : Text) :
    words (a ++ d :: b) = words a ++ words b := by
  have front (current : Text) : wordsAfter current (d :: b) = finishWord current ++ words b := by
    rw [wordsAfter_cons, finishedBefore.eq_def, wordWith.eq_def, if_pos delimiter, if_pos delimiter]
    rfl
  have own : words (d :: b) = words b := front []
  rw [words, wordsAfter_append [] (by rw [front, own]), own]
  rfl

/-- A capital after a small letter begins a word. -/
theorem words_append_capital (small : d.isLower = true) (capital : c.isUpper = true)
    (plain : d.isDelimiter = false) (other : c.isDelimiter = false) (a b : Text) :
    words (a ++ [d] ++ c :: b) = words (a ++ [d]) ++ words (c :: b) := by
  refine wordsAfter_append [] ?_
  obtain ⟨earlier, last⟩ := exists_wordWith_eq_cons plain (a.foldl wordWith [])
  rw [List.foldl_append, List.foldl_cons, List.foldl_nil, last, wordsAfter_cons, words,
    wordsAfter_cons]
  simp [finishedBefore, wordWith, finishWord, small, capital, other]

/-- A word without inner boundaries. -/
theorem wordsAfter_cons_inside (plain : c.isDelimiter = false)
    (noCapital : current.head?.any Rune.isLower = true → c.isUpper = false)
    (noAcronym : current.head?.any Rune.isUpper = true →
      current.tail.head?.any Rune.isUpper = true → c.isLower = false) (t : Text) :
    wordsAfter current (c :: t) = wordsAfter (c :: current) t := by
  rw [wordsAfter_cons, finishedBefore.eq_def, wordWith.eq_def, if_neg (by simp [plain]),
    if_neg (by simp [plain])]
  cases current with
  | nil => rfl
  | cons last earlier =>
    have first : (last.isLower && c.isUpper) = false := by
      cases small : last.isLower with
      | false => rfl
      | true => simpa using noCapital (by simpa using small)
    have second : (c.isLower && last.isUpper && earlier.head?.any Rune.isUpper) = false := by
      cases capital : last.isUpper with
      | false => simp
      | true =>
        cases before : earlier.head?.any Rune.isUpper with
        | false => simp
        | true => simpa using noAcronym (by simpa using capital) before
    simp [first, second]

/-- A text of at least one rune and without delimiters. -/
def IsWord (w : Text) : Prop := w ≠ [] ∧ ∀ c ∈ w, c.isDelimiter = false

theorem isWord_of_mem_words (mem : w ∈ words t) : IsWord w ∧ ∀ c ∈ w, c ∈ t := by
  obtain ⟨some, inside⟩ := of_mem_wordsAfter (List.forall_mem_nil _) mem
  refine ⟨⟨some, fun c mem => (inside c mem).1⟩, fun c mem => ?_⟩
  exact (inside c mem).2.resolve_left List.not_mem_nil

theorem finishWord_of_ne_nil (some : current ≠ []) : finishWord current = [current.reverse] := by
  rw [finishWord, if_neg (by simpa using some)]

/-- Behind one capital at most, small letters do not begin words. -/
theorem wordsAfter_of_not_isUpper (plain : ∀ c ∈ t, c.isDelimiter = false)
    (small : ∀ c ∈ t, c.isUpper = false)
    (start : current.tail = [] ∨ current.head?.any Rune.isUpper = false) :
    wordsAfter current t = finishWord (t.reverse ++ current) := by
  induction t generalizing current with
  | nil => rfl
  | cons c t ih =>
    obtain ⟨first, plain⟩ := List.forall_mem_cons.1 plain
    obtain ⟨here, small⟩ := List.forall_mem_cons.1 small
    rw [wordsAfter_cons_inside first (fun _ => here), ih plain small (.inr (by simpa using here)),
      List.reverse_cons, List.append_assoc]
    · rfl
    · intro last before
      rcases start with none | other
      · rw [none] at before
        cases before
      · rw [other] at last
        cases last

/-- Capitals do not begin words where no small letter stands before them. -/
theorem wordsAfter_of_not_isLower (plain : ∀ c ∈ t, c.isDelimiter = false)
    (capital : ∀ c ∈ t, c.isLower = false) (start : current.head?.any Rune.isLower = false) :
    wordsAfter current t = finishWord (t.reverse ++ current) := by
  induction t generalizing current with
  | nil => rfl
  | cons c t ih =>
    obtain ⟨first, plain⟩ := List.forall_mem_cons.1 plain
    obtain ⟨here, capital⟩ := List.forall_mem_cons.1 capital
    rw [wordsAfter_cons_inside first, ih plain capital (by simpa using here), List.reverse_cons,
      List.append_assoc]
    · rfl
    · intro last
      rw [start] at last
      cases last
    · exact fun _ _ => here

/-! ## Words that are put together -/

theorem words_intercalate (delimiter : d.isDelimiter = true) (each : ∀ w ∈ ws, words w = [w]) :
    words (List.intercalate [d] ws) = ws := by
  induction ws with
  | nil => rfl
  | cons w ws ih =>
    obtain ⟨first, others⟩ := List.forall_mem_cons.1 each
    cases ws with
    | nil => simpa using first
    | cons v ws =>
      rw [List.intercalate_cons_cons, List.append_assoc, List.singleton_append,
        words_append_delimiter delimiter, first, ih others]
      rfl

/-- A text ends with a small letter. -/
def EndsSmall (w : Text) : Prop :=
  ∃ front d, w = front ++ [d] ∧ d.isLower = true ∧ d.isDelimiter = false

/-- A text begins with a capital. -/
def BeginsCapital (w : Text) : Prop :=
  ∃ c rest, w = c :: rest ∧ c.isUpper = true ∧ c.isDelimiter = false

/-- Words that begin with a capital and end with a small letter need no delimiters. -/
theorem words_append_flatten (first : words w = [w]) (ends : EndsSmall w)
    (each : ∀ v ∈ ws, words v = [v] ∧ BeginsCapital v ∧ EndsSmall v) :
    words (w ++ ws.flatten) = w :: ws := by
  induction ws generalizing w with
  | nil => simpa using first
  | cons v ws ih =>
    obtain ⟨front, d, rfl, small, plain⟩ := ends
    obtain ⟨⟨next, ⟨c, rest, rfl, capital, other⟩, ends⟩, later⟩ := List.forall_mem_cons.1 each
    rw [List.flatten_cons, List.cons_append, words_append_capital small capital plain other, first]
    exact congrArg _ (ih next ends later)

/-! ## Spelled words -/

/-- A word of two runes or more that begins and ends with a letter. -/
def IsLettered (w : Text) : Prop :=
  2 ≤ w.length ∧ w.head?.any Rune.isLetter = true ∧ w.getLast?.any Rune.isLetter = true

instance (w : Text) : Decidable (IsLettered w) :=
  inferInstanceAs (Decidable (_ ∧ _ ∧ _))

theorem words_lower (ascii : w.IsAscii) (word : IsWord w) : words w.lower = [w.lower] := by
  rw [Text.lower_of_isAscii ascii]
  have plain : ∀ c ∈ w.map Rune.small, c.isDelimiter = false :=
    List.forall_mem_map.2 fun c mem => by
      rw [(ascii c mem).forms.isDelimiter_small, word.2 c mem]
  have small : ∀ c ∈ w.map Rune.small, c.isUpper = false :=
    List.forall_mem_map.2 fun c mem => (ascii c mem).forms.isUpper_small
  have whole : wordsAfter [] _ = _ := wordsAfter_of_not_isUpper plain small (.inl rfl)
  rwa [List.append_nil, finishWord_of_ne_nil (by simpa using word.1), List.reverse_reverse] at whole

theorem words_upper (ascii : w.IsAscii) (word : IsWord w) : words w.upper = [w.upper] := by
  rw [Text.upper_of_isAscii ascii]
  have plain : ∀ c ∈ w.map Rune.capital, c.isDelimiter = false :=
    List.forall_mem_map.2 fun c mem => by
      rw [(ascii c mem).forms.isDelimiter_capital, word.2 c mem]
  have capital : ∀ c ∈ w.map Rune.capital, c.isLower = false :=
    List.forall_mem_map.2 fun c mem => (ascii c mem).forms.isLower_capital
  have whole : wordsAfter [] _ = _ := wordsAfter_of_not_isLower plain capital rfl
  rwa [List.append_nil, finishWord_of_ne_nil (by simpa using word.1), List.reverse_reverse] at whole

theorem words_capitalize (ascii : w.IsAscii) (word : IsWord w) :
    words (capitalize w) = [capitalize w] := by
  obtain ⟨some, plain⟩ := word
  obtain ⟨c, w, rfl⟩ := List.exists_cons_of_ne_nil some
  obtain ⟨first, others⟩ := Text.isAscii_cons.1 ascii
  obtain ⟨here, plain⟩ := List.forall_mem_cons.1 plain
  have plain : ∀ c ∈ w.map Rune.small, c.isDelimiter = false :=
    List.forall_mem_map.2 fun c mem => by
      rw [(others c mem).forms.isDelimiter_small, plain c mem]
  have small : ∀ c ∈ w.map Rune.small, c.isUpper = false :=
    List.forall_mem_map.2 fun c mem => (others c mem).forms.isUpper_small
  have single : c.capital.isDelimiter = false := by rw [first.forms.isDelimiter_capital, here]
  rw [Text.capitalize_of_isAscii ascii, words,
    wordsAfter_cons_inside single (by simp) (by simp),
    wordsAfter_of_not_isUpper plain small (.inl rfl), finishWord_of_ne_nil (by simp)]
  simp

theorem endsSmall_lower (ascii : w.IsAscii) (word : IsWord w) (lettered : IsLettered w) :
    EndsSmall w.lower := by
  obtain ⟨-, -, last⟩ := lettered
  obtain ⟨front, d, rfl⟩ := List.eq_nil_or_concat w |>.resolve_left word.1
  rw [List.concat_eq_append] at *
  have form := ascii d (by simp)
  refine ⟨front.map Rune.small, d.small, ?_, form.forms.isLower_small (by simpa using last), ?_⟩
  · rw [Text.lower_of_isAscii ascii, List.map_append, List.map_singleton]
  · rw [form.forms.isDelimiter_small, word.2 d (by simp)]

/-- A capitalized word of two runes or more ends as it does in lower case. -/
theorem endsSmall_capitalize (ascii : w.IsAscii) (word : IsWord w) (lettered : IsLettered w) :
    EndsSmall (capitalize w) := by
  obtain ⟨front, d, same, small, plain⟩ := endsSmall_lower ascii word lettered
  obtain ⟨c, w, rfl⟩ := List.exists_cons_of_ne_nil word.1
  rw [Text.lower_of_isAscii ascii, List.map_cons] at same
  rw [Text.capitalize_of_isAscii ascii]
  cases front with
  | nil =>
    have single := congrArg List.length same
    have long := lettered.1
    simp only [List.length_cons, List.length_map, List.nil_append, List.length_nil] at single long
    omega
  | cons e front =>
    rw [(List.cons.inj same).2]
    exact ⟨c.capital :: front, d, rfl, small, plain⟩

theorem beginsCapital_capitalize (ascii : w.IsAscii) (word : IsWord w) (lettered : IsLettered w) :
    BeginsCapital (capitalize w) := by
  obtain ⟨-, first, -⟩ := lettered
  obtain ⟨c, w, rfl⟩ := List.exists_cons_of_ne_nil word.1
  have form := (ascii c (by simp)).forms
  refine ⟨c.capital, _, Text.capitalize_of_isAscii ascii, ?_, ?_⟩
  · exact form.isUpper_capital (by simpa using first)
  · rw [form.isDelimiter_capital, word.2 c (by simp)]

/-- Capitalized words can be told apart without delimiters. -/
theorem capitalizedWords (each : ∀ w ∈ ws, IsWord w ∧ w.IsAscii)
    (lettered : ∀ w ∈ ws, IsLettered w) :
    ∀ v ∈ ws.map capitalize, words v = [v] ∧ BeginsCapital v ∧ EndsSmall v :=
  List.forall_mem_map.2 fun w mem =>
    have ⟨word, ascii⟩ := each w mem
    ⟨words_capitalize ascii word, beginsCapital_capitalize ascii word (lettered w mem),
      endsSmall_capitalize ascii word (lettered w mem)⟩

/-! ## Conventions -/

namespace Casing

/-- Words as a convention spells them. -/
def spell : Casing → List Text → List Text
  | .identity, ws => ws
  | .snake, ws => ws.map Text.lower
  | .screamingSnake, ws => ws.map Text.upper
  | .camel, [] => []
  | .camel, w :: ws => w.lower :: ws.map capitalize
  | .pascal, ws | .title, ws => ws.map capitalize

variable {casing : Casing}

/-- The words of a written name are those that the convention spells. -/
theorem words_join (written : casing ≠ .identity)
    (each : ∀ w ∈ ws, IsWord w ∧ w.IsAscii)
    (kept : casing ∈ [.snake, .screamingSnake, .title] ∨ ∀ w ∈ ws, IsLettered w) :
    words (casing.join ws) = casing.spell ws := by
  have lower : ∀ v ∈ ws.map Text.lower, words v = [v] :=
    List.forall_mem_map.2 fun w mem => words_lower (each w mem).2 (each w mem).1
  have upper : ∀ v ∈ ws.map Text.upper, words v = [v] :=
    List.forall_mem_map.2 fun w mem => words_upper (each w mem).2 (each w mem).1
  have capitalized : ∀ v ∈ ws.map capitalize, words v = [v] :=
    List.forall_mem_map.2 fun w mem => words_capitalize (each w mem).2 (each w mem).1
  cases casing with
  | identity => exact absurd rfl written
  | snake => exact words_intercalate rfl lower
  | screamingSnake => exact words_intercalate rfl upper
  | title => exact words_intercalate rfl capitalized
  | pascal =>
    have lettered := kept.resolve_left (by decide)
    cases ws with
    | nil => rfl
    | cons w ws =>
      rw [join, List.flatMap_def, List.map_cons, List.flatten_cons]
      obtain ⟨⟨first, -, ends⟩, others⟩ := List.forall_mem_cons.1 (capitalizedWords each lettered)
      exact words_append_flatten first ends others
  | camel =>
    have lettered := kept.resolve_left (by decide)
    cases ws with
    | nil => rfl
    | cons w ws =>
      obtain ⟨⟨word, ascii⟩, each⟩ := List.forall_mem_cons.1 each
      obtain ⟨here, lettered⟩ := List.forall_mem_cons.1 lettered
      rw [join, List.flatMap_def]
      exact words_append_flatten (words_lower ascii word) (endsSmall_lower ascii word here)
        (capitalizedWords each lettered)

theorem isAscii_of_mem_spell (casing : Casing) (ascii : ∀ w ∈ ws, w.IsAscii) :
    ∀ v ∈ casing.spell ws, v.IsAscii := by
  cases casing with
  | identity => exact ascii
  | snake => exact List.forall_mem_map.2 fun w mem => (ascii w mem).lower
  | screamingSnake => exact List.forall_mem_map.2 fun w mem => (ascii w mem).upper
  | camel =>
    cases ws with
    | nil => exact List.forall_mem_nil _
    | cons w ws =>
      obtain ⟨first, others⟩ := List.forall_mem_cons.1 ascii
      have later := List.forall_mem_map.2 fun w mem => (others w mem).capitalize
      exact List.forall_mem_cons.2 ⟨first.lower, later⟩
  | pascal => exact List.forall_mem_map.2 fun w mem => (ascii w mem).capitalize
  | title => exact List.forall_mem_map.2 fun w mem => (ascii w mem).capitalize

/-- A convention changes words in their case only. -/
theorem map_lower_spell (casing : Casing) (ascii : ∀ w ∈ ws, w.IsAscii) :
    (casing.spell ws).map Text.lower = ws.map Text.lower := by
  have same {f : Text → Text} (each : ∀ w : Text, w.IsAscii → (f w).lower = w.lower)
      {vs : List Text} (ascii : ∀ w ∈ vs, w.IsAscii) :
      (vs.map f).map Text.lower = vs.map Text.lower := by
    rw [List.map_map]
    exact List.map_congr_left fun w mem => each w (ascii w mem)
  cases casing with
  | identity => rfl
  | snake => exact same (fun _ => Text.lower_lower) ascii
  | screamingSnake => exact same (fun _ => Text.lower_upper) ascii
  | camel =>
    cases ws with
    | nil => rfl
    | cons w ws =>
      obtain ⟨first, others⟩ := List.forall_mem_cons.1 ascii
      rw [spell, List.map_cons, List.map_cons, Text.lower_lower first,
        same (fun _ => Text.lower_capitalize) others]
  | pascal => exact same (fun _ => Text.lower_capitalize) ascii
  | title => exact same (fun _ => Text.lower_capitalize) ascii

/-- Every convention looks at the lower case of words alone. -/
theorem join_map_lower (written : casing ≠ .identity) (ascii : ∀ w ∈ ws, w.IsAscii) :
    casing.join (ws.map Text.lower) = casing.join ws := by
  have same {f : Text → Text} (each : ∀ w : Text, w.IsAscii → f w.lower = f w)
      {vs : List Text} (ascii : ∀ w ∈ vs, w.IsAscii) :
      (vs.map Text.lower).map f = vs.map f := by
    rw [List.map_map]
    exact List.map_congr_left fun w mem => each w (ascii w mem)
  cases casing with
  | identity => exact absurd rfl written
  | snake => rw [join, same (fun _ => Text.lower_lower) ascii, join]
  | screamingSnake => rw [join, same (fun _ => Text.upper_lower) ascii, join]
  | title => rw [join, same (fun _ => Text.capitalize_lower) ascii, join]
  | pascal =>
    rw [join, join, List.flatMap_def, List.flatMap_def,
      same (fun _ => Text.capitalize_lower) ascii]
  | camel =>
    cases ws with
    | nil => rfl
    | cons w ws =>
      obtain ⟨first, others⟩ := List.forall_mem_cons.1 ascii
      rw [List.map_cons, join, join, Text.lower_lower first, List.flatMap_def, List.flatMap_def,
        same (fun _ => Text.capitalize_lower) others]

theorem transform_eq_join (written : casing ≠ .identity) (name : Text) :
    casing.transform name = casing.join (words name) := by
  cases casing with
  | identity => exact absurd rfl written
  | _ => rfl

/-- A name that is converted keeps its words, but for their case, if the convention writes
delimiters or if all words are long enough and begin and end with a letter. Nothing is lost for a
second conversion then. -/
theorem transform_transform {first second : Casing} {name : Text} (ascii : name.IsAscii)
    (written : first ≠ .identity) (again : second ≠ .identity)
    (kept : first ∈ [.snake, .screamingSnake, .title] ∨ ∀ w ∈ words name, IsLettered w) :
    second.transform (first.transform name) = second.transform name ∧
      (words (first.transform name)).map Text.lower = (words name).map Text.lower ∧
      first.transform (first.transform name) = first.transform name := by
  have each : ∀ w ∈ words name, IsWord w ∧ w.IsAscii := fun w mem =>
    have ⟨word, inside⟩ := isWord_of_mem_words mem
    ⟨word, fun c mem => ascii c (inside c mem)⟩
  have plain : ∀ w ∈ words name, w.IsAscii := fun w mem => (each w mem).2
  have spelled : words (first.transform name) = first.spell (words name) := by
    rw [transform_eq_join written, words_join written each kept]
  have small : (words (first.transform name)).map Text.lower = (words name).map Text.lower := by
    rw [spelled, map_lower_spell first plain]
  have converted {casing : Casing} (written : casing ≠ .identity) :
      casing.transform (first.transform name) = casing.transform name := by
    rw [transform_eq_join written, transform_eq_join written, ← join_map_lower written plain,
      ← small, join_map_lower written (spelled ▸ isAscii_of_mem_spell first plain)]
  exact ⟨converted again, small, converted written⟩

theorem transform_transform_response :
    (text "parseHTTPResponse").IsAscii ∧
      (∀ w ∈ words (text "parseHTTPResponse"), IsLettered w) ∧
      Casing.camel.transform (text "parseHTTPResponse") = text "parseHttpResponse" ∧
      Casing.title.transform (Casing.camel.transform (text "parseHTTPResponse")) =
        Casing.title.transform (text "parseHTTPResponse") ∧
      (words (Casing.camel.transform (text "parseHTTPResponse"))).map Text.lower =
        (words (text "parseHTTPResponse")).map Text.lower ∧
      Casing.camel.transform (Casing.camel.transform (text "parseHTTPResponse")) =
        Casing.camel.transform (text "parseHTTPResponse") := by
  have ascii : (text "parseHTTPResponse").IsAscii := by decide
  have lettered : ∀ w ∈ words (text "parseHTTPResponse"), IsLettered w := by decide
  exact ⟨ascii, lettered, by decide,
    transform_transform ascii (by decide) (by decide) (.inr lettered)⟩

end Casing

end EnumText
