import EnumText.Proofs.Listing.Placing

/-!
# Doc comments of sources that are put together

A blank line ends a group of comments, and so does a comment behind a token. Where one of them
stands between two parts of a source, the groups are those of the first part and those of the
second, and each line has its doc comment in its own part.

* `groupsAfter_append`: comments that are clear of those before make groups of their own.
* `docIn_append_left`, `docIn_append_right`: the part without comments on a line does not count.
* `docIn_move`, `docIn_shift`: doc comments move with their lines.
* `docIn_block`, `docIn_block_append`: comments on lines that follow each other are one doc
  comment.
-/

namespace EnumText

/-- A comment goes on with no group that ends with another one: it stands behind a token, or below a
blank line. -/
def Comment.Clear (x y : Comment) : Prop := y.ownLine = false ∨ x.endLine + 1 < y.line

/-- A comment with its text rewritten, a number of lines further down. -/
def Comment.move (g : Text → Text) (lines : Nat) (c : Comment) : Comment :=
  ⟨g c.text, c.line + lines, c.endLine + lines, c.ownLine⟩

namespace Listing

/-- The comments of the last group that ends on a line, among all comments of a source. -/
def docIn (comments : List Comment) (line : Nat) : List Text :=
  match (groupsAfter [] comments).reverse.find? fun group =>
      group.getLast?.any (·.endLine = line) with
  | some group => group.map (·.text)
  | none => []

theorem docAbove_eq (l : Listing) {t : Token} (line : 1 ≤ t.line) :
    l.docAbove t = docIn l.comments (t.line - 1) := by
  rw [docAbove, if_neg (by omega)]
  rfl

/-! ## One comment -/

/-- Whether a comment goes on with the group before it. -/
def follows (current : List Comment) (d : Comment) : Bool :=
  d.ownLine && current.head?.all fun last => decide (d.line ≤ last.endLine + 1)

/-- The unfinished group after a further comment. -/
def groupWith (current : List Comment) (d : Comment) : List Comment :=
  if follows current d then d :: current else if d.ownLine then [d] else []

/-- The group that a further comment finishes, if any. -/
def finishedBy (current : List Comment) (d : Comment) : List (List Comment) :=
  if follows current d then [] else finishGroup current

theorem groupsAfter_cons (current : List Comment) (d : Comment) (rest : List Comment) :
    groupsAfter current (d :: rest) =
      finishedBy current d ++ groupsAfter (groupWith current d) rest := by
  rw [groupsAfter.eq_def, finishedBy, groupWith, follows]
  cases own : d.ownLine with
  | false => simp [own]
  | true =>
    cases current with
    | nil => simp [own]
    | cons last current =>
      by_cases near : d.line ≤ last.endLine + 1
      · simp [near, own]
      · simp [near, own]

theorem mem_finishGroup {current group : List Comment} (mem : group ∈ finishGroup current)
    {c : Comment} (inside : c ∈ group) : c ∈ current := by
  unfold finishGroup at mem
  split at mem
  · cases mem
  · obtain rfl := List.mem_singleton.1 mem
    exact List.mem_reverse.1 inside

theorem mem_groupWith {current : List Comment} {c d : Comment} (mem : c ∈ groupWith current d) :
    c = d ∨ c ∈ current := by
  unfold groupWith at mem
  split at mem
  · exact List.mem_cons.1 mem
  split at mem
  · exact .inl (List.mem_singleton.1 mem)
  · cases mem

theorem mem_finishedBy {current group : List Comment} {c d : Comment}
    (mem : group ∈ finishedBy current d) (inside : c ∈ group) : c ∈ current := by
  unfold finishedBy at mem
  split at mem
  · cases mem
  · exact mem_finishGroup mem inside

section Move

variable (g : Text → Text) (lines : Nat) (current : List Comment) (d : Comment)

theorem finishGroup_move :
    finishGroup (current.map (·.move g lines)) =
      (finishGroup current).map (·.map (·.move g lines)) := by
  cases current with
  | nil => rfl
  | cons c current => simp [finishGroup]

theorem follows_move :
    follows (current.map (·.move g lines)) (d.move g lines) = follows current d := by
  cases current with
  | nil => rfl
  | cons last current =>
    have near : d.line + lines ≤ last.endLine + lines + 1 ↔ d.line ≤ last.endLine + 1 := by
      omega
    simp [follows, Comment.move, near]

theorem groupWith_move :
    groupWith (current.map (·.move g lines)) (d.move g lines) =
      (groupWith current d).map (·.move g lines) := by
  unfold groupWith
  rw [follows_move]
  cases follows current d with
  | true => rfl
  | false => cases own : d.ownLine <;> simp [Comment.move, own]

theorem finishedBy_move :
    finishedBy (current.map (·.move g lines)) (d.move g lines) =
      (finishedBy current d).map (·.map (·.move g lines)) := by
  unfold finishedBy
  rw [follows_move, finishGroup_move]
  split <;> rfl

end Move

/-! ## All comments -/

/-- Groups are made of the comments that are read. -/
theorem mem_of_mem_groupsAfter {current comments group : List Comment}
    (mem : group ∈ groupsAfter current comments) {c : Comment} (inside : c ∈ group) :
    c ∈ current ∨ c ∈ comments := by
  induction comments generalizing current with
  | nil => exact .inl (mem_finishGroup mem inside)
  | cons d rest ih =>
    rw [groupsAfter_cons] at mem
    rcases List.mem_append.1 mem with mem | mem
    · exact .inl (mem_finishedBy mem inside)
    · rcases ih mem with front | later
      · rcases mem_groupWith front with rfl | front
        · exact .inr List.mem_cons_self
        · exact .inl front
      · exact .inr (List.mem_cons_of_mem _ later)

/-- The unfinished group behind some comments. -/
def groupBehind (current comments : List Comment) : List Comment := comments.foldl groupWith current

theorem mem_groupBehind {current comments : List Comment} {c : Comment}
    (mem : c ∈ groupBehind current comments) : c ∈ current ∨ c ∈ comments := by
  induction comments generalizing current with
  | nil => exact .inl mem
  | cons d rest ih =>
    rcases ih mem with front | later
    · rcases mem_groupWith front with rfl | front
      · exact .inr List.mem_cons_self
      · exact .inl front
    · exact .inr (List.mem_cons_of_mem _ later)

/-- A group ends before a comment that does not go on with it. -/
theorem groupsAfter_of_not_follows {current comments : List Comment}
    (apart : ∀ y ∈ comments.head?, current ≠ [] → follows current y = false) :
    groupsAfter current comments = finishGroup current ++ groupsAfter [] comments := by
  cases comments with
  | nil => simp [groupsAfter, finishGroup]
  | cons y rest =>
    cases current with
    | nil => rfl
    | cons x current =>
      rw [groupsAfter_cons, groupsAfter_cons, finishedBy, groupWith,
        apart y rfl (List.cons_ne_nil _ _)]
      cases own : y.ownLine <;> simp [finishedBy, groupWith, follows, own, finishGroup]

/-- Comments make groups of their own if the first of them goes on with no group before. -/
theorem groupsAfter_append_of_not_follows {current a b : List Comment}
    (apart : ∀ y ∈ b.head?, groupBehind current a ≠ [] →
      follows (groupBehind current a) y = false) :
    groupsAfter current (a ++ b) = groupsAfter current a ++ groupsAfter [] b := by
  induction a generalizing current with
  | nil => exact groupsAfter_of_not_follows apart
  | cons d a ih =>
    rw [List.cons_append, groupsAfter_cons, groupsAfter_cons, ih apart, List.append_assoc]

/-- Comments that are clear of all before make groups of their own. -/
theorem groupsAfter_append {current a b : List Comment}
    (gap : ∀ x, x ∈ current ∨ x ∈ a → ∀ y ∈ b, x.Clear y) :
    groupsAfter current (a ++ b) = groupsAfter current a ++ groupsAfter [] b := by
  refine groupsAfter_append_of_not_follows fun y first some => ?_
  obtain ⟨x, group, same⟩ := List.exists_cons_of_ne_nil some
  have mem : x ∈ groupBehind current a := same ▸ List.mem_cons_self
  have clear := gap x (mem_groupBehind mem) y (List.mem_of_head? first)
  rw [same]
  simp only [follows, List.head?_cons, Option.all_some, Bool.and_eq_false_iff,
    decide_eq_false_iff_not]
  exact clear.imp_right fun wide => by omega

theorem groupsAfter_move (g : Text → Text) (lines : Nat) (current comments : List Comment) :
    groupsAfter (current.map (·.move g lines)) (comments.map (·.move g lines)) =
      (groupsAfter current comments).map (·.map (·.move g lines)) := by
  induction comments generalizing current with
  | nil => exact finishGroup_move g lines current
  | cons d rest ih =>
    rw [List.map_cons, groupsAfter_cons, groupsAfter_cons, finishedBy_move, groupWith_move, ih,
      List.map_append]

/-! ## Lines -/

theorem docIn_append {a b : List Comment} (gap : ∀ x ∈ a, ∀ y ∈ b, x.Clear y)
    (line : Nat) :
    docIn (a ++ b) line =
      match (groupsAfter [] b).reverse.find? fun group =>
          group.getLast?.any (·.endLine = line) with
      | some group => group.map (·.text)
      | none => docIn a line := by
  unfold docIn
  rw [groupsAfter_append fun x mem => gap x (mem.resolve_left List.not_mem_nil),
    List.reverse_append, List.find?_append]
  cases (groupsAfter [] b).reverse.find? _ <;> rfl

/-- No group ends on a line on which no comment ends. -/
theorem find?_groupsAfter {comments : List Comment} {line : Nat}
    (free : ∀ c ∈ comments, c.endLine ≠ line) :
    ((groupsAfter [] comments).reverse.find? fun group =>
      group.getLast?.any (·.endLine = line)) = none := by
  rw [List.find?_eq_none]
  intro group mem ends
  rcases (Option.any_eq_true _ _).1 ends with ⟨c, last, on⟩
  have inside := mem_of_mem_groupsAfter (List.mem_reverse.1 mem) (List.mem_of_getLast? last)
  exact free c (inside.resolve_left List.not_mem_nil) (of_decide_eq_true on)

theorem docIn_append_left {a b : List Comment} (gap : ∀ x ∈ a, ∀ y ∈ b, x.Clear y)
    {line : Nat} (free : ∀ y ∈ b, y.endLine ≠ line) : docIn (a ++ b) line = docIn a line := by
  rw [docIn_append gap, find?_groupsAfter free]

theorem docIn_append_right {a b : List Comment} (gap : ∀ x ∈ a, ∀ y ∈ b, x.Clear y)
    {line : Nat} (free : ∀ x ∈ a, x.endLine ≠ line) : docIn (a ++ b) line = docIn b line := by
  have none : docIn a line = [] := by
    rw [docIn, find?_groupsAfter free]
  rw [docIn_append gap, none]
  rfl

/-- Doc comments move with their lines. -/
theorem docIn_move (g : Text → Text) (lines : Nat) (comments : List Comment) (line : Nat) :
    docIn (comments.map (·.move g lines)) (line + lines) = (docIn comments line).map g := by
  have groups := groupsAfter_move g lines [] comments
  rw [List.map_nil] at groups
  unfold docIn
  rw [groups, ← List.map_reverse, List.find?_map]
  have ends : ((fun group : List Comment => group.getLast?.any (·.endLine = line + lines)) ∘
      fun group : List Comment => group.map (·.move g lines)) =
      fun group => group.getLast?.any (·.endLine = line) := by
    funext group
    rw [Function.comp_apply, List.getLast?_map, Option.any_map]
    simp [Comment.move]
  rw [ends]
  cases (groupsAfter [] comments).reverse.find? _ with
  | none => rfl
  | some group => simp [Comment.move]

theorem docIn_shift (s : Shift) (comments : List Comment) (line : Nat) :
    docIn (comments.map (·.shift s)) (line + s.line) = docIn comments line :=
  (docIn_move id s.line comments line).trans (List.map_id _)

/-! ## Blocks -/

/-- Comments on lines of their own that follow each other from a line on. -/
inductive Consecutive : Nat → List Comment → Prop
  | nil (line : Nat) : Consecutive line []
  | cons {c : Comment} {rest : List Comment} (own : c.ownLine = true) (oneLine : c.endLine = c.line)
    (below : Consecutive (c.line + 1) rest) : Consecutive c.line (c :: rest)

variable {line : Nat} {comments current : List Comment}

theorem Consecutive.groupsAfter (h : Consecutive line comments)
    (next : ∀ last ∈ current.head?, line ≤ last.endLine + 1) :
    groupsAfter current comments = finishGroup (comments.reverse ++ current) := by
  induction h generalizing current with
  | nil => rfl
  | @cons c rest own oneLine _ ih =>
    have goes_on : follows current c = true := by
      cases current with
      | nil => simpa [follows] using own
      | cons last current => simpa [follows, own] using next last rfl
    rw [groupsAfter_cons, finishedBy, groupWith, goes_on, if_pos rfl, if_pos rfl, List.nil_append,
      ih (by simp [oneLine]), List.reverse_cons, List.append_assoc, List.singleton_append]

theorem Consecutive.endLine (h : Consecutive line comments) :
    ∀ last ∈ comments.getLast?, last.endLine + 1 = line + comments.length := by
  induction h with
  | nil => exact fun _ none => nomatch none
  | @cons c rest own oneLine below ih =>
    intro last mem
    rw [List.length_cons]
    cases rest with
    | nil =>
      obtain rfl : c = last := Option.some.inj mem
      rw [oneLine]
      rfl
    | cons d rest =>
      rw [List.getLast?_cons_cons] at mem
      have := ih last mem
      omega

theorem Consecutive.endLine_lt (h : Consecutive line comments) :
    ∀ c ∈ comments, c.endLine < line + comments.length := by
  induction h with
  | nil => exact List.forall_mem_nil _
  | @cons c rest _ oneLine _ ih =>
    rw [List.length_cons]
    refine List.forall_mem_cons.2 ⟨by omega, fun d mem => ?_⟩
    have := ih d mem
    omega

/-- The comments of a block are the doc comment that ends on its last line. -/
theorem docIn_block (h : Consecutive line comments) {last : Nat}
    (ends : last + 1 = line + comments.length) :
    docIn comments last = comments.map (·.text) := by
  have groups : groupsAfter [] comments = finishGroup (comments.reverse ++ []) :=
    h.groupsAfter fun _ none => nomatch none
  rw [List.append_nil] at groups
  rw [docIn, groups]
  cases comments with
  | nil => rfl
  | cons c rest =>
    have final := List.getLast?_eq_some_getLast (List.cons_ne_nil c rest)
    have endLine := h.endLine _ final
    have found : (c :: rest).getLast?.any (·.endLine = last) = true := by
      rw [final, Option.any_some, decide_eq_true_eq]
      omega
    simp [finishGroup, found]

/-- Comments below a block do not count for it, unless one stands on a line of its own right below
it. -/
theorem docIn_block_append (h : Consecutive line comments) {last : Nat}
    (ends : last + 1 = line + comments.length) {later : List Comment}
    (below : ∀ y ∈ later, last < y.line ∧ y.line ≤ y.endLine)
    (apart : ∀ y ∈ later, y.ownLine = false ∨ last + 1 < y.line) :
    docIn (comments ++ later) last = comments.map (·.text) := by
  rw [docIn_append_left, docIn_block h ends]
  · intro x mem y mem'
    have above := h.endLine_lt x mem
    exact (apart y mem').imp_right fun further => by omega
  · intro y mem
    have further := below y mem
    omega

end Listing

end EnumText
