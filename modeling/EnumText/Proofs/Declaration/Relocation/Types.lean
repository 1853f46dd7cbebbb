import EnumText.Proofs.Declaration.Relocation
import EnumText.Proofs.Declaration.Spans

/-!
# Type declarations that stand elsewhere

One lemma for each reader, from the lines of a struct type up to `typeSpec_move`: where the reader
succeeds in one listing it succeeds in the other, with the same value moved.
-/

namespace EnumText.Listing

open Declaration

variable {l l' : Listing} {r : Relocation l l'} {ts rest more : List Token}

/-! ## Fields -/

theorem withoutTag_map (r : Relocation l l') (ts : List Token) :
    withoutTag (ts.map r.move) = (withoutTag ts).map r.move := by
  unfold withoutTag
  rw [List.getLast?_map]
  cases ts.getLast? with
  | none => rfl
  | some t =>
    simp only [Option.map_some, r.kind, List.length_map]
    split
    · rw [List.map_dropLast]
    · rfl

theorem withoutTag_subset (ts : List Token) : ∀ t ∈ withoutTag ts, t ∈ ts := by
  intro t mem
  unfold withoutTag at mem
  split at mem
  · split at mem
    · exact List.dropLast_subset ts mem
    · exact mem
  · exact mem

theorem fieldNames_map (r : Relocation l l') (ts : List Token) :
    fieldNames (ts.map r.move) = ((fieldNames ts).1, (fieldNames ts).2.map r.move) := by
  fun_induction fieldNames ts with
  | case1 => rfl
  | case2 t name => simp [fieldNames, r.kind, name, r.spelling t (.inl name)]
  | case3 t other => simp [fieldNames, r.kind, other]
  | case4 t next ts name comma names type same ih =>
    rw [same] at ih
    simp [fieldNames, r.kind, name, comma, ih, r.spelling t (.inl name)]
  | case5 t next ts name comma => simp [fieldNames, r.kind, name, comma, r.spelling t (.inl name)]
  | case6 t next ts other => simp [fieldNames, r.kind, other]

theorem fieldNames_subset (ts : List Token) : ∀ t ∈ (fieldNames ts).2, t ∈ ts := by
  fun_induction fieldNames ts with
  | case1 => exact fun t mem => mem
  | case2 => exact fun t mem => nomatch mem
  | case3 => exact fun t mem => mem
  | case4 t next ts name comma names type same ih =>
    rw [same] at ih
    exact fun u mem => List.mem_cons_of_mem _ (List.mem_cons_of_mem _ (ih u mem))
  | case5 => exact fun t mem => List.mem_cons_of_mem _ mem
  | case6 => exact fun t mem => mem

theorem withoutTag_openAfter {stops : List Token.Kind}
    (apart : openAfter stops 0 (ts.map (·.kind)) = some 0) :
    openAfter stops 0 ((withoutTag ts).map (·.kind)) = some 0 := by
  unfold withoutTag
  split
  · next t last =>
    split
    · next tag =>
      obtain ⟨init, rfl⟩ := List.getLast?_eq_some_iff.1 last
      rw [List.map_append, List.map_singleton] at apart
      rw [List.dropLast_concat]
      rcases tag.1 with same | same
      · rw [same] at apart
        exact openAfter_of_concat_plain apart rfl rfl
      · rw [same] at apart
        exact openAfter_of_concat_plain apart rfl rfl
    · exact apart
  · exact apart

theorem fieldNames_openAfter {stops : List Token.Kind}
    (apart : openAfter stops 0 (ts.map (·.kind)) = some 0) :
    openAfter stops 0 ((fieldNames ts).2.map (·.kind)) = some 0 := by
  fun_induction fieldNames ts with
  | case1 => exact apart
  | case2 => rfl
  | case3 => exact apart
  | case4 t next ts name comma names type same ih =>
    rw [same] at ih
    rw [List.map_cons, List.map_cons, name, comma] at apart
    exact ih (openAfter_of_plain (openAfter_of_plain apart rfl rfl) rfl rfl)
  | case5 t next ts name comma =>
    rw [List.map_cons, name] at apart
    exact openAfter_of_plain apart rfl rfl
  | case6 => exact apart

theorem fieldsOfLine_move {line : List Token} {fields : List Field} {stops : List Token.Kind}
    (apart : openAfter stops 0 (line.map (·.kind)) = some 0) (stop : .semicolon ∈ stops)
    (inside : ∀ t ∈ line, t ∈ r.region) (h : l.fieldsOfLine line = .ok fields) :
    l'.fieldsOfLine (line.map r.move) = .ok (fields.map (·.rewrite r.rewrite)) := by
  unfold fieldsOfLine at h ⊢
  rw [withoutTag_map]
  have bare := withoutTag_subset line
  have apart := withoutTag_openAfter apart
  match body : withoutTag line with
  | [] =>
    rw [body] at h
    cases h
    rfl
  | [_] =>
    rw [body] at h
    cases h
    rfl
  | first :: second :: tail =>
    rw [body] at h bare apart
    have type_apart := fieldNames_openAfter apart
    have type_inside := fieldNames_subset (first :: second :: tail)
    have moved := fieldNames_map r (first :: second :: tail)
    simp only [List.map_cons, r.kind] at h moved ⊢
    split at h
    · next named =>
      rw [if_pos named, moved]
      simp only [List.isEmpty_map]
      cases empty : (fieldNames (first :: second :: tail)).2.isEmpty with
      | true =>
        rw [empty] at h
        cases h
      | false =>
        rw [empty] at h
        cases h
        have some : (fieldNames (first :: second :: tail)).2 ≠ [] := by
          intro none
          rw [none] at empty
          cases empty
        rw [r.textOf _ some (fun t mem => inside t (bare t (type_inside t mem)))
          fun t outer => kind_ne_semicolon type_apart stop outer]
        simp [Field.rewrite, Function.comp_def]
    · next other =>
      cases h
      rw [if_neg other]
      rfl

theorem fieldsUpToClose_move {fuel fuel' : Nat} {fields : List Field} (part : r.Part ts more)
    (enough : fuel ≤ fuel') (h : l.fieldsUpToClose fuel ts = .ok (fields, rest)) :
    r.Part rest more ∧ l'.fieldsUpToClose fuel' (ts.map r.move ++ more) =
      .ok (fields.map (·.rewrite r.rewrite), rest.map r.move ++ more) := by
  induction fuel generalizing fuel' ts fields with
  | zero => cases h
  | succ fuel ih =>
    obtain ⟨fuel', rfl⟩ : ∃ k, fuel' = k + 1 := ⟨fuel' - 1, by omega⟩
    rw [fieldsUpToClose] at h ⊢
    cases front : skipSemicolons ts with
    | nil =>
      rw [front] at h
      cases h
    | cons t tail =>
      rcases part.skipSemicolons front with ⟨part, skipped⟩
      rw [front] at h
      rw [skipped]
      simp only [r.kind] at h ⊢
      split at h
      · next close =>
        cases h
        rw [if_pos close]
        exact ⟨part.tail close (by decide), rfl⟩
      · next open_ =>
        rw [if_neg open_]
        rcases bind_eq_ok_iff.1 h with ⟨⟨line, after⟩, collected, h⟩
        rcases bind_eq_ok_iff.1 h with ⟨own, read, h⟩
        rcases bind_eq_ok_iff.1 h with ⟨⟨others, last⟩, below, same⟩
        cases same
        have apart := openAfter_of_collect collected
        obtain ⟨inside, part, collected⟩ :=
          part.collect collected (collect_joins collected rfl part.joins)
        rcases ih part (Nat.le_of_succ_le_succ enough) below with ⟨part, below⟩
        refine ⟨part, bind_eq_ok_iff.2 ⟨_, collected, bind_eq_ok_iff.2
          ⟨_, fieldsOfLine_move apart (by decide) inside read, bind_eq_ok_iff.2 ⟨_, below, ?_⟩⟩⟩⟩
        rw [List.map_append]
        rfl

theorem structFields_move {fields : List Field} (part : r.Part ts more)
    (h : l.structFields ts = .ok (fields, rest)) :
    r.Part rest more ∧ l'.structFields (ts.map r.move ++ more) =
      .ok (fields.map (·.rewrite r.rewrite), rest.map r.move ++ more) := by
  rcases bind_eq_ok_iff.1 h with ⟨⟨word, _⟩, keyword, body⟩
  rcases bind_eq_ok_iff.1 body with ⟨⟨brace, ts⟩, opened, inner⟩
  rcases expectWord_eq_ok_iff.1 keyword with ⟨rfl, isWord⟩
  rcases expect_eq_ok_iff.1 opened with ⟨rfl, kind⟩
  have part := (part.tail (kind_of_isWord isWord) (by decide)).tail kind (by decide)
  obtain ⟨part, below⟩ := fieldsUpToClose_move part
    (show _ ≤ (ts.map r.move ++ more).length + 1 by simp) inner
  refine ⟨part, bind_eq_ok_iff.2 ⟨_, expectWord_eq_ok_iff.2 ⟨rfl, ?_⟩, bind_eq_ok_iff.2
    ⟨_, expect_eq_ok_iff.2 ⟨rfl, ?_⟩, below⟩⟩⟩
  · rw [Relocation.isWord_move, isWord]
  · rw [r.kind, kind]

/-! ## Types -/

theorem startsTypeParameters_move (part : r.Part ts more) :
    l'.startsTypeParameters (ts.map r.move ++ more) = l.startsTypeParameters ts := by
  unfold startsTypeParameters current
  match ts, part with
  | [], part =>
    rcases part.joins.ne_nil with rfl | some
    · simp [r.eof]
    · exact absurd rfl some
  | [t], part =>
    rcases part.joins with rfl | ⟨last, mem, semicolon⟩
    · simp [r.kind, r.eof]
    · obtain rfl : t = last := by simpa using mem
      simp [r.kind, semicolon]
  | t :: next :: _, _ => simp [r.kind]

theorem skipTypeParameters_move (part : r.Part ts more) (h : l.skipTypeParameters ts = .ok rest) :
    r.Part rest more ∧
      l'.skipTypeParameters (ts.map r.move ++ more) = .ok (rest.map r.move ++ more) := by
  unfold skipTypeParameters at h ⊢
  rw [part.at?]
  cases opened : at? (.opening .square) ts with
  | false =>
    rw [opened] at h
    cases h
    exact ⟨part, rfl⟩
  | true =>
    cases ts with
    | nil => cases opened
    | cons t tail =>
      have kind : t.kind = .opening .square := by simpa [at?] using opened
      have part_tail := part.tail kind (by decide)
      rw [opened] at h
      simp only [List.drop_succ_cons, List.drop_zero, List.map_cons, List.cons_append,
        Bool.true_and, startsTypeParameters_move part_tail] at h ⊢
      split at h
      · next starts =>
        rcases bind_eq_ok_iff.1 h with ⟨⟨run, after⟩, collected, body⟩
        rcases bind_eq_ok_iff.1 body with ⟨⟨closing, last⟩, closed, same⟩
        rcases expect_eq_ok_iff.1 closed with ⟨rfl, close⟩
        cases same
        have suffix : closing :: last <:+ tail := ⟨run, (collect_append collected).symm⟩
        obtain ⟨-, part_after, collected⟩ :=
          part_tail.collect collected (part_tail.joins.suffix suffix (List.cons_ne_nil _ _))
        rw [if_pos starts]
        refine ⟨part_after.tail close (by decide), bind_eq_ok_iff.2 ⟨_, collected,
          bind_eq_ok_iff.2 ⟨_, expect_eq_ok_iff.2 ⟨rfl, ?_⟩, rfl⟩⟩⟩
        rw [r.kind, close]
      · next starts =>
        cases h
        rw [if_neg starts]
        exact ⟨part, rfl⟩

theorem afterAssign_move (part : r.Part ts more) :
    r.Part (afterAssign ts) more ∧
      afterAssign (ts.map r.move ++ more) = (afterAssign ts).map r.move ++ more := by
  unfold afterAssign
  rw [part.at?]
  cases assigned : at? .assign ts with
  | false => exact ⟨part, rfl⟩
  | true =>
    cases ts with
    | nil => cases assigned
    | cons t tail =>
      have kind : t.kind = .assign := by simpa [at?] using assigned
      exact ⟨part.tail kind (by decide), rfl⟩

theorem startsStruct_move (part : r.Part ts more) :
    (ts.map r.move ++ more).head?.any (·.isWord "struct") = ts.head?.any (·.isWord "struct") := by
  rw [part.head?, Option.any_map]
  congr 1
  funext t
  exact Relocation.isWord_move t "struct"

theorem typeFields_move {fields : List Field} (part : r.Part ts more)
    (h : l.typeFields ts = .ok (fields, rest)) :
    r.Part rest more ∧ l'.typeFields (ts.map r.move ++ more) =
      .ok (fields.map (·.rewrite r.rewrite), rest.map r.move ++ more) := by
  unfold typeFields at h ⊢
  rw [startsStruct_move part]
  split at h
  · next struct =>
    rw [if_pos struct]
    exact structFields_move part h
  · next other =>
    cases h
    rw [if_neg other]
    exact ⟨part, rfl⟩

theorem typeSpec_move {doc : List Text} {type : TypeDecl} (part : r.Part ts more)
    (h : l.typeSpec doc ts = .ok (type, rest)) :
    (rest = [] ∨ r.Part rest more) ∧
      l'.typeSpec (doc.map r.rewrite) (ts.map r.move ++ more) =
        .ok (type.move r.rewrite r.lines, rest.map r.move ++ more) := by
  obtain ⟨name, after, params, fields, tail, run, last, rfl, kind, skipped, read, collected, rfl,
    rfl⟩ := typeSpec_eq_ok_iff.1 h
  rcases skipTypeParameters_move (part.tail kind (by decide)) skipped with ⟨part, skipped⟩
  rcases afterAssign_move part with ⟨part, assigned⟩
  have struct := startsStruct_move part
  rcases typeFields_move part read with ⟨part, read⟩
  rcases part.collect collected (collect_joins collected rfl part.joins) with ⟨-, part, collected⟩
  obtain ⟨left, ended⟩ := part.skipSemicolon
  refine ⟨left, typeSpec_eq_ok_iff.2 ⟨r.move name, _, _, fields.map (·.rewrite r.rewrite), _, _, _,
    rfl, (r.kind name).trans kind, skipped, ?_, collected, ?_, ended.symm⟩⟩
  · rw [assigned]
    exact read
  · rw [assigned, struct, r.spelling name (.inl kind), r.line]
    rfl

end EnumText.Listing
