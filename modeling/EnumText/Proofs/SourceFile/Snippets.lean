import EnumText.Proofs.Declaration.Loops.Faults
import EnumText.Proofs.Listing.Faults
import EnumText.Proofs.Listing.Tiling
import EnumText.Proofs.Text.Boundaries

/-!
# The line that an error shows

An error names a line by the line feeds above it, and shows the line that is listed under this
number. Lists of lines end lines at other boundaries too. So the named line is shown where no other
boundary stands above it or in it; otherwise a part of it is shown, or of a line above.

* `exists_place_of_refused`: each error is at a place of its text.
* `snippet_of_refused`: the line that an error shows.
-/

namespace EnumText.SourceFile

open Text

variable {file : Path} {source : Text} {e : SyntaxError}

/-- Whatever the fault is, it is told at a place of the text. -/
theorem exists_place_of_refused
    (refused : Listing.ofFile? file source = .error e ∨ ofText? file source = .error e) :
    ∃ p, e.site = Site.inText file source (source.lineAt p) (source.columnAt p) := by
  have lexical (failed : Listing.ofFile? file source = .error e) :
      ∃ p, e.site = Site.inText file source (source.lineAt p) (source.columnAt p) := by
    unfold Listing.ofFile? at failed
    split at failed
    · cases failed
    · next cursor fault none =>
      cases failed
      obtain ⟨p, -, rfl, -⟩ := Listing.unreadable_of_ofText? none
      exact ⟨p, rfl⟩
  rcases refused with failed | failed
  · exact lexical failed
  · unfold ofText? at failed
    split at failed
    · next none =>
      cases failed
      exact lexical none
    · next l listed =>
      split at failed
      · cases failed
      · next token cause fault =>
        cases failed
        have read : Listing.ofText? source = .ok l := by
          unfold Listing.ofFile? at listed
          split at listed
          · next l' read =>
            cases listed
            exact read
          · cases listed
        obtain ⟨-, spans, fills⟩ := Listing.fills_of_ofText? read
        obtain ⟨-, line, column⟩ := fills.places token (Listing.mem_of_ofListing? fault)
        exact ⟨token.start, by rw [line, column]⟩

/-- An error in a text, of its lexemes or of its declarations, names one of the lines between the
line feeds of the text. It shows that line but for a carriage return at its end, or nothing if the
line is empty and the last, where neither the line nor one above has another boundary in it. Where
only the line itself has one, its beginning is shown, and otherwise a piece of a line above. -/
theorem snippet_of_refused
    (refused : Listing.ofFile? file source = .error e ∨ ofText? file source = .error e) :
    ∃ above named below, splitOn '\n' source = above ++ named :: below ∧ e.site.file = file ∧
      e.site.line = above.length + 1 ∧ Shown above named below e.site.snippet := by
  obtain ⟨p, site⟩ := exists_place_of_refused refused
  obtain ⟨above, named, below, split, length, shown⟩ :=
    exists_shown source ((List.take_sublist p source).count_le (.scalar '\n'))
  refine ⟨above, named, below, split, by rw [site]; rfl, ?_, ?_⟩
  · rw [site, length]
    rfl
  · rw [site]
    exact shown

/-- A file with a line in which a string is not closed. -/
def openName : Text := text "package p\r\nvar name = \"Ace\r\n"

theorem snippet_of_refused_openName : ∃ e, ofText? .here openName = .error e ∧ e.site.line = 2 ∧
    e.site.snippet = some (text "var name = \"Ace") := by
  have refused : ofText? .here openName = .error ⟨Site.inText .here openName 2 12,
      .lexical .openString⟩ := by decide +kernel
  obtain ⟨above, named, below, split, -, line, shown⟩ := snippet_of_refused (.inr refused)
  refine ⟨_, refused, rfl, ?_⟩
  have lines : splitOn '\n' openName = [text "package p\r", text "var name = \"Ace\r", []] := by
    decide +kernel
  have one : above.length = 1 := by
    have number : (2 : Int) = above.length + 1 := line
    omega
  match above, one with
  | [first], _ =>
    rw [lines] at split
    cases split
    exact (shown.whole (by decide) (by decide)).trans (by decide)

/-- A file with a form feed in the comment above such a line. -/
def fedName : Text := text "// a\x0cb\n\"open"

/-- Below a form feed, the line that is named is not the one that is shown. -/
theorem snippet_fedName :
    Listing.ofFile? .here fedName =
      .error ⟨⟨.here, 2, 1, some (text "b")⟩, .lexical .openString⟩ ∧
    splitOn '\n' fedName = [text "// a\x0cb", text "\"open"] := by
  decide +kernel

end EnumText.SourceFile
