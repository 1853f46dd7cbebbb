import EnumText.OutputFile
import EnumText.Package
import EnumText.Proofs.Casing.Converting
import EnumText.Proofs.Enumeration.LineEnds

/-!
# The file that is named for a type

The default output for a type is one file in the directory of the package: a name has no slash, and
neither has its lower case. By its ending the file is a source file and no test.

* `Text.slash_notMem_lower`: lower case brings no slash into a text.
* `outputName_of_isName`: the name of the file.
* `Package.isSourceName_outputName`: it is the name of a source file.
-/

namespace EnumText

/-! ## Slashes -/

namespace Text

/-- Shifts whose first images lie above a code point map nothing to it or below. -/
theorem Case.Shift.lt_of_find? {shifts : List Shift} {low n image : Nat}
    (above : ∀ s ∈ shifts, (low : Int) < s.first + s.distance)
    (found : Shift.find? shifts n = some image) : low < image := by
  induction shifts with
  | nil => cases found
  | cons s shifts ih =>
    obtain ⟨first, others⟩ := List.forall_mem_cons.1 above
    rw [Shift.find?] at found
    split at found
    · cases found
    · split at found
      · cases found
        omega
      · exact ih others found

/-- No other rune has a slash in its lower case. -/
theorem slash_notMem_lower_rune {c : Rune} (other : c ≠ .scalar '/') : .scalar '/' ∉ c.lower := by
  cases c with
  | stray b => simp [Rune.lower]
  | scalar c =>
    rw [Rune.lower]
    split
    · decide
    split
    · next image found =>
      have above : ∀ s ∈ Case.toLowers, ((0x2F : Nat) : Int) < s.first + s.distance := by
        decide +kernel
      -- The image lies above the slash, and a code that is no character gives the null character.
      have large := Case.Shift.lt_of_find? above found
      intro mem
      have slash : Char.ofNat image = '/' := (Rune.scalar.inj (List.mem_singleton.1 mem)).symm
      have code : (Char.ofNat image).toNat = 0x2F := congrArg Char.toNat slash
      by_cases valid : image.isValidChar
      · rw [Char.ofNat, dif_pos valid] at code
        have same : image = 0x2F := code
        omega
      · rw [Char.ofNat, dif_neg valid] at code
        cases code
    · intro mem
      exact other (List.mem_singleton.1 mem).symm

theorem slash_notMem_lower {t : Text} (none : .scalar '/' ∉ t) : .scalar '/' ∉ t.lower := by
  have after (before : Text) : .scalar '/' ∉ lowerAfter before t := by
    induction t generalizing before with
    | nil => exact List.not_mem_nil
    | cons c t ih =>
      rw [List.mem_cons, not_or] at none
      rw [lowerAfter, List.mem_append, not_or]
      refine ⟨?_, ih none.2 _⟩
      split
      · split <;> decide
      · exact slash_notMem_lower_rune (Ne.symm none.1)
  exact after []

theorem slash_notMem_snake {name : Text} (none : .scalar '/' ∉ name) :
    .scalar '/' ∉ Casing.snake.transform name := by
  have each : ∀ w ∈ (words name).map Text.lower, Rune.scalar '/' ∉ w := by
    intro w mem
    obtain ⟨word, own, rfl⟩ := List.mem_map.1 mem
    exact slash_notMem_lower fun slash => none ((isWord_of_mem_words own).2 _ slash)
  exact not_mem_intercalate (by decide) each

theorem splitOn_of_notMem {separator : Rune} {t : Text} (none : separator ∉ t) :
    splitOn separator t = [t] := by
  induction t with
  | nil => rfl
  | cons c t ih =>
    rw [List.mem_cons, not_or] at none
    rw [splitOn, ih none.2, if_neg (Ne.symm none.1)]
    rfl

end Text

/-! ## The name -/

/-- A text without a slash that is no dot is the one component of a path. -/
theorem Path.ofText_of_notMem {t : Text} (none : .scalar '/' ∉ t) (some : t ≠ [])
    (dot : t ≠ text ".") : ofText t = ⟨.relative, [t]⟩ := by
  have start : startOf t = .relative := by
    cases t with
    | nil => rfl
    | cons c t =>
      rw [List.mem_cons, not_or] at none
      rw [startOf, List.takeWhile_cons_of_neg (by simpa using Ne.symm none.1)]
      rfl
  rw [ofText, start, Text.splitOn_of_notMem none]
  simp [some, dot]

theorem outputName_of_isName {typeName : Text} (named : typeName.isName = true) :
    outputName typeName = ⟨.relative, [Casing.snake.transform typeName ++ text "_enum.go"]⟩ := by
  have none : .scalar '/' ∉ Casing.snake.transform typeName ++ text "_enum.go" := by
    rw [List.mem_append, not_or]
    exact ⟨Text.slash_notMem_snake (Text.not_mem_of_isIdentifier (Text.isName_iff.1 named).1
      (by decide)), by decide⟩
  refine Path.ofText_of_notMem none (by simp [text]) fun same => ?_
  have length := congrArg List.length same
  rw [List.length_append] at length
  exact absurd length (by simp [text])

theorem Package.isSourceName_outputName (t : Text) :
    isSourceName (t ++ text "_enum.go") = true := by
  rw [isSourceName, Bool.and_eq_true]
  refine ⟨?_, ?_⟩
  · exact List.isSuffixOf_iff_suffix.2 ⟨t ++ text "_enum", by rw [List.append_assoc]; rfl⟩
  · rw [Text.endsWith, List.isSuffixOf, List.reverse_append]
    rfl

end EnumText
