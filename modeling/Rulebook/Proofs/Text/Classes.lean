import Rulebook.Expr.Limits
import Rulebook.Expr.Token

namespace Rulebook

/-!
# Classes of characters

Names, blanks, digits and the marks of the expression language are told apart by one character:
no blank continues a name, no digit starts one, and no mark is a blank, a digit or part of a
name. The tables have hundreds of ranges, but of each two classes one is small, and its code
points are looked up one by one in the table of the other.
-/

namespace Text

/-- The code points of a table. -/
def Ranges.points (table : Ranges) : List Nat :=
  table.flatMap fun range => List.range' range.1 (range.2 + 1 - range.1)

theorem Ranges.mem_points_of_covers {table : Ranges} {n : Nat} (h : table.covers n = true) :
    n ∈ table.points := by
  obtain ⟨range, hmem, hlow, hhigh⟩ := mem_of_covers h
  refine List.mem_flatMap.mpr ⟨range, hmem, List.mem_range'_1.mpr ⟨hlow, ?_⟩⟩
  omega

theorem blank_points_apart : ∀ n ∈ blankTable.points,
    letterTable.covers n = false ∧ numeralTable.covers n = false ∧ n ≠ '_'.toNat := by
  decide +kernel

theorem digit_points_apart : ∀ n ∈ List.range' 48 10,
    blankTable.covers n = false ∧ letterTable.covers n = false ∧
      numeralTable.covers n = true ∧ n ≠ '_'.toNat := by
  decide +kernel

end Text

namespace Lexeme

/-- The characters of operators, the parentheses and the quote. -/
def marks : List Char := ['(', ')', '"', '*', '/', '+', '-', '=', '!', '&', '|']

theorem marks_apart : ∀ c ∈ marks,
    Text.isBlank c = false ∧ continuesName c = false ∧ c.isDigit = false := by
  have hall : marks.all (fun c => !Text.isBlank c && !continuesName c && !c.isDigit) = true := by
    decide +kernel
  intro c hc
  simpa [and_assoc] using List.all_eq_true.mp hall c hc

theorem continuesName_of_startsName {c : Char} (h : startsName c = true) :
    continuesName c = true := by
  rcases Bool.or_eq_true_iff.mp h with hletter | hunder
  · simp [continuesName, hletter]
  · simp [continuesName, hunder]

theorem continuesName_eq_false_of_isBlank {c : Char} (h : Text.isBlank c = true) :
    continuesName c = false := by
  obtain ⟨hletter, hnumeral, hunder⟩ :=
    Text.blank_points_apart c.toNat (Text.Ranges.mem_points_of_covers h)
  have hne : c ≠ '_' := fun heq => hunder (congrArg Char.toNat heq)
  simp [continuesName, Text.isLetter, Text.isNumeral, hletter, hnumeral, hne]

theorem digit_apart {c : Char} (h : c.isDigit = true) :
    Text.isBlank c = false ∧ startsName c = false ∧ continuesName c = true := by
  have hrange := Char.isDigit_iff_toNat.mp h
  have hmem : c.toNat ∈ List.range' 48 10 :=
    List.mem_range'_1.mpr ⟨hrange.1, Nat.lt_succ_of_le hrange.2⟩
  obtain ⟨hblank, hletter, hnumeral, hunder⟩ := Text.digit_points_apart c.toNat hmem
  have hne : c ≠ '_' := fun heq => hunder (congrArg Char.toNat heq)
  refine ⟨hblank, ?_, ?_⟩
  · simp [startsName, Text.isLetter, hletter, hne]
  · simp [continuesName, Text.isNumeral, hnumeral]

theorem isBlank_eq_false_of_continuesName {c : Char} (h : continuesName c = true) :
    Text.isBlank c = false := by
  cases hblank : Text.isBlank c with
  | false => rfl
  | true => exact absurd (continuesName_eq_false_of_isBlank hblank) (by simp [h])

theorem not_mem_marks_of_continuesName {c : Char} (h : continuesName c = true) : c ∉ marks := by
  intro hmem
  simp [(marks_apart c hmem).2.1] at h

theorem not_mem_marks_of_isBlank {c : Char} (h : Text.isBlank c = true) : c ∉ marks := by
  intro hmem
  simp [(marks_apart c hmem).1] at h

theorem isOperatorChar_of_not_mem_marks {c : Char} (h : c ∉ marks) :
    Limits.isOperatorChar c = false := by
  unfold Limits.isOperatorChar
  split <;> simp_all [marks]

end Lexeme

end Rulebook
