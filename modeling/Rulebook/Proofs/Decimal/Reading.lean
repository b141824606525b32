import Mathlib.Data.List.TakeWhile
import Rulebook.Decimal.Numeral
import Rulebook.Proofs.Decimal.Printing
import Rulebook.Text.Scanner

namespace Rulebook.Decimal

/-!
# Computed numbers are read again

The text of a computed number is a number, whether it is a word, has a sign or has hundreds of
digits. So the text of one computation may be an operand of the next.
-/

namespace Numeral

theorem splitSign_of_isDigit {c : Char} (h : c.isDigit = true) (rest : List Char) :
    splitSign (c :: rest) = (false, c :: rest) := by
  unfold splitSign
  split
  · next heq =>
      cases heq
      simp at h
  · next heq =>
      cases heq
      simp at h
  · rfl

theorem splitSign_sign_append (negative : Bool) {digits : List Char}
    (hdigits : ∀ c ∈ digits, c.isDigit = true) (hne : digits ≠ []) (rest : List Char) :
    splitSign ((sign negative).toList ++ (digits ++ rest)) = (negative, digits ++ rest) := by
  cases negative with
  | true => rfl
  | false =>
      obtain ⟨c, others, rfl⟩ := List.exists_cons_of_ne_nil hne
      exact splitSign_of_isDigit (hdigits c List.mem_cons_self) (others ++ rest)

/-- Digits on both sides of a point are a number, and nothing more of the text is left. -/
theorem decimal?_digits (negative : Bool) {whole fraction : List Char} (hne : whole ≠ [])
    (hwhole : ∀ c ∈ whole, c.isDigit = true) (hfraction : ∀ c ∈ fraction, c.isDigit = true) :
    decimal? negative (whole ++ '.' :: fraction) = some (decimal negative whole fraction 0) := by
  have hstops : ∀ c ∈ ('.' :: fraction).head?, c.isDigit = false := by simp
  obtain ⟨htake, hdrop⟩ := Text.takeWhile_of_stops hwhole hstops
  have hpoint : splitFraction ('.' :: fraction) = (fraction, []) := by
    rw [splitFraction, List.takeWhile_eq_self_iff.mpr hfraction,
      List.dropWhile_eq_nil_iff.mpr hfraction]
  simp only [decimal?, htake, hdrop, hpoint, exponent?, Option.map_some]
  exact if_neg fun h => hne h.1

/-- The words take precedence over the digits, but they are numbers too. -/
theorem isSome_ofText? {text rest : List Char} {negative : Bool} {numeral : Numeral}
    (hsign : splitSign text = (negative, rest)) (h : decimal? negative rest = some numeral) :
    (ofText? text).isSome = true := by
  simp only [ofText?, hsign, h]
  split
  · rfl
  · split <;> rfl

end Numeral

open Numeral in
theorem Printed.isSome_read? {text : String} (h : Printed text) : (read? text).isSome = true := by
  rw [read?, Option.isSome_map]
  cases h with
  | nan => decide
  | infinite negative => cases negative <;> decide
  | @places negative whole tenth hundredth hwhole hdigits =>
      have hdigit : ∀ c ∈ whole, c.isDigit = true :=
        fun c hc => hdigits c (List.mem_cons_of_mem _ (List.mem_cons_of_mem _ hc))
      have hfraction : ∀ c ∈ [tenth, hundredth], c.isDigit = true := by
        simpa using ⟨hdigits tenth (by simp), hdigits hundredth (by simp)⟩
      have hsign := splitSign_sign_append negative hdigit hwhole ('.' :: [tenth, hundredth])
      apply isSome_ofText? _ (decimal?_digits negative hwhole hdigit hfraction)
      simpa using hsign

end Rulebook.Decimal
