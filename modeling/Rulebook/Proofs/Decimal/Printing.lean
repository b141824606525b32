import Rulebook.Decimal.Printing

namespace Rulebook.Decimal

/-!
# The texts of computed numbers

A computed number is written as a word, or as decimal digits with a point before the last two of
them. Only the sign and the number of digits before the point are open.
-/

/-- The text is one that a number with two places can have. -/
inductive Printed : String → Prop where
  | nan : Printed "NaN"
  | infinite (negative : Bool) : Printed (sign negative ++ "inf")
  | places (negative : Bool) {whole : List Char} {tenth hundredth : Char} (hwhole : whole ≠ [])
      (hdigits : ∀ c ∈ tenth :: hundredth :: whole, c.isDigit = true) :
      Printed (sign negative ++
        (String.ofList whole ++ "." ++ String.ofList [tenth, hundredth]))

theorem isDigit_digitChar_mod (n : Nat) : (n % 10).digitChar.isDigit = true := by
  rw [Nat.isDigit_digitChar]
  exact decide_eq_true (Nat.mod_lt n (by decide))

theorem printed_twoPlaces (negative : Bool) (n : Nat) : Printed (sign negative ++ twoPlaces n) := by
  refine .places negative Nat.toDigits_ne_nil (fun c hc => ?_)
  rcases List.mem_cons.mp hc with rfl | hc
  · exact isDigit_digitChar_mod (n / 10)
  · rcases List.mem_cons.mp hc with rfl | hc
    · exact isDigit_digitChar_mod n
    · exact Nat.isDigit_of_mem_toDigits (by decide) (by decide) hc

theorem printed_fixed (x : Number) : Printed x.fixed := by
  cases x with
  | nan => exact .nan
  | infinite negative => exact .infinite negative
  | finite negative size => exact printed_twoPlaces negative (hundredths size)

/-- What such a text starts with. -/
theorem Printed.exists_cons {text : String} (h : Printed text) :
    ∃ c rest, text.toList = c :: rest ∧ (c.isDigit = true ∨ c ∈ ['-', 'i', 'N']) := by
  cases h with
  | nan => exact ⟨'N', "aN".toList, rfl, Or.inr (by decide)⟩
  | infinite negative =>
      cases negative with
      | false => exact ⟨'i', "nf".toList, rfl, Or.inr (by decide)⟩
      | true => exact ⟨'-', "inf".toList, rfl, Or.inr (by decide)⟩
  | @places negative whole tenth hundredth hwhole hdigits =>
      cases negative with
      | false =>
          obtain ⟨c, others, rfl⟩ := List.exists_cons_of_ne_nil hwhole
          exact ⟨c, others ++ ['.', tenth, hundredth], by simp [sign],
            Or.inl (hdigits c (by simp))⟩
      | true => exact ⟨'-', whole ++ ['.', tenth, hundredth], by simp [sign], Or.inr (by decide)⟩

end Rulebook.Decimal
