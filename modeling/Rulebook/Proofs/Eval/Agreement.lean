import Rulebook.Eval

namespace Rulebook

/-!
# Conditions on different facts

In a condition only comparisons look at the facts, and all they yield is a truth value. No
operator takes one truth value and refuses the other: arithmetic refuses both, and nothing else
refuses a text. So a condition is evaluated on any two tables of facts to values, or to errors, that
differ in truth values only.
-/

namespace Eval

def IsTruth (text : String) : Prop := text = trueText ∨ text = falseText

/-- Two texts that are the same but for the truth value. -/
def Matching (text other : String) : Prop := text = other ∨ IsTruth text ∧ IsTruth other

/-- Two results that are the same but for a truth value, as the value or as the refused number. -/
inductive Agree : Except EvalError String → Except EvalError String → Prop where
  | value {text other : String} (h : Matching text other) : Agree (.ok text) (.ok other)
  | refused {text other : String} (h : Matching text other) :
      Agree (.error (.notNumeric text)) (.error (.notNumeric other))
  | failure (e : EvalError) : Agree (.error e) (.error e)

theorem Agree.exists_eq_error {e : EvalError} {result : Except EvalError String}
    (h : Agree (.error e) result) : ∃ other, result = .error other := by
  cases h with
  | refused | failure => exact ⟨_, rfl⟩

theorem Matching.refl (text : String) : Matching text text := Or.inl rfl

theorem isTruth_ofBool (b : Bool) : IsTruth (ofBool b) := by
  cases b
  · exact Or.inr rfl
  · exact Or.inl rfl

theorem matching_ofBool (b other : Bool) : Matching (ofBool b) (ofBool other) :=
  Or.inr ⟨isTruth_ofBool b, isTruth_ofBool other⟩

theorem number_of_isTruth {text : String} (h : IsTruth text) :
    number text = .error (.notNumeric text) := by
  have hread : Decimal.read? text = none := by
    rcases h with rfl | rfl
    · exact Option.map_eq_none_iff.mpr (by decide)
    · exact Option.map_eq_none_iff.mpr (by decide)
  simp [number, hread]

/-- Matching operands are both numbers, and then the same one, or both refused. -/
theorem number_cases {text other : String} (h : Matching text other) :
    (∃ x, number text = .ok x ∧ number other = .ok x) ∨
      number text = .error (.notNumeric text) ∧ number other = .error (.notNumeric other) := by
  rcases h with rfl | ⟨htext, hother⟩
  · unfold number
    cases Decimal.read? text with
    | some x => exact Or.inl ⟨x, rfl, rfl⟩
    | none => exact Or.inr ⟨rfl, rfl⟩
  · exact Or.inr ⟨number_of_isTruth htext, number_of_isTruth hother⟩

theorem agree_compute {left right otherLeft otherRight : String}
    (hleft : Matching left otherLeft) (hright : Matching right otherRight) (op : Arithmetic) :
    Agree (compute op left right) (compute op otherLeft otherRight) := by
  unfold compute
  rcases number_cases hleft with ⟨a, ha, hother⟩ | ⟨ha, hother⟩
  · rcases number_cases hright with ⟨b, hb, hrother⟩ | ⟨hb, hrother⟩
    · rw [ha, hother, hb, hrother]
      exact .value (.refl _)
    · rw [ha, hother, hb, hrother]
      exact .refused hright
  · rw [ha, hother]
    exact .refused hleft

theorem agree_apply {left right otherLeft otherRight : String}
    (hleft : Matching left otherLeft) (hright : Matching right otherRight)
    (operation : Operation) (filters others : FilterIndex) (facts otherFacts : FactTable) :
    Agree (apply filters operation left right facts).1
      (apply others operation otherLeft otherRight otherFacts).1 := by
  cases operation with
  | arithmetic op => exact agree_compute hleft hright op
  | and | or | compare => exact .value (matching_ofBool _ _)
  | assign => exact .value (.refl "")

end Eval

open Eval in
theorem Expr.agree_evalAt (t : Expr) (limit depth : Nat) (filters others : FilterIndex)
    (facts otherFacts : FactTable) :
    Agree (t.evalAt .condition filters limit depth facts).1
      (t.evalAt .condition others limit depth otherFacts).1 := by
  induction t generalizing depth facts otherFacts with
  | literal | identifier =>
      unfold evalAt
      split
      · exact .failure _
      · exact .value (.refl _)
  | group inner ih =>
      unfold evalAt
      split
      · exact .failure _
      · exact ih (depth + 1) facts otherFacts
  | binary op left right ihleft ihright =>
      unfold evalAt
      split
      · exact .failure _
      · have hleft := ihleft (depth + 1) facts otherFacts
        generalize left.evalAt .condition filters limit (depth + 1) facts = result at hleft ⊢
        generalize left.evalAt .condition others limit (depth + 1) otherFacts = other at hleft ⊢
        obtain ⟨a, between⟩ := result
        obtain ⟨b, otherBetween⟩ := other
        cases hleft with
        | refused h => exact .refused h
        | failure e => exact .failure e
        | value hleft =>
            -- No purity is needed here: the right operands agree on any two tables.
            have hright := ihright (depth + 1) between otherBetween
            simp only
            generalize right.evalAt .condition filters limit (depth + 1) between = result
              at hright ⊢
            generalize right.evalAt .condition others limit (depth + 1) otherBetween = other
              at hright ⊢
            obtain ⟨c, after⟩ := result
            obtain ⟨d, otherAfter⟩ := other
            cases hright with
            | refused h => exact .refused h
            | failure e => exact .failure e
            | value hright =>
                cases op.resolve .condition with
                | error e => exact .failure e
                | ok operation => exact agree_apply hleft hright operation _ _ _ _

end Rulebook
