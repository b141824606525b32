import Rulebook.Package.Compile
import Rulebook.Proofs.Eval.Agreement
import Rulebook.Proofs.Eval.Outcome

namespace Rulebook

/-!
# Conditions as formulas

An accepted condition is a formula over comparisons. All of them are evaluated, from left to right,
and then the formula decides: a comparison that fails stops the condition even where the others
would settle it.
-/

theorem BinaryOp.outcome_and {filters : FilterIndex} {facts : FactTable} (a b : Bool) :
    BinaryOp.and.outcome filters facts (Eval.ofBool a) (Eval.ofBool b) =
      .ok (Eval.ofBool (a && b)) := by
  cases a <;> cases b <;> rfl

theorem BinaryOp.outcome_or {filters : FilterIndex} {facts : FactTable} (a b : Bool) :
    BinaryOp.or.outcome filters facts (Eval.ofBool a) (Eval.ofBool b) =
      .ok (Eval.ofBool (a || b)) := by
  cases a <;> cases b <;> rfl

namespace Expr

/-- The comparisons of a condition that stand in no other comparison, from left to right. -/
def comparisons : Expr → List Expr
  | literal _ _ => []
  | identifier _ => []
  | group inner => inner.comparisons
  | binary op left right =>
      match op with
      | .eq | .ne => [binary op left right]
      | .and | .or => left.comparisons ++ right.comparisons
      | _ => []

/-- The truth value of a condition as a formula, from the truth values of its comparisons. -/
def truth (holds : Expr → Bool) : Expr → Bool
  | literal _ _ => false
  | identifier _ => false
  | group inner => inner.truth holds
  | binary op left right =>
      match op with
      | .eq | .ne => holds (binary op left right)
      | .and => left.truth holds && right.truth holds
      | .or => left.truth holds || right.truth holds
      | _ => false

/-- The error of the first of these trees that has one. -/
def firstError? (result : Expr → Except EvalError String) (trees : List Expr) : Option EvalError :=
  trees.findSome? fun t =>
    match result t with
    | .error e => some e
    | .ok _ => none

theorem firstError?_append (result : Expr → Except EvalError String) (first second : List Expr) :
    firstError? result (first ++ second) =
      (firstError? result first).or (firstError? result second) :=
  List.findSome?_append

theorem firstError?_eq_none_iff {result : Expr → Except EvalError String} {trees : List Expr} :
    firstError? result trees = none ↔ ∀ t ∈ trees, ∃ value, result t = .ok value := by
  rw [firstError?, List.findSome?_eq_none_iff]
  apply forall₂_congr
  intro t _
  cases result t <;> simp

theorem firstError?_of_split {result : Expr → Except EvalError String} {before after : List Expr}
    {t : Expr} {e : EvalError} (hbefore : ∀ other ∈ before, ∃ value, result other = .ok value)
    (h : result t = .error e) : firstError? result (before ++ t :: after) = some e := by
  rw [firstError?_append, firstError?_eq_none_iff.mpr hbefore]
  simp [firstError?, h]

variable {filters : FilterIndex} {limit depth : Nat} {facts : FactTable} {c : Expr}

/-- A condition that has a value is true or false. -/
theorem isTruth_of_outcomeAt (h : c.isBoolean = true) {value : String}
    (hvalue : c.outcomeAt filters limit facts depth = .ok value) : Eval.IsTruth value := by
  induction c generalizing depth with
  | literal | identifier => cases h
  | group inner ih =>
      have hdepth := le_limit_of_outcomeAt hvalue
      rw [outcomeAt_group hdepth] at hvalue
      exact ih h hvalue
  | binary op left right =>
      have hdepth := le_limit_of_outcomeAt hvalue
      rw [outcomeAt_binary hdepth] at hvalue
      split at hvalue
      · cases hvalue
      · cases hvalue
      · cases op with
        | eq | ne | and | or =>
            cases hvalue
            exact Eval.isTruth_ofBool _
        | mul | div | add | sub | assign => cases h

/-- The first error, if there is one, and otherwise the value. -/
def settle (error? : Option EvalError) (value : String) : Except EvalError String :=
  match error? with
  | some e => .error e
  | none => .ok value

/-- The tree is true as a condition of its own. -/
def holds (filters : FilterIndex) (limit : Nat) (facts : FactTable) (t : Expr) : Bool :=
  match t.outcome filters limit facts with
  | .ok value => value == Eval.trueText
  | .error _ => false

theorem outcomeAt_joined {op : BinaryOp} {left right : Expr} {first? second? : Option EvalError}
    {a b value : String} (hdepth : depth ≤ limit)
    (hleft : left.outcomeAt filters limit facts (depth + 1) = settle first? a)
    (hright : right.outcomeAt filters limit facts (depth + 1) = settle second? b)
    (hop : op.outcome filters facts a b = .ok value) :
    (binary op left right).outcomeAt filters limit facts depth =
      settle (first?.or second?) value := by
  rw [outcomeAt_binary hdepth, hleft, hright]
  cases first? with
  | some e => rfl
  | none =>
      cases second? with
      | some e => rfl
      | none => exact hop

theorem outcome_eq_settle (h : c.isBoolean = true) :
    c.outcome filters limit facts = settle (firstError? (outcome filters limit facts) [c])
      (Eval.ofBool (holds filters limit facts c)) := by
  cases hvalue : c.outcome filters limit facts with
  | error e => simp [firstError?, hvalue, settle]
  | ok value =>
      have htruth : Eval.IsTruth value := isTruth_of_outcomeAt h (outcomeAt_one.trans hvalue)
      rcases htruth with rfl | rfl
      · simp [firstError?, hvalue, settle, holds, Eval.ofBool]
      · simp [firstError?, hvalue, settle, holds, Eval.ofBool, Eval.trueText, Eval.falseText]

theorem outcomeAt_eq_formula (h : c.isBoolean = true) (hpos : 0 < depth)
    (hfits : depth + c.depth ≤ limit + 1) :
    c.outcomeAt filters limit facts depth =
      settle (firstError? (outcome filters limit facts) c.comparisons)
        (Eval.ofBool (c.truth (holds filters limit facts))) := by
  induction c generalizing depth with
  | literal | identifier => cases h
  | group inner ih =>
      simp only [Expr.depth] at hfits
      rw [outcomeAt_group (by omega)]
      exact ih h (by omega) (by omega)
  | binary op left right ihleft ihright =>
      have hself : (binary op left right).outcomeAt filters limit facts depth =
          (binary op left right).outcome filters limit facts := outcomeAt_eq_outcome hpos hfits
      simp only [Expr.depth] at hfits
      have hdepth : depth ≤ limit := by omega
      cases op with
      | eq | ne =>
          -- What stands below a comparison is no part of the formula.
          rw [hself]
          exact outcome_eq_settle h
      | and =>
          obtain ⟨hleft, hright⟩ := (Bool.and_eq_true _ _).mp h
          rw [comparisons, firstError?_append]
          exact outcomeAt_joined hdepth (ihleft hleft (by omega) (by omega))
            (ihright hright (by omega) (by omega)) (BinaryOp.outcome_and _ _)
      | or =>
          obtain ⟨hleft, hright⟩ := (Bool.and_eq_true _ _).mp h
          rw [comparisons, firstError?_append]
          exact outcomeAt_joined hdepth (ihleft hleft (by omega) (by omega))
            (ihright hright (by omega) (by omega)) (BinaryOp.outcome_or _ _)
      | mul | div | add | sub | assign => cases h

theorem isBoolean_of_mem_comparisons {t : Expr} (h : t ∈ c.comparisons) : t.isBoolean = true := by
  induction c with
  | literal | identifier => cases h
  | group inner ih => exact ih h
  | binary op left right ihleft ihright =>
      cases op with
      | eq | ne =>
          obtain rfl := List.mem_singleton.mp h
          rfl
      | and | or => exact (List.mem_append.mp h).elim ihleft ihright
      | mul | div | add | sub | assign => cases h

/-- An accepted condition within the limit has a value if and only if each of its comparisons has
one. Then these are truth values, and the condition has the one of the formula. Otherwise it fails
as the first comparison that fails, whatever the others are. -/
theorem condition_as_formula (h : c.isBoolean = true) (hlimit : c.depth ≤ limit)
    (filters : FilterIndex) (facts : FactTable) :
    ((∃ value, c.outcome filters limit facts = .ok value) ↔
      ∀ t ∈ c.comparisons, ∃ value, t.outcome filters limit facts = .ok value) ∧
    ((∀ t ∈ c.comparisons, ∃ value, t.outcome filters limit facts = .ok value) →
      (∀ t ∈ c.comparisons,
        t.outcome filters limit facts = .ok (Eval.ofBool (t.holds filters limit facts))) ∧
      c.outcome filters limit facts =
        .ok (Eval.ofBool (c.truth (holds filters limit facts)))) ∧
    ∀ before t after e, c.comparisons = before ++ t :: after →
      (∀ other ∈ before, ∃ value, other.outcome filters limit facts = .ok value) →
      t.outcome filters limit facts = .error e → c.outcome filters limit facts = .error e := by
  have hformula : c.outcome filters limit facts =
      settle (firstError? (outcome filters limit facts) c.comparisons)
        (Eval.ofBool (c.truth (holds filters limit facts))) :=
    outcomeAt_eq_formula h Nat.one_pos (by omega)
  refine ⟨?_, ?_, ?_⟩
  · rw [hformula, ← firstError?_eq_none_iff]
    cases firstError? (outcome filters limit facts) c.comparisons <;> simp [settle]
  · intro hvalues
    constructor
    · intro t ht
      have hnone : firstError? (outcome filters limit facts) [t] = none := by
        apply firstError?_eq_none_iff.mpr
        intro other hother
        exact hvalues other (List.mem_singleton.mp hother ▸ ht)
      rw [outcome_eq_settle (isBoolean_of_mem_comparisons ht), hnone, settle]
    · rw [hformula, firstError?_eq_none_iff.mpr hvalues, settle]
  · intro before t after e hsplit hbefore herror
    rw [hformula, hsplit, firstError?_of_split hbefore herror, settle]

/-- An item is sold whatever else is asked, but a sum of its name and a number is asked as well. With
a comparison in place of the sum the formula decides. -/
theorem condition_as_formula_sale :
    let facts := FactTable.empty.insert "item" "book"
    let sold : Expr := .binary .eq (.identifier "item") (.identifier "book")
    let kept : Expr := .binary .ne (.identifier "item") (.identifier "book")
    let raised : Expr := .binary .eq (.binary .add (.identifier "item") (.int 1)) (.int 2)
    let failing : Expr := .binary .or sold (.group (.binary .and kept raised))
    let decided : Expr := .binary .or sold (.group (.binary .and kept sold))
    (failing.isBoolean = true ∧ failing.depth ≤ 6 ∧
      failing.comparisons = [sold, kept] ++ raised :: [] ∧
      sold.outcome .empty 6 facts = .ok "true" ∧
      failing.outcome .empty 6 facts = .error (.notNumeric "item")) ∧
    decided.isBoolean = true ∧ decided.depth ≤ 6 ∧
      decided.truth (holds .empty 6 facts) = true ∧
      decided.outcome .empty 6 facts = .ok (Eval.ofBool (decided.truth (holds .empty 6 facts))) := by
  intro facts sold kept raised failing decided
  have hsold : sold.outcome .empty 6 facts = .ok "true" := by decide +kernel
  have hkept : kept.outcome .empty 6 facts = .ok "false" := by decide +kernel
  have hraised : raised.outcome .empty 6 facts = .error (.notNumeric "item") := by decide +kernel
  have hcomparisons : decided.comparisons = [sold, kept, sold] := rfl
  refine ⟨⟨rfl, by decide, rfl, hsold, ?_⟩, rfl, by decide, by decide +kernel, ?_⟩
  · refine (condition_as_formula (c := failing) rfl (by decide) .empty facts).2.2
      [sold, kept] raised [] _ rfl ?_ hraised
    simp [hsold, hkept]
  · refine ((condition_as_formula (c := decided) rfl (by decide) .empty facts).2.1 ?_).2
    simp [hcomparisons, hsold, hkept]

end Expr

end Rulebook
