import Mathlib.Control.Monad.Basic
import Rulebook.Proofs.Eval.Failure

namespace Rulebook

/-!
# What the limit on the depth does

A limit stops an evaluation at the first node that stands too deep, and it does nothing else. If no
node does, the evaluation is the one without a limit. If one does, that node is never passed by, as
no operator skips an operand: the evaluation stops there unless it has failed before, and then it has
failed as it does without a limit.
-/

open Eval in
/-- Evaluates a tree of any depth. -/
def Expr.evalUnlimited (context : Context) (filters : FilterIndex) :
    Expr → FactTable → Except EvalError String × FactTable
  | literal _ raw, facts => (.ok raw, facts)
  | identifier name, facts => (.ok (Eval.identifier context facts name), facts)
  | group inner, facts => inner.evalUnlimited context filters facts
  | binary op left right, facts =>
      match left.evalUnlimited context filters facts with
      | (.error e, facts) => (.error e, facts)
      | (.ok a, facts) =>
          match right.evalUnlimited context filters facts with
          | (.error e, facts) => (.error e, facts)
          | (.ok b, facts) =>
              match op.resolve context with
              | .error e => (.error e, facts)
              | .ok operation => apply filters operation a b facts

namespace Expr

/-- What becomes of an evaluation that does not fit into the limit: it is stopped, or it has failed
before and is the same as without a limit. -/
inductive Cut (limit : Nat) (whole : Except EvalError String × FactTable) :
    Except EvalError String × FactTable → Prop where
  | stopped (facts : FactTable) : Cut limit whole (.error (.depthExceeded limit), facts)
  | failed {e : EvalError} {after : FactTable} (h : whole = (.error e, after)) :
      Cut limit whole (.error e, after)

variable {context : Context} {filters : FilterIndex} {limit depth : Nat} {t : Expr}

theorem evalAt_eq_evalUnlimited (h : depth + t.depth ≤ limit + 1) (facts : FactTable) :
    t.evalAt context filters limit depth facts = t.evalUnlimited context filters facts := by
  induction t generalizing depth facts with
  | literal | identifier =>
      have hdepth : ¬ limit < depth := by
        simp only [Expr.depth] at h
        omega
      simp only [evalAt, evalUnlimited, if_neg hdepth]
  | group inner ih =>
      simp only [Expr.depth] at h
      have hdepth : ¬ limit < depth := by omega
      simp only [evalAt, evalUnlimited, if_neg hdepth]
      exact ih (by omega) facts
  | binary op left right ihleft ihright =>
      simp only [Expr.depth] at h
      have hdepth : ¬ limit < depth := by omega
      have hleft : depth + 1 + left.depth ≤ limit + 1 := by omega
      have hright : depth + 1 + right.depth ≤ limit + 1 := by omega
      rw [evalAt, evalUnlimited, if_neg hdepth, ihleft hleft]
      rcases left.evalUnlimited context filters facts with ⟨_ | a, between⟩
      · rfl
      · simp only
        rewrite [ihright hright]
        rfl

theorem eval_eq_evalUnlimited (h : t.depth ≤ limit) (facts : FactTable) :
    t.eval context filters limit facts = t.evalUnlimited context filters facts :=
  evalAt_eq_evalUnlimited (by omega) facts

theorem cut_of_lt (h : limit + 1 < depth + t.depth) (facts : FactTable) :
    Cut limit (t.evalUnlimited context filters facts)
      (t.evalAt context filters limit depth facts) := by
  induction t generalizing depth facts with
  | literal | identifier =>
      have hdepth : limit < depth := by
        simp only [Expr.depth] at h
        omega
      simp only [evalAt, if_pos hdepth]
      exact .stopped facts
  | group inner ih =>
      simp only [Expr.depth] at h
      rw [evalAt, evalUnlimited]
      by_cases hdepth : limit < depth
      · rw [if_pos hdepth]
        exact .stopped facts
      · rw [if_neg hdepth]
        exact ih (by omega) facts
  | binary op left right ihleft ihright =>
      simp only [Expr.depth] at h
      rw [evalAt, evalUnlimited]
      by_cases hdepth : limit < depth
      · rw [if_pos hdepth]
        exact .stopped facts
      · rw [if_neg hdepth]
        by_cases hleft : limit + 1 < depth + 1 + left.depth
        · have hcut := ihleft hleft facts
          generalize left.evalAt context filters limit (depth + 1) facts = result at hcut ⊢
          cases hcut with
          | stopped between => exact .stopped between
          | failed hwhole =>
              rw [hwhole]
              exact .failed rfl
        · -- The left operand fits, so it is the right one that does not.
          have hright : limit + 1 < depth + 1 + right.depth := by omega
          rw [evalAt_eq_evalUnlimited (Nat.not_lt.mp hleft)]
          rcases left.evalUnlimited context filters facts with ⟨_ | a, between⟩
          · exact .failed rfl
          · have hcut := ihright hright between
            simp only
            generalize right.evalAt context filters limit (depth + 1) between = result at hcut ⊢
            cases hcut with
            | stopped after => exact .stopped after
            | failed hwhole =>
                rw [hwhole]
                exact .failed rfl

theorem evalUnlimited_ne_depthExceeded (t : Expr) (facts : FactTable) (n : Nat) :
    (t.evalUnlimited context filters facts).1 ≠ .error (.depthExceeded n) := by
  intro h
  have hfits : 1 + t.depth ≤ t.depth + 1 := by omega
  have heval : t.evalAt context filters t.depth 1 facts =
      (.error (.depthExceeded n), (t.evalUnlimited context filters facts).2) := by
    rw [evalAt_eq_evalUnlimited hfits, ← h]
  cases failure_of_evalAt heval with
  | tooDeep hdeep => omega

/-- A limit that the tree fits into changes nothing. Under a smaller one no tree has a value: the
evaluation exceeds the limit, or it gives another error, and then facts and error are those of the
evaluation without a limit. -/
theorem eval_unlimited_or_cut (t : Expr) (context : Context) (filters : FilterIndex)
    (facts : FactTable) (limit : Nat) :
    (t.depth ≤ limit →
      t.eval context filters limit facts = t.evalUnlimited context filters facts ∧
        ∀ n, (t.eval context filters limit facts).1 ≠ .error (.depthExceeded n)) ∧
    (limit < t.depth →
      (∀ value, (t.eval context filters limit facts).1 ≠ .ok value) ∧
      ((t.eval context filters limit facts).1 = .error (.depthExceeded limit) ∨
        ∃ e after, (∀ n, e ≠ .depthExceeded n) ∧
          t.eval context filters limit facts = (.error e, after) ∧
          t.evalUnlimited context filters facts = (.error e, after)) ∧
      ∀ value, (t.evalUnlimited context filters facts).1 = .ok value →
        (t.eval context filters limit facts).1 = .error (.depthExceeded limit)) := by
  constructor
  · intro hfits
    have heq : t.eval context filters limit facts = t.evalUnlimited context filters facts :=
      evalAt_eq_evalUnlimited (by omega) facts
    exact ⟨heq, fun n => heq ▸ t.evalUnlimited_ne_depthExceeded facts n⟩
  · intro hdeep
    have hcut : Cut limit (t.evalUnlimited context filters facts)
        (t.eval context filters limit facts) := cut_of_lt (by omega) facts
    generalize t.eval context filters limit facts = result at hcut ⊢
    cases hcut with
    | stopped after => exact ⟨nofun, Or.inl rfl, fun _ _ => rfl⟩
    | @failed e after hwhole =>
        have hother : ∀ n, e ≠ .depthExceeded n := by
          rintro n rfl
          exact t.evalUnlimited_ne_depthExceeded facts n (congrArg Prod.fst hwhole)
        refine ⟨nofun, Or.inr ⟨e, after, hother, rfl, hwhole⟩, fun value hvalue => ?_⟩
        rw [hwhole] at hvalue
        cases hvalue

/-- A copy that is three nodes deep is made under the limit 3 and not under the limit 2. In a deeper
tree a sum of no numbers comes first, and it fails in the same way under the limit 3. -/
theorem eval_unlimited_or_cut_copy :
    let facts := FactTable.empty.insert "item" "book"
    let copy : Expr := .binary .assign (.identifier "_seen") (.group (.identifier "item"))
    let sum : Expr := .binary .assign (.binary .add (.identifier "item") (.int 1))
      (.group (.group (.identifier "item")))
    (copy.depth ≤ 3 ∧
      copy.eval .action .empty 3 facts = copy.evalUnlimited .action .empty facts) ∧
    (2 < copy.depth ∧
      copy.evalUnlimited .action .empty facts = (.ok "", facts.insert "seen" "book") ∧
      (copy.eval .action .empty 2 facts).1 = .error (.depthExceeded 2)) ∧
    (3 < sum.depth ∧ (sum.eval .action .empty 3 facts).1 = .error (.notNumeric "book") ∧
      sum.evalUnlimited .action .empty facts = sum.eval .action .empty 3 facts) := by
  intro facts copy sum
  have hcopy : copy.evalUnlimited .action .empty facts =
      (.ok "", facts.insert "seen" "book") := by decide +kernel
  have hsum : (sum.eval .action .empty 3 facts).1 = .error (.notNumeric "book") := by decide +kernel
  refine ⟨⟨by decide, ?_⟩, ⟨by decide, hcopy, ?_⟩, by decide, hsum, ?_⟩
  · exact ((eval_unlimited_or_cut copy .action .empty facts 3).1 (by decide)).1
  · exact ((eval_unlimited_or_cut copy .action .empty facts 2).2 (by decide)).2.2 "" (by rw [hcopy])
  · obtain ⟨-, hstopped | ⟨e, after, -, heval, hwhole⟩, -⟩ :=
      (eval_unlimited_or_cut sum .action .empty facts 3).2 (by decide)
    · simp [hsum] at hstopped
    · rw [heval, hwhole]

end Expr

end Rulebook
