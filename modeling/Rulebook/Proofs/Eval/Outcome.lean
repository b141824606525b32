import Rulebook.Proofs.Eval.Limit
import Rulebook.Proofs.Eval.Writes

namespace Rulebook

/-!
# What conditions yield

A condition leaves the facts as they are, so an evaluation of one is known by its result. The result
of an operator is settled by the results of its operands, of which the left one fails first. Where a
limit lets a part of a tree have a value, it is the value that the part has on its own.
-/

/-- What an operator yields in a condition for the texts of its operands. -/
def BinaryOp.outcome (filters : FilterIndex) (facts : FactTable) (left right : String)
    (op : BinaryOp) : Except EvalError String :=
  match op.resolve .condition with
  | .error e => .error e
  | .ok operation => (Eval.apply filters operation left right facts).1

namespace Expr

/-- What a tree yields as a condition with its root at `depth`. -/
def outcomeAt (filters : FilterIndex) (limit : Nat) (facts : FactTable) (depth : Nat) (t : Expr) :
    Except EvalError String :=
  (t.evalAt .condition filters limit depth facts).1

/-- What a tree yields as a condition of its own. -/
def outcome (filters : FilterIndex) (limit : Nat) (facts : FactTable) (t : Expr) :
    Except EvalError String :=
  (t.eval .condition filters limit facts).1

variable {filters : FilterIndex} {limit depth : Nat} {facts : FactTable}

theorem outcomeAt_one {t : Expr} :
    t.outcomeAt filters limit facts 1 = t.outcome filters limit facts := rfl

theorem evalAt_condition (t : Expr) :
    t.evalAt .condition filters limit depth facts =
      (t.outcomeAt filters limit facts depth, facts) := by
  refine Prod.ext rfl ?_
  rw [evalAt_snd, writesAt_condition, Table.insertAll_nil]

theorem outcomeAt_of_lt (h : limit < depth) (t : Expr) :
    t.outcomeAt filters limit facts depth = .error (.depthExceeded limit) := by
  cases t <;> simp only [outcomeAt, evalAt, if_pos h]

theorem outcomeAt_literal (h : depth ≤ limit) (kind : LiteralKind) (raw : String) :
    (literal kind raw).outcomeAt filters limit facts depth = .ok raw := by
  simp only [outcomeAt, evalAt, if_neg (Nat.not_lt.mpr h)]

theorem outcomeAt_identifier (h : depth ≤ limit) (name : String) :
    (identifier name).outcomeAt filters limit facts depth = .ok name := by
  simp only [outcomeAt, evalAt, if_neg (Nat.not_lt.mpr h), Eval.identifier]

theorem outcomeAt_group (h : depth ≤ limit) (inner : Expr) :
    (group inner).outcomeAt filters limit facts depth =
      inner.outcomeAt filters limit facts (depth + 1) := by
  simp only [outcomeAt, evalAt, if_neg (Nat.not_lt.mpr h)]

theorem outcomeAt_binary (h : depth ≤ limit) (op : BinaryOp) (left right : Expr) :
    (binary op left right).outcomeAt filters limit facts depth =
      match left.outcomeAt filters limit facts (depth + 1),
        right.outcomeAt filters limit facts (depth + 1) with
      | .error e, _ => .error e
      | .ok _, .error e => .error e
      | .ok a, .ok b => op.outcome filters facts a b := by
  rw [outcomeAt, evalAt, if_neg (Nat.not_lt.mpr h), evalAt_condition]
  cases left.outcomeAt filters limit facts (depth + 1) with
  | error e => rfl
  | ok a =>
      simp only [evalAt_condition]
      cases right.outcomeAt filters limit facts (depth + 1) with
      | error e => rfl
      | ok b =>
          unfold BinaryOp.outcome
          cases op.resolve .condition <;> rfl

/-! ## Parts of a condition on their own -/

variable {t : Expr}

theorem outcomeAt_eq_outcome (hpos : 0 < depth) (h : depth + t.depth ≤ limit + 1) :
    t.outcomeAt filters limit facts depth = t.outcome filters limit facts := by
  have hroot : 1 + t.depth ≤ limit + 1 := by omega
  rw [outcomeAt, outcome, eval, evalAt_eq_evalUnlimited h, evalAt_eq_evalUnlimited hroot]

/-- A tree that has a value fits into the limit. -/
theorem fits_of_outcomeAt {value : String}
    (h : t.outcomeAt filters limit facts depth = .ok value) : depth + t.depth ≤ limit + 1 := by
  refine Nat.not_lt.mp fun hdeep => ?_
  have hcut : Cut limit (t.evalUnlimited .condition filters facts)
      (t.evalAt .condition filters limit depth facts) := cut_of_lt hdeep facts
  rw [evalAt_condition, h] at hcut
  cases hcut

theorem le_limit_of_outcomeAt {value : String}
    (h : t.outcomeAt filters limit facts depth = .ok value) : depth ≤ limit := by
  have hfits := fits_of_outcomeAt h
  have hpos := t.depth_pos
  omega

theorem depth_le_of_outcome {value : String} (h : t.outcome filters limit facts = .ok value) :
    t.depth ≤ limit := by
  have hfits : 1 + t.depth ≤ limit + 1 := fits_of_outcomeAt h
  omega

theorem outcome_of_outcomeAt (hpos : 0 < depth) {value : String}
    (h : t.outcomeAt filters limit facts depth = .ok value) :
    t.outcome filters limit facts = .ok value :=
  outcomeAt_eq_outcome hpos (fits_of_outcomeAt h) ▸ h

end Expr

end Rulebook
