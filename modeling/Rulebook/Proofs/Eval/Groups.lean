import Rulebook.Package.Compile
import Rulebook.Proofs.Eval.Limit

namespace Rulebook.Expr

/-!
# Trees without their groups

A group keeps the parentheses of the source in the tree and has no other purpose. No check looks at
it, and an evaluation passes through it; only the limit on the depth counts it. So trees that differ
in groups only are treated alike wherever they fit into the limit.
-/

/-- The tree with what is in a group in place of each group. -/
def ungrouped : Expr → Expr
  | literal kind raw => literal kind raw
  | identifier name => identifier name
  | binary op left right => binary op left.ungrouped right.ungrouped
  | group inner => inner.ungrouped

@[simp] theorem containsOp_ungrouped (op : BinaryOp) (t : Expr) :
    t.ungrouped.containsOp op = t.containsOp op := by
  induction t with
  | literal | identifier => rfl
  | binary own left right ihleft ihright => simp only [ungrouped, containsOp, ihleft, ihright]
  | group inner ih => exact ih

@[simp] theorem isBoolean_ungrouped (t : Expr) : t.ungrouped.isBoolean = t.isBoolean := by
  induction t with
  | literal | identifier => rfl
  | binary op left right ihleft ihright => simp only [ungrouped, isBoolean, ihleft, ihright]
  | group inner ih => exact ih

variable {context : Context} {filters : FilterIndex}

@[simp] theorem evalUnlimited_ungrouped (t : Expr) (facts : FactTable) :
    t.ungrouped.evalUnlimited context filters facts = t.evalUnlimited context filters facts := by
  induction t generalizing facts with
  | literal | identifier => rfl
  | binary op left right ihleft ihright => simp only [ungrouped, evalUnlimited, ihleft, ihright]
  | group inner ih => exact ih facts

variable {t other : Expr}

theorem containsOp_congr (h : t.ungrouped = other.ungrouped) (op : BinaryOp) :
    t.containsOp op = other.containsOp op := by
  rw [← containsOp_ungrouped, h, containsOp_ungrouped]

theorem isBoolean_congr (h : t.ungrouped = other.ungrouped) : t.isBoolean = other.isBoolean := by
  rw [← isBoolean_ungrouped, h, isBoolean_ungrouped]

/-- The limits need not be the same, for the depths are not. -/
theorem eval_congr (h : t.ungrouped = other.ungrouped) {limit otherLimit : Nat}
    (ht : t.depth ≤ limit) (hother : other.depth ≤ otherLimit) (facts : FactTable) :
    t.eval context filters limit facts = other.eval context filters otherLimit facts := by
  calc
    t.eval context filters limit facts = t.ungrouped.evalUnlimited context filters facts := by
      rw [eval_eq_evalUnlimited ht, evalUnlimited_ungrouped]
    _ = other.ungrouped.evalUnlimited context filters facts := by rw [h]
    _ = other.eval context filters otherLimit facts := by
      rw [eval_eq_evalUnlimited hother, evalUnlimited_ungrouped]

end Rulebook.Expr
