import Rulebook.Eval

namespace Rulebook

/-!
# How evaluations fail

An evaluation fails for one of three reasons: an operand of an arithmetic operator is not a number,
a node stands deeper than the limit, or the tree has an operator that does not belong to the
context. Only the first depends on the facts.
-/

theorem BinaryOp.eq_invalidOperator_of_resolve {op : BinaryOp} {context : Context} {e : EvalError}
    (h : op.resolve context = .error e) : e = .invalidOperator op context := by
  cases op <;> cases context <;> simp_all [resolve]

namespace Eval

theorem notNumeric_of_number {operand : String} {e : EvalError} (h : number operand = .error e) :
    e = .notNumeric operand := by
  unfold number at h
  split at h
  · cases h
  · exact (Except.error.inj h).symm

theorem notNumeric_of_compute {op : Arithmetic} {left right : String} {e : EvalError}
    (h : compute op left right = .error e) : ∃ operand, e = .notNumeric operand := by
  unfold compute at h
  split at h
  · next hleft => exact ⟨left, Except.error.inj h ▸ notNumeric_of_number hleft⟩
  · split at h
    · next hright => exact ⟨right, Except.error.inj h ▸ notNumeric_of_number hright⟩
    · cases h

theorem notNumeric_of_apply {filters : FilterIndex} {operation : Operation} {left right : String}
    {facts after : FactTable} {e : EvalError}
    (h : apply filters operation left right facts = (.error e, after)) :
    ∃ operand, e = .notNumeric operand := by
  cases operation with
  | arithmetic op => exact notNumeric_of_compute (Prod.mk.inj h).1
  | and | or | compare | assign => cases h

end Eval

namespace Expr

/-- The errors that a tree with its root at `depth` can give. -/
inductive Failure (context : Context) (limit depth : Nat) (t : Expr) : EvalError → Prop where
  | notNumeric (operand : String) : Failure context limit depth t (.notNumeric operand)
  | tooDeep (hdepth : limit + 1 < depth + t.depth) :
      Failure context limit depth t (.depthExceeded limit)
  | operator {op : BinaryOp} (hop : t.containsOp op = true)
      (hforbidden : op.resolve context = .error (.invalidOperator op context)) :
      Failure context limit depth t (.invalidOperator op context)

theorem Failure.of_lt {context : Context} {limit depth : Nat} {t : Expr} (hdeep : limit < depth) :
    Failure context limit depth t (.depthExceeded limit) := by
  have hpos := t.depth_pos
  exact .tooDeep (by omega)

/-- A part of a tree fails as the whole does. -/
theorem Failure.of_part {context : Context} {limit inner outer : Nat} {part whole : Expr}
    {e : EvalError} (h : Failure context limit inner part e)
    (hdepth : inner + part.depth ≤ outer + whole.depth)
    (hops : ∀ op, part.containsOp op = true → whole.containsOp op = true) :
    Failure context limit outer whole e := by
  cases h with
  | notNumeric operand => exact .notNumeric operand
  | tooDeep hdeep => exact .tooDeep (Nat.lt_of_lt_of_le hdeep hdepth)
  | operator hop hforbidden => exact .operator (hops _ hop) hforbidden

theorem failure_of_evalAt {context : Context} {filters : FilterIndex} {limit depth : Nat}
    {t : Expr} {facts after : FactTable} {e : EvalError}
    (h : t.evalAt context filters limit depth facts = (.error e, after)) :
    Failure context limit depth t e := by
  induction t generalizing depth facts after with
  | literal | identifier =>
      unfold evalAt at h
      split at h
      · next hdeep =>
          cases h
          exact .of_lt hdeep
      · cases h
  | group inner ih =>
      unfold evalAt at h
      split at h
      · next hdeep =>
          cases h
          exact .of_lt hdeep
      · refine (ih h).of_part ?_ fun op hop => hop
        simp only [Expr.depth]
        omega
  | binary op left right ihleft ihright =>
      unfold evalAt at h
      split at h
      · next hdeep =>
          cases h
          exact .of_lt hdeep
      · split at h
        · next hleft =>
            cases h
            refine (ihleft hleft).of_part ?_ fun other hother => by simp [containsOp, hother]
            simp only [Expr.depth]
            omega
        · split at h
          · next hright =>
              cases h
              refine (ihright hright).of_part ?_ fun other hother => by simp [containsOp, hother]
              simp only [Expr.depth]
              omega
          · split at h
            · next hresolve =>
                cases h
                obtain rfl := BinaryOp.eq_invalidOperator_of_resolve hresolve
                exact .operator (by simp [containsOp]) hresolve
            · obtain ⟨operand, rfl⟩ := Eval.notNumeric_of_apply h
              exact .notNumeric operand

end Expr

end Rulebook
