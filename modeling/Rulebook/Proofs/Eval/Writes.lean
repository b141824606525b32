import Rulebook.Eval
import Rulebook.Proofs.Keyed

namespace Rulebook

/-!
# What an evaluation writes

An evaluation changes the facts by assignments only, and each of them takes effect when its
operator is applied. The list of these assignments gives the facts that are left behind, also by
an evaluation that fails. A condition assigns nothing.
-/

/-- The assignment that an operation carries out, if it is one. -/
def Operation.writes (left right : String) : Operation → List (String × String)
  | assign => [(left, right)]
  | _ => []

theorem BinaryOp.resolve_condition_ne_assign (op : BinaryOp) :
    op.resolve .condition ≠ .ok .assign := by
  cases op <;> simp [resolve]

theorem Operation.writes_of_ne_assign {operation : Operation} (h : operation ≠ .assign)
    (left right : String) : operation.writes left right = [] := by
  cases operation with
  | assign => exact absurd rfl h
  | arithmetic | and | or | compare => rfl

theorem Eval.apply_snd (filters : FilterIndex) (operation : Operation) (left right : String)
    (facts : FactTable) :
    (apply filters operation left right facts).2 =
      facts.insertAll (operation.writes left right) := by
  cases operation <;> rfl

namespace Expr

/-- The assignments of an evaluation whose root stands at `depth`: name and value of each, in the
order in which they take effect. -/
def writesAt (context : Context) (filters : FilterIndex) (limit : Nat) (depth : Nat) :
    Expr → FactTable → List (String × String)
  | literal _ _, _ => []
  | identifier _, _ => []
  | group inner, facts =>
      if limit < depth then [] else inner.writesAt context filters limit (depth + 1) facts
  | binary op left right, facts =>
      if limit < depth then []
      else
        left.writesAt context filters limit (depth + 1) facts ++
          match left.evalAt context filters limit (depth + 1) facts with
          | (.error _, _) => []
          | (.ok a, facts) =>
              right.writesAt context filters limit (depth + 1) facts ++
                match right.evalAt context filters limit (depth + 1) facts with
                | (.error _, _) => []
                | (.ok b, _) =>
                    match op.resolve context with
                    | .error _ => []
                    | .ok operation => operation.writes a b

/-- The assignments of an evaluation, those before its failure if it fails. -/
def writes (context : Context) (filters : FilterIndex) (limit : Nat) (t : Expr)
    (facts : FactTable) : List (String × String) :=
  t.writesAt context filters limit 1 facts

variable {context : Context} {filters : FilterIndex} {limit : Nat}

theorem evalAt_snd (t : Expr) (depth : Nat) (facts : FactTable) :
    (t.evalAt context filters limit depth facts).2 =
      facts.insertAll (t.writesAt context filters limit depth facts) := by
  induction t generalizing depth facts with
  | literal | identifier =>
      unfold evalAt
      split <;> rfl
  | group inner ih =>
      unfold evalAt writesAt
      split
      · rfl
      · exact ih (depth + 1) facts
  | binary op left right ihleft ihright =>
      unfold evalAt writesAt
      split
      · rfl
      · have hleft := ihleft (depth + 1) facts
        rw [Table.insertAll_append, ← hleft]
        rcases left.evalAt context filters limit (depth + 1) facts with ⟨_ | a, between⟩
        · rfl
        · -- The right operand starts from what the left one has written.
          have hright := ihright (depth + 1) between
          simp only [Table.insertAll_append, ← hright]
          rcases right.evalAt context filters limit (depth + 1) between with ⟨_ | b, after⟩
          · rfl
          · cases op.resolve context with
            | error e => rfl
            | ok operation => exact Eval.apply_snd filters operation a b after

theorem eval_snd (t : Expr) (facts : FactTable) :
    (t.eval context filters limit facts).2 =
      facts.insertAll (t.writes context filters limit facts) :=
  t.evalAt_snd 1 facts

/-! ## Evaluations that write nothing -/

variable {depth : Nat}

theorem writesAt_of_forall_ne_assign {t : Expr}
    (h : ∀ op, t.containsOp op = true → op.resolve context ≠ .ok .assign) (facts : FactTable) :
    t.writesAt context filters limit depth facts = [] := by
  induction t generalizing depth facts with
  | literal | identifier => rfl
  | group inner ih =>
      unfold writesAt
      split
      · rfl
      · exact ih h facts
  | binary op left right ihleft ihright =>
      unfold writesAt
      split
      · rfl
      · rw [ihleft fun other hother => h other (by simp [containsOp, hother])]
        rcases left.evalAt context filters limit (depth + 1) facts with ⟨_ | a, between⟩
        · rfl
        · simp only [ihright fun other hother => h other (by simp [containsOp, hother])]
          rcases right.evalAt context filters limit (depth + 1) between with ⟨_ | b, after⟩
          · rfl
          · cases hop : op.resolve context with
            | error e => rfl
            | ok operation =>
                refine Operation.writes_of_ne_assign (fun hassign => ?_) a b
                exact h op (by simp [containsOp]) (hassign ▸ hop)

theorem writesAt_condition (t : Expr) (facts : FactTable) :
    t.writesAt .condition filters limit depth facts = [] :=
  writesAt_of_forall_ne_assign (fun op _ => op.resolve_condition_ne_assign) facts

theorem eval_condition_snd (t : Expr) (facts : FactTable) :
    (t.eval .condition filters limit facts).2 = facts := by
  rw [eval_snd, writes, writesAt_condition, Table.insertAll_nil]

/-- An operator that assigns in an action stands somewhere in the tree. -/
def assigns (t : Expr) : Bool := t.containsOp .eq || t.containsOp .assign

theorem writesAt_of_assigns_eq_false {t : Expr} (h : t.assigns = false) (facts : FactTable) :
    t.writesAt context filters limit depth facts = [] := by
  obtain ⟨heq, hassign⟩ := Bool.or_eq_false_iff.mp h
  refine writesAt_of_forall_ne_assign (fun op hop hresolve => ?_) facts
  have hne : op ≠ .eq ∧ op ≠ .assign := by
    constructor <;> rintro rfl <;> simp_all
  cases op <;> cases context <;> simp_all [BinaryOp.resolve]

/-- An operator that assigns in an action stands in an operand of another operator. -/
def nestsAssignment : Expr → Bool
  | literal _ _ => false
  | identifier _ => false
  | group inner => inner.nestsAssignment
  | binary _ left right => left.assigns || right.assigns

/-- An assignment at the root is the last step of an evaluation, so it has not taken effect where
the evaluation fails. -/
theorem writesAt_of_error {t : Expr} (h : t.nestsAssignment = false) {facts : FactTable}
    {e : EvalError} (herror : (t.evalAt context filters limit depth facts).1 = .error e) :
    t.writesAt context filters limit depth facts = [] := by
  induction t generalizing depth facts with
  | literal | identifier => rfl
  | group inner ih =>
      unfold writesAt
      unfold evalAt at herror
      split
      · rfl
      · next hdepth => exact ih h (by simpa [hdepth] using herror)
  | binary op left right =>
      obtain ⟨hleft, hright⟩ := Bool.or_eq_false_iff.mp h
      unfold writesAt
      unfold evalAt at herror
      split
      · rfl
      · next hdepth =>
          rw [if_neg hdepth] at herror
          rw [writesAt_of_assigns_eq_false hleft]
          generalize left.evalAt context filters limit (depth + 1) facts = leftResult at herror ⊢
          rcases leftResult with ⟨_ | a, between⟩
          · rfl
          · simp only [writesAt_of_assigns_eq_false hright] at herror ⊢
            generalize right.evalAt context filters limit (depth + 1) between = rightResult
              at herror ⊢
            rcases rightResult with ⟨_ | b, after⟩
            · rfl
            · cases hop : op.resolve context with
              | error e => rfl
              | ok operation =>
                  -- Both operands have texts, and with these an assignment does not fail.
                  refine Operation.writes_of_ne_assign (fun hassign => ?_) a b
                  simp [hop, hassign, Eval.apply] at herror

end Expr

end Rulebook
