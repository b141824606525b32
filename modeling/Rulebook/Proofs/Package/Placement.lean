import Rulebook.Proofs.Package.Safety

namespace Rulebook

/-!
# Operators in the wrong place

The compiler searches the whole tree for an operator that its site forbids, and the evaluator finds
such an operator only when both operands have values. The two checks agree all the same: no operator
passes an operand by, so an evaluation that has a value has come to every operator of the tree.
-/

/-- An evaluation that has a value has carried out every operator of the tree. -/
theorem Expr.exists_operation_of_evalAt {context : Context} {filters : FilterIndex}
    {limit depth : Nat} {t : Expr} {facts after : FactTable} {value : String}
    (h : t.evalAt context filters limit depth facts = (.ok value, after)) {op : BinaryOp}
    (hop : t.containsOp op = true) : ∃ operation, op.resolve context = .ok operation := by
  induction t generalizing depth facts after value with
  | literal | identifier => cases hop
  | group inner ih =>
      unfold evalAt at h
      split at h
      · cases h
      · exact ih h hop
  | binary own left right ihleft ihright =>
      simp only [containsOp, Bool.or_eq_true, beq_iff_eq] at hop
      unfold evalAt at h
      split at h
      · cases h
      · split at h
        · cases h
        · next hleft =>
            split at h
            · cases h
            · next hright =>
                split at h
                · cases h
                · next operation hresolve =>
                    rcases hop with (rfl | hinleft) | hinright
                    · exact ⟨operation, hresolve⟩
                    · exact ihleft hleft hinleft
                    · exact ihright hright hinright

namespace Compile

theorem resolve_forbidden (site : Site) :
    (forbidden site).resolve site.context =
      .error (.invalidOperator (forbidden site) site.context) := by
  cases site <;> rfl

variable {t : Expr}

theorem eval_ne_ok_of_forbidden (site : Site) (h : t.containsOp (forbidden site) = true)
    (filters : FilterIndex) (limit : Nat) (facts : FactTable) (value : String) :
    (t.eval site.context filters limit facts).1 ≠ .ok value := by
  intro hvalue
  have heval : t.evalAt site.context filters limit 1 facts =
      (.ok value, (t.eval site.context filters limit facts).2) := Prod.ext hvalue rfl
  obtain ⟨operation, hresolve⟩ := Expr.exists_operation_of_evalAt heval h
  rw [resolve_forbidden] at hresolve
  cases hresolve

theorem eval_ne_invalidOperator (site : Site) (h : t.containsOp (forbidden site) = false)
    (filters : FilterIndex) (limit : Nat) (facts : FactTable) (op : BinaryOp)
    (context : Context) :
    (t.eval site.context filters limit facts).1 ≠ .error (.invalidOperator op context) := by
  intro herror
  have heval : t.evalAt site.context filters limit 1 facts =
      (.error (.invalidOperator op context), (t.eval site.context filters limit facts).2) :=
    Prod.ext herror rfl
  cases Expr.failure_of_evalAt heval with
  | operator hop hresolve =>
      obtain rfl := forbidden_of_resolve hresolve
      simp [h] at hop

/-- The compiler refuses a tree for an operator if the one that its site forbids stands in it. -/
theorem readText_eq_invalidOperator_iff {site : Site} {text : String} (h : parse text = .ok t)
    (rule : String) :
    (∃ op, readText rule site text = .error (.invalidOperator rule site op)) ↔
      t.containsOp (forbidden site) = true := by
  simp only [readText, h]
  cases t.containsOp (forbidden site) with
  | true => simp
  | false =>
      constructor
      · rintro ⟨op, herror⟩
        split at herror
        · contradiction
        · split at herror <;> cases herror
      · nofun

/-- A tree with a forbidden operator has no value in its context, and a tree without one never fails
because of an operator. So the compiler refuses for their operators the trees that cannot have a
value because of them. -/
theorem placement_decides :
    (∀ (t : Expr) (filters : FilterIndex) (limit : Nat) (facts : FactTable),
      ((t.containsOp .assign = true →
          ∀ value, (t.eval .condition filters limit facts).1 ≠ .ok value) ∧
        (t.containsOp .assign = false → ∀ op context,
          (t.eval .condition filters limit facts).1 ≠ .error (.invalidOperator op context))) ∧
      (t.containsOp .ne = true →
          ∀ value, (t.eval .action filters limit facts).1 ≠ .ok value) ∧
        (t.containsOp .ne = false → ∀ op context,
          (t.eval .action filters limit facts).1 ≠ .error (.invalidOperator op context))) ∧
    ∀ (rule : String) (site : Site) (text : String) (t : Expr), parse text = .ok t →
      ((∃ op, readText rule site text = .error (.invalidOperator rule site op)) →
        ∀ filters limit facts value, (t.eval site.context filters limit facts).1 ≠ .ok value) ∧
      (¬ (∃ op, readText rule site text = .error (.invalidOperator rule site op)) →
        ∀ filters limit facts op context,
          (t.eval site.context filters limit facts).1 ≠ .error (.invalidOperator op context)) := by
  constructor
  · intro t filters limit facts
    refine ⟨⟨?_, ?_⟩, ?_, ?_⟩
    · exact fun h => eval_ne_ok_of_forbidden .condition h filters limit facts
    · exact fun h => eval_ne_invalidOperator .condition h filters limit facts
    · exact fun h => eval_ne_ok_of_forbidden (.action 0) h filters limit facts
    · exact fun h => eval_ne_invalidOperator (.action 0) h filters limit facts
  · intro rule site text t hparse
    rw [readText_eq_invalidOperator_iff hparse]
    constructor
    · exact eval_ne_ok_of_forbidden site
    · exact fun h => eval_ne_invalidOperator site (Bool.eq_false_iff.mpr h)

/-- In a condition a sum that is no number comes before the assignment, but no facts and no limit
give this tree a value. In an action its operators are allowed. -/
theorem placement_decides_seen :
    let text := "door + bell == (seen = door)"
    let t : Expr := .binary .eq (.binary .add (.identifier "door") (.identifier "bell"))
      (.group (.binary .assign (.identifier "seen") (.identifier "door")))
    let facts := FactTable.ofList [("door", "shut")]
    parse text = .ok t ∧
      (t.containsOp .assign = true ∧
        (t.eval .condition .empty 4 facts).1 = .error (.notNumeric "door") ∧
        ∀ value, (t.eval .condition .empty 4 facts).1 ≠ .ok value) ∧
      (t.containsOp .ne = false ∧ ∀ op context,
        (t.eval .action .empty 4 facts).1 ≠ .error (.invalidOperator op context)) ∧
      (∃ op, readText "knock" .condition text = .error (.invalidOperator "knock" .condition op)) ∧
      ∀ filters limit facts value, (t.eval .condition filters limit facts).1 ≠ .ok value := by
  intro text t facts
  have hparse : parse text = .ok t := by decide +kernel
  have hrefused : ∃ op, readText "knock" .condition text =
      .error (.invalidOperator "knock" .condition op) :=
    (readText_eq_invalidOperator_iff hparse "knock").mpr rfl
  obtain ⟨⟨hcondition, -⟩, -, haction⟩ := placement_decides.1 t .empty 4 facts
  exact ⟨hparse, ⟨rfl, by decide +kernel, hcondition rfl⟩, ⟨rfl, haction rfl⟩, hrefused,
    (placement_decides.2 "knock" .condition text t hparse).1 hrefused⟩

end Compile

end Rulebook
