import Rulebook.Proofs.Decimal.Printing
import Rulebook.Proofs.Eval.Agreement
import Rulebook.Proofs.Eval.Outcome
import Rulebook.Proofs.Eval.Reads

namespace Rulebook

/-!
# The names that a condition asks for

A comparison looks up the text of its left operand, which may be the result of a computation or of
another comparison. Still only some names can come up: the texts of the leaves, the two truth values
and the texts of computed numbers. Facts of other names do not count.
-/

theorem BinaryOp.outcome_congr {facts others : FactTable} {left : String}
    (h : facts.get? left = others.get? left) (filters : FilterIndex) (right : String)
    (op : BinaryOp) : op.outcome filters facts left right = op.outcome filters others left right := by
  unfold outcome
  cases op.resolve .condition with
  | error e => rfl
  | ok operation =>
      cases operation with
      | arithmetic | and | or | assign => rfl
      | compare negate => simp only [Eval.apply, Eval.compare, h]

theorem Eval.printed_of_compute {op : Arithmetic} {left right value : String}
    (h : compute op left right = .ok value) : Decimal.Printed value := by
  unfold compute at h
  split at h
  · cases h
  · split at h
    · cases h
    · cases h
      exact Decimal.printed_fixed _

theorem BinaryOp.isTruth_or_printed_of_outcome {filters : FilterIndex} {facts : FactTable}
    {left right value : String} {op : BinaryOp}
    (h : op.outcome filters facts left right = .ok value) :
    Eval.IsTruth value ∨ Decimal.Printed value := by
  unfold outcome at h
  cases hop : op.resolve .condition with
  | error e =>
      rw [hop] at h
      cases h
  | ok operation =>
      rw [hop] at h
      cases operation with
      | arithmetic own => exact Or.inr (Eval.printed_of_compute h)
      | and | or | compare =>
          cases h
          exact Or.inl (Eval.isTruth_ofBool _)
      | assign => exact absurd hop op.resolve_condition_ne_assign

namespace Expr

/-- The source texts of the literals. -/
def literals : Expr → List String
  | literal _ raw => [raw]
  | identifier _ => []
  | group inner => inner.literals
  | binary _ left right => left.literals ++ right.literals

/-- The names that a comparison in the tree can ask for. -/
inductive Nameable (t : Expr) : String → Prop where
  | identifier {name : String} (h : name ∈ t.identifiers) : Nameable t name
  | literal {raw : String} (h : raw ∈ t.literals) : Nameable t raw
  | truth {text : String} (h : Eval.IsTruth text) : Nameable t text
  | number {text : String} (h : Decimal.Printed text) : Nameable t text

theorem Nameable.of_subset {part t : Expr} {name : String} (h : part.Nameable name)
    (hidentifiers : part.identifiers ⊆ t.identifiers) (hliterals : part.literals ⊆ t.literals) :
    t.Nameable name := by
  cases h with
  | identifier h => exact .identifier (hidentifiers h)
  | literal h => exact .literal (hliterals h)
  | truth h => exact .truth h
  | number h => exact .number h

variable {filters : FilterIndex} {limit depth : Nat}

/-- The values of a tree are among the names that its comparisons can ask for. -/
theorem nameable_of_outcomeAt {t : Expr} {facts : FactTable} {value : String}
    (h : t.outcomeAt filters limit facts depth = .ok value) : t.Nameable value := by
  induction t generalizing depth with
  | literal kind raw =>
      rw [outcomeAt_literal (le_limit_of_outcomeAt h)] at h
      cases h
      exact .literal List.mem_cons_self
  | identifier name =>
      rw [outcomeAt_identifier (le_limit_of_outcomeAt h)] at h
      cases h
      exact .identifier List.mem_cons_self
  | group inner ih =>
      rw [outcomeAt_group (le_limit_of_outcomeAt h)] at h
      exact (ih h).of_subset (List.Subset.refl _) (List.Subset.refl _)
  | binary op left right =>
      rw [outcomeAt_binary (le_limit_of_outcomeAt h)] at h
      split at h
      · cases h
      · cases h
      · exact (BinaryOp.isTruth_or_printed_of_outcome h).elim .truth .number

theorem outcomeAt_congr {t : Expr} {facts others : FactTable}
    (h : ∀ name, t.Nameable name → facts.get? name = others.get? name) (depth : Nat) :
    t.outcomeAt filters limit facts depth = t.outcomeAt filters limit others depth := by
  induction t generalizing depth with
  | literal | identifier =>
      unfold outcomeAt evalAt
      split <;> rfl
  | group inner ih =>
      rcases Nat.lt_or_ge limit depth with hdeep | hdepth
      · rw [outcomeAt_of_lt hdeep, outcomeAt_of_lt hdeep]
      · rw [outcomeAt_group hdepth, outcomeAt_group hdepth]
        apply ih
        intro name hname
        exact h name (hname.of_subset (List.Subset.refl _) (List.Subset.refl _))
  | binary op left right ihleft ihright =>
      rcases Nat.lt_or_ge limit depth with hdeep | hdepth
      · rw [outcomeAt_of_lt hdeep, outcomeAt_of_lt hdeep]
      · have hpart : ∀ name, left.Nameable name → (binary op left right).Nameable name :=
          fun name hname =>
            hname.of_subset (List.subset_append_left _ _) (List.subset_append_left _ _)
        have hleft : left.outcomeAt filters limit facts (depth + 1) =
            left.outcomeAt filters limit others (depth + 1) := by
          apply ihleft
          intro name hname
          exact h name (hpart name hname)
        have hright : right.outcomeAt filters limit facts (depth + 1) =
            right.outcomeAt filters limit others (depth + 1) := by
          apply ihright
          intro name hname
          exact h name
            (hname.of_subset (List.subset_append_right _ _) (List.subset_append_right _ _))
        rw [outcomeAt_binary hdepth, outcomeAt_binary hdepth, ← hleft, ← hright]
        cases hvalue : left.outcomeAt filters limit facts (depth + 1) with
        | error e => rfl
        | ok name =>
            cases right.outcomeAt filters limit facts (depth + 1) with
            | error e => rfl
            | ok value =>
                -- The fact that is asked for has the text of the left operand as its name.
                have hname : (binary op left right).Nameable name :=
                  hpart name (nameable_of_outcomeAt hvalue)
                apply BinaryOp.outcome_congr
                exact h name hname

/-- A condition leaves the facts as they are, and its result is the same for all tables that agree
on the names that it can ask for. -/
theorem condition_frame (t : Expr) (filters : FilterIndex) (limit : Nat) (facts : FactTable) :
    (t.eval .condition filters limit facts).2 = facts ∧
    ∀ others : FactTable, (∀ name, t.Nameable name → facts.get? name = others.get? name) →
      (t.eval .condition filters limit facts).1 = (t.eval .condition filters limit others).1 :=
  ⟨t.eval_condition_snd facts, fun _ h => outcomeAt_congr h 1⟩

/-- The outer comparison asks for a fact with a truth value as its name. The color does not count. -/
theorem condition_frame_color :
    let facts := FactTable.ofList [("item", "book"), ("true", "yes")]
    let colored := facts.insert "color" "red"
    let t : Expr := .binary .eq
      (.group (.binary .eq (.identifier "item") (.identifier "book"))) (.identifier "yes")
    (∀ name, t.Nameable name → facts.get? name = colored.get? name) ∧
      (t.eval .condition .empty 4 facts).1 = .ok "true" ∧
      (t.eval .condition .empty 4 colored).1 = .ok "true" ∧
      (t.eval .condition .empty 4 colored).2 = colored := by
  intro facts colored t
  have hvalue : (t.eval .condition .empty 4 facts).1 = .ok "true" := by decide +kernel
  have hagree : ∀ name, t.Nameable name → facts.get? name = colored.get? name := by
    intro name hname
    have hcolor : name ≠ "color" := by
      rintro rfl
      cases hname with
      | identifier h => simp [t, identifiers] at h
      | literal h => simp [t, literals] at h
      | truth h => simp [Eval.IsTruth, Eval.trueText, Eval.falseText] at h
      | number h =>
          obtain ⟨c, rest, hcons, hc⟩ := h.exists_cons
          cases hcons
          exact absurd hc (by decide)
    rw [Table.get?_insert, if_neg hcolor]
  exact ⟨hagree, hvalue, ((condition_frame t .empty 4 facts).2 colored hagree).symm.trans hvalue,
    (condition_frame t .empty 4 colored).1⟩

end Expr

end Rulebook
