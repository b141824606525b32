import Rulebook.Proofs.Decimal.Reading
import Rulebook.Proofs.Eval.Groups
import Rulebook.Proofs.Eval.Names

namespace Rulebook

/-!
# Computations in several steps

Each arithmetic operator reads its operands as texts and writes its result as a text. The result of
an inner operator is always read again, so a computation of any size fails only at a leaf that is no
number, and it leaves the facts alone.
-/

theorem BinaryOp.exists_resolve_eq_arithmetic {op : BinaryOp} (h : op ∈ [mul, div, add, sub])
    (context : Context) : ∃ own, op.resolve context = .ok (.arithmetic own) := by
  cases op with
  | mul => exact ⟨.mul, rfl⟩
  | div => exact ⟨.div, rfl⟩
  | add => exact ⟨.add, rfl⟩
  | sub => exact ⟨.sub, rfl⟩
  | eq | ne | assign | and | or => simp at h

namespace Expr

/-- What a leaf yields. -/
def leafText? (context : Context) (facts : FactTable) : Expr → Option String
  | literal _ raw => some raw
  | identifier name => some (Eval.identifier context facts name)
  | binary _ _ _ => none
  | group _ => none

/-- The operands of all operators of the tree, without their groups. -/
def operands : Expr → List Expr
  | literal _ _ => []
  | identifier _ => []
  | binary _ left right =>
      left.ungrouped :: right.ungrouped :: (left.operands ++ right.operands)
  | group inner => inner.operands

/-- The texts of the leaves that are operands. -/
def operandTexts (context : Context) (facts : FactTable) (t : Expr) : List String :=
  t.operands.filterMap (leafText? context facts)

/-- No operator of the tree is other than arithmetic. -/
def OnlyArithmetic (t : Expr) : Prop :=
  ∀ op, t.containsOp op = true → op ∈ [BinaryOp.mul, .div, .add, .sub]

variable {context : Context} {filters : FilterIndex} {facts : FactTable}

theorem mem_operandTexts_binary {op : BinaryOp} {left right : Expr} {text : String} :
    text ∈ (binary op left right).operandTexts context facts ↔
      (left.ungrouped.leafText? context facts = some text ∨
        text ∈ left.operandTexts context facts) ∨
      right.ungrouped.leafText? context facts = some text ∨
        text ∈ right.operandTexts context facts := by
  simp only [operandTexts, operands, List.mem_filterMap, List.mem_cons, List.mem_append]
  constructor
  · rintro ⟨leaf, rfl | rfl | hleft | hright, htext⟩
    · exact Or.inl (Or.inl htext)
    · exact Or.inr (Or.inl htext)
    · exact Or.inl (Or.inr ⟨leaf, hleft, htext⟩)
    · exact Or.inr (Or.inr ⟨leaf, hright, htext⟩)
  · rintro ((htext | ⟨leaf, hleft, htext⟩) | htext | ⟨leaf, hright, htext⟩)
    · exact ⟨left.ungrouped, Or.inl rfl, htext⟩
    · exact ⟨leaf, Or.inr (Or.inr (Or.inl hleft)), htext⟩
    · exact ⟨right.ungrouped, Or.inr (Or.inl rfl), htext⟩
    · exact ⟨leaf, Or.inr (Or.inr (Or.inr hright)), htext⟩

theorem leafText?_ungrouped_eq_none {t : Expr} {op : BinaryOp} (h : t.containsOp op = true) :
    t.ungrouped.leafText? context facts = none := by
  induction t with
  | literal | identifier => cases h
  | binary => rfl
  | group inner ih => exact ih h

theorem OnlyArithmetic.left {op : BinaryOp} {left right : Expr}
    (h : (binary op left right).OnlyArithmetic) : left.OnlyArithmetic :=
  fun other hother => h other (by simp [containsOp, hother])

theorem OnlyArithmetic.right {op : BinaryOp} {left right : Expr}
    (h : (binary op left right).OnlyArithmetic) : right.OnlyArithmetic :=
  fun other hother => h other (by simp [containsOp, hother])

/-- The value is the text of the leaf if the tree is one leaf, and else a computed number. -/
def Yields (context : Context) (facts : FactTable) (t : Expr) (value : String) : Prop :=
  match t.ungrouped.leafText? context facts with
  | some text => value = text
  | none => Decimal.Printed value

/-- How a computation ends: all operands that are leaves are numbers, or one of them is the cause of
the failure. -/
inductive Computed (context : Context) (facts : FactTable) (t : Expr) :
    Except EvalError String × FactTable → Prop where
  | value {value : String} (hyields : t.Yields context facts value)
      (hnumbers : ∀ text ∈ t.operandTexts context facts, (Decimal.read? text).isSome = true) :
      Computed context facts t (.ok value, facts)
  | refused {text : String} (hmem : text ∈ t.operandTexts context facts)
      (hread : Decimal.read? text = none) :
      Computed context facts t (.error (.notNumeric text), facts)

/-- An operand that is no number is a leaf. -/
theorem Yields.leafText?_eq_some {t : Expr} {value : String} (h : t.Yields context facts value)
    (hread : Decimal.read? value = none) : t.ungrouped.leafText? context facts = some value := by
  unfold Yields at h
  split at h
  · next htext => rw [h, htext]
  · have hsome := h.isSome_read?
    simp [hread] at hsome

theorem Yields.eq_of_leafText? {t : Expr} {value text : String} (h : t.Yields context facts value)
    (htext : t.ungrouped.leafText? context facts = some text) : text = value := by
  rw [Yields, htext] at h
  exact h.symm

theorem computed_apply {op : BinaryOp} {left right : Expr} {a b : String}
    (hleft : left.Yields context facts a) (hright : right.Yields context facts b)
    (hlefts : ∀ text ∈ left.operandTexts context facts, (Decimal.read? text).isSome = true)
    (hrights : ∀ text ∈ right.operandTexts context facts, (Decimal.read? text).isSome = true)
    (own : Arithmetic) :
    Computed context facts (binary op left right)
      (Eval.apply filters (.arithmetic own) a b facts) := by
  simp only [Eval.apply]
  cases ha : Decimal.read? a with
  | none =>
      rw [Eval.compute, Eval.number, ha]
      exact .refused (mem_operandTexts_binary.mpr (Or.inl (Or.inl (hleft.leafText?_eq_some ha)))) ha
  | some x =>
      cases hb : Decimal.read? b with
      | none =>
          rw [Eval.compute, Eval.number, Eval.number, ha, hb]
          exact .refused
            (mem_operandTexts_binary.mpr (Or.inr (Or.inl (hright.leafText?_eq_some hb)))) hb
      | some y =>
          rw [Eval.compute, Eval.number, Eval.number, ha, hb]
          refine .value (Decimal.printed_fixed _) fun text htext => ?_
          rcases mem_operandTexts_binary.mp htext with (htext | htext) | htext | htext
          · rw [hleft.eq_of_leafText? htext, ha]
            rfl
          · exact hlefts text htext
          · rw [hright.eq_of_leafText? htext, hb]
            rfl
          · exact hrights text htext

theorem computed_evalUnlimited {t : Expr} (h : t.OnlyArithmetic) :
    Computed context facts t (t.evalUnlimited context filters facts) := by
  induction t with
  | literal | identifier => exact .value rfl nofun
  | group inner ih =>
      have hinner := ih h
      rw [evalUnlimited]
      generalize inner.evalUnlimited context filters facts = result at hinner ⊢
      cases hinner with
      | value hyields hnumbers => exact .value hyields hnumbers
      | refused hmem hread => exact .refused hmem hread
  | binary op left right ihleft ihright =>
      obtain ⟨own, hop⟩ :=
        BinaryOp.exists_resolve_eq_arithmetic (h op (by simp [containsOp])) context
      have hleft := ihleft h.left
      have hright := ihright h.right
      rw [evalUnlimited]
      generalize left.evalUnlimited context filters facts = result at hleft ⊢
      cases hleft with
      | refused hmem hread =>
          exact .refused (mem_operandTexts_binary.mpr (Or.inl (Or.inr hmem))) hread
      | value hfirst hlefts =>
          -- The right operand comes next, before either of the two texts is read as a number.
          simp only
          generalize right.evalUnlimited context filters facts = result at hright ⊢
          cases hright with
          | refused hmem hread =>
              exact .refused (mem_operandTexts_binary.mpr (Or.inr (Or.inr hmem))) hread
          | value hsecond hrights =>
              simp only [hop]
              exact computed_apply hfirst hsecond hlefts hrights own

/-- A computation has a value if and only if all leaves that are operands are numbers. Then the
value is a printed number, and otherwise the error names one of these leaves. The facts stay as they
are. -/
theorem computation_closed {t : Expr} (h : t.OnlyArithmetic) (hop : ∃ op, t.containsOp op = true)
    {limit : Nat} (hlimit : t.depth ≤ limit) (context : Context) (filters : FilterIndex)
    (facts : FactTable) :
    ((∃ value, (t.eval context filters limit facts).1 = .ok value) ↔
      ∀ text ∈ t.operandTexts context facts, (Decimal.read? text).isSome = true) ∧
    (∀ value, (t.eval context filters limit facts).1 = .ok value → Decimal.Printed value) ∧
    (∀ e, (t.eval context filters limit facts).1 = .error e →
      ∃ text ∈ t.operandTexts context facts,
        e = .notNumeric text ∧ Decimal.read? text = none) ∧
    (t.eval context filters limit facts).2 = facts := by
  obtain ⟨op, hop⟩ := hop
  have hcomputed : Computed context facts t (t.evalUnlimited context filters facts) :=
    computed_evalUnlimited h
  rw [eval_eq_evalUnlimited hlimit]
  generalize t.evalUnlimited context filters facts = result at hcomputed ⊢
  cases hcomputed with
  | @value value hyields hnumbers =>
      rw [Yields, leafText?_ungrouped_eq_none hop] at hyields
      refine ⟨⟨fun _ => hnumbers, fun _ => ⟨value, rfl⟩⟩, ?_, nofun, rfl⟩
      rintro _ ⟨⟩
      exact hyields
  | @refused text hmem hread =>
      refine ⟨⟨nofun, fun hnumbers => ?_⟩, nofun, ?_, rfl⟩
      · have hsome := hnumbers text hmem
        simp [hread] at hsome
      · rintro _ ⟨⟩
        exact ⟨text, hmem, rfl, hread⟩

/-- One is divided by zero, and the doubled price is taken away from the result. The price is known
in an action. In a condition it is a name, which is no number. -/
theorem computation_closed_price :
    let facts := FactTable.empty.insert "price" "3"
    let t : Expr := .binary .sub (.group (.binary .div (.int 1) (.int 0)))
      (.group (.binary .mul (.identifier "price") (.int 2)))
    (t.OnlyArithmetic ∧ t.containsOp .sub = true ∧ t.depth ≤ 4 ∧
      t.operandTexts .action facts = ["1", "0", "3", "2"]) ∧
    (∃ value, (t.eval .action .empty 4 facts).1 = .ok value ∧ Decimal.Printed value) ∧
    (t.eval .condition .empty 4 facts).1 = .error (.notNumeric "price") ∧
    (t.eval .condition .empty 4 facts).2 = facts := by
  intro facts t
  have honly : t.OnlyArithmetic := by
    intro op
    cases op <;> decide
  have hsub : ∃ op, t.containsOp op = true := ⟨.sub, rfl⟩
  have hdepth : t.depth ≤ 4 := by decide
  have htexts : t.operandTexts .action facts = ["1", "0", "3", "2"] := by decide +kernel
  obtain ⟨hvalue, hprinted, -⟩ := computation_closed honly hsub hdepth .action .empty facts
  have hnumbers : ∀ text ∈ t.operandTexts .action facts, (Decimal.read? text).isSome = true := by
    rw [htexts]
    decide
  obtain ⟨value, hok⟩ := hvalue.mpr hnumbers
  refine ⟨⟨honly, rfl, hdepth, htexts⟩, ⟨value, hok, hprinted value hok⟩, by decide +kernel, ?_⟩
  exact (computation_closed honly hsub hdepth .condition .empty facts).2.2.2

end Expr

end Rulebook
