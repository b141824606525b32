import Rulebook.Proofs.Eval.Formula

namespace Rulebook

/-!
# The negation of a condition

A condition is negated as a formula is: each comparison is turned into the other one, and `&&` and
`||` change places. The negation fails as the condition does, and otherwise it has the opposite truth
value, but for one exception. A fact that is absent is neither in a filter nor outside of it.
-/

theorem Eval.eq_of_ofBool_eq {a b : Bool} (h : ofBool a = ofBool b) : a = b := by
  revert h
  cases a <;> cases b <;> decide

theorem Eval.compare_not {filters : FilterIndex} {facts : FactTable} {name right : String}
    (h : isFilter right = true → facts.contains name = true) (negate : Bool) :
    compare filters facts (!negate) name right = !compare filters facts negate name right := by
  unfold compare
  split
  · next hfilter =>
      obtain ⟨value, hvalue⟩ := Option.isSome_iff_exists.mp (h hfilter)
      rw [hvalue]
      exact Bool.bne_not _ _
  · exact Bool.bne_not _ _

theorem Eval.compare_of_absent {filters : FilterIndex} {facts : FactTable} {name right : String}
    (hfilter : isFilter right = true) (habsent : facts.contains name = false) (negate : Bool) :
    compare filters facts negate name right = false := by
  have hnone : facts.get? name = none :=
    Option.isNone_iff_eq_none.mp (Option.isSome_eq_false_iff.mp habsent)
  rw [compare, if_pos hfilter, hnone]

namespace Expr

/-- The condition with the other comparison in place of each, and with `&&` and `||` exchanged. -/
def dual : Expr → Expr
  | literal kind raw => literal kind raw
  | identifier name => identifier name
  | group inner => group inner.dual
  | binary op left right =>
      match op with
      | .eq => binary .ne left right
      | .ne => binary .eq left right
      | .and => binary .or left.dual right.dual
      | .or => binary .and left.dual right.dual
      | _ => binary op left right

/-- Each comparison of the condition that asks for a filter does so for a fact that is present. -/
def FiltersPresent (filters : FilterIndex) (limit : Nat) (facts : FactTable) (c : Expr) : Prop :=
  ∀ op left right, binary op left right ∈ c.comparisons → ∀ name filter,
    left.outcome filters limit facts = .ok name → right.outcome filters limit facts = .ok filter →
      Eval.isFilter filter = true → facts.contains name = true

theorem FiltersPresent.of_subset {filters : FilterIndex} {limit : Nat} {facts : FactTable}
    {c part : Expr} (h : c.FiltersPresent filters limit facts)
    (hpart : part.comparisons ⊆ c.comparisons) : part.FiltersPresent filters limit facts :=
  fun op left right hmem => h op left right (hpart hmem)

/-- The same failure, or two truth values, which are opposite if the statement `p` is true. -/
inductive Opposite (p : Prop) : Except EvalError String → Except EvalError String → Prop where
  | failure (e : EvalError) : Opposite p (.error e) (.error e)
  | values {value other : Bool} (h : p → other = !value) :
      Opposite p (.ok (Eval.ofBool value)) (.ok (Eval.ofBool other))

variable {filters : FilterIndex} {limit depth : Nat} {facts : FactTable}

theorem Opposite.of_le {p : Prop} {t other : Expr}
    (h : depth ≤ limit → Opposite p (t.outcomeAt filters limit facts depth)
      (other.outcomeAt filters limit facts depth)) :
    Opposite p (t.outcomeAt filters limit facts depth)
      (other.outcomeAt filters limit facts depth) := by
  rcases Nat.lt_or_ge limit depth with hdeep | hdepth
  · rw [outcomeAt_of_lt hdeep, outcomeAt_of_lt hdeep]
    exact .failure _
  · exact h hdepth

theorem opposite_comparison {p : Prop} {op other : BinaryOp} (negate : Bool)
    (hop : op.resolve .condition = .ok (.compare negate))
    (hother : other.resolve .condition = .ok (.compare !negate)) {left right : Expr}
    (h : p → ∀ name filter, left.outcome filters limit facts = .ok name →
      right.outcome filters limit facts = .ok filter → Eval.isFilter filter = true →
        facts.contains name = true) :
    Opposite p ((binary op left right).outcomeAt filters limit facts depth)
      ((binary other left right).outcomeAt filters limit facts depth) := by
  apply Opposite.of_le
  intro hdepth
  rw [outcomeAt_binary hdepth, outcomeAt_binary hdepth]
  cases hleft : left.outcomeAt filters limit facts (depth + 1) with
  | error e => exact .failure e
  | ok name =>
      cases hright : right.outcomeAt filters limit facts (depth + 1) with
      | error e => exact .failure e
      | ok filter =>
          simp only [BinaryOp.outcome, hop, hother, Eval.apply]
          apply Opposite.values
          intro hp
          apply Eval.compare_not
          intro hfilter
          exact h hp name filter (outcome_of_outcomeAt (Nat.succ_pos depth) hleft)
            (outcome_of_outcomeAt (Nat.succ_pos depth) hright) hfilter

theorem Opposite.joined {p : Prop} {op other : BinaryOp} {f g : Bool → Bool → Bool}
    (hop : ∀ a b, op.outcome filters facts (Eval.ofBool a) (Eval.ofBool b) =
      .ok (Eval.ofBool (f a b)))
    (hother : ∀ a b, other.outcome filters facts (Eval.ofBool a) (Eval.ofBool b) =
      .ok (Eval.ofBool (g a b)))
    (hnot : ∀ a b, g (!a) (!b) = !f a b) {left right otherLeft otherRight : Expr}
    (hleft : Opposite p (left.outcomeAt filters limit facts (depth + 1))
      (otherLeft.outcomeAt filters limit facts (depth + 1)))
    (hright : Opposite p (right.outcomeAt filters limit facts (depth + 1))
      (otherRight.outcomeAt filters limit facts (depth + 1))) :
    Opposite p ((binary op left right).outcomeAt filters limit facts depth)
      ((binary other otherLeft otherRight).outcomeAt filters limit facts depth) := by
  apply Opposite.of_le
  intro hdepth
  rw [outcomeAt_binary hdepth, outcomeAt_binary hdepth]
  generalize left.outcomeAt filters limit facts (depth + 1) = first at hleft ⊢
  generalize otherLeft.outcomeAt filters limit facts (depth + 1) = otherFirst at hleft ⊢
  generalize right.outcomeAt filters limit facts (depth + 1) = second at hright ⊢
  generalize otherRight.outcomeAt filters limit facts (depth + 1) = otherSecond at hright ⊢
  cases hleft with
  | failure e => exact .failure e
  | values ha =>
      cases hright with
      | failure e => exact .failure e
      | values hb =>
          simp only [hop, hother]
          apply Opposite.values
          intro hp
          rw [ha hp, hb hp, hnot]

theorem opposite_dual {p : Prop} {c : Expr} (hboolean : c.isBoolean = true)
    (h : p → FiltersPresent filters limit facts c) (depth : Nat) :
    Opposite p (c.outcomeAt filters limit facts depth)
      (c.dual.outcomeAt filters limit facts depth) := by
  induction c generalizing depth with
  | literal | identifier => cases hboolean
  | group inner ih =>
      apply Opposite.of_le
      intro hdepth
      rw [dual, outcomeAt_group hdepth, outcomeAt_group hdepth]
      exact ih hboolean h (depth + 1)
  | binary op left right ihleft ihright =>
      cases op with
      | eq =>
          exact opposite_comparison false rfl rfl fun hp =>
            h hp .eq left right List.mem_cons_self
      | ne =>
          exact opposite_comparison true rfl rfl fun hp =>
            h hp .ne left right List.mem_cons_self
      | and =>
          obtain ⟨hl, hr⟩ := (Bool.and_eq_true _ _).mp hboolean
          apply Opposite.joined BinaryOp.outcome_and BinaryOp.outcome_or (by decide)
          · exact ihleft hl (fun hp => (h hp).of_subset (List.subset_append_left _ _)) (depth + 1)
          · exact ihright hr (fun hp => (h hp).of_subset (List.subset_append_right _ _)) (depth + 1)
      | or =>
          obtain ⟨hl, hr⟩ := (Bool.and_eq_true _ _).mp hboolean
          apply Opposite.joined BinaryOp.outcome_or BinaryOp.outcome_and (by decide)
          · exact ihleft hl (fun hp => (h hp).of_subset (List.subset_append_left _ _)) (depth + 1)
          · exact ihright hr (fun hp => (h hp).of_subset (List.subset_append_right _ _)) (depth + 1)
      | mul | div | add | sub | assign => cases hboolean

theorem outcome_of_absent {left right : Expr} {name filter : String}
    (hleft : left.outcome filters limit facts = .ok name)
    (hright : right.outcome filters limit facts = .ok filter)
    (hfilter : Eval.isFilter filter = true) (habsent : facts.contains name = false)
    {op : BinaryOp} (negate : Bool) (hop : op.resolve .condition = .ok (.compare negate))
    (hlimit : (binary op left right).depth ≤ limit) :
    (binary op left right).outcome filters limit facts = .ok Eval.falseText := by
  simp only [Expr.depth] at hlimit
  have hdepth : 1 ≤ limit := by omega
  rw [← outcomeAt_one, outcomeAt_binary hdepth, outcomeAt_eq_outcome Nat.two_pos (by omega), hleft,
    outcomeAt_eq_outcome Nat.two_pos (by omega), hright]
  simp only [BinaryOp.outcome, hop, Eval.apply, Eval.compare_of_absent hfilter habsent]
  rfl

/-- A condition and its negation fail in the same way, or one is true and the other false, unless a
comparison asks for an absent fact whether it is in a filter. Such a comparison is false, and so is
the opposite one. -/
theorem dual_opposes :
    (∀ (c : Expr) (filters : FilterIndex) (limit : Nat) (facts : FactTable),
      c.isBoolean = true → (c.depth ≤ limit → c.FiltersPresent filters limit facts) →
      (∃ e, c.outcome filters limit facts = .error e ∧
        c.dual.outcome filters limit facts = .error e) ∨
      ∃ value, c.outcome filters limit facts = .ok (Eval.ofBool value) ∧
        c.dual.outcome filters limit facts = .ok (Eval.ofBool !value)) ∧
    ∀ (left right : Expr) (filters : FilterIndex) (limit : Nat) (facts : FactTable)
      (name filter : String), left.outcome filters limit facts = .ok name →
      right.outcome filters limit facts = .ok filter → Eval.isFilter filter = true →
      facts.contains name = false → ∀ op, op = .eq ∨ op = .ne →
      (binary op left right).depth ≤ limit →
        (binary op left right).outcome filters limit facts = .ok Eval.falseText := by
  constructor
  · intro c filters limit facts hboolean hpresent
    have hopposite : Opposite (c.FiltersPresent filters limit facts)
        (c.outcome filters limit facts) (c.dual.outcome filters limit facts) :=
      opposite_dual hboolean id 1
    generalize hvalue : c.outcome filters limit facts = result at hopposite ⊢
    generalize c.dual.outcome filters limit facts = other at hopposite ⊢
    cases hopposite with
    | failure e => exact Or.inl ⟨e, rfl, rfl⟩
    | @values value other h =>
        -- A condition that has a value fits into the limit.
        rw [h (hpresent (depth_le_of_outcome hvalue))]
        exact Or.inr ⟨value, rfl, rfl⟩
  · rintro left right filters limit facts name filter hleft hright hfilter habsent op (rfl | rfl)
      hlimit
    · exact outcome_of_absent hleft hright hfilter habsent false rfl hlimit
    · exact outcome_of_absent hleft hright hfilter habsent true rfl hlimit

/-- A region that is known and listed, and a zone that is not known. -/
theorem dual_opposes_region :
    let facts := FactTable.ofList [("level", "low"), ("region", "10")]
    let filters := FilterIndex.ofList ["xlsSeg-10"]
    let listed (op : BinaryOp) (name : String) : Expr :=
      .binary op (.identifier name) (.identifier "xlsSeg")
    let level (op : BinaryOp) : Expr := .binary op (.identifier "level") (.identifier "high")
    let c : Expr := .binary .and (.group (listed .eq "region")) (level .ne)
    (c.isBoolean = true ∧ c.depth ≤ 4 ∧ c.FiltersPresent filters 4 facts ∧
      c.dual = .binary .or (.group (listed .ne "region")) (level .eq) ∧
      c.outcome filters 4 facts = .ok (Eval.ofBool true) ∧
      c.dual.outcome filters 4 facts = .ok (Eval.ofBool !true)) ∧
    (Eval.isFilter "xlsSeg" = true ∧ facts.contains "zone" = false ∧
      (listed .eq "zone").outcome filters 4 facts = .ok Eval.falseText ∧
      (listed .ne "zone").outcome filters 4 facts = .ok Eval.falseText) := by
  intro facts filters listed level c
  have hpresent : c.FiltersPresent filters 4 facts := by
    intro op left right hmem name filter hname hfilter hmark
    rcases List.mem_cons.mp hmem with h | h
    · cases h
      cases hname
      decide
    · cases List.mem_singleton.mp h
      cases hfilter
      exact absurd hmark (by decide)
  have hvalue : c.outcome filters 4 facts = .ok (Eval.ofBool true) := by decide +kernel
  refine ⟨⟨rfl, by decide, hpresent, rfl, hvalue, ?_⟩, by decide, by decide, ?_, ?_⟩
  · rcases dual_opposes.1 c filters 4 facts rfl (fun _ => hpresent) with
      ⟨e, herror, -⟩ | ⟨value, hown, hother⟩
    · rw [hvalue] at herror
      cases herror
    · obtain rfl := Eval.eq_of_ofBool_eq (Except.ok.inj (hown.symm.trans hvalue))
      exact hother
  · exact dual_opposes.2 _ _ filters 4 facts "zone" "xlsSeg" rfl rfl (by decide) (by decide) .eq
      (Or.inl rfl) (by decide)
  · exact dual_opposes.2 _ _ filters 4 facts "zone" "xlsSeg" rfl rfl (by decide) (by decide) .ne
      (Or.inr rfl) (by decide)

end Expr

end Rulebook
