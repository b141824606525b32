import Rulebook.Proofs.Eval.Writes

namespace Rulebook

/-!
# What an action reads

An action looks up the identifiers that stand in it without a mark, and no other names. What it
writes may change the facts of these names before they are looked up again, but it changes them in
the same way in all tables that agree on them. So its effect on such tables is one list of writes.
-/

namespace FactTable

/-- The tables have the same facts of these names: the same are present, with the same values. -/
def AgreeOn (names : String → Prop) (facts others : FactTable) : Prop :=
  ∀ name, names name → facts.get? name = others.get? name

theorem AgreeOn.insertAll {names : String → Prop} {facts others : FactTable}
    (h : AgreeOn names facts others) (writes : List (String × String)) :
    AgreeOn names (facts.insertAll writes) (others.insertAll writes) := by
  intro name hname
  rw [Table.get?_insertAll, Table.get?_insertAll, h name hname]

end FactTable

namespace Expr

def identifiers : Expr → List String
  | literal _ _ => []
  | identifier name => [name]
  | group inner => inner.identifiers
  | binary _ left right => left.identifiers ++ right.identifiers

/-- The number of nodes with the operator. -/
def countOp (op : BinaryOp) : Expr → Nat
  | literal _ _ => 0
  | identifier _ => 0
  | group inner => inner.countOp op
  | binary own left right =>
      (if own = op then 1 else 0) + left.countOp op + right.countOp op

end Expr

/-- In an action the identifier stands for the rest of itself. -/
def Eval.IsMarked (name : String) : Prop := name.toList.head? = some escapeMark

instance (name : String) : Decidable (Eval.IsMarked name) := inferInstanceAs (Decidable (_ = _))

theorem Eval.lookUp_congr {name : String} {facts others : FactTable}
    (h : ¬ IsMarked name → facts.get? name = others.get? name) :
    lookUp facts name = lookUp others name := by
  unfold lookUp
  split
  · next hnil => rw [h (by simp [IsMarked, hnil])]
  · next c rest hcons =>
      split
      · rfl
      · next hmark => rw [h (by simpa [IsMarked, hcons] using hmark)]

/-- In an action no operator looks at the facts. -/
theorem Eval.apply_fst_of_action {op : BinaryOp} {operation : Operation}
    (h : op.resolve .action = .ok operation) (filters : FilterIndex) (left right : String)
    (facts others : FactTable) :
    (apply filters operation left right facts).1 = (apply filters operation left right others).1 := by
  cases operation with
  | arithmetic | and | or | assign => rfl
  | compare negate => cases op <;> cases h

theorem BinaryOp.eq_or_assign_of_resolve {op : BinaryOp} {context : Context}
    (h : op.resolve context = .ok .assign) : op = .eq ∨ op = .assign := by
  cases op <;> cases context <;> simp_all [resolve]

theorem Operation.length_writes_le {op : BinaryOp} {context : Context} {operation : Operation}
    (h : op.resolve context = .ok operation) (left right : String) :
    (operation.writes left right).length ≤
      (if op = .eq then 1 else 0) + (if op = .assign then 1 else 0) := by
  cases operation with
  | arithmetic | and | or | compare => exact Nat.zero_le _
  | assign =>
      rcases BinaryOp.eq_or_assign_of_resolve h with rfl | rfl
      · exact Nat.le_refl 1
      · exact Nat.le_refl 1

namespace Expr

variable {filters : FilterIndex} {limit : Nat}

theorem length_writesAt_le (context : Context) (t : Expr) (depth : Nat) (facts : FactTable) :
    (t.writesAt context filters limit depth facts).length ≤ t.countOp .eq + t.countOp .assign := by
  induction t generalizing depth facts with
  | literal | identifier => exact Nat.zero_le _
  | group inner ih =>
      unfold writesAt
      split
      · exact Nat.zero_le _
      · exact ih (depth + 1) facts
  | binary op left right ihleft ihright =>
      have hleft := ihleft (depth + 1) facts
      unfold writesAt
      split
      · exact Nat.zero_le _
      · simp only [List.length_append, countOp]
        rcases left.evalAt context filters limit (depth + 1) facts with ⟨_ | a, between⟩
        · simp only [List.length_nil]
          omega
        · have hright := ihright (depth + 1) between
          simp only [List.length_append]
          rcases right.evalAt context filters limit (depth + 1) between with ⟨_ | b, after⟩
          · simp only [List.length_nil]
            omega
          · cases hop : op.resolve context with
            | error e =>
                simp only [List.length_nil]
                omega
            | ok operation =>
                have hown := Operation.length_writes_le hop a b
                simp only
                omega

/-- What an evaluation does to the facts that it starts from: its result, and what it writes. -/
def effectAt (context : Context) (filters : FilterIndex) (limit : Nat) (depth : Nat) (t : Expr)
    (facts : FactTable) : Except EvalError String × List (String × String) :=
  ((t.evalAt context filters limit depth facts).1, t.writesAt context filters limit depth facts)

/-- The right operand starts from the facts with what the left one has written. -/
theorem effectAt_binary {context : Context} {depth : Nat} (h : depth ≤ limit) (op : BinaryOp)
    (left right : Expr) (facts : FactTable) :
    (binary op left right).effectAt context filters limit depth facts =
      match left.effectAt context filters limit (depth + 1) facts with
      | (.error e, first) => (.error e, first)
      | (.ok a, first) =>
          match right.effectAt context filters limit (depth + 1) (facts.insertAll first) with
          | (.error e, second) => (.error e, first ++ second)
          | (.ok b, second) =>
              match op.resolve context with
              | .error e => (.error e, first ++ second)
              | .ok operation =>
                  ((Eval.apply filters operation a b ((facts.insertAll first).insertAll second)).1,
                    first ++ (second ++ operation.writes a b)) := by
  have hleft : (left.evalAt context filters limit (depth + 1) facts).2 =
      facts.insertAll (left.writesAt context filters limit (depth + 1) facts) :=
    left.evalAt_snd (depth + 1) facts
  unfold effectAt
  rw [evalAt, writesAt, if_neg (Nat.not_lt.mpr h), if_neg (Nat.not_lt.mpr h)]
  generalize left.evalAt context filters limit (depth + 1) facts = result at hleft ⊢
  generalize left.writesAt context filters limit (depth + 1) facts = first at hleft ⊢
  obtain ⟨_ | a, between⟩ := result
  · simp only [List.append_nil]
  · obtain rfl : between = facts.insertAll first := hleft
    have hright : (right.evalAt context filters limit (depth + 1) (facts.insertAll first)).2 =
        (facts.insertAll first).insertAll
          (right.writesAt context filters limit (depth + 1) (facts.insertAll first)) :=
      right.evalAt_snd (depth + 1) (facts.insertAll first)
    simp only
    generalize right.evalAt context filters limit (depth + 1) (facts.insertAll first) = result
      at hright ⊢
    generalize right.writesAt context filters limit (depth + 1) (facts.insertAll first) = second
      at hright ⊢
    obtain ⟨_ | b, after⟩ := result
    · simp only [List.append_nil]
    · obtain rfl : after = (facts.insertAll first).insertAll second := hright
      cases op.resolve context with
      | error e => simp only [List.append_nil]
      | ok operation => rfl

theorem effectAt_action_congr {names : String → Prop} {t : Expr}
    (hnames : ∀ name ∈ t.identifiers, ¬ Eval.IsMarked name → names name) {facts others : FactTable}
    (h : facts.AgreeOn names others) (depth : Nat) :
    t.effectAt .action filters limit depth facts =
      t.effectAt .action filters limit depth others := by
  induction t generalizing depth facts others with
  | literal =>
      unfold effectAt evalAt
      split <;> rfl
  | identifier name =>
      have hlookUp : Eval.lookUp facts name = Eval.lookUp others name := by
        apply Eval.lookUp_congr
        intro hmark
        exact h name (hnames name List.mem_cons_self hmark)
      unfold effectAt evalAt
      split
      · rfl
      · exact congrArg (fun text => (Except.ok text, [])) hlookUp
  | group inner ih =>
      have hinner := ih hnames h (depth + 1)
      unfold effectAt evalAt writesAt
      split
      · rfl
      · exact hinner
  | binary op left right ihleft ihright =>
      rcases Nat.lt_or_ge limit depth with hdeep | hdepth
      · unfold effectAt evalAt writesAt
        simp only [if_pos hdeep]
      · have hleft := ihleft (fun name hname => hnames name (List.mem_append_left _ hname)) h
          (depth + 1)
        rw [effectAt_binary hdepth, effectAt_binary hdepth, hleft]
        rcases left.effectAt .action filters limit (depth + 1) others with ⟨_ | a, first⟩
        · rfl
        · -- What the left operand writes is the same for both tables, so they still agree.
          have hright := ihright (fun name hname => hnames name (List.mem_append_right _ hname))
            (h.insertAll first) (depth + 1)
          simp only [hright]
          rcases right.effectAt .action filters limit (depth + 1) (others.insertAll first) with
            ⟨_ | b, second⟩
          · rfl
          · cases hop : op.resolve .action with
            | error e => rfl
            | ok operation =>
                simp only
                rw [Eval.apply_fst_of_action hop]

/-- An action has the same result on tables that agree on its identifiers without a mark, and it makes
the same writes to both, at most one for each `==` and `=`. It removes no fact, and those that it
does not write keep their values. -/
theorem action_effect {t : Expr} {facts others : FactTable}
    (h : ∀ name ∈ t.identifiers, ¬ Eval.IsMarked name → facts.get? name = others.get? name)
    (filters : FilterIndex) (limit : Nat) :
    (t.eval .action filters limit facts).1 = (t.eval .action filters limit others).1 ∧
    ∃ writes : List (String × String), writes.length ≤ t.countOp .eq + t.countOp .assign ∧
      ∀ table ∈ [facts, others],
        let after := (t.eval .action filters limit table).2
        after = table.insertAll writes ∧
        (∀ name, table.contains name = true → after.contains name = true) ∧
        ∀ name, (∀ write ∈ writes, write.1 ≠ name) → after.get? name = table.get? name := by
  let names (name : String) : Prop := name ∈ t.identifiers ∧ ¬ Eval.IsMarked name
  have hagree : facts.AgreeOn names others := fun name hname => h name hname.1 hname.2
  have hnames : ∀ name ∈ t.identifiers, ¬ Eval.IsMarked name → names name :=
    fun name hname hmark => ⟨hname, hmark⟩
  have hsame : (t.eval .action filters limit facts).1 = (t.eval .action filters limit others).1 ∧
      t.writes .action filters limit facts = t.writes .action filters limit others :=
    Prod.mk.inj (effectAt_action_congr hnames hagree 1)
  obtain ⟨hvalue, hwrites⟩ := hsame
  refine ⟨hvalue, t.writes .action filters limit facts, length_writesAt_le .action t 1 facts, ?_⟩
  intro table htable after
  have hafter : after = table.insertAll (t.writes .action filters limit facts) := by
    rcases List.mem_cons.mp htable with rfl | htable
    · exact t.eval_snd table
    · obtain rfl := List.mem_singleton.mp htable
      exact (t.eval_snd table).trans (congrArg table.insertAll hwrites.symm)
  refine ⟨hafter, ?_, ?_⟩
  · intro name hname
    exact hafter ▸ Table.contains_insertAll hname _
  · intro name hname
    exact hafter ▸ Table.get?_insertAll_of_forall_ne hname table

/-- The color of an item is not looked up. The second action fails behind its first write. -/
theorem action_effect_shelf :
    let facts := FactTable.ofList [("item", "book"), ("place", "shelf")]
    let colored := facts.insert "color" "red"
    let seen : Expr := .group (.binary .assign (.identifier "_seen") (.identifier "item"))
    let put : Expr := .binary .eq (.identifier "place") seen
    let count : Expr := .binary .add seen (.int 1)
    (∀ t ∈ [put, count], ∀ name ∈ t.identifiers, ¬ Eval.IsMarked name →
      facts.get? name = colored.get? name) ∧
    (put.eval .action .empty 4 colored).1 = .ok "" ∧
    (put.eval .action .empty 4 facts).1 = .ok "" ∧
    (put.eval .action .empty 4 facts).2 = facts.insertAll [("seen", "book"), ("shelf", "")] ∧
    (count.eval .action .empty 4 colored).1 = .error (.notNumeric "") ∧
    (count.eval .action .empty 4 facts).1 = .error (.notNumeric "") ∧
    ∃ writes : List (String × String), writes.length ≤ 1 ∧
      (count.eval .action .empty 4 facts).2 = facts.insertAll writes ∧
      (count.eval .action .empty 4 colored).2 = colored.insertAll writes := by
  intro facts colored seen put count
  have hput : put.eval .action .empty 4 facts =
      (.ok "", facts.insertAll [("seen", "book"), ("shelf", "")]) := by decide +kernel
  have hcount : (count.eval .action .empty 4 facts).1 = .error (.notNumeric "") := by decide +kernel
  have hagree : ∀ t ∈ [put, count], ∀ name ∈ t.identifiers, ¬ Eval.IsMarked name →
      facts.get? name = colored.get? name := by
    decide +kernel
  obtain ⟨hresult, -⟩ := action_effect (hagree put (by simp)) .empty 4
  obtain ⟨hfailure, writes, hlength, hwrites⟩ := action_effect (hagree count (by simp)) .empty 4
  refine ⟨hagree, hresult ▸ congrArg Prod.fst hput, congrArg Prod.fst hput, congrArg Prod.snd hput,
    hfailure ▸ hcount, hcount, writes, hlength, ?_, ?_⟩
  · exact (hwrites facts (by simp)).1
  · exact (hwrites colored (by simp)).1

end Expr

end Rulebook
