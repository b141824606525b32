import Rulebook.Proofs.Eval.Groups
import Rulebook.Proofs.Package.Safety

namespace Rulebook

/-!
# Packages with other parentheses

Two packages with the same rules and filters may put parentheses at different places of their texts,
as long as no tree changes but for its groups. If both compile, all trees fit into the default
limit, and the runs go side by side: the same values, the same writes, the same failure.
-/

namespace Compile

/-- The texts are read as trees that differ in groups only. -/
def Regrouped (text other : String) : Prop :=
  ∃ t u, parse text = .ok t ∧ parse other = .ok u ∧ t.ungrouped = u.ungrouped

instance (text other : String) : Decidable (Regrouped text other) :=
  match ht : parse text, hu : parse other with
  | .ok t, .ok u =>
      decidable_of_iff (t.ungrouped = u.ungrouped) (by simp [Regrouped, ht, hu])
  | .error _, _ => isFalse (by simp [Regrouped, ht])
  | .ok _, .error _ => isFalse (by simp [Regrouped, hu])

theorem Accepts.eval_congr {site otherSite : Site} {text other : String} {t u : Expr}
    (ht : Accepts site text t) (hu : Accepts otherSite other u) (h : Regrouped text other)
    {limit : Nat} (hlimit : maxDepth ≤ limit) (context : Context) (filters : FilterIndex)
    (facts : FactTable) :
    t.eval context filters limit facts = u.eval context filters limit facts := by
  obtain ⟨first, second, hfirst, hsecond, hsame⟩ := h
  obtain rfl : first = t := Except.ok.inj (hfirst.symm.trans ht.reads)
  obtain rfl : second = u := Except.ok.inj (hsecond.symm.trans hu.reads)
  exact Expr.eval_congr hsame (Nat.le_trans ht.depth_le hlimit) (Nat.le_trans hu.depth_le hlimit)
    facts

end Compile

/-- The rules differ in the parentheses of their texts only. -/
structure Rule.Regrouped (rule other : Rule) : Prop where
  name : rule.name = other.name
  condition : Compile.Regrouped rule.condition other.condition
  actions : List.Forall₂ Compile.Regrouped rule.actions other.actions

instance (rule other : Rule) : Decidable (rule.Regrouped other) :=
  decidable_of_iff (rule.name = other.name ∧ Compile.Regrouped rule.condition other.condition ∧
      List.Forall₂ Compile.Regrouped rule.actions other.actions)
    ⟨fun ⟨hname, hcondition, hactions⟩ => ⟨hname, hcondition, hactions⟩,
      fun ⟨hname, hcondition, hactions⟩ => ⟨hname, hcondition, hactions⟩⟩

/-- The packages differ in the parentheses of their rule texts only. Names and validity windows are
not compared. -/
structure RulePackage.Regrouped (package other : RulePackage) : Prop where
  rules : List.Forall₂ Rule.Regrouped package.rules other.rules
  filters : package.filters = other.filters

instance (package other : RulePackage) : Decidable (package.Regrouped other) :=
  decidable_of_iff
    (List.Forall₂ Rule.Regrouped package.rules other.rules ∧ package.filters = other.filters)
    ⟨fun ⟨hrules, hfilters⟩ => ⟨hrules, hfilters⟩, fun ⟨hrules, hfilters⟩ => ⟨hrules, hfilters⟩⟩

/-! ## Runs side by side -/

namespace CompiledRule

variable {filters : FilterIndex} {limit : Nat}

theorem runActions_regrouped (hlimit : maxDepth ≤ limit) {texts others : List String}
    (h : List.Forall₂ Compile.Regrouped texts others) {trees otherTrees : List Expr}
    (htrees : List.Forall₂ (Compile.Accepts (.action 0)) texts trees)
    (hothers : List.Forall₂ (Compile.Accepts (.action 0)) others otherTrees) (rule : String)
    (index : Nat) (facts : FactTable) :
    runActions filters limit rule index trees facts =
      runActions filters limit rule index otherTrees facts := by
  induction h generalizing trees otherTrees index facts with
  | nil =>
      cases htrees
      cases hothers
      rfl
  | cons htext _ ih =>
      cases htrees with
      | @cons _ tree _ trees htree htrees =>
          cases hothers with
          | @cons _ other _ otherTrees hother hothers =>
              have heval : tree.eval .action filters limit facts =
                  other.eval .action filters limit facts :=
                htree.eval_congr hother htext hlimit .action filters facts
              rw [runActions, runActions, heval]
              rcases other.eval .action filters limit facts with ⟨_ | value, between⟩
              · rfl
              · exact ih htrees hothers (index + 1) between

theorem run_regrouped (hlimit : maxDepth ≤ limit) {rule other : Rule} (h : rule.Regrouped other)
    {compiled otherCompiled : CompiledRule} (hreads : Compile.Reads rule compiled)
    (hothers : Compile.Reads other otherCompiled) (name : String) (facts : FactTable) :
    compiled.run filters limit name facts = otherCompiled.run filters limit name facts := by
  have hname : compiled.name = otherCompiled.name :=
    hreads.name.trans (h.name.trans hothers.name.symm)
  have hcondition : compiled.condition.eval .condition filters limit facts =
      otherCompiled.condition.eval .condition filters limit facts :=
    hreads.condition.eval_congr hothers.condition h.condition hlimit .condition filters facts
  rw [run, run, hcondition, hname]
  rcases otherCompiled.condition.eval .condition filters limit facts with ⟨_ | value, between⟩
  · rfl
  · simp only
    split
    · exact runActions_regrouped hlimit h.actions hreads.actions hothers.actions _ 0 _
    · rfl

end CompiledRule

namespace CompiledPackage

theorem runNames_regrouped {compiled otherCompiled : CompiledPackage} {limit : Nat}
    (hlimit : maxDepth ≤ limit) (hfilters : compiled.filters = otherCompiled.filters)
    {rules others : List Rule} (h : List.Forall₂ Rule.Regrouped rules others)
    (hrules : ∀ rule ∈ rules, ∃ tree,
      compiled.rule? rule.name = some tree ∧ Compile.Reads rule tree)
    (hothers : ∀ rule ∈ others, ∃ tree,
      otherCompiled.rule? rule.name = some tree ∧ Compile.Reads rule tree) (facts : FactTable) :
    compiled.runNames limit (rules.map Rule.name) facts =
      otherCompiled.runNames limit (others.map Rule.name) facts := by
  induction h generalizing facts with
  | nil => rfl
  | @cons rule other rules others hrule _ ih =>
      obtain ⟨⟨tree, hfound, hreads⟩, hrest⟩ := List.forall_mem_cons.mp hrules
      obtain ⟨⟨otherTree, hotherFound, hotherReads⟩, hotherRest⟩ := List.forall_mem_cons.mp hothers
      have hrun : tree.run compiled.filters limit rule.name facts =
          otherTree.run otherCompiled.filters limit other.name facts := by
        rw [hfilters, hrule.name]
        exact CompiledRule.run_regrouped hlimit hrule hreads hotherReads other.name facts
      simp only [List.map_cons, runNames, hfound, hotherFound, hrun]
      rcases otherTree.run otherCompiled.filters limit other.name facts with ⟨_ | _, between⟩
      · rfl
      · exact ih hrest hotherRest between

end CompiledPackage

namespace RulePackage

theorem Regrouped.run_eq {package other : RulePackage} (h : package.Regrouped other)
    {compiled otherCompiled : CompiledPackage} (hcompiled : package.Compiles compiled)
    (hother : other.Compiles otherCompiled) {limit : Nat} (hlimit : maxDepth ≤ limit)
    (facts : FactTable) : compiled.run limit facts = otherCompiled.run limit facts := by
  have hfilters : compiled.filters = otherCompiled.filters := by
    rw [hcompiled.filters, hother.filters, h.filters]
  rw [CompiledPackage.run, CompiledPackage.run, hcompiled.order, hother.order]
  exact CompiledPackage.runNames_regrouped hlimit hfilters h.rules hcompiled.reads hother.reads
    facts.resetTrace

/-- Trees that are equal without their groups contain the same operators, are accepted as conditions
alike, and evaluate to the same result and the same facts under any limits that they fit into. Two
packages that compile and differ in such trees only have the same runs under the default limit. -/
theorem groups_shape_only :
    (∀ t u : Expr, t.ungrouped = u.ungrouped →
      (∀ op, t.containsOp op = u.containsOp op) ∧ t.isBoolean = u.isBoolean ∧
      ∀ (context : Context) (filters : FilterIndex) (facts : FactTable) (limit otherLimit : Nat),
        t.depth ≤ limit → u.depth ≤ otherLimit →
          t.eval context filters limit facts = u.eval context filters otherLimit facts) ∧
    ∀ (package other : RulePackage) (compiled otherCompiled : CompiledPackage),
      package.compile = .ok compiled → other.compile = .ok otherCompiled →
      package.Regrouped other → ∀ facts : FactTable,
        compiled.run EngineConfig.default.maxDepth facts =
          otherCompiled.run EngineConfig.default.maxDepth facts := by
  constructor
  · intro t u h
    refine ⟨Expr.containsOp_congr h, Expr.isBoolean_congr h, ?_⟩
    intro context filters facts limit otherLimit ht hu
    exact Expr.eval_congr h ht hu facts
  · intro package other compiled otherCompiled hcompiled hother h facts
    have hlimit : maxDepth ≤ EngineConfig.default.maxDepth := by decide
    exact h.run_eq (compiles_of_compile hcompiled) (compiles_of_compile hother) hlimit facts

/-- A door and its bell, with parentheses and without. The tree with two groups is two nodes deeper
and needs a greater limit. -/
theorem groups_shape_only_knock :
    let facts := FactTable.ofList [("door", "shut")]
    let package : RulePackage := ⟨"house", "", "",
      [⟨"knock", "door == shut", ["(_bell) = _rung", "_seen = (door)"]⟩], []⟩
    let other : RulePackage := ⟨"house", "", "",
      [⟨"knock", "((door) == shut)", ["_bell = _rung", "(_seen = door)"]⟩], []⟩
    let t : Expr := .binary .eq (.identifier "door") (.identifier "shut")
    let u : Expr := .group (.binary .eq (.group (.identifier "door")) (.identifier "shut"))
    (t.ungrouped = u.ungrouped ∧ t.depth ≤ 2 ∧ u.depth ≤ 4 ∧
      t.eval .condition .empty 2 facts = u.eval .condition .empty 4 facts ∧
      (u.eval .condition .empty 2 facts).1 = .error (.depthExceeded 2)) ∧
    ∃ compiled otherCompiled, package.compile = .ok compiled ∧
      other.compile = .ok otherCompiled ∧ package.Regrouped other ∧
      compiled.run EngineConfig.default.maxDepth facts =
        otherCompiled.run EngineConfig.default.maxDepth facts ∧
      (compiled.run EngineConfig.default.maxDepth facts).2.get? "bell" = some "rung" := by
  intro facts package other t u
  have hregrouped : package.Regrouped other := by decide +kernel
  have hbell : package.compile.toOption.map (fun compiled =>
      (compiled.run EngineConfig.default.maxDepth facts).2.get? "bell") = some (some "rung") := by
    decide +kernel
  have hotherOk : other.compile.isOk = true := by decide +kernel
  refine ⟨⟨rfl, by decide, by decide, ?_, by decide +kernel⟩, ?_⟩
  · exact (groups_shape_only.1 t u rfl).2.2 .condition .empty facts 2 4 (by decide) (by decide)
  · cases hcompiled : package.compile with
    | error e => simp [hcompiled, Except.toOption] at hbell
    | ok compiled =>
        cases hother : other.compile with
        | error e => simp [hother, Except.isOk, Except.toBool] at hotherOk
        | ok otherCompiled =>
            refine ⟨compiled, otherCompiled, rfl, rfl, hregrouped, ?_, ?_⟩
            · exact groups_shape_only.2 package other compiled otherCompiled hcompiled hother
                hregrouped facts
            · simpa [hcompiled, Except.toOption] using hbell

end RulePackage

end Rulebook
