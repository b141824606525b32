import Rulebook.Engine.Basic
import Rulebook.Package.Run
import Rulebook.Proofs.Eval.Failure
import Rulebook.Proofs.Expr.Parsing
import Rulebook.Proofs.Package.Compiling

namespace Rulebook

/-!
# Compiled packages fail at numbers only

Compiling leaves an evaluation one way to fail. No accepted tree is deeper than the default limit,
none has an operator that its context refuses, and every name in the order has its rule.
-/

theorem Compile.forbidden_of_resolve {op : BinaryOp} {site : Site} {e : EvalError}
    (h : op.resolve site.context = .error e) : op = forbidden site := by
  cases site <;> cases op <;> simp_all [BinaryOp.resolve, forbidden, Site.context]

theorem Compile.Accepts.depth_le {site : Site} {text : String} {tree : Expr}
    (h : Accepts site text tree) : tree.depth ≤ maxDepth :=
  (parse_eq_ok_iff.mp h.reads).2.depth

namespace EvalError

def IsNumeric (e : EvalError) : Prop := ∃ operand, e = .notNumeric operand

end EvalError

theorem Compile.Accepts.isNumeric_of_eval {site : Site} {text : String} {tree : Expr}
    (h : Accepts site text tree) {filters : FilterIndex} {limit : Nat} {facts after : FactTable}
    {e : EvalError} (hlimit : maxDepth ≤ limit)
    (heval : tree.eval site.context filters limit facts = (.error e, after)) : e.IsNumeric := by
  cases Expr.failure_of_evalAt heval with
  | notNumeric operand => exact ⟨operand, rfl⟩
  | tooDeep hdeep =>
      have hdepth : tree.depth ≤ maxDepth := h.depth_le
      omega
  | operator hop hforbidden =>
      obtain rfl := forbidden_of_resolve hforbidden
      simp [h.allowed] at hop

namespace CompiledRule

variable {filters : FilterIndex} {limit : Nat}

theorem isNumeric_of_runActions (hlimit : maxDepth ≤ limit) {texts : List String}
    {trees : List Expr} (h : List.Forall₂ (Compile.Accepts (.action 0)) texts trees)
    {rule : String} {index : Nat} {facts after : FactTable} {e : ExecutionError}
    (hrun : runActions filters limit rule index trees facts = (.error e, after)) :
    e.source.IsNumeric := by
  induction h generalizing index facts with
  | nil => cases hrun
  | cons htext _ ih =>
      unfold runActions at hrun
      split at hrun
      · next heval =>
          cases hrun
          exact htext.isNumeric_of_eval hlimit heval
      · exact ih hrun

theorem isNumeric_of_run (hlimit : maxDepth ≤ limit) {rule : Rule} {compiled : CompiledRule}
    (h : Compile.Reads rule compiled) {name : String} {facts after : FactTable}
    {e : ExecutionError} (hrun : compiled.run filters limit name facts = (.error e, after)) :
    e.source.IsNumeric := by
  unfold run at hrun
  split at hrun
  · next heval =>
      cases hrun
      exact h.condition.isNumeric_of_eval hlimit heval
  · split at hrun
    · exact isNumeric_of_runActions hlimit h.actions hrun
    · cases hrun

end CompiledRule

namespace CompiledPackage

theorem isNumeric_of_runNames {compiled : CompiledPackage} {limit : Nat}
    (hlimit : maxDepth ≤ limit) {names : List String}
    (h : ∀ name ∈ names, ∃ rule tree, compiled.rule? name = some tree ∧ Compile.Reads rule tree)
    {facts after : FactTable} {e : ExecutionError}
    (hrun : compiled.runNames limit names facts = (.error e, after)) : e.source.IsNumeric := by
  induction names generalizing facts with
  | nil => cases hrun
  | cons name rest ih =>
      obtain ⟨⟨rule, tree, hfound, hreads⟩, hrest⟩ := List.forall_mem_cons.mp h
      simp only [runNames, hfound] at hrun
      split at hrun
      · next hrule =>
          cases hrun
          exact CompiledRule.isNumeric_of_run hlimit hreads hrule
      · exact ih hrest hrun

/-- A package that compiles runs to its end, or fails where a text is no number. -/
theorem run_ok_or_notNumeric {package : RulePackage} {compiled : CompiledPackage}
    (h : package.compile = .ok compiled) (facts : FactTable) :
    (compiled.run EngineConfig.default.maxDepth facts).1 = .ok () ∨
      ∃ e operand, (compiled.run EngineConfig.default.maxDepth facts).1 = .error e ∧
        e.source = .notNumeric operand := by
  have hcompiles := RulePackage.compiles_of_compile h
  have hlimit : maxDepth ≤ EngineConfig.default.maxDepth := by decide
  have hnames : ∀ name ∈ compiled.order, ∃ rule tree,
      compiled.rule? name = some tree ∧ Compile.Reads rule tree := by
    intro name hname
    rw [hcompiles.order] at hname
    obtain ⟨rule, hrule, rfl⟩ := List.mem_map.mp hname
    exact ⟨rule, hcompiles.reads rule hrule⟩
  rcases hrun : compiled.run EngineConfig.default.maxDepth facts with ⟨_ | _, after⟩
  · next e =>
      obtain ⟨operand, hsource⟩ := isNumeric_of_runNames hlimit hnames hrun
      exact Or.inr ⟨e, operand, rfl, hsource⟩
  · exact Or.inl rfl

/-- An action that adds to a fact nobody has given a value. -/
theorem run_fails_at_unknown_price :
    let package : RulePackage := ⟨"prices", "", "", [⟨"raise", "item == book",
      ["_price = price + 1"]⟩], []⟩
    let facts := FactTable.ofList [("item", "book")]
    ∃ compiled e operand, package.compile = .ok compiled ∧
      (compiled.run EngineConfig.default.maxDepth facts).1 = .error e ∧
        e.source = .notNumeric operand := by
  intro package facts
  have hfails : package.compile.toOption.map
      (fun compiled => decide ((compiled.run 256 facts).1 = .ok ())) = some false := by
    decide +kernel
  cases h : package.compile with
  | error e => simp [h, Except.toOption] at hfails
  | ok compiled =>
      have hnot : (compiled.run EngineConfig.default.maxDepth facts).1 ≠ .ok () := by
        simpa [h, Except.toOption, EngineConfig.default, EngineConfig.defaultMaxDepth] using hfails
      obtain ⟨e, operand, hrun, hsource⟩ := (run_ok_or_notNumeric h facts).resolve_left hnot
      exact ⟨compiled, e, operand, rfl, hrun, hsource⟩

end CompiledPackage

end Rulebook
