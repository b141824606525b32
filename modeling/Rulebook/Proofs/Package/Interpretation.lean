import Rulebook.Package.Run
import Rulebook.Proofs.Package.Compiling

namespace Rulebook

/-!
# Running a package from its texts

The interpreter works on the rule list as it is written. Each text is read when its turn comes and
evaluated at once, and nothing is kept but the facts. A compiled package runs as the interpreter
does, although it has only a table of trees and a list of names.
-/

/-- What ends an interpretation before the last rule. -/
inductive Interruption where
  | unreadable (rule : String) (site : Site) (source : ParseError)
  | failed (e : ExecutionError)

namespace RulePackage

def evalText (filters : FilterIndex) (limit : Nat) (rule : String) (site : Site) (text : String)
    (facts : FactTable) : Except Interruption String × FactTable :=
  match parse text with
  | .error source => (.error (.unreadable rule site source), facts)
  | .ok tree =>
      match tree.eval site.context filters limit facts with
      | (.error source, facts) => (.error (.failed ⟨rule, site, source⟩), facts)
      | (.ok value, facts) => (.ok value, facts)

/-- The action texts of a rule from number `index` on. -/
def interpretActions (filters : FilterIndex) (limit : Nat) (rule : String) (index : Nat) :
    List String → FactTable → Except Interruption Unit × FactTable
  | [], facts => (.ok (), facts)
  | text :: rest, facts =>
      match evalText filters limit rule (.action index) text facts with
      | (.error e, facts) => (.error e, facts)
      | (.ok _, facts) => interpretActions filters limit rule (index + 1) rest facts

def interpretRule (filters : FilterIndex) (limit : Nat) (rule : Rule) (facts : FactTable) :
    Except Interruption Unit × FactTable :=
  match evalText filters limit rule.name .condition rule.condition facts with
  | (.error e, facts) => (.error e, facts)
  | (.ok value, facts) =>
      if value = "true" then
        let trace := (facts.get? "trace").getD ""
        interpretActions filters limit rule.name 0 rule.actions
          (facts.insert "trace" (trace ++ rule.name ++ ";"))
      else (.ok (), facts)

def interpretRules (filters : FilterIndex) (limit : Nat) :
    List Rule → FactTable → Except Interruption Unit × FactTable
  | [], facts => (.ok (), facts)
  | rule :: rest, facts =>
      match interpretRule filters limit rule facts with
      | (.error e, facts) => (.error e, facts)
      | (.ok (), facts) => interpretRules filters limit rest facts

def interpret (package : RulePackage) (limit : Nat) (facts : FactTable) :
    Except Interruption Unit × FactTable :=
  interpretRules (FilterIndex.ofList package.filters) limit package.rules
    (facts.insert "trace" "")

variable {filters : FilterIndex} {limit : Nat}

theorem evalText_of_parse {text : String} {tree : Expr} (h : parse text = .ok tree)
    (rule : String) (site : Site) (facts : FactTable) :
    evalText filters limit rule site text facts =
      (tree.eval site.context filters limit facts).map
        (Except.mapError fun source => .failed ⟨rule, site, source⟩) id := by
  simp only [evalText, h]
  obtain ⟨_ | _, _⟩ := tree.eval site.context filters limit facts <;> rfl

theorem interpretActions_eq_runActions {texts : List String} {trees : List Expr}
    (h : List.Forall₂ (Compile.Accepts (.action 0)) texts trees) (rule : String) (index : Nat)
    (facts : FactTable) :
    interpretActions filters limit rule index texts facts =
      (CompiledRule.runActions filters limit rule index trees facts).map
        (Except.mapError .failed) id := by
  induction h generalizing index facts with
  | nil => rfl
  | @cons text tree texts trees htext _ ih =>
      rw [interpretActions, CompiledRule.runActions, evalText_of_parse htext.reads, Site.context]
      obtain ⟨_ | _, written⟩ := tree.eval .action filters limit facts
      · rfl
      · exact ih (index + 1) written

theorem interpretRule_eq_run {rule : Rule} {compiled : CompiledRule}
    (h : Compile.Reads rule compiled) (facts : FactTable) :
    interpretRule filters limit rule facts =
      (compiled.run filters limit rule.name facts).map (Except.mapError .failed) id := by
  rw [interpretRule, CompiledRule.run, evalText_of_parse h.condition.reads, h.name, Site.context]
  obtain ⟨_ | value, _⟩ := compiled.condition.eval .condition filters limit facts
  · rfl
  · by_cases hvalue : value = "true"
    · subst hvalue
      exact interpretActions_eq_runActions h.actions rule.name 0 _
    · have hother : value ≠ Eval.trueText := hvalue
      simp [Except.mapError, hvalue, hother]

theorem interpretRules_eq_runNames {compiled : CompiledPackage} {rules : List Rule}
    (h : ∀ rule ∈ rules, ∃ tree,
      compiled.rule? rule.name = some tree ∧ Compile.Reads rule tree) (facts : FactTable) :
    interpretRules compiled.filters limit rules facts =
      (compiled.runNames limit (rules.map Rule.name) facts).map (Except.mapError .failed) id := by
  induction rules generalizing facts with
  | nil => rfl
  | cons rule rest ih =>
      obtain ⟨⟨tree, hfound, hreads⟩, hrest⟩ := List.forall_mem_cons.mp h
      simp only [interpretRules, interpretRule_eq_run hreads, List.map_cons,
        CompiledPackage.runNames, hfound]
      obtain ⟨_ | _, written⟩ := tree.run compiled.filters limit rule.name facts
      · rfl
      · exact ih hrest written

/-- A compiled package runs as its texts are interpreted, on every table of facts and with every
depth limit, and it goes through each declared rule once and in declared order. -/
theorem interpret_eq_run {package : RulePackage} {compiled : CompiledPackage}
    (h : package.compile = .ok compiled) :
    compiled.order = package.ruleNames ∧ package.ruleNames.Nodup ∧
      ∀ limit facts, package.interpret limit facts =
        (compiled.run limit facts).map (Except.mapError .failed) id := by
  have hcompiles := compiles_of_compile h
  refine ⟨hcompiles.order, hcompiles.distinct, fun limit facts => ?_⟩
  rw [interpret, CompiledPackage.run, ← hcompiles.filters, hcompiles.order]
  exact interpretRules_eq_runNames hcompiles.reads (facts.insert "trace" "")

/-- The second rule reads what the first one has written. -/
theorem trace_of_dependent_rules :
    let package : RulePackage := ⟨"stock", "", "", [⟨"sell", "level == full", ["_level = _low"]⟩,
      ⟨"order", "level == low", ["_level = _ordered"]⟩], []⟩
    let facts := FactTable.ofList [("level", "full")]
    ∃ compiled, package.compile = .ok compiled ∧
      (compiled.run 256 facts).2.get? "trace" = some "sell;order;" := by
  intro package facts
  have hok : package.compile.isOk = true := by decide +kernel
  cases h : package.compile with
  | error e => simp [h, Except.isOk, Except.toBool] at hok
  | ok compiled =>
      have heq : package.interpret 256 facts =
          (compiled.run 256 facts).map (Except.mapError .failed) id :=
        (interpret_eq_run h).2.2 256 facts
      have htable : (compiled.run 256 facts).2 = (package.interpret 256 facts).2 := by rw [heq]; rfl
      refine ⟨compiled, rfl, ?_⟩
      rw [htable]
      decide +kernel

end RulePackage

end Rulebook
