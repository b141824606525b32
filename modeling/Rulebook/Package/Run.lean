import Rulebook.Package.Basic

namespace Rulebook

/-!
# Running packages

A run empties the trace and goes through the rules in declared order. A rule whose condition
yields the text `true` is recorded in the trace, and its actions are evaluated in order on the
same facts. The first failure ends the run and names its rule and site; what was written before
it stays written.
-/

structure ExecutionError where
  rule : String
  site : Site
  source : EvalError
  deriving DecidableEq, Repr

def ExecutionError.message (e : ExecutionError) : String :=
  s!"rule '{e.rule}' failed in {e.site.text}: {e.source.message}"

namespace CompiledRule

/-- The actions of a rule from number `index` on. -/
def runActions (filters : FilterIndex) (limit : Nat) (rule : String) (index : Nat) :
    List Expr → FactTable → Except ExecutionError Unit × FactTable
  | [], facts => (.ok (), facts)
  | action :: rest, facts =>
      match action.eval .action filters limit facts with
      | (.error source, facts) => (.error ⟨rule, .action index, source⟩, facts)
      | (.ok _, facts) => runActions filters limit rule (index + 1) rest facts

/-- One rule. The trace records it under `name`. -/
def run (filters : FilterIndex) (limit : Nat) (name : String) (rule : CompiledRule)
    (facts : FactTable) : Except ExecutionError Unit × FactTable :=
  match rule.condition.eval .condition filters limit facts with
  | (.error source, facts) => (.error ⟨rule.name, .condition, source⟩, facts)
  | (.ok outcome, facts) =>
      if outcome = Eval.trueText then
        runActions filters limit rule.name 0 rule.actions (facts.recordFired name)
      else (.ok (), facts)

end CompiledRule

namespace CompiledPackage

/-- The rules of a list of names. A name without a rule ends the run. -/
def runNames (package : CompiledPackage) (limit : Nat) :
    List String → FactTable → Except ExecutionError Unit × FactTable
  | [], facts => (.ok (), facts)
  | name :: rest, facts =>
      match package.rule? name with
      | none => (.error ⟨name, .condition, .unknownRule name⟩, facts)
      | some rule =>
          match rule.run package.filters limit name facts with
          | (.error e, facts) => (.error e, facts)
          | (.ok (), facts) => package.runNames limit rest facts

/-- The outcome of a run, and the facts afterwards, also after a failure. -/
def run (package : CompiledPackage) (limit : Nat) (facts : FactTable) :
    Except ExecutionError Unit × FactTable :=
  package.runNames limit package.order facts.resetTrace

/-- The facts after a run that succeeds. -/
def evaluate (package : CompiledPackage) (limit : Nat) (facts : FactTable) :
    Except ExecutionError FactTable :=
  match package.run limit facts with
  | (.error e, _) => .error e
  | (.ok (), facts) => .ok facts

end CompiledPackage

end Rulebook
