import Rulebook.Eval

namespace Rulebook

/-!
# Rule packages

A package is a named list of rules with a validity window and the keys of its filters. The
window is kept as it is written and never read. A rule has a condition and actions, all as
text.
-/

structure Rule where
  name : String
  condition : String
  actions : List String
  deriving DecidableEq, Repr

structure RulePackage where
  name : String
  validFrom : String
  validTo : String
  rules : List Rule
  filters : List String
  deriving DecidableEq, Repr

namespace Rule

/-- A rule without condition and actions. -/
def named (name : String) : Rule := ⟨name, "", []⟩

def when (rule : Rule) (condition : String) : Rule := { rule with condition := condition }

/-- Adds an action behind the others. -/
def perform (rule : Rule) (action : String) : Rule :=
  { rule with actions := rule.actions ++ [action] }

end Rule

namespace RulePackage

/-- A package without rules, filters and validity window. -/
def named (name : String) : RulePackage := ⟨name, "", "", [], []⟩

def valid (package : RulePackage) (first last : String) : RulePackage :=
  { package with validFrom := first, validTo := last }

/-- Adds a rule behind the others. -/
def addRule (package : RulePackage) (rule : Rule) : RulePackage :=
  { package with rules := package.rules ++ [rule] }

def addFilter (package : RulePackage) (key : String) : RulePackage :=
  { package with filters := package.filters ++ [key] }

def ruleNames (package : RulePackage) : List String := package.rules.map Rule.name

end RulePackage

/-- A place in a rule: its condition, or one of its actions, counted from zero. -/
inductive Site where
  | condition
  | action (index : Nat)
  deriving DecidableEq, Repr

namespace Site

def context : Site → Context
  | condition => .condition
  | action _ => .action

def text : Site → String
  | condition => "condition"
  | action index => s!"action #{index}"

end Site

/-! ## Compiled packages -/

structure CompiledRule where
  name : String
  condition : Expr
  actions : List Expr
  deriving DecidableEq

/-- Compiled rules by name. -/
abbrev RuleTable := Table CompiledRule

namespace RuleTable

export Table (empty)

end RuleTable

/-- A package whose rules are trees. The rules are kept by name, and their names in declared
order. -/
structure CompiledPackage where
  name : String
  validFrom : String
  validTo : String
  table : RuleTable
  order : List String
  filters : FilterIndex
  deriving DecidableEq

namespace CompiledPackage

def ruleNames (package : CompiledPackage) : List String := package.order

def rule? (package : CompiledPackage) (name : String) : Option CompiledRule :=
  package.table.get? name

/-- The rules in declared order. -/
def rules (package : CompiledPackage) : List CompiledRule :=
  package.ruleNames.filterMap package.rule?

def size (package : CompiledPackage) : Nat := package.order.length

def summary (package : CompiledPackage) : String :=
  s!"CompiledPackage({package.name}, {package.size} rules, {package.filters.size} filter keys)"

end CompiledPackage

end Rulebook
