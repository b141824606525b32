import Rulebook.Expr.Parse
import Rulebook.Package.Basic

namespace Rulebook

/-!
# Compiling packages

Compiling reads every text of a package and refuses the package as a whole if anything is wrong
with it. The report lists rule names that are used twice, and then, rule by rule and in the
order of the texts, at most one problem of each text.
-/

inductive CompileError where
  | unreadable (rule : String) (site : Site) (source : ParseError)
  | duplicateRule (name : String)
  | invalidOperator (rule : String) (site : Site) (op : BinaryOp)
  | notBoolean (rule : String)
  | multiple (errors : List CompileError)

namespace CompileError

mutual

def message : CompileError → String
  | unreadable rule site source => s!"rule '{rule}' {site.text}: {source.message}"
  | duplicateRule name => s!"duplicate rule name '{name}'"
  | invalidOperator rule site op =>
      s!"operator '{op.symbol}' is not allowed in rule '{rule}' {site.text}"
  | notBoolean rule => s!"condition of rule '{rule}' does not yield true or false"
  | multiple errors => s!"{errors.length} errors: " ++ "; ".intercalate (messages errors)

def messages : List CompileError → List String
  | [] => []
  | e :: rest => e.message :: messages rest

end

mutual

/-- The single errors of a report, in order. -/
def errors : CompileError → List CompileError
  | multiple errors => allErrors errors
  | unreadable rule site source => [unreadable rule site source]
  | duplicateRule name => [duplicateRule name]
  | invalidOperator rule site op => [invalidOperator rule site op]
  | notBoolean rule => [notBoolean rule]

def allErrors : List CompileError → List CompileError
  | [] => []
  | e :: rest => e.errors ++ allErrors rest

end

def isMultiple : CompileError → Bool
  | multiple _ => true
  | _ => false

/-- One error stands for itself. -/
def ofList : List CompileError → CompileError
  | [e] => e
  | errors => multiple errors

end CompileError

/-- A condition is a comparison, or such conditions joined by `&&` and `||`. -/
def Expr.isBoolean : Expr → Bool
  | literal _ _ => false
  | identifier _ => false
  | group inner => inner.isBoolean
  | binary op left right =>
      match op with
      | .eq | .ne => true
      | .and | .or => left.isBoolean && right.isBoolean
      | _ => false

namespace Compile

/-- Conditions never assign, and actions never test for difference. -/
def forbidden : Site → BinaryOp
  | .condition => .assign
  | .action _ => .ne

def readText (rule : String) (site : Site) (text : String) : Except CompileError Expr :=
  match parse text with
  | .error source => .error (.unreadable rule site source)
  | .ok tree =>
      if tree.containsOp (forbidden site) then
        .error (.invalidOperator rule site (forbidden site))
      else if site = .condition ∧ tree.isBoolean = false then .error (.notBoolean rule)
      else .ok tree

/-- All results, or all errors, in order. -/
def gather {ε α : Type} : List (Except (List ε) α) → Except (List ε) (List α)
  | [] => .ok []
  | .ok a :: rest =>
      match gather rest with
      | .ok others => .ok (a :: others)
      | .error errors => .error errors
  | .error first :: rest =>
      match gather rest with
      | .ok _ => .error first
      | .error errors => .error (first ++ errors)

/-- Reads one text, with its error as the only one of a list. -/
def readSite (rule : String) (site : Site) (text : String) :
    Except (List CompileError) Expr :=
  match readText rule site text with
  | .ok tree => .ok tree
  | .error e => .error [e]

def readActions (rule : String) (actions : List String) :
    List (Except (List CompileError) Expr) :=
  actions.mapIdx fun index text => readSite rule (.action index) text

def compileRule (rule : Rule) : Except (List CompileError) CompiledRule :=
  match readSite rule.name .condition rule.condition,
    gather (readActions rule.name rule.actions) with
  | .ok condition, .ok actions => .ok ⟨rule.name, condition, actions⟩
  | .ok _, .error errors => .error errors
  | .error errors, .ok _ => .error errors
  | .error first, .error errors => .error (first ++ errors)

/-- The names that stand twice in a list, in the order of their second places. -/
def repeated (before : List String) : List String → List String
  | [] => []
  | name :: rest =>
      if before.count name = 1 then name :: repeated (name :: before) rest
      else repeated (name :: before) rest

/-- What is known of a package when some of its rules are compiled. -/
structure Progress where
  table : RuleTable
  order : List String
  errors : List CompileError

/-- Puts the rule to the others, unless it cannot be compiled or its name is taken. -/
def Progress.add (progress : Progress) (rule : Rule) : Progress :=
  match compileRule rule with
  | .error errors => { progress with errors := progress.errors ++ errors }
  | .ok compiled =>
      if progress.table.contains rule.name then progress
      else
        { progress with
          table := progress.table.insert rule.name compiled
          order := progress.order ++ [rule.name] }

def Progress.start (package : RulePackage) : Progress :=
  ⟨.empty, [], (repeated [] package.ruleNames).map CompileError.duplicateRule⟩

end Compile

open Compile in
def RulePackage.compile (package : RulePackage) : Except CompileError CompiledPackage :=
  let progress := package.rules.foldl Progress.add (.start package)
  match progress.errors with
  | [] =>
      .ok ⟨package.name, package.validFrom, package.validTo, progress.table, progress.order,
        FilterIndex.ofList package.filters⟩
  | errors => .error (.ofList errors)

end Rulebook
