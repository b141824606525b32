import Rulebook.Decimal.Numeral
import Rulebook.Decimal.Printing
import Rulebook.Expr.Basic
import Rulebook.Expr.Limits
import Rulebook.Facts
import Rulebook.Filters

namespace Rulebook

/-!
# Evaluation

Every expression yields a text. In a condition an identifier stands for a fact by its name, and
comparisons look the fact up; in an action an identifier yields the value of its fact, and `==`
and `=` assign. Both operands are evaluated before anything else is decided, so no operator
skips a part of the tree and a fact that is written stays written when a later part fails.
-/

inductive Context where
  | condition
  | action
  deriving DecidableEq, Repr

def Context.name : Context → String
  | condition => "condition"
  | action => "action"

inductive EvalError where
  | notNumeric (operand : String)
  | depthExceeded (limit : Nat)
  | invalidOperator (op : BinaryOp) (context : Context)
  | unknownRule (name : String)
  deriving DecidableEq, Repr

def EvalError.message : EvalError → String
  | notNumeric operand => s!"cannot convert '{operand}' to a number"
  | depthExceeded limit => s!"expression nesting exceeds the limit of {limit}"
  | invalidOperator op context =>
      s!"operator '{op.symbol}' cannot be evaluated in {context.name} context"
  | unknownRule name => s!"rule '{name}' has no compiled entry"

inductive Arithmetic where
  | mul | div | add | sub
  deriving DecidableEq, Repr

/-- Division by zero yields infinity or not-a-number. -/
def Arithmetic.apply : Arithmetic → Float → Float → Float
  | mul, a, b => a * b
  | div, a, b => a / b
  | add, a, b => a + b
  | sub, a, b => a - b

/-- What an operator does. -/
inductive Operation where
  | arithmetic (op : Arithmetic)
  | and
  | or
  | compare (negate : Bool)
  | assign
  deriving DecidableEq, Repr

/-- Comparison and assignment share `==`; the context decides. -/
def BinaryOp.resolve (op : BinaryOp) (context : Context) : Except EvalError Operation :=
  match op, context with
  | mul, _ => .ok (.arithmetic .mul)
  | div, _ => .ok (.arithmetic .div)
  | add, _ => .ok (.arithmetic .add)
  | sub, _ => .ok (.arithmetic .sub)
  | and, _ => .ok .and
  | or, _ => .ok .or
  | eq, .condition => .ok (.compare false)
  | ne, .condition => .ok (.compare true)
  | eq, .action => .ok .assign
  | assign, .action => .ok .assign
  | assign, .condition => .error (.invalidOperator assign .condition)
  | ne, .action => .error (.invalidOperator ne .action)

namespace Eval

def trueText : String := "true"

def falseText : String := "false"

def ofBool (b : Bool) : String := if b then trueText else falseText

/-- In an action this mark, at the start of an identifier, keeps the rest from being looked
up. -/
def escapeMark : Char := '_'

/-- A right operand that starts with this text names a filter. -/
def filterMark : String := "xls"

def isFilter (right : String) : Bool := filterMark.toList.isPrefixOf right.toList

/-- The text of an identifier in an action. -/
def lookUp (facts : FactTable) (name : String) : String :=
  match name.toList with
  | [] => (facts.get? name).getD name
  | c :: rest => if c = escapeMark then String.ofList rest else (facts.get? name).getD name

def identifier (context : Context) (facts : FactTable) (name : String) : String :=
  match context with
  | .condition => name
  | .action => lookUp facts name

/-- Compares the fact `name` with a text, or with the values of a filter. A fact that is absent
has the empty text, but it is in no filter and outside of none. -/
def compare (filters : FilterIndex) (facts : FactTable) (negate : Bool) (name right : String) :
    Bool :=
  if isFilter right then
    match facts.get? name with
    | some value => filters.isMember right value != negate
    | none => false
  else ((facts.get? name).getD "" == right) != negate

def number (operand : String) : Except EvalError Float :=
  match Decimal.read? operand with
  | some x => .ok x
  | none => .error (.notNumeric operand)

def compute (op : Arithmetic) (left right : String) : Except EvalError String :=
  match number left with
  | .error e => .error e
  | .ok a =>
      match number right with
      | .error e => .error e
      | .ok b => .ok (Decimal.ofFloat (op.apply a b)).fixed

/-- The text of an operation, and the facts after it. -/
def apply (filters : FilterIndex) (operation : Operation) (left right : String)
    (facts : FactTable) : Except EvalError String × FactTable :=
  match operation with
  | .arithmetic op => (compute op left right, facts)
  | .and => (.ok (ofBool (left == trueText && right == trueText)), facts)
  | .or => (.ok (ofBool (left == trueText || right == trueText)), facts)
  | .compare negate => (.ok (ofBool (compare filters facts negate left right)), facts)
  | .assign => (.ok "", facts.insert left right)

end Eval

open Eval in
/-- Evaluates a tree whose root stands at `depth`. No node may stand deeper than `limit`. -/
def Expr.evalAt (context : Context) (filters : FilterIndex) (limit : Nat) (depth : Nat) :
    Expr → FactTable → Except EvalError String × FactTable
  | literal _ raw, facts =>
      if limit < depth then (.error (.depthExceeded limit), facts) else (.ok raw, facts)
  | identifier name, facts =>
      if limit < depth then (.error (.depthExceeded limit), facts)
      else (.ok (Eval.identifier context facts name), facts)
  | group inner, facts =>
      if limit < depth then (.error (.depthExceeded limit), facts)
      else inner.evalAt context filters limit (depth + 1) facts
  | binary op left right, facts =>
      if limit < depth then (.error (.depthExceeded limit), facts)
      else
        match left.evalAt context filters limit (depth + 1) facts with
        | (.error e, facts) => (.error e, facts)
        | (.ok a, facts) =>
            match right.evalAt context filters limit (depth + 1) facts with
            | (.error e, facts) => (.error e, facts)
            | (.ok b, facts) =>
                match op.resolve context with
                | .error e => (.error e, facts)
                | .ok operation => apply filters operation a b facts

/-- The text of a tree, or the first failure, and the facts afterwards. -/
def Expr.eval (context : Context) (filters : FilterIndex) (limit : Nat) (e : Expr)
    (facts : FactTable) : Except EvalError String × FactTable :=
  e.evalAt context filters limit 1 facts

end Rulebook
