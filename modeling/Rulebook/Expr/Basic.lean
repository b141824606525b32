namespace Rulebook

/-!
# Rule expressions

Conditions and actions are trees of binary operators over literals and identifiers. A literal
keeps its source text, quotes included, and parentheses of the source are nodes of their own.
Five levels order the operators by how tightly they bind.
-/

inductive BinaryOp where
  | mul | div | add | sub | eq | ne | assign | and | or
  deriving DecidableEq, Repr

namespace BinaryOp

def symbol : BinaryOp → String
  | mul => "*"
  | div => "/"
  | add => "+"
  | sub => "-"
  | eq => "=="
  | ne => "!="
  | assign => "="
  | and => "&&"
  | or => "||"

/-- An operator of a higher level binds tighter; all group to the left. -/
def level : BinaryOp → Nat
  | or => 0
  | and => 1
  | eq | ne | assign => 2
  | add | sub => 3
  | mul | div => 4

/-- Every operator, from the tightest level to the loosest. -/
def all : List BinaryOp := [mul, div, add, sub, eq, ne, assign, and, or]

theorem level_le_four (op : BinaryOp) : op.level ≤ 4 := by cases op <;> simp [level]

end BinaryOp

inductive LiteralKind where
  | int | string
  deriving DecidableEq, Repr

inductive Expr where
  | literal (kind : LiteralKind) (raw : String)
  | identifier (name : String)
  | binary (op : BinaryOp) (left right : Expr)
  | group (inner : Expr)
  deriving DecidableEq

namespace Expr

def int (value : Nat) : Expr := literal .int (toString value)

/-- Puts a backslash before every quote and every backslash. -/
def escape : List Char → List Char
  | [] => []
  | c :: rest => if c = '"' ∨ c = '\\' then '\\' :: c :: escape rest else c :: escape rest

/-- The string literal whose text between the quotes stands for `value`. -/
def string (value : String) : Expr :=
  literal .string (String.ofList ('"' :: escape value.toList ++ ['"']))

def containsOp (op : BinaryOp) : Expr → Bool
  | literal _ _ => false
  | identifier _ => false
  | binary own left right => own == op || containsOp op left || containsOp op right
  | group inner => containsOp op inner

/-- The number of nodes on the longest path from the root to a leaf. -/
def depth : Expr → Nat
  | literal _ _ => 1
  | identifier _ => 1
  | binary _ left right => 1 + max left.depth right.depth
  | group inner => 1 + inner.depth

/-- The tree as text, with a blank on each side of an operator. Nothing is put in parentheses
but groups, so only a tree whose shape agrees with the operator levels reads back as itself. -/
def print : Expr → String
  | literal _ raw => raw
  | identifier name => name
  | binary op left right => left.print ++ " " ++ op.symbol ++ " " ++ right.print
  | group inner => "(" ++ inner.print ++ ")"

theorem depth_pos (e : Expr) : 0 < e.depth := by cases e <;> simp only [depth] <;> omega

end Expr

end Rulebook
