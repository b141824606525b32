namespace Rulebook

/-!
# Limits on the size of an expression text

Before an expression is read, one pass over its characters counts parentheses and operators
and refuses the text at the character that goes over a limit. What stands in a string does not
count, and the second character of a two-character operator counts with the first.
-/

/-- The most parentheses that may be open at once. -/
def maxNesting : Nat := 32

/-- The most operators in one text. -/
def maxOperators : Nat := 1024

/-- The greatest depth of a tree that is read from a text. -/
def maxDepth : Nat := 256

namespace Limits

/-- Where the pass stands: outside strings after the character `last`, inside a string, or
inside a string behind a backslash. -/
inductive Place where
  | outside (last : Char)
  | inside
  | escaped
  deriving DecidableEq

structure Count where
  place : Place
  nesting : Nat
  operators : Nat
  deriving DecidableEq

inductive Excess where
  | nesting
  | operators
  deriving DecidableEq, Repr

def start : Count := ⟨.outside ' ', 0, 0⟩

/-- The second halves of two-character operators. -/
def isSecondHalf (last c : Char) : Bool :=
  match last, c with
  | '=', '=' | '!', '=' | '&', '&' | '|', '|' => true
  | _, _ => false

def isOperatorChar (c : Char) : Bool :=
  match c with
  | '*' | '/' | '+' | '-' | '=' | '!' | '&' | '|' => true
  | _ => false

/-- One character outside strings. A closing parenthesis that closes nothing is ignored. -/
def stepOutside (nesting operators : Nat) (last c : Char) : Except Excess Count :=
  if isSecondHalf last c then .ok ⟨.outside ' ', nesting, operators⟩
  else if c = '"' then .ok ⟨.inside, nesting, operators⟩
  else if c = '(' then
    if maxNesting < nesting + 1 then .error .nesting
    else .ok ⟨.outside c, nesting + 1, operators⟩
  else if c = ')' then .ok ⟨.outside c, nesting - 1, operators⟩
  else if isOperatorChar c then
    if maxOperators < operators + 1 then .error .operators
    else .ok ⟨.outside c, nesting, operators + 1⟩
  else .ok ⟨.outside c, nesting, operators⟩

def step (count : Count) (c : Char) : Except Excess Count :=
  match count.place with
  | .outside last => stepOutside count.nesting count.operators last c
  | .inside =>
      if c = '\\' then .ok { count with place := .escaped }
      else if c = '"' then .ok { count with place := .outside '"' }
      else .ok count
  | .escaped => .ok { count with place := .inside }

/-- The first excess of a text, with the text from its character on. -/
def excess? (count : Count) : List Char → Option (Excess × List Char)
  | [] => none
  | c :: rest =>
      match step count c with
      | .error e => some (e, c :: rest)
      | .ok next => excess? next rest

end Limits

end Rulebook
