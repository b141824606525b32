import Rulebook.Expr.Limits
import Rulebook.Expr.Token

namespace Rulebook

/-!
# Reading expressions

The reader goes through the tokens once. It either waits for an operand or stands behind a
finished expression; for every open parenthesis it keeps what stands before that parenthesis.
A new operand is attached to the right edge of the finished expression, as deep as the operator
levels ask for, so expressions of one level group to the left.
-/

/-- Joins an operand to the right edge of a tree: below the operators that bind less tightly
than `op`, and above all others. -/
def Expr.attach : Expr → BinaryOp → Expr → Expr
  | .binary own left right, op, operand =>
      if own.level < op.level then .binary own left (right.attach op operand)
      else .binary op (.binary own left right) operand
  | tree, op, operand => .binary op tree operand

namespace Reader

/-- What stands to the left of an operand since the last open parenthesis: nothing, or an
expression and an operator. -/
abbrev Pending := Option (Expr × BinaryOp)

def Pending.join : Pending → Expr → Expr
  | none, operand => operand
  | some (tree, op), operand => tree.attach op operand

inductive State where
  | awaiting (pending : Pending) (opened : List Pending)
  | finished (tree : Expr) (opened : List Pending)

namespace State

def opened : State → List Pending
  | awaiting _ opened => opened
  | finished _ opened => opened

def start : State := awaiting none []

end State

/-- Why a text is refused. `operandMissing` lists an operand for every place that still waits
for one. -/
inductive Problem where
  | operandMissing (places : Nat)
  | trailing
  deriving DecidableEq

/-- The place of a problem is the text from there on. -/
structure Fault where
  problem : Problem
  here : List Char

/-- Behind a finished expression the text has to end, unless parentheses are open: then each
of them waits for its closing one. -/
def faultBehind (opened : List Pending) (here : List Char) : Fault :=
  match opened with
  | [] => ⟨.trailing, here⟩
  | _ :: _ => ⟨.operandMissing opened.length, here⟩

def step (state : State) (token : Token) : Except Fault State :=
  match state, token.lexeme with
  | .awaiting pending opened, .opening => .ok (.awaiting none (pending :: opened))
  | .awaiting pending opened, .int raw =>
      .ok (.finished (pending.join (.literal .int (String.ofList raw))) opened)
  | .awaiting pending opened, .string raw =>
      .ok (.finished (pending.join (.literal .string (String.ofList raw))) opened)
  | .awaiting pending opened, .name raw =>
      .ok (.finished (pending.join (.identifier (String.ofList raw))) opened)
  | .awaiting _ opened, .unclosed => .error ⟨.operandMissing (opened.length + 1), []⟩
  | .awaiting _ opened, _ => .error ⟨.operandMissing (opened.length + 1), token.here⟩
  | .finished tree opened, .operator op => .ok (.awaiting (some (tree, op)) opened)
  | .finished tree (pending :: opened), .closing =>
      .ok (.finished (pending.join (.group tree)) opened)
  | .finished _ opened, _ => .error (faultBehind opened token.here)

def run (state : State) : List Token → Except Fault State
  | [] => .ok state
  | token :: rest =>
      match step state token with
      | .error fault => .error fault
      | .ok next => run next rest

/-- The tree of a text that ends in `state`. -/
def finish : State → Except Fault Expr
  | .awaiting _ opened => .error ⟨.operandMissing (opened.length + 1), []⟩
  | .finished tree [] => .ok tree
  | .finished _ opened => .error (faultBehind opened [])

def read (text : List Char) : Except Fault Expr :=
  match run .start (Token.readAll text) with
  | .error fault => .error fault
  | .ok state => finish state

end Reader

/-- Why an expression text is refused. -/
inductive ParseError.Reason where
  | nestedTooDeeply
  | tooManyOperators
  | operandMissing (places : Nat)
  | trailing (rest : String)
  | ended
  | tooDeep (depth : Nat)
  deriving DecidableEq

def ParseError.Reason.text : ParseError.Reason → String
  | nestedTooDeeply => s!"parentheses nested deeper than {maxNesting}"
  | tooManyOperators => s!"more than {maxOperators} operators"
  | operandMissing places => "expected " ++ ", ".intercalate (List.replicate places "operand")
  | trailing rest => s!"unexpected input '{rest}'"
  | ended => "unexpected end of input"
  | tooDeep depth => s!"expression depth {depth} exceeds the limit of {maxDepth}"

/-- A refused expression text, with the place of the problem in bytes of its UTF-8 form. -/
structure ParseError where
  text : String
  offset : Nat
  reason : ParseError.Reason
  deriving DecidableEq

namespace ParseError

def message (e : ParseError) : String :=
  s!"parse error at offset {e.offset} in '{e.text}': {e.reason.text}"

/-- The place in `text` at which `rest`, an end of it, begins. -/
def offsetOf (text : String) (rest : List Char) : Nat :=
  text.utf8ByteSize - (String.ofList rest).utf8ByteSize

def ofExcess (text : String) (excess : Limits.Excess) (here : List Char) : ParseError :=
  match excess with
  | .nesting => ⟨text, offsetOf text here, .nestedTooDeeply⟩
  | .operators => ⟨text, offsetOf text here, .tooManyOperators⟩

def ofFault (text : String) (fault : Reader.Fault) : ParseError :=
  match fault.problem with
  | .operandMissing places => ⟨text, offsetOf text fault.here, .operandMissing places⟩
  | .trailing =>
      if fault.here = [] then ⟨text, offsetOf text fault.here, .ended⟩
      else ⟨text, offsetOf text fault.here, .trailing (String.ofList fault.here)⟩

end ParseError

/-- Reads a condition or an action. The limits on the text come first, then the grammar, then
the limit on the depth of the tree. -/
def parse (text : String) : Except ParseError Expr :=
  match Limits.excess? Limits.start text.toList with
  | some (excess, here) => .error (.ofExcess text excess here)
  | none =>
      match Reader.read text.toList with
      | .error fault => .error (.ofFault text fault)
      | .ok tree =>
          if maxDepth < tree.depth then .error ⟨text, 0, .tooDeep tree.depth⟩ else .ok tree

end Rulebook
