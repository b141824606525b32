namespace Rulebook.Json

/-!
# Written documents

Documents are written without blanks, from texts, counts, lists and named fields. In a string only
what has to be escaped is escaped.
-/

/-- A character inside a written string. -/
def escape (c : Char) : List Char :=
  match c with
  | '"' => ['\\', '"']
  | '\\' => ['\\', '\\']
  | '\x08' => ['\\', 'b']
  | '\x0c' => ['\\', 'f']
  | '\n' => ['\\', 'n']
  | '\r' => ['\\', 'r']
  | '\t' => ['\\', 't']
  | c =>
      if c.toNat < 0x20 then
        ['\\', 'u', '0', '0', (c.toNat / 16).digitChar, (c.toNat % 16).digitChar]
      else [c]

def quote (text : List Char) : List Char := '"' :: text.flatMap escape ++ ['"']

inductive Value where
  | text (s : String)
  | count (n : Nat)
  | list (items : List Value)
  | fields (members : List (String × Value))

namespace Value

def bracket (opening closing : Char) (parts : List (List Char)) : List Char :=
  opening :: (List.intercalate [','] parts ++ [closing])

mutual

def print : Value → List Char
  | text s => quote s.toList
  | count n => Nat.toDigits 10 n
  | list items => bracket '[' ']' (printItems items)
  | fields members => bracket '{' '}' (printMembers members)

def printItems : List Value → List (List Char)
  | [] => []
  | item :: rest => item.print :: printItems rest

def printMembers : List (String × Value) → List (List Char)
  | [] => []
  | (key, value) :: rest => (quote key.toList ++ ':' :: value.print) :: printMembers rest

end

def toText (value : Value) : String := String.ofList value.print

end Value

end Rulebook.Json
