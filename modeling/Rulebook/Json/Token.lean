import Rulebook.Json.Number
import Rulebook.Json.Text
import Rulebook.Text.Scanner

namespace Rulebook.Json

/-!
# Tokens of JSON

A text is cut into tokens from the left. A token that cannot be finished is the last one; what
is wrong with it may depend on whether its value is used.
-/

inductive Token where
  | openArray
  | closeArray
  | openObject
  | closeObject
  | comma
  | colon
  | null
  | bool (b : Bool)
  | number (n : Number)
  /-- A string with a lone surrogate has no text. -/
  | string (text : Option String)
  | brokenString (fault : Break)
  | broken (fault : Break)
  deriving DecidableEq

namespace Token

def isBlank (c : Char) : Bool := c == ' ' || c == '\t' || c == '\n' || c == '\r'

/-- Reads the rest of a word. -/
def word (token : Token) : List Char → List Char → Token × List Char
  | [], text => (token, text)
  | _ :: _, [] => (broken (.both .ended), [])
  | e :: rest, c :: text =>
      if c = e then word token rest text else (broken (.both .malformed), [])

def readString (text : List Char) : Token × List Char :=
  match pieces text with
  | (found, .closed rest) => (string ((join? false found).map String.ofList), rest)
  | (found, .flawed flaw) => (brokenString (stringBreak found flaw), [])

def readNumber (text : List Char) : Token × List Char :=
  match Number.read text with
  | .ok (n, rest) => (number n, rest)
  | .error fault => (broken fault, [])

/-- The token that begins with `c`, and the text behind it. -/
def read (c : Char) (rest : List Char) : Token × List Char :=
  match c with
  | '[' => (openArray, rest)
  | ']' => (closeArray, rest)
  | '{' => (openObject, rest)
  | '}' => (closeObject, rest)
  | ',' => (comma, rest)
  | ':' => (colon, rest)
  | 'n' => word null ['u', 'l', 'l'] rest
  | 't' => word (bool true) ['r', 'u', 'e'] rest
  | 'f' => word (bool false) ['a', 'l', 's', 'e'] rest
  | '"' => readString rest
  | c =>
      if c = '-' ∨ c.isDigit = true then readNumber (c :: rest)
      else (broken (.both .malformed), [])

theorem word_length (token : Token) (rest text : List Char) :
    (word token rest text).2.length ≤ text.length := by
  fun_induction word token rest text with
  | case1 => exact Nat.le_refl _
  | case2 => simp
  | case3 e rest text ih =>
      rw [List.length_cons]
      exact Nat.le_succ_of_le ih
  | case4 => simp

theorem readString_length (text : List Char) : (readString text).2.length ≤ text.length := by
  unfold readString
  split
  · next found rest h => exact Nat.le_of_lt (pieces_closed_length (congrArg Prod.snd h))
  · exact Nat.zero_le _

theorem readNumber_length (c : Char) (rest : List Char) :
    (readNumber (c :: rest)).2.length ≤ rest.length := by
  unfold readNumber
  split
  · next n after h => exact Nat.le_of_lt_succ (Number.read_length h)
  · exact Nat.zero_le _

theorem length_read_le (c : Char) (rest : List Char) : (read c rest).2.length ≤ rest.length := by
  unfold read
  split
  all_goals first
    | exact Nat.le_refl _
    | exact word_length _ _ _
    | exact readString_length _
    | skip
  split
  · exact readNumber_length _ _
  · exact Nat.zero_le _

def scanner : Text.Scanner Token where
  isBlank := isBlank
  read := read
  length_read_le := length_read_le

/-- The tokens of a text, in order. -/
def readAll (text : List Char) : List Token := scanner.tokens text

end Token

end Rulebook.Json
