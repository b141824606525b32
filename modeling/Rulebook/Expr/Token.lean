import Rulebook.Expr.Basic
import Rulebook.Text.Ranges
import Rulebook.Text.Scanner

namespace Rulebook

/-!
# Tokens of the expression language

A text is cut into tokens from the left, each the longest that fits, with blanks between them.
A token remembers the text from its own first character to the end, which is what an error at
this place reports. Cutting never fails: a character that begins no token is a stray one, and
a string without its closing quote takes the rest of the text.
-/

inductive Lexeme where
  | opening
  | closing
  | operator (op : BinaryOp)
  | int (raw : List Char)
  | string (raw : List Char)
  | name (raw : List Char)
  | unclosed
  | stray (c : Char)
  deriving DecidableEq

structure Token where
  lexeme : Lexeme
  here : List Char
  deriving DecidableEq

namespace Lexeme

def startsName (c : Char) : Bool := Text.isLetter c || c == '_'

def continuesName (c : Char) : Bool := Text.isLetter c || Text.isNumeral c || c == '_'

/-- Splits the text after an opening quote behind the closing one. A backslash takes the
character after it along, whatever that is. -/
def untilQuote : List Char → Option (List Char × List Char)
  | [] => none
  | '"' :: rest => some (['"'], rest)
  | '\\' :: c :: rest => (untilQuote rest).map fun (body, after) => ('\\' :: c :: body, after)
  | c :: rest => (untilQuote rest).map fun (body, after) => (c :: body, after)

/-- Reads `pair` if the text goes on with `second`, and `single` if it does not. -/
def readPair (second : Char) (pair single : Lexeme) : List Char → Lexeme × List Char
  | [] => (single, [])
  | c :: rest => if c = second then (pair, rest) else (single, c :: rest)

/-- The token that begins with `c`, and the text behind it. -/
def read (c : Char) (rest : List Char) : Lexeme × List Char :=
  match c with
  | '(' => (opening, rest)
  | ')' => (closing, rest)
  | '*' => (operator .mul, rest)
  | '/' => (operator .div, rest)
  | '+' => (operator .add, rest)
  | '-' => (operator .sub, rest)
  | '=' => readPair '=' (operator .eq) (operator .assign) rest
  | '!' => readPair '=' (operator .ne) (stray '!') rest
  | '&' => readPair '&' (operator .and) (stray '&') rest
  | '|' => readPair '|' (operator .or) (stray '|') rest
  | '"' =>
      match untilQuote rest with
      | some (body, after) => (string ('"' :: body), after)
      | none => (unclosed, [])
  | c =>
      if c.isDigit then
        (int (c :: rest.takeWhile Char.isDigit), rest.dropWhile Char.isDigit)
      else if startsName c then
        (name (c :: rest.takeWhile continuesName), rest.dropWhile continuesName)
      else (stray c, rest)

theorem untilQuote_append {text body after : List Char}
    (h : untilQuote text = some (body, after)) : body ++ after = text := by
  fun_induction untilQuote text generalizing body after with
  | case1 => simp at h
  | case2 rest =>
      obtain ⟨rfl, rfl⟩ := Prod.mk.inj (Option.some.inj h)
      rfl
  | case3 c rest ih =>
      obtain ⟨⟨b, a⟩, hb, hab⟩ := Option.map_eq_some_iff.mp h
      obtain ⟨rfl, rfl⟩ := Prod.mk.inj hab
      simp [ih hb]
  | case4 c rest _ _ ih =>
      obtain ⟨⟨b, a⟩, hb, hab⟩ := Option.map_eq_some_iff.mp h
      obtain ⟨rfl, rfl⟩ := Prod.mk.inj hab
      simp [ih hb]

theorem readPair_suffix (second : Char) (pair single : Lexeme) (text : List Char) :
    (readPair second pair single text).2 <:+ text := by
  cases text with
  | nil => exact List.suffix_refl []
  | cons c rest =>
      by_cases hc : c = second <;> simp [readPair, hc]

/-- What is left behind a token is the end of what stood behind its first character. -/
theorem read_suffix (c : Char) (rest : List Char) : (read c rest).2 <:+ rest := by
  unfold read
  split
  all_goals first
    | exact List.suffix_refl _
    | exact readPair_suffix _ _ _ _
    | skip
  · split
    · next body after h => exact ⟨body, untilQuote_append h⟩
    · exact List.nil_suffix
  · split
    · exact List.dropWhile_suffix _
    · split
      · exact List.dropWhile_suffix _
      · exact List.suffix_refl _

end Lexeme

namespace Token

def scanner : Text.Scanner Token where
  isBlank := Text.isBlank
  read c rest := (⟨(Lexeme.read c rest).1, c :: rest⟩, (Lexeme.read c rest).2)
  length_read_le c rest := (Lexeme.read_suffix c rest).length_le

/-- The tokens of a text, in order. -/
def readAll (text : List Char) : List Token := scanner.tokens text

end Token

end Rulebook
