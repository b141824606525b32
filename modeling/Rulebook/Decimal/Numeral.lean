namespace Rulebook.Decimal

/-!
# Reading numbers

A number is written as decimal digits with an optional sign, point and exponent, where digits
may be missing on one side of the point but not on both. Infinity and not-a-number have words,
in upper or lower case. Digits are ASCII, and nothing may stand before or behind the number.
-/

inductive Numeral where
  | nan
  | infinite (negative : Bool)
  | decimal (negative : Bool) (whole fraction : List Char) (exponent : Int)
  deriving DecidableEq, Repr

namespace Numeral

/-- An optional sign, and what follows it. -/
def splitSign : List Char → Bool × List Char
  | '+' :: rest => (false, rest)
  | '-' :: rest => (true, rest)
  | rest => (false, rest)

def natural (digits : List Char) : Nat := Nat.ofDigitChars 10 digits 0

/-- The exponent behind the digits of a number, which ends there. -/
def exponent? : List Char → Option Int
  | [] => some 0
  | c :: rest =>
      if c = 'e' ∨ c = 'E' then
        match splitSign rest with
        | (_, []) => none
        | (negative, digits) =>
            if digits.all Char.isDigit then
              some (if negative then -(natural digits : Int) else natural digits)
            else none
      else none

/-- The digits behind a point, if there is one, and what follows them. -/
def splitFraction : List Char → List Char × List Char
  | '.' :: rest => (rest.takeWhile Char.isDigit, rest.dropWhile Char.isDigit)
  | rest => ([], rest)

def decimal? (negative : Bool) (text : List Char) : Option Numeral :=
  let whole := text.takeWhile Char.isDigit
  let (fraction, rest) := splitFraction (text.dropWhile Char.isDigit)
  if whole = [] ∧ fraction = [] then none
  else (exponent? rest).map (decimal negative whole fraction)

def ofText? (text : List Char) : Option Numeral :=
  let (negative, rest) := splitSign text
  let word := String.ofList (rest.map Char.toLower)
  if word = "inf" ∨ word = "infinity" then some (infinite negative)
  else if word = "nan" then some nan
  else decimal? negative rest

/-- The number nearest to `digits * 10 ^ exponent`. Far outside the range of the numbers, the
power of ten is not computed. -/
def nearest (digits : List Char) (exponent : Int) : Float :=
  let units := natural digits
  let magnitude := ((digits.dropWhile (· == '0')).length : Int) + exponent
  if units = 0 then 0
  else if 400 < magnitude then 1 / 0
  else if magnitude < -400 then 0
  else Float.ofScientific units (decide (exponent < 0)) exponent.natAbs

def value : Numeral → Float
  | nan => 0 / 0
  | infinite negative => if negative then -(1 / 0) else 1 / 0
  | decimal negative whole fraction exponent =>
      let size := nearest (whole ++ fraction) (exponent - fraction.length)
      if negative then -size else size

end Numeral

/-- The number that a text stands for. -/
def read? (text : String) : Option Float := (Numeral.ofText? text.toList).map Numeral.value

end Rulebook.Decimal
