namespace Rulebook.Decimal

/-!
# Writing numbers

A finite number of 64 bits is a whole number of units, and its unit is a power of two. All texts of
numbers are made from this exact value.
-/

/-- The value `units * 2 ^ scale`. -/
structure Binary where
  units : Nat
  scale : Int
  deriving DecidableEq, Repr

inductive Number where
  | nan
  | infinite (negative : Bool)
  | finite (negative : Bool) (size : Binary)
  deriving DecidableEq, Repr

def ofBits (bits : UInt64) : Number :=
  let negative := decide (bits >>> 63 = 1)
  let exponent := ((bits >>> 52) &&& 0x7FF).toNat
  let fraction := (bits &&& 0xFFFFFFFFFFFFF).toNat
  if exponent = 0x7FF then
    if fraction = 0 then .infinite negative else .nan
  else if exponent = 0 then .finite negative ⟨fraction, -1074⟩
  else .finite negative ⟨Nat.pow 2 52 + fraction, (exponent : Int) - 1075⟩

def ofFloat (x : Float) : Number := ofBits x.toBits

def sign (negative : Bool) : String := if negative then "-" else ""

/-! ## Two places

A computed number is written with two decimal places and never with an exponent. The exact
value is rounded to the nearest hundredth, and a value halfway between two hundredths goes to
the even one.
-/

/-- The whole number nearest to `num / den`, the even one of two. -/
def roundHalfEven (num den : Nat) : Nat :=
  let quotient := num / den
  let twice := 2 * (num % den)
  if twice < den then quotient
  else if den < twice then quotient + 1
  else quotient + quotient % 2

/-- A value in hundredths. -/
def hundredths (size : Binary) : Nat :=
  roundHalfEven (size.units * 100 * Nat.pow 2 size.scale.toNat) (Nat.pow 2 (-size.scale).toNat)

/-- The text of a number of hundredths. -/
def twoPlaces (n : Nat) : String :=
  toString (n / 100) ++ "." ++ String.ofList [(n / 10 % 10).digitChar, (n % 10).digitChar]

def Number.fixed : Number → String
  | nan => "NaN"
  | infinite negative => sign negative ++ "inf"
  | finite negative size => sign negative ++ twoPlaces (hundredths size)

/-! ## The fewest digits that identify a number

Among the decimals that round to a given number, the one with the fewest digits is taken, of
two such decimals the nearer, and of two equally near ones the one with an even last digit.
Numbers from a hundred-thousandth up to ten to the sixteenth are written with a point and
without an exponent, all others with an exponent that has a sign.
-/

/-- The number of decimal digits of `n`; zero has none. -/
def digitCount (n : Nat) : Nat := if n = 0 then 0 else (Nat.toDigits 10 n).length

namespace Binary

/-- The least power of ten, by its exponent, above a positive value. -/
def magnitude (size : Binary) : Int :=
  let num := size.units * Nat.pow 2 size.scale.toNat
  let den := Nat.pow 2 (-size.scale).toNat
  if den ≤ num then digitCount (num / den)
  else 1 - (digitCount ((den + num - 1) / num - 1) : Int)

/-- The distance to the next smaller number is half the distance to the next greater one. -/
def narrowBelow (size : Binary) : Bool :=
  decide (size.units = Nat.pow 2 52) && decide (-1074 < size.scale)

/-- The decimal of the grid `10 ^ exponent` that rounds to the value and is nearest to it. Ends
of the rounding interval belong to it if the number of units is even. -/
def onGrid? (size : Binary) (exponent : Int) : Option Nat :=
  let step := 4 * Nat.pow 10 exponent.toNat * Nat.pow 2 (-size.scale).toNat
  let unit := Nat.pow 2 size.scale.toNat * Nat.pow 10 (-exponent).toNat
  let value := 4 * size.units * unit
  let low := value - (if size.narrowBelow then unit else 2 * unit)
  let high := value + 2 * unit
  let within (n : Nat) : Bool :=
    if size.units % 2 = 0 then decide (low ≤ n * step) && decide (n * step ≤ high)
    else decide (low < n * step) && decide (n * step < high)
  let below := value / step
  match within below, within (below + 1) with
  | true, true =>
      let middle := (2 * below + 1) * step
      if 2 * value < middle then some below
      else if middle < 2 * value then some (below + 1)
      else some (below + below % 2)
  | true, false => some below
  | false, true => some (below + 1)
  | false, false => none

/-- Digits and the exponent of the last one. Seventeen digits identify every number. -/
def shortest (size : Binary) : Nat × Int :=
  let grids := (List.range 17).map fun (n : Nat) => size.magnitude - ((n : Int) + 1)
  match grids.findSome? fun grid => (size.onGrid? grid).map fun digits => (digits, grid) with
  | some found => found
  | none => (size.units, size.scale)

end Binary

/-- Digits, the last of which stands at `10 ^ exponent`, with a point and without an
exponent. -/
def positional (digits : List Char) (exponent : Int) : List Char :=
  if 0 ≤ exponent then digits ++ List.replicate exponent.toNat '0' ++ ['.', '0']
  else
    let places := (-exponent).toNat
    let padded := List.replicate (places + 1 - digits.length) '0' ++ digits
    padded.take (padded.length - places) ++ '.' :: padded.drop (padded.length - places)

/-- Digits, the first of which stands at `10 ^ exponent`, with that exponent. -/
def scientific (digits : List Char) (exponent : Int) : List Char :=
  let mantissa :=
    match digits with
    | first :: second :: rest => first :: '.' :: second :: rest
    | short => short
  mantissa ++ 'e' :: (if exponent < 0 then '-' else '+') :: Nat.toDigits 10 exponent.natAbs

def layout (digits : List Char) (exponent : Int) : List Char :=
  let leading := exponent + digits.length - 1
  if -5 ≤ leading ∧ leading ≤ 15 then positional digits exponent else scientific digits leading

/-- Drops the zeros at the end of a positive number into the exponent. -/
def normalize (fuel digits : Nat) (exponent : Int) : Nat × Int :=
  match fuel with
  | 0 => (digits, exponent)
  | fuel + 1 =>
      if digits % 10 = 0 then normalize fuel (digits / 10) (exponent + 1) else (digits, exponent)

def Number.shortest : Number → String
  | nan => "NaN"
  | infinite negative => sign negative ++ "inf"
  | finite negative size =>
      if size.units = 0 then sign negative ++ "0.0"
      else
        let (digits, exponent) := size.shortest
        let (digits, exponent) := normalize 17 digits exponent
        sign negative ++ String.ofList (layout (Nat.toDigits 10 digits) exponent)

end Rulebook.Decimal
