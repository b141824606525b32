import Rulebook.Json.Text

namespace Rulebook.Json

/-!
# Numbers in JSON

A number is read as it is written. Its value is an integer if it has neither a point nor an
exponent and fits 64 bits, and a floating-point number otherwise. The floating-point value is
made from the leading digits that fit 64 bits and a power of ten; a number that leaves the
range has no value.
-/

structure Number where
  negative : Bool
  whole : List Char
  fraction : Option (List Char)
  exponent : Option (Bool × List Char)
  deriving DecidableEq, Repr

namespace Number

/-- One or more digits. A reader who uses the number tells its missing end from a wrong
character. -/
def digits (text : List Char) : Except Break (List Char × List Char) :=
  match text.takeWhile Char.isDigit with
  | [] => .error ⟨if text.isEmpty then .ended else .malformed, .malformed⟩
  | first :: rest => .ok (first :: rest, text.dropWhile Char.isDigit)

/-- Digits without a zero in front of others. -/
def wholePart (text : List Char) : Except Break (List Char × List Char) :=
  match digits text with
  | .ok ('0' :: _ :: _, _) => .error (.both .malformed)
  | result => result

def fractionPart (text : List Char) : Except Break (Option (List Char) × List Char) :=
  match text with
  | '.' :: rest =>
      match digits rest with
      | .ok (found, after) => .ok (some found, after)
      | .error fault => .error fault
  | _ => .ok (none, text)

def exponentDigits (negative : Bool) (text : List Char) :
    Except Break (Option (Bool × List Char) × List Char) :=
  match digits text with
  | .ok (found, after) => .ok (some (negative, found), after)
  | .error fault => .error fault

def exponentPart (text : List Char) : Except Break (Option (Bool × List Char) × List Char) :=
  match text with
  | c :: rest =>
      if c = 'e' ∨ c = 'E' then
        match rest with
        | '+' :: rest => exponentDigits false rest
        | '-' :: rest => exponentDigits true rest
        | rest => exponentDigits false rest
      else .ok (none, text)
  | [] => .ok (none, [])

def unsigned (negative : Bool) (text : List Char) : Except Break (Number × List Char) :=
  match wholePart text with
  | .error fault => .error fault
  | .ok (whole, text) =>
      match fractionPart text with
      | .error fault => .error fault
      | .ok (fraction, text) =>
          match exponentPart text with
          | .error fault => .error fault
          | .ok (exponent, text) => .ok (⟨negative, whole, fraction, exponent⟩, text)

def read (text : List Char) : Except Break (Number × List Char) :=
  match text with
  | '-' :: rest => unsigned true rest
  | _ => unsigned false text

theorem digits_length {text found after : List Char} (h : digits text = .ok (found, after)) :
    after.length < text.length := by
  unfold digits at h
  split at h
  · cases h
  · next first rest htake =>
      obtain ⟨-, rfl⟩ := Prod.mk.inj (Except.ok.inj h)
      have hsplit : (text.takeWhile Char.isDigit ++ text.dropWhile Char.isDigit).length =
          text.length := congrArg List.length List.takeWhile_append_dropWhile
      rw [List.length_append, htake, List.length_cons] at hsplit
      omega

theorem wholePart_length {text found after : List Char}
    (h : wholePart text = .ok (found, after)) : after.length < text.length := by
  unfold wholePart at h
  split at h
  · cases h
  · exact digits_length h

theorem fractionPart_length {text after : List Char} {found : Option (List Char)}
    (h : fractionPart text = .ok (found, after)) : after.length ≤ text.length := by
  unfold fractionPart at h
  split at h
  · next rest =>
      split at h
      · next hd =>
          obtain ⟨-, rfl⟩ := Prod.mk.inj (Except.ok.inj h)
          exact Nat.le_succ_of_le (Nat.le_of_lt (digits_length hd))
      · cases h
  · obtain ⟨-, rfl⟩ := Prod.mk.inj (Except.ok.inj h)
    exact Nat.le_refl _

theorem exponentDigits_length {negative : Bool} {text after : List Char}
    {found : Option (Bool × List Char)} (h : exponentDigits negative text = .ok (found, after)) :
    after.length ≤ text.length := by
  unfold exponentDigits at h
  split at h
  · next hd =>
      obtain ⟨-, rfl⟩ := Prod.mk.inj (Except.ok.inj h)
      exact Nat.le_of_lt (digits_length hd)
  · cases h

theorem exponentPart_length {text after : List Char} {found : Option (Bool × List Char)}
    (h : exponentPart text = .ok (found, after)) : after.length ≤ text.length := by
  unfold exponentPart at h
  split at h
  · next c rest =>
      split at h
      · split at h
        · exact Nat.le_succ_of_le (Nat.le_succ_of_le (exponentDigits_length h))
        · exact Nat.le_succ_of_le (Nat.le_succ_of_le (exponentDigits_length h))
        · exact Nat.le_succ_of_le (exponentDigits_length h)
      · obtain ⟨-, rfl⟩ := Prod.mk.inj (Except.ok.inj h)
        exact Nat.le_refl _
  · obtain ⟨-, rfl⟩ := Prod.mk.inj (Except.ok.inj h)
    exact Nat.le_refl _

theorem unsigned_length {negative : Bool} {text after : List Char} {n : Number}
    (h : unsigned negative text = .ok (n, after)) : after.length < text.length := by
  unfold unsigned at h
  split at h
  · cases h
  · next hw =>
      split at h
      · cases h
      · next hf =>
          split at h
          · cases h
          · next he =>
              obtain ⟨-, rfl⟩ := Prod.mk.inj (Except.ok.inj h)
              have hw := wholePart_length hw
              have hf := fractionPart_length hf
              have he := exponentPart_length he
              omega

theorem read_length {text after : List Char} {n : Number} (h : read text = .ok (n, after)) :
    after.length < text.length := by
  unfold read at h
  split at h
  · exact Nat.lt_succ_of_lt (unsigned_length h)
  · exact unsigned_length h

/-! ## Values -/

inductive Value where
  | integer (n : Int)
  | floating (x : Float)

/-- The greatest integer of 64 bits. -/
def maxSignificand : Nat := Nat.pow 2 64 - 1

/-- The greatest decimal exponent of 32 bits. -/
def maxExponent : Nat := Nat.pow 2 31 - 1

/-- Extends a significand by digits as long as it fits; the digits that are left do not
count. -/
def accumulate (significand : Nat) : List Char → Nat × List Char
  | [] => (significand, [])
  | c :: rest =>
      let next := significand * 10 + (c.toNat - '0'.toNat)
      if maxSignificand < next then (significand, c :: rest) else accumulate next rest

/-- A significand divided by a power of ten, in steps that stay in range. -/
def divideDown (x : Float) (exponent : Nat) : Float :=
  if exponent ≤ 308 then x / Float.ofScientific 1 false exponent
  else if x == 0 then x
  else divideDown (x / Float.ofScientific 1 false 308) (exponent - 308)
  termination_by exponent

/-- The value of a significand times a power of ten. -/
def scale? (significand : Nat) (exponent : Int) : Option Float :=
  let x := Float.ofNat significand
  if 0 ≤ exponent then
    if exponent ≤ 308 then
      let y := x * Float.ofScientific 1 false exponent.toNat
      if y.isFinite then some y else none
    else if significand = 0 then some x
    else none
  else some (divideDown x (-exponent).toNat)

/-- The value without its sign. Whole digits that do not fit raise the exponent, and the places
that fit behind the point lower it. -/
def size? (n : Number) : Option Float :=
  let (significand, unread) := accumulate 0 n.whole
  let fraction := n.fraction.getD []
  let (significand, unreadPlaces) := accumulate significand fraction
  let start : Int := (unread.length : Int) - ((fraction.length - unreadPlaces.length : Nat) : Int)
  match n.exponent with
  | none => scale? significand start
  | some (negative, digits) =>
      let exponent := Nat.ofDigitChars 10 digits 0
      if maxExponent < exponent then
        if significand = 0 ∨ negative = true then some 0 else none
      else scale? significand (if negative then start - exponent else start + exponent)

def floating? (n : Number) : Option Value :=
  n.size?.map fun x => .floating (if n.negative then -x else x)

def value? (n : Number) : Option Value :=
  match n.fraction, n.exponent with
  | none, none =>
      let size := Nat.ofDigitChars 10 n.whole 0
      if n.negative then
        if 0 < size ∧ size ≤ Nat.pow 2 63 then some (.integer (-(size : Int))) else n.floating?
      else if size ≤ maxSignificand then some (.integer size)
      else n.floating?
  | _, _ => n.floating?

end Number

end Rulebook.Json
