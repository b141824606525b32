import Rulebook.Json.Draft

namespace Rulebook.Json

/-!
# The grammar of JSON

A value is written in many ways: with blanks around its parts, with each character of a string as
itself or by an escape, and with the members of an object in any order, names repeated or not. The
grammar relates a text to the draft of its value and says nothing of texts that are broken.
-/

def Blank (text : List Char) : Prop := ∀ c ∈ text, c ∈ [' ', '\t', '\n', '\r']

/-! ## Strings -/

/-- The character is a hexadecimal digit of value `n`. -/
def HexDigit (c : Char) (n : Nat) : Prop :=
  "0123456789abcdef".toList[n]? = some c ∨ "0123456789ABCDEF".toList[n]? = some c

/-- The characters with an escape of one letter, with that letter. -/
def letters : List (Char × Char) :=
  [('"', '"'), ('\\', '\\'), ('/', '/'), ('\x08', 'b'), ('\x0c', 'f'), ('\n', 'n'), ('\r', 'r'),
    ('\t', 't')]

/-- A code unit of 16 bits, written by its number. -/
inductive SpellsUnit : Nat → List Char → Prop where
  | digits {a b c d : Char} {i j k l : Nat} (ha : HexDigit a i) (hb : HexDigit b j)
      (hc : HexDigit c k) (hd : HexDigit d l) :
      SpellsUnit (((i * 16 + j) * 16 + k) * 16 + l) ['\\', 'u', a, b, c, d]

/-- A character written as itself or by the escape of one letter. -/
inductive SpellsPlain (c : Char) : List Char → Prop where
  | raw (hcontrol : 0x20 ≤ c.toNat) (hquote : c ≠ '"') (hback : c ≠ '\\') : SpellsPlain c [c]
  | letter {letter : Char} (h : (c, letter) ∈ letters) : SpellsPlain c ['\\', letter]

/-- Pieces of a string, whether or not they make a text. -/
inductive SpellsPieces : List Piece → List Char → Prop where
  | nil : SpellsPieces [] []
  | char {c : Char} {first rest : List Char} {pieces : List Piece} (h : SpellsPlain c first)
      (hrest : SpellsPieces pieces rest) : SpellsPieces (.char c :: pieces) (first ++ rest)
  | unit {n : Nat} {first rest : List Char} {pieces : List Piece} (h : SpellsUnit n first)
      (hrest : SpellsPieces pieces rest) : SpellsPieces (.unit n :: pieces) (first ++ rest)

/-- A text between the quotes of a string. A character outside the basic plane may be written by a
leading and a trailing surrogate. -/
inductive SpellsText : List Char → List Char → Prop where
  | nil : SpellsText [] []
  | plain {c : Char} {text first rest : List Char} (h : SpellsPlain c first)
      (hrest : SpellsText text rest) : SpellsText (c :: text) (first ++ rest)
  | unit {c : Char} {text first rest : List Char} (h : SpellsUnit c.toNat first)
      (hrest : SpellsText text rest) : SpellsText (c :: text) (first ++ rest)
  | pair {c : Char} {i j : Nat} {text first second rest : List Char} (hi : i < 0x400)
      (hj : j < 0x400) (hc : c.toNat = 0x10000 + i * 0x400 + j)
      (hfirst : SpellsUnit (0xD800 + i) first) (hsecond : SpellsUnit (0xDC00 + j) second)
      (hrest : SpellsText text rest) : SpellsText (c :: text) (first ++ second ++ rest)

/-! ## Numbers -/

/-- One or more digits. -/
def IsDigits (text : List Char) : Prop := text ≠ [] ∧ ∀ c ∈ text, c.isDigit = true

inductive SpellsSign : Bool → List Char → Prop where
  | negative : SpellsSign true ['-']
  | positive : SpellsSign false []

inductive SpellsFraction : Option (List Char) → List Char → Prop where
  | none : SpellsFraction none []
  | some {digits : List Char} (h : IsDigits digits) : SpellsFraction (some digits) ('.' :: digits)

inductive SpellsExponent : Option (Bool × List Char) → List Char → Prop where
  | none : SpellsExponent none []
  | unsigned {mark : Char} {digits : List Char} (hmark : mark ∈ ['e', 'E']) (h : IsDigits digits) :
      SpellsExponent (some (false, digits)) (mark :: digits)
  | positive {mark : Char} {digits : List Char} (hmark : mark ∈ ['e', 'E']) (h : IsDigits digits) :
      SpellsExponent (some (false, digits)) (mark :: '+' :: digits)
  | negative {mark : Char} {digits : List Char} (hmark : mark ∈ ['e', 'E']) (h : IsDigits digits) :
      SpellsExponent (some (true, digits)) (mark :: '-' :: digits)

/-- No zero stands in front of other whole digits. -/
inductive SpellsNumber (n : Number) : List Char → Prop where
  | parts {sign fraction exponent : List Char} (hsign : SpellsSign n.negative sign)
      (hwhole : IsDigits n.whole) (hzero : n.whole.head? = some '0' → n.whole = ['0'])
      (hfraction : SpellsFraction n.fraction fraction)
      (hexponent : SpellsExponent n.exponent exponent) :
      SpellsNumber n (sign ++ (n.whole ++ (fraction ++ exponent)))

/-! ## Values -/

/-- The parts of a document: a value, an element, which is a value with blanks around it, and one
or more items of an array or members of an object with the commas between them. -/
inductive Part where
  | value (draft : Draft)
  | element (draft : Draft)
  | items (drafts : List Draft)
  | member (key : Option String) (draft : Draft)
  | members (pairs : List (Option String × Draft))

/-- A string with a surrogate that is not in a pair is well-formed, but it has no text. -/
inductive Spells : Part → List Char → Prop where
  | null : Spells (.value .null) ['n', 'u', 'l', 'l']
  | bool (b : Bool) : Spells (.value (.bool b)) (toString b).toList
  | number {n : Number} {text : List Char} (h : SpellsNumber n text) :
      Spells (.value (.number n)) text
  | text {s : String} {body : List Char} (h : SpellsText s.toList body) :
      Spells (.value (.string (some s))) ('"' :: (body ++ ['"']))
  | unpaired {pieces : List Piece} {body : List Char} (h : SpellsPieces pieces body)
      (hunpaired : join? false pieces = none) :
      Spells (.value (.string none)) ('"' :: (body ++ ['"']))
  | noItems {blank : List Char} (h : Blank blank) :
      Spells (.value (.array [] none)) ('[' :: (blank ++ [']']))
  | array {items : List Draft} {text : List Char} (h : Spells (.items items) text) :
      Spells (.value (.array items none)) ('[' :: (text ++ [']']))
  | noMembers {blank : List Char} (h : Blank blank) :
      Spells (.value (.object [] none)) ('{' :: (blank ++ ['}']))
  | object {pairs : List (Option String × Draft)} {text : List Char}
      (h : Spells (.members pairs) text) :
      Spells (.value (.object pairs none)) ('{' :: (text ++ ['}']))
  | element {draft : Draft} {before text after : List Char} (hbefore : Blank before)
      (h : Spells (.value draft) text) (hafter : Blank after) :
      Spells (.element draft) (before ++ (text ++ after))
  | lastItem {draft : Draft} {text : List Char} (h : Spells (.element draft) text) :
      Spells (.items [draft]) text
  | item {draft : Draft} {drafts : List Draft} {text rest : List Char}
      (h : Spells (.element draft) text) (hrest : Spells (.items drafts) rest) :
      Spells (.items (draft :: drafts)) (text ++ ',' :: rest)
  | member {key : Option String} {draft : Draft} {before name between text : List Char}
      (hbefore : Blank before) (hkey : Spells (.value (.string key)) name)
      (hbetween : Blank between) (h : Spells (.element draft) text) :
      Spells (.member key draft) (before ++ (name ++ (between ++ ':' :: text)))
  | lastMember {key : Option String} {draft : Draft} {text : List Char}
      (h : Spells (.member key draft) text) : Spells (.members [(key, draft)]) text
  | someMember {key : Option String} {draft : Draft} {pairs : List (Option String × Draft)}
      {text rest : List Char} (h : Spells (.member key draft) text)
      (hrest : Spells (.members pairs) rest) :
      Spells (.members ((key, draft) :: pairs)) (text ++ ',' :: rest)

end Rulebook.Json
