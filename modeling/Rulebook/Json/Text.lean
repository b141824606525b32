namespace Rulebook.Json

/-!
# Strings in JSON

A string stands between quotes. A backslash writes a character by a letter or a 16-bit code
unit by four hexadecimal digits; a character outside the basic plane takes two code units, and
such a surrogate means nothing on its own.
-/

/-- What is wrong with a text: it breaks the grammar, or it ends too early. -/
inductive Flaw where
  | malformed
  | ended
  deriving DecidableEq, Repr

/-- What is wrong at one place, for a reader who uses the value there and for one who skips it.
Skipping is less strict about the code units of a string and the range of a number. -/
structure Break where
  used : Flaw
  skipped : Flaw
  deriving DecidableEq, Repr

def Break.both (flaw : Flaw) : Break := ⟨flaw, flaw⟩

/-- A piece of a string: a character, or a code unit written by its number. -/
inductive Piece where
  | char (c : Char)
  | unit (n : Nat)
  deriving DecidableEq, Repr

/-- How a string ends: with its quote, before `rest`, or with a flaw. -/
inductive Ending where
  | closed (rest : List Char)
  | flawed (flaw : Flaw)
  deriving DecidableEq

def hexValue? (c : Char) : Option Nat :=
  if '0' ≤ c ∧ c ≤ '9' then some (c.toNat - '0'.toNat)
  else if 'a' ≤ c ∧ c ≤ 'f' then some (c.toNat - 'a'.toNat + 10)
  else if 'A' ≤ c ∧ c ≤ 'F' then some (c.toNat - 'A'.toNat + 10)
  else none

def codeUnit? (a b c d : Char) : Option Nat :=
  match hexValue? a, hexValue? b, hexValue? c, hexValue? d with
  | some a, some b, some c, some d => some (((a * 16 + b) * 16 + c) * 16 + d)
  | _, _, _, _ => none

/-- The characters that a backslash and a letter stand for. -/
def letter? (c : Char) : Option Char :=
  match c with
  | '"' => some '"'
  | '\\' => some '\\'
  | '/' => some '/'
  | 'b' => some '\x08'
  | 'f' => some '\x0c'
  | 'n' => some '\n'
  | 'r' => some '\r'
  | 't' => some '\t'
  | _ => none

/-- Four digits are looked for in four bytes; a text with fewer bytes has ended. -/
def shortUnit (rest : List Char) : Flaw :=
  if (String.ofList rest).utf8ByteSize < 4 then .ended else .malformed

def prepend (piece : Piece) (string : List Piece × Ending) : List Piece × Ending :=
  (piece :: string.1, string.2)

/-- The pieces of a string behind its opening quote, and how it ends. -/
def pieces : List Char → List Piece × Ending
  | [] => ([], .flawed .ended)
  | '"' :: rest => ([], .closed rest)
  | '\\' :: 'u' :: a :: b :: c :: d :: rest =>
      match codeUnit? a b c d with
      | some n => prepend (.unit n) (pieces rest)
      | none => ([], .flawed .malformed)
  | '\\' :: 'u' :: rest => ([], .flawed (shortUnit rest))
  | '\\' :: c :: rest =>
      match letter? c with
      | some c => prepend (.char c) (pieces rest)
      | none => ([], .flawed .malformed)
  | ['\\'] => ([], .flawed .ended)
  | c :: rest =>
      if c.toNat < 0x20 then ([], .flawed .malformed)
      else prepend (.char c) (pieces rest)

theorem pieces_closed_length {text rest : List Char}
    (h : (pieces text).2 = .closed rest) : rest.length < text.length := by
  fun_induction pieces text with
  | case1 => cases h
  | case2 tail =>
      cases h
      exact Nat.lt_succ_self _
  | case3 a b c d tail n _ ih =>
      have := ih h
      simp only [List.length_cons]
      omega
  | case4 => cases h
  | case5 => cases h
  | case6 c tail _ _ x _ ih =>
      have := ih h
      simp only [List.length_cons]
      omega
  | case7 => cases h
  | case8 => cases h
  | case9 => cases h
  | case10 c tail _ _ _ _ _ _ ih =>
      have := ih h
      simp only [List.length_cons]
      omega

def isLeading (n : Nat) : Bool := decide (0xD800 ≤ n) && decide (n ≤ 0xDBFF)

def isTrailing (n : Nat) : Bool := decide (0xDC00 ≤ n) && decide (n ≤ 0xDFFF)

/-- The character of a leading and a trailing surrogate. -/
def pair (leading trailing : Nat) : Char :=
  Char.ofNat (0x10000 + (leading - 0xD800) * 0x400 + (trailing - 0xDC00))

/-- The text of some pieces, unless a surrogate stands alone. With `cut` the pieces may go on,
so the last one may be a leading surrogate. -/
def join? (cut : Bool) : List Piece → Option (List Char)
  | [] => some []
  | .char c :: rest => (join? cut rest).map (c :: ·)
  | .unit n :: .unit m :: rest =>
      if isLeading n then
        if isTrailing m then (join? cut rest).map (pair n m :: ·) else none
      else if isTrailing n then none
      else (join? cut (.unit m :: rest)).map (Char.ofNat n :: ·)
  | [.unit n] =>
      if isLeading n then (if cut then some [] else none)
      else if isTrailing n then none
      else some [Char.ofNat n]
  | .unit n :: .char c :: rest =>
      if isLeading n || isTrailing n then none
      else (join? cut rest).map (fun text => Char.ofNat n :: c :: text)

/-- What is wrong with a string whose pieces end in a flaw. Whoever uses the string meets a lone
surrogate first. -/
def stringBreak (found : List Piece) (flaw : Flaw) : Break :=
  match join? true found with
  | some _ => ⟨flaw, flaw⟩
  | none => ⟨.malformed, flaw⟩

end Rulebook.Json
