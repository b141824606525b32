import Rulebook.Proofs.Json.Grammar
import Rulebook.Text.Scanner

namespace Rulebook.Json

/-!
# Tokens of well-formed documents

Each token of a document that follows the grammar is read as it was written. A string ends at its
quote and a word at its last letter; a number ends where the text behind it does not go on as one.
-/

/-! ## Strings -/

theorem hexValue?_of_hexDigit {c : Char} {n : Nat} (h : HexDigit c n) : hexValue? c = some n := by
  have hlower : ∀ i : Fin 16, hexValue? ("0123456789abcdef".toList.get i) = some i.val := by decide
  have hupper : ∀ i : Fin 16, hexValue? ("0123456789ABCDEF".toList.get i) = some i.val := by decide
  rcases h with h | h
  · obtain ⟨hn, rfl⟩ := List.getElem?_eq_some_iff.mp h
    exact hlower ⟨n, hn⟩
  · obtain ⟨hn, rfl⟩ := List.getElem?_eq_some_iff.mp h
    exact hupper ⟨n, hn⟩

theorem letter?_of_mem_letters {c letter : Char} (h : (c, letter) ∈ letters) :
    letter? letter = some c ∧ letter ≠ 'u' := by
  have hall : ∀ pair ∈ letters, letter? pair.2 = some pair.1 ∧ pair.2 ≠ 'u' := by decide
  exact hall (c, letter) h

theorem pieces_spellsUnit_append {n : Nat} {first : List Char} (h : SpellsUnit n first)
    (rest : List Char) : pieces (first ++ rest) = prepend (.unit n) (pieces rest) := by
  obtain ⟨ha, hb, hc, hd⟩ := h
  simp [pieces, codeUnit?, hexValue?_of_hexDigit ha, hexValue?_of_hexDigit hb,
    hexValue?_of_hexDigit hc, hexValue?_of_hexDigit hd]

theorem pieces_spellsPlain_append {c : Char} {first : List Char} (h : SpellsPlain c first)
    (rest : List Char) : pieces (first ++ rest) = prepend (.char c) (pieces rest) := by
  cases h with
  | raw hcontrol hquote hback =>
      have hallowed : ¬ c.toNat < 0x20 := Nat.not_lt.mpr hcontrol
      simp [pieces, hback, hallowed]
  | letter hletter =>
      obtain ⟨hvalue, hunit⟩ := letter?_of_mem_letters hletter
      simp [pieces, hunit, hvalue]

theorem pieces_of_spells {found : List Piece} {body : List Char} (h : SpellsPieces found body)
    (rest : List Char) : pieces (body ++ '"' :: rest) = (found, .closed rest) := by
  induction h with
  | nil => simp [pieces]
  | char hfirst _ ih => rw [List.append_assoc, pieces_spellsPlain_append hfirst, ih, prepend]
  | unit hfirst _ ih => rw [List.append_assoc, pieces_spellsUnit_append hfirst, ih, prepend]

/-- A code unit that is no surrogate is a character, whatever piece is behind it. -/
theorem join?_unit_cons {n : Nat} (hleading : isLeading n = false) (htrailing : isTrailing n = false)
    (rest : List Piece) :
    join? false (.unit n :: rest) = (join? false rest).map (Char.ofNat n :: ·) := by
  match rest with
  | [] => simp [join?, hleading, htrailing]
  | .unit m :: rest => simp [join?, hleading, htrailing]
  | .char c :: rest =>
      simp only [join?, hleading, htrailing, Bool.or_self, Bool.false_eq_true, if_false,
        Option.map_map]
      rfl

theorem join?_pair_cons {i j : Nat} (hi : i < 0x400) (hj : j < 0x400) (rest : List Piece) :
    join? false (.unit (0xD800 + i) :: .unit (0xDC00 + j) :: rest) =
      (join? false rest).map (Char.ofNat (0x10000 + i * 0x400 + j) :: ·) := by
  have hleading : isLeading (0xD800 + i) = true := by simp [isLeading]; omega
  have htrailing : isTrailing (0xDC00 + j) = true := by simp [isTrailing]; omega
  simp [join?, hleading, htrailing, pair]

theorem not_surrogate (c : Char) : isLeading c.toNat = false ∧ isTrailing c.toNat = false := by
  have hvalid : c.toNat < 0xD800 ∨ 0xDFFF < c.toNat := c.valid.imp id And.left
  simp only [isLeading, isTrailing, Bool.and_eq_false_iff, decide_eq_false_iff_not]
  omega

theorem exists_pieces_of_spellsText {text body : List Char} (h : SpellsText text body) :
    ∃ found, SpellsPieces found body ∧ join? false found = some text := by
  induction h with
  | nil => exact ⟨[], .nil, rfl⟩
  | @plain c _ _ _ hfirst _ ih =>
      obtain ⟨found, hfound, hjoin⟩ := ih
      exact ⟨.char c :: found, .char hfirst hfound, by simp [join?, hjoin]⟩
  | @unit c _ _ _ hfirst _ ih =>
      obtain ⟨found, hfound, hjoin⟩ := ih
      obtain ⟨hleading, htrailing⟩ := not_surrogate c
      refine ⟨.unit c.toNat :: found, .unit hfirst hfound, ?_⟩
      rw [join?_unit_cons hleading htrailing, hjoin, Option.map_some, Char.ofNat_toNat]
  | @pair c i j _ _ _ _ hi hj hc hfirst hsecond _ ih =>
      obtain ⟨found, hfound, hjoin⟩ := ih
      refine ⟨.unit (0xD800 + i) :: .unit (0xDC00 + j) :: found, ?_, ?_⟩
      · rw [List.append_assoc]
        exact .unit hfirst (.unit hsecond hfound)
      · rw [join?_pair_cons hi hj, hjoin, Option.map_some, ← hc, Char.ofNat_toNat]

theorem Token.readString_of_spells {key : Option String} {name : List Char}
    (h : Spells (.value (.string key)) name) :
    ∃ body, name = '"' :: (body ++ ['"']) ∧
      ∀ rest, Token.readString (body ++ '"' :: rest) = (.string key, rest) := by
  cases h with
  | @text s body htext =>
      obtain ⟨found, hfound, hjoin⟩ := exists_pieces_of_spellsText htext
      refine ⟨body, rfl, fun rest => ?_⟩
      simp only [Token.readString, pieces_of_spells hfound, hjoin, Option.map_some,
        String.ofList_toList]
  | @unpaired found body hfound hunpaired =>
      refine ⟨body, rfl, fun rest => ?_⟩
      simp only [Token.readString, pieces_of_spells hfound, hunpaired, Option.map_none]

/-! ## Numbers -/

namespace Number

/-- The characters with which a number may go on. -/
def continues (c : Char) : Bool := c.isDigit || c == '.' || c == 'e' || c == 'E'

/-- The text does not go on as a number. -/
def Ends (text : List Char) : Prop := ∀ c ∈ text.head?, continues c = false

theorem ends_cons {c : Char} (hc : continues c = false) (rest : List Char) : Ends (c :: rest) := by
  intro d hd
  obtain rfl : c = d := by simpa using hd
  exact hc

theorem Ends.head_isDigit {text : List Char} (h : Ends text) :
    ∀ c ∈ text.head?, c.isDigit = false := by
  intro c hc
  have hends := h c hc
  simp only [continues, Bool.or_eq_false_iff] at hends
  exact hends.1.1.1

theorem digits_append {run after : List Char} (hrun : IsDigits run)
    (hafter : ∀ c ∈ after.head?, c.isDigit = false) : digits (run ++ after) = .ok (run, after) := by
  obtain ⟨htake, hdrop⟩ := Text.takeWhile_of_stops hrun.2 hafter
  rw [digits, htake, hdrop]
  cases run with
  | nil => exact absurd rfl hrun.1
  | cons c rest => rfl

theorem wholePart_append {whole after : List Char} (hwhole : IsDigits whole)
    (hzero : whole.head? = some '0' → whole = ['0'])
    (hafter : ∀ c ∈ after.head?, c.isDigit = false) :
    wholePart (whole ++ after) = .ok (whole, after) := by
  rw [wholePart, digits_append hwhole hafter]
  split
  · next heq =>
      obtain ⟨rfl, -⟩ := Prod.mk.inj (Except.ok.inj heq)
      simp at hzero
  · rfl

theorem head_fraction_append {fraction : Option (List Char)} {text after : List Char}
    (h : SpellsFraction fraction text) (hafter : ∀ c ∈ after.head?, c.isDigit = false) :
    ∀ c ∈ (text ++ after).head?, c.isDigit = false := by
  cases h with
  | none => exact hafter
  | some =>
      intro c hc
      obtain rfl : '.' = c := by simpa using hc
      rfl

theorem head_exponent_append {exponent : Option (Bool × List Char)} {text after : List Char}
    (h : SpellsExponent exponent text) (hafter : Ends after) :
    ∀ c ∈ (text ++ after).head?, c.isDigit = false ∧ c ≠ '.' := by
  intro c hc
  cases h with
  | none =>
      have hends := hafter c hc
      simp only [continues, Bool.or_eq_false_iff, beq_eq_false_iff_ne] at hends
      exact hends.1.1
  | unsigned hmark | positive hmark | negative hmark =>
      simp only [List.cons_append, List.head?_cons, Option.mem_some_iff] at hc
      have hmarks : ∀ mark ∈ ['e', 'E'], mark.isDigit = false ∧ mark ≠ '.' := by simp
      exact hc ▸ hmarks _ hmark

theorem fractionPart_append {fraction : Option (List Char)} {text after : List Char}
    (h : SpellsFraction fraction text)
    (hafter : ∀ c ∈ after.head?, c.isDigit = false ∧ c ≠ '.') :
    fractionPart (text ++ after) = .ok (fraction, after) := by
  cases h with
  | none =>
      unfold fractionPart
      split
      · next rest heq =>
          have hhead : '.' ∈ after.head? := by
            rw [← List.nil_append after, heq]
            rfl
          exact absurd rfl (hafter '.' hhead).2
      · rfl
  | some hdigits =>
      have hread := digits_append hdigits fun c hc => (hafter c hc).1
      simp [fractionPart, hread]

theorem exponentPart_append {exponent : Option (Bool × List Char)} {text after : List Char}
    (h : SpellsExponent exponent text) (hafter : Ends after) :
    exponentPart (text ++ after) = .ok (exponent, after) := by
  have hdigits (negative : Bool) {digits : List Char} (hdigits : IsDigits digits) :
      exponentDigits negative (digits ++ after) = .ok (some (negative, digits), after) := by
    rw [exponentDigits, digits_append hdigits hafter.head_isDigit]
  have heither {mark : Char} (hmark : mark ∈ ['e', 'E']) : mark = 'e' ∨ mark = 'E' := by
    simpa using hmark
  cases h with
  | none =>
      cases after with
      | nil => rfl
      | cons c rest =>
          have hends := hafter c rfl
          simp only [continues, Bool.or_eq_false_iff, beq_eq_false_iff_ne] at hends
          simp [exponentPart, hends.1.2, hends.2]
  | unsigned hmark h =>
      -- A digit is neither of the signs.
      obtain ⟨digit, others, rfl⟩ := List.exists_cons_of_ne_nil h.1
      have hdigit : digit.isDigit = true := h.2 digit List.mem_cons_self
      have hplus : digit ≠ '+' := by rintro rfl; cases hdigit
      have hminus : digit ≠ '-' := by rintro rfl; cases hdigit
      have hread := hdigits false h
      rw [List.cons_append] at hread
      simp [exponentPart, heither hmark, hplus, hminus, hread]
  | positive hmark h => simp [exponentPart, heither hmark, hdigits false h]
  | negative hmark h => simp [exponentPart, heither hmark, hdigits true h]

theorem unsigned_append {n : Number} {fraction exponent after : List Char}
    (hwhole : IsDigits n.whole) (hzero : n.whole.head? = some '0' → n.whole = ['0'])
    (hfraction : SpellsFraction n.fraction fraction) (hexponent : SpellsExponent n.exponent exponent)
    (hafter : Ends after) :
    unsigned n.negative (n.whole ++ (fraction ++ (exponent ++ after))) = .ok (n, after) := by
  have hpoint := head_exponent_append hexponent hafter
  have hdigit := head_fraction_append hfraction fun c hc => (hpoint c hc).1
  rw [unsigned, wholePart_append hwhole hzero hdigit]
  simp only [fractionPart_append hfraction hpoint, exponentPart_append hexponent hafter]

theorem read_append {n : Number} {text after : List Char} (h : SpellsNumber n text)
    (hafter : Ends after) : read (text ++ after) = .ok (n, after) := by
  obtain ⟨hsign, hwhole, hzero, hfraction, hexponent⟩ := h
  have hunsigned := unsigned_append hwhole hzero hfraction hexponent hafter
  obtain ⟨negative, whole, fraction, exponent⟩ := n
  cases hsign with
  | negative => simpa [read] using hunsigned
  | positive =>
      obtain ⟨digit, others, rfl⟩ := List.exists_cons_of_ne_nil hwhole.1
      have hdigit : digit.isDigit = true := hwhole.2 digit List.mem_cons_self
      have hminus : digit ≠ '-' := by rintro rfl; cases hdigit
      simpa [read, hminus] using hunsigned

theorem exists_cons_of_spells {n : Number} {text : List Char} (h : SpellsNumber n text) :
    ∃ c rest, text = c :: rest ∧ (c = '-' ∨ c.isDigit = true) := by
  obtain ⟨hsign, hwhole, _, _, _⟩ := h
  obtain ⟨negative, whole, fraction, exponent⟩ := n
  cases hsign with
  | negative => exact ⟨'-', _, rfl, Or.inl rfl⟩
  | positive =>
      obtain ⟨digit, others, hcons⟩ := List.exists_cons_of_ne_nil hwhole.1
      rw [hcons]
      exact ⟨digit, _, rfl, Or.inr (hwhole.2 digit (hcons ▸ List.mem_cons_self))⟩

end Number

/-! ## Tokens -/

namespace Token

/-- The tokens of one character that mean themselves. -/
def marks : List (Char × Token) :=
  [('[', openArray), (']', closeArray), ('{', openObject), ('}', closeObject), (',', comma),
    (':', colon)]

theorem read_of_mem_marks {c : Char} {token : Token} (h : (c, token) ∈ marks)
    (rest : List Char) : isBlank c = false ∧ read c rest = (token, rest) := by
  have hall : ∀ mark ∈ marks, isBlank mark.1 = false ∧ read mark.1 rest = (mark.2, rest) := by
    simp [marks, isBlank, read]
  exact hall (c, token) h

theorem read_of_isDigit {c : Char} (h : c = '-' ∨ c.isDigit = true) (rest : List Char) :
    read c rest = readNumber (c :: rest) ∧ isBlank c = false := by
  rcases h with rfl | h
  · exact ⟨rfl, rfl⟩
  · have hne (d : Char) (hd : d.isDigit = false) : c ≠ d := by
      rintro rfl
      simp [hd] at h
    constructor
    · rw [read, if_pos (Or.inr h)]
      all_goals exact hne _ rfl
    · simp [isBlank, hne ' ' rfl, hne '\t' rfl, hne '\n' rfl, hne '\r' rfl]

theorem read_of_spellsNumber {n : Number} {text after : List Char} (h : SpellsNumber n text)
    (hafter : Number.Ends after) :
    ∃ c rest, text = c :: rest ∧ isBlank c = false ∧
      read c (rest ++ after) = (number n, after) := by
  obtain ⟨c, rest, rfl, hc⟩ := Number.exists_cons_of_spells h
  obtain ⟨hread, hblank⟩ := read_of_isDigit hc (rest ++ after)
  refine ⟨c, rest, rfl, hblank, ?_⟩
  rw [hread, readNumber, ← List.cons_append, Number.read_append h hafter]

theorem readAll_nil : readAll [] = [] := scanner.tokens_nil

theorem readAll_cons {c : Char} {rest after : List Char} {token : Token}
    (hc : isBlank c = false) (h : read c rest = (token, after)) :
    readAll (c :: rest) = token :: readAll after := by
  have hread : scanner.read c rest = (token, after) := h
  rw [readAll, scanner.tokens_cons hc, hread, readAll]

theorem readAll_blank_append {blank : List Char} (h : Blank blank) (text : List Char) :
    readAll (blank ++ text) = readAll text := by
  have hall : ∀ c ∈ [' ', '\t', '\n', '\r'], isBlank c = true := by simp [isBlank]
  exact scanner.tokens_blank_append (fun c hc => hall c (h c hc)) text

end Token

end Rulebook.Json
