import Rulebook.Proofs.Expr.Scanning

namespace Rulebook

/-!
# String literals

The literal for a text has a backslash before every quote and every backslash of the text. So the
reader and the scan for limits take the same quote for the closing one, whatever stands in the text
and behind the literal, and without its quotes and its escaping backslashes the literal is the text
again.
-/

open Grammar

/-! ## Beginnings of literals -/

/-- The beginning of a body is a body, or it breaks off behind an escaping backslash. -/
theorem Grammar.Body.cut {body before : List Char} (h : Body body) (hbefore : before <+: body) :
    Body before ∨ ∃ inner, Body inner ∧ before = inner ++ ['\\'] := by
  induction h generalizing before with
  | nil => exact Or.inl (List.prefix_nil.mp hbefore ▸ .nil)
  | plain hquote hback _ ih =>
      obtain rfl | ⟨tail, rfl, htail⟩ := List.prefix_cons_iff.mp hbefore
      · exact Or.inl .nil
      · rcases ih htail with hbody | ⟨inner, hinner, rfl⟩
        · exact Or.inl (.plain hquote hback hbody)
        · exact Or.inr ⟨_ :: inner, .plain hquote hback hinner, rfl⟩
  | escaped _ ih =>
      -- The text may break off between the backslash and the character that it takes along.
      obtain rfl | ⟨tail, rfl, htail⟩ := List.prefix_cons_iff.mp hbefore
      · exact Or.inl .nil
      · obtain rfl | ⟨behind, rfl, hbehind⟩ := List.prefix_cons_iff.mp htail
        · exact Or.inr ⟨[], .nil, rfl⟩
        · rcases ih hbehind with hbody | ⟨inner, hinner, rfl⟩
          · exact Or.inl hbody.escaped
          · exact Or.inr ⟨'\\' :: _ :: inner, hinner.escaped, rfl⟩

namespace Limits

theorem run_cut_body {body before : List Char} (h : Body body) (hbefore : before <+: body)
    (nesting operators : Nat) :
    ∃ place, run ⟨.inside, nesting, operators⟩ before = .ok ⟨place, nesting, operators⟩ ∧
      ∀ c, place ≠ .outside c := by
  rcases h.cut hbefore with hbody | ⟨inner, hinner, rfl⟩
  · exact ⟨.inside, run_body hbody, nofun⟩
  · exact ⟨.escaped, run_append (run_body hinner) ['\\'], nofun⟩

/-- From the opening quote on, the scan is outside the string only behind the closing one, and it
counts nothing on the way. -/
theorem run_cut_string {raw before : List Char} (h : IsString raw) (hbefore : before <+: raw)
    (hne : before ≠ []) (last : Char) (nesting operators : Nat) :
    ∃ place, run ⟨.outside last, nesting, operators⟩ before = .ok ⟨place, nesting, operators⟩ ∧
      ((∃ c, place = .outside c) ↔ before = raw) := by
  have hwhole : run ⟨.outside last, nesting, operators⟩ raw =
      .ok ⟨.outside '"', nesting, operators⟩ := run_string h
  obtain ⟨body, hbody, rfl⟩ := h
  obtain rfl | ⟨tail, rfl, htail⟩ := List.prefix_cons_iff.mp hbefore
  · exact absurd rfl hne
  · rcases List.prefix_concat_iff.mp htail with rfl | hinner
    · exact ⟨.outside '"', hwhole, iff_of_true ⟨'"', rfl⟩ rfl⟩
    · obtain ⟨place, hrun, hinside⟩ := run_cut_body hbody hinner nesting operators
      have hshort : '"' :: tail ≠ '"' :: (body ++ ['"']) := by
        intro heq
        have hlength := hinner.length_le
        rw [(List.cons.inj heq).2, List.length_append, List.length_singleton] at hlength
        omega
      refine ⟨place, (run_cons_of_step step_quote tail).trans hrun, iff_of_false ?_ hshort⟩
      rintro ⟨c, hplace⟩
      exact hinside c hplace

end Limits

/-! ## Escaping -/

namespace Expr

/-- The characters of the literal for a text. -/
def quoted (value : String) : List Char := '"' :: (escape value.toList ++ ['"'])

/-- Takes out each backslash that escapes a character. -/
def unescape : List Char → List Char
  | [] => []
  | '\\' :: c :: rest => c :: unescape rest
  | c :: rest => c :: unescape rest

/-- Takes off the quotes of a literal, and the escaping backslashes between them. -/
def unquote (raw : List Char) : List Char := unescape raw.tail.dropLast

theorem body_escape (text : List Char) : Body (escape text) := by
  induction text with
  | nil => exact .nil
  | cons c rest ih =>
      unfold escape
      split
      · exact ih.escaped
      · next hplain =>
          obtain ⟨hquote, hback⟩ := not_or.mp hplain
          exact .plain hquote hback ih

theorem isString_quoted (value : String) : IsString (quoted value) :=
  ⟨escape value.toList, body_escape value.toList, rfl⟩

theorem unescape_escape (text : List Char) : unescape (escape text) = text := by
  induction text with
  | nil => rfl
  | cons c rest ih =>
      unfold escape
      split
      · rw [unescape, ih]
      · next hplain =>
          have hback : c ≠ '\\' := fun heq => hplain (Or.inr heq)
          rw [unescape, ih]
          exact fun _ _ heq => absurd heq hback

theorem unquote_quoted (value : String) : unquote (quoted value) = value.toList := by
  rw [unquote, quoted, List.tail_cons, List.dropLast_concat, unescape_escape]

/-- The literal for a text is read up to its own end, whatever comes behind it, and the scan for
limits leaves the string at the same place with its counts unchanged. Taking off the quotes and the
escaping backslashes gives the text back, so different texts have different literals. -/
theorem escaping_undone (value : String) :
    Expr.string value = .literal .string (String.ofList (quoted value)) ∧
    (∀ rest, ∃ tail, quoted value ++ rest = '"' :: tail ∧
      Lexeme.read '"' tail = (.string (quoted value), rest)) ∧
    (∀ (last : Char) (nesting operators : Nat),
      (∀ before, before <+: quoted value → before ≠ [] →
        ∃ place, Limits.run ⟨.outside last, nesting, operators⟩ before =
            .ok ⟨place, nesting, operators⟩ ∧
          ((∃ c, place = .outside c) ↔ before = quoted value)) ∧
      ∀ rest, Limits.excess? ⟨.outside last, nesting, operators⟩ (quoted value ++ rest) =
        Limits.excess? ⟨.outside '"', nesting, operators⟩ rest) ∧
    String.ofList (unquote (quoted value)) = value ∧
    ∀ other, quoted other = quoted value → other = value := by
  refine ⟨rfl, fun rest => ⟨_, rfl, ?_⟩, fun last nesting operators => ⟨?_, ?_⟩, ?_, ?_⟩
  · exact Lexeme.read_of_spells (.string (isString_quoted value)) trivial
  · intro before hbefore hne
    exact Limits.run_cut_string (isString_quoted value) hbefore hne last nesting operators
  · exact Limits.excess?_append (Limits.run_string (isString_quoted value))
  · rw [unquote_quoted, String.ofList_toList]
  · intro other heq
    rw [← String.toList_inj, ← unquote_quoted, heq, unquote_quoted]

/-- A quote and a backslash at the end of the text: neither the first quote inside the literal nor
the backslash before the last one misleads the reader or the scan. -/
theorem escaping_undone_backslash :
    let value := "a\"\\"
    let raw := ['"', 'a', '\\', '"', '\\', '\\', '"']
    quoted value = raw ∧
      Lexeme.read '"' (raw.tail ++ [' ', '"']) = (.string raw, [' ', '"']) ∧
      raw.take 4 <+: quoted value ∧
      (∃ place, Limits.run ⟨.outside '(', 1, 2⟩ (raw.take 4) = .ok ⟨place, 1, 2⟩ ∧
        ∀ c, place ≠ .outside c) ∧
      String.ofList (unquote raw) = value := by
  intro value raw
  have hquoted : quoted value = raw := by decide
  obtain ⟨_, hread, hscan, hback, _⟩ := escaping_undone value
  rw [hquoted] at hread hscan hback ⊢
  obtain ⟨tail, htail, hread⟩ := hread [' ', '"']
  obtain rfl : raw.tail ++ [' ', '"'] = tail := (List.cons.inj htail).2
  have hbefore : raw.take 4 <+: raw := List.take_prefix 4 raw
  obtain ⟨place, hrun, houtside⟩ := (hscan '(' 1 2).1 (raw.take 4) hbefore (by decide)
  refine ⟨rfl, hread, hbefore, ⟨place, hrun, fun c hplace => ?_⟩, hback⟩
  exact absurd (houtside.mp ⟨c, hplace⟩) (by decide)

end Expr

end Rulebook
