import Rulebook.Proofs.Expr.Reading

namespace Rulebook

/-!
# How far the reader looks ahead

What the reader has taken it takes whatever comes behind, as long as the first character there does
not make the last token longer. Two characters are enough to tell what role a token has, but for a
string, whose end may be missing. So where a token is refused, two of its characters are refused in
every text.
-/

open Grammar

namespace Lexeme

/-! ## Tokens that are cut short -/

theorem stops_nil (lexeme : Lexeme) : lexeme.Stops [] := by
  cases lexeme with
  | int | name => exact nofun
  | operator op => cases op <;> first | trivial | exact nofun
  | opening | closing | string | unclosed | stray => trivial

/-- Only the first character behind a token matters to it. -/
theorem Stops.of_head? {lexeme : Lexeme} {text other : List Char} (h : lexeme.Stops text)
    (hhead : other.head? = text.head?) : lexeme.Stops other := by
  cases lexeme with
  | int | name =>
      rw [Stops, hhead]
      exact h
  | operator op =>
      cases op with
      | assign =>
          rw [Stops, hhead]
          exact h
      | mul | div | add | sub | eq | ne | and | or => trivial
  | opening | closing | string | unclosed | stray => trivial

theorem stops_closing (lexeme : Lexeme) (rest : List Char) : lexeme.Stops (')' :: rest) := by
  cases lexeme with
  | int | name =>
      intro c hc
      obtain rfl : ')' = c := by simpa using hc
      decide
  | operator op => exact operator_stops rfl rest
  | opening | closing | string | unclosed | stray => trivial

theorem Stops.blank_closings {lexeme : Lexeme} {blank rest : List Char}
    (h : lexeme.Stops (blank ++ rest)) (n : Nat) :
    lexeme.Stops (blank ++ List.replicate n ')') := by
  cases blank with
  | cons c blank => exact h.of_head? rfl
  | nil =>
      cases n with
      | zero => exact stops_nil lexeme
      | succ n => exact stops_closing lexeme _

/-- A string without its closing quote is a body, or it breaks off behind a backslash. -/
theorem body_of_untilQuote_eq_none {text : List Char} (h : untilQuote text = none) :
    Body text ∨ ∃ body, Body body ∧ text = body ++ ['\\'] := by
  fun_induction untilQuote text with
  | case1 => exact Or.inl .nil
  | case2 => cases h
  | case3 c rest ih =>
      rcases ih (Option.map_eq_none_iff.mp h) with hbody | ⟨body, hbody, rfl⟩
      · exact Or.inl hbody.escaped
      · exact Or.inr ⟨'\\' :: c :: body, hbody.escaped, rfl⟩
  | case4 c rest hquote hback ih =>
      by_cases hc : c = '\\'
      · cases rest with
        | nil => exact Or.inr ⟨[], .nil, by rw [hc]; rfl⟩
        | cons d others => exact absurd hc (hback d others · rfl)
      · rcases ih (Option.map_eq_none_iff.mp h) with hbody | ⟨body, hbody, rfl⟩
        · exact Or.inl (.plain (fun heq => hquote heq) hc hbody)
        · exact Or.inr ⟨c :: body, .plain (fun heq => hquote heq) hc hbody, rfl⟩

theorem untilQuote_body {text : List Char} (h : Body text) : untilQuote text = none := by
  induction h with
  | nil => rfl
  | plain hquote hback _ ih => simp [untilQuote, hback, ih]
  | escaped _ ih => simp [untilQuote, ih]

theorem body_replicate_closing (n : Nat) : Body (List.replicate n ')') := by
  induction n with
  | zero => exact .nil
  | succ n ih => exact .plain (by decide) (by decide) ih

theorem untilQuote_append_closing {text : List Char} (h : untilQuote text = none) (n : Nat) :
    untilQuote (text ++ List.replicate n ')') = none := by
  rcases body_of_untilQuote_eq_none h with hbody | ⟨body, hbody, rfl⟩
  · exact untilQuote_body (hbody.append (body_replicate_closing n))
  · cases n with
    | zero => simpa using h
    | succ n =>
        have hall : Body (body ++ '\\' :: ')' :: List.replicate n ')') :=
          hbody.append (body_replicate_closing n).escaped
        simpa [List.replicate_succ] using untilQuote_body hall

theorem exists_isString_append {text : List Char} (h : untilQuote text = none) :
    ∃ after, IsString ('"' :: (text ++ after)) := by
  rcases body_of_untilQuote_eq_none h with hbody | ⟨body, hbody, rfl⟩
  · exact ⟨['"'], text, hbody, rfl⟩
  · have hall : Body (body ++ ['\\', '\\']) := hbody.append (.escaped .nil)
    exact ⟨['\\', '"'], body ++ ['\\', '\\'], hall, by simp⟩

theorem read_unclosed {rest : List Char} (h : untilQuote rest = none) :
    read '"' rest = (unclosed, []) := by
  simp [read, h]

theorem eq_quote_of_read {c : Char} {rest : List Char} (h : (read c rest).1 = unclosed) :
    c = '"' ∧ untilQuote rest = none := by
  have hpair {second : Char} {pair single : Lexeme} (hne : pair ≠ unclosed ∧ single ≠ unclosed) :
      (readPair second pair single rest).1 ≠ unclosed := by
    cases hread : readPair second pair single rest with
    | mk lexeme after =>
        rcases readPair_cases hread with ⟨rfl, -⟩ | ⟨rfl, -, -⟩
        · exact hne.1
        · exact hne.2
  unfold read at h
  split at h
  case h_7 | h_8 | h_9 | h_10 => exact absurd h (hpair ⟨Lexeme.noConfusion, Lexeme.noConfusion⟩)
  case h_11 =>
    split at h
    · cases h
    · next hquote => exact ⟨rfl, hquote⟩
  case h_12 =>
    split at h
    · cases h
    · split at h <;> cases h
  all_goals cases h

/-! ## Roles -/

/-- What a token is to the reader. -/
inductive Role where
  | opening
  | closing
  | operator
  | operand
  | nothing

def role : Lexeme → Role
  | opening => .opening
  | closing => .closing
  | operator _ => .operator
  | int _ | string _ | name _ => .operand
  | unclosed | stray _ => .nothing

theorem role_of_tree? {lexeme : Lexeme} {t : Expr} (h : lexeme.tree? = some t) :
    lexeme.role = .operand := by
  cases lexeme with
  | int | string | name => rfl
  | opening | closing | operator | unclosed | stray => cases h

theorem exists_tree?_of_role {lexeme : Lexeme} (h : lexeme.role = .operand) :
    ∃ t, lexeme.tree? = some t := by
  cases lexeme with
  | int | string | name => exact ⟨_, rfl⟩
  | opening | closing | operator | unclosed | stray => cases h

/-- Two characters settle the role of a token, but for a string that may lack its end. -/
theorem role_read {lexeme : Lexeme} {c d : Char} {raw after rest : List Char}
    (hraw : Spells lexeme (c :: raw)) (htext : raw ++ after = d :: rest) (other : List Char) :
    (read c (d :: other)).1.role = lexeme.role ∨
      lexeme.role = .operand ∧ (read c (d :: other)).1 = unclosed := by
  generalize hcons : c :: raw = text at hraw
  cases hraw with
  | opening | closing =>
      obtain ⟨rfl, rfl⟩ := List.cons.inj hcons
      exact Or.inl rfl
  | operator op =>
      refine Or.inl ?_
      cases op with
      | mul | div | add | sub =>
          obtain ⟨rfl, rfl⟩ := List.cons.inj hcons
          rfl
      | eq | assign =>
          obtain ⟨rfl, rfl⟩ := List.cons.inj hcons
          by_cases hd : d = '=' <;> simp [read, readPair, hd, role]
      | ne | and | or =>
          obtain ⟨rfl, rfl⟩ := List.cons.inj hcons
          obtain ⟨rfl, -⟩ := List.cons.inj htext
          rfl
  | int hint =>
      subst hcons
      have hc := hint.2 c List.mem_cons_self
      rw [read_of_not_mem_marks (not_mem_marks_of_continuesName (digit_apart hc).2.2), if_pos hc]
      exact Or.inl rfl
  | string hstring =>
      obtain ⟨body, -, rfl⟩ := hstring
      obtain ⟨rfl, rfl⟩ := List.cons.inj hcons
      cases hquote : untilQuote (d :: other) with
      | none => simp [read, hquote, role]
      | some split => simp [read, hquote, role]
  | name hname =>
      obtain ⟨first, others, rfl, hfirst, -⟩ := hname
      obtain ⟨rfl, rfl⟩ := List.cons.inj hcons
      have hc := continuesName_of_startsName hfirst
      rw [read_of_not_mem_marks (not_mem_marks_of_continuesName hc)]
      by_cases hdigit : c.isDigit = true
      · rw [if_pos hdigit]
        exact Or.inl rfl
      · rw [if_neg hdigit, if_pos hfirst]
        exact Or.inl rfl

end Lexeme

namespace Reader

theorem exists_step_of_role {state next : State} {lexeme other : Lexeme} {here : List Char}
    (h : step state ⟨lexeme, here⟩ = .ok next) (hrole : other.role = lexeme.role)
    (there : List Char) : ∃ result, step state ⟨other, there⟩ = .ok result := by
  obtain ⟨pending, opened, rfl, rfl, rfl⟩ | ⟨pending, opened, t, rfl, htree, rfl⟩ |
    ⟨tree, opened, op, rfl, rfl, rfl⟩ | ⟨tree, pending, opened, rfl, rfl, rfl⟩ := step_cases h
  · cases other with
    | opening => exact ⟨_, rfl⟩
    | _ => cases hrole
  · obtain ⟨t', ht'⟩ := Lexeme.exists_tree?_of_role (hrole.trans (Lexeme.role_of_tree? htree))
    exact ⟨_, step_of_tree? ht' pending opened there⟩
  · cases other with
    | operator => exact ⟨_, rfl⟩
    | _ => cases hrole
  · cases other with
    | closing => exact ⟨_, rfl⟩
    | _ => cases hrole

/-! ## Reading from a state on -/

/-- The tree or the fault of what is left of a text. -/
def readFrom (state : State) (text : List Char) : Except Fault Expr :=
  match run state (Token.readAll text) with
  | .error fault => .error fault
  | .ok final => finish final

theorem readFrom_start (text : List Char) : readFrom .start text = read text := rfl

theorem readFrom_blank {text : List Char} (h : Blank text) (state : State) :
    readFrom state text = finish state := by
  rw [readFrom, Token.readAll_of_blank h]
  rfl

theorem readFrom_refused {state : State} {blank tail : List Char} {c : Char} {fault : Fault}
    (hblank : Blank blank) (hc : Text.isBlank c = false)
    (hstep : step state ⟨(Lexeme.read c tail).1, c :: tail⟩ = .error fault) :
    readFrom state (blank ++ c :: tail) = .error fault := by
  rw [readFrom, Token.readAll_blank_append hblank hc, run, hstep]

theorem readAll_unclosed {blank rest : List Char} (hblank : Blank blank)
    (h : Lexeme.untilQuote rest = none) :
    Token.readAll (blank ++ '"' :: rest) = [⟨.unclosed, '"' :: rest⟩] := by
  rw [Token.readAll_blank_append hblank (by decide), Lexeme.read_unclosed h,
    Token.readAll_of_blank (List.forall_mem_nil _)]

theorem readFrom_unclosed {blank rest : List Char} (hblank : Blank blank)
    (h : Lexeme.untilQuote rest = none) (pending : Pending) (opened : List Pending) :
    readFrom (.awaiting pending opened) (blank ++ '"' :: rest) =
      .error ⟨.operandMissing (opened.length + 1), []⟩ := by
  rw [readFrom, readAll_unclosed hblank h]
  rfl

theorem Takes.readFrom {after text : List Char} {state final : State}
    (h : Takes after state text final) :
    Reader.readFrom state (text ++ after) = Reader.readFrom final after := by
  rw [Reader.readFrom, h.run, Reader.readFrom]

/-- What is taken of a text is also taken when another text follows, if that one does not make the
last token longer. -/
theorem Takes.congr {after other text : List Char} {state final : State}
    (h : Takes after state text final)
    (hother : ∀ lexeme : Lexeme, lexeme.Stops after → lexeme.Stops other) :
    Takes other state text final := by
  induction h with
  | nil state => exact .nil state
  | @cons _ _ _ _ _ rest lexeme hbefore hraw hstops hstep _ ih =>
      refine .cons hbefore hraw ?_ hstep ih
      cases rest with
      | nil => exact hother lexeme hstops
      | cons c rest => exact hstops.of_head? rfl

theorem Takes.congr_blank {blank rest text : List Char} {state final : State}
    (h : Takes (blank ++ rest) state text final) : Takes blank state text final :=
  h.congr fun lexeme hstops => by simpa using hstops.blank_closings 0

theorem Takes.not_grammatical {after text : List Char} {final : State} {fault : Fault}
    (h : Takes after .start text final) (hfault : Reader.readFrom final after = .error fault) :
    ¬ Grammatical (text ++ after) := by
  rintro ⟨t, ht⟩
  have hread := read_of_expression ht
  rw [← readFrom_start, h.readFrom, hfault] at hread
  cases hread

/-- A token that is refused is refused whatever stands behind its first two characters, unless it is
a string that lacks its end. -/
theorem step_error_of_step_error {state : State} {c d : Char} {tail : List Char} {fault : Fault}
    (hstep : step state ⟨(Lexeme.read c (d :: tail)).1, c :: d :: tail⟩ = .error fault)
    (hhere : fault.here = c :: d :: tail) (other : List Char) :
    ∃ later, step state ⟨(Lexeme.read c (d :: other)).1, c :: d :: other⟩ = .error later := by
  cases hother : step state ⟨(Lexeme.read c (d :: other)).1, c :: d :: other⟩ with
  | error later => exact ⟨later, rfl⟩
  | ok next =>
      obtain ⟨raw, hraw, -, htext⟩ := spells_of_step hother
      rcases Lexeme.role_read hraw htext.symm tail with hrole | ⟨hrole, hunclosed⟩
      · obtain ⟨result, hresult⟩ := exists_step_of_role hother hrole (c :: d :: tail)
        rw [hstep] at hresult
        cases hresult
      · -- Only where an operand is wanted is a string taken, and there the fault is at the end.
        cases state with
        | awaiting pending opened =>
            rw [hunclosed] at hstep
            cases hstep
            cases hhere
        | finished tree opened =>
            generalize (Lexeme.read c (d :: other)).1 = lexeme at hother hrole
            cases lexeme with
            | int | string | name => cases opened <;> cases hother
            | opening | closing | operator | unclosed | stray => cases hrole

theorem Takes.stuck {text blank tail : List Char} {c d : Char} {final : State} {fault : Fault}
    (h : Takes (blank ++ c :: d :: tail) .start text final) (hblank : Blank blank)
    (hc : Text.isBlank c = false)
    (hstep : step final ⟨(Lexeme.read c (d :: tail)).1, c :: d :: tail⟩ = .error fault)
    (hhere : fault.here = c :: d :: tail) (other : List Char) :
    ¬ Grammatical (text ++ blank ++ c :: d :: other) := by
  obtain ⟨later, hlater⟩ := step_error_of_step_error hstep hhere other
  have hother : Takes (blank ++ c :: d :: other) .start text final :=
    h.congr fun lexeme hstops => hstops.of_head? (by simp)
  rw [List.append_assoc]
  exact hother.not_grammatical (readFrom_refused hblank hc hlater)

end Reader

end Rulebook
