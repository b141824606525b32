import Rulebook.Proofs.Expr.Lookahead

namespace Rulebook

/-!
# The place of a fault

A text that is refused is one of the grammar, or at least the beginning of one, up to the place of
its fault, and there it stops being one: no text of the grammar goes on with the two characters that
stand there. The reason of the fault tells what is wanted at the place: the end of the text, if it
is an expression up to there; otherwise an operand, or a closing parenthesis for one that is open.
-/

/-! ## Open parentheses -/

namespace Grammar

/-- How often a token stands in a text. -/
def occurrences (lexeme : Lexeme) (text : List Char) : Nat :=
  ((Token.readAll text).map Token.lexeme).count lexeme

/-- The parentheses that are open at the end of a text. Those in strings do not count. -/
def openParentheses (text : List Char) : Nat :=
  occurrences .opening text - occurrences .closing text

/-- An expression is complete at the end of the text, and nothing but the closing of its open
parentheses is missing. -/
def LacksClosing (text : List Char) : Prop :=
  Grammatical (text ++ List.replicate (openParentheses text) ')')

theorem occurrences_of_blank {text : List Char} (h : Blank text) (lexeme : Lexeme) :
    occurrences lexeme text = 0 := by
  rw [occurrences, Token.readAll_of_blank h]
  rfl

theorem occurrences_of_spells {before raw after : List Char} {lexeme : Lexeme}
    (hbefore : Blank before) (hraw : lexeme.Spells raw) (hstops : lexeme.Stops after)
    (other : Lexeme) :
    occurrences other (before ++ (raw ++ after)) =
      occurrences other after + if lexeme = other then 1 else 0 := by
  simp only [occurrences, Token.readAll_of_spells hbefore hraw hstops, List.map_cons,
    List.count_cons, beq_iff_eq]

end Grammar

open Grammar

namespace Reader

/-! ## Completions -/

theorem Consumed.grammatical {tree : Expr} {opened : List Pending} {text blank : List Char}
    (h : Consumed (.finished tree opened) text) (hblank : Blank blank) :
    Grammatical (text ++ (blank ++ List.replicate opened.length ')')) := by
  induction opened generalizing tree text blank with
  | nil => exact ⟨tree, text, blank, h.derives, hblank, by simp⟩
  | cons pending opened ih =>
      have hclosed : Consumed (.finished (Pending.join pending (.group tree)) opened)
          (text ++ (blank ++ [')'])) :=
        h.step hblank .closing (rfl : Reader.step _ ⟨.closing, []⟩ = _)
      simpa [List.replicate_succ] using ih hclosed (List.forall_mem_nil _)

theorem Consumed.grammatical_operand {pending : Pending} {opened : List Pending}
    {text blank raw : List Char} {lexeme : Lexeme} {t : Expr}
    (h : Consumed (.awaiting pending opened) text) (hblank : Blank blank)
    (hraw : lexeme.Spells raw) (ht : lexeme.tree? = some t) :
    Grammatical (text ++ (blank ++ raw) ++ List.replicate opened.length ')') := by
  have hfinished := h.step hblank hraw (step_of_tree? ht pending opened [])
  simpa using hfinished.grammatical (List.forall_mem_nil _)

/-! ## Open parentheses of the reader -/

theorem opened_balance {state next : State} {lexeme : Lexeme} {here : List Char}
    (h : step state ⟨lexeme, here⟩ = .ok next) :
    next.opened.length + (if lexeme = .closing then 1 else 0) =
      state.opened.length + if lexeme = .opening then 1 else 0 := by
  obtain ⟨pending, opened, rfl, rfl, rfl⟩ | ⟨pending, opened, t, rfl, htree, rfl⟩ |
    ⟨tree, opened, op, rfl, rfl, rfl⟩ | ⟨tree, pending, opened, rfl, rfl, rfl⟩ := step_cases h
  · rfl
  · have hrole : lexeme.role = .operand := Lexeme.role_of_tree? htree
    have hopening : lexeme ≠ .opening := by rintro rfl; cases hrole
    have hclosing : lexeme ≠ .closing := by rintro rfl; cases hrole
    rw [if_neg hopening, if_neg hclosing]
    rfl
  · rfl
  · rfl

theorem Takes.occurrences_balance {after text : List Char} {state final : State}
    (h : Takes after state text final) :
    final.opened.length + occurrences .closing (text ++ after) + occurrences .opening after =
      state.opened.length + occurrences .opening (text ++ after) +
        occurrences .closing after := by
  induction h with
  | nil state =>
      rw [List.nil_append]
      omega
  | cons hbefore hraw hstops hstep _ ih =>
      have hbalance := opened_balance (hstep [])
      rw [List.append_assoc, List.append_assoc, occurrences_of_spells hbefore hraw hstops,
        occurrences_of_spells hbefore hraw hstops]
      omega

theorem Takes.openParentheses_eq {after text : List Char} {final : State}
    (h : Takes after .start text final) (hopening : occurrences .opening after = 0)
    (hclosing : occurrences .closing after = 0) :
    openParentheses (text ++ after) = final.opened.length := by
  have hcount := h.occurrences_balance
  have hstart : State.start.opened.length = 0 := rfl
  rw [hopening, hclosing, hstart] at hcount
  rw [openParentheses]
  omega

/-! ## Where the reader stops -/

/-- How a fault relates to the text before its place. -/
structure Fault.PlacedBehind (fault : Fault) (before : List Char) : Prop where
  viable : Viable before
  stuck : ∀ c d tail, fault.here = c :: d :: tail →
    ∀ other, ¬ Grammatical (before ++ c :: d :: other)
  trailing : Grammatical before → fault.problem = .trailing ∧ fault.here ≠ []
  closing : ¬ Grammatical before → LacksClosing before →
    fault.problem = .operandMissing (openParentheses before)
  operand : ¬ LacksClosing before → fault.problem = .operandMissing (openParentheses before + 1)

section Places

variable {text blank rest : List Char} {pending : Pending} {opened : List Pending} {tree : Expr}
  {fault : Fault}

theorem Takes.openParentheses_blank {final : State} (h : Takes (blank ++ rest) .start text final)
    (hblank : Blank blank) : openParentheses (text ++ blank) = final.opened.length :=
  h.congr_blank.openParentheses_eq (occurrences_of_blank hblank _)
    (occurrences_of_blank hblank _)

theorem Takes.not_grammatical_awaiting
    (h : Takes (blank ++ rest) .start text (.awaiting pending opened)) (hblank : Blank blank)
    (n : Nat) : ¬ Grammatical (text ++ blank ++ List.replicate n ')') := by
  have hclosings : Takes (blank ++ List.replicate n ')') .start text (.awaiting pending opened) :=
    h.congr fun lexeme hstops => hstops.blank_closings n
  rw [List.append_assoc]
  cases n with
  | zero =>
      rw [List.replicate_zero, List.append_nil] at hclosings ⊢
      exact hclosings.not_grammatical (readFrom_blank hblank _)
  | succ n => exact hclosings.not_grammatical (readFrom_refused hblank (by decide) rfl)

/-- At the place of an operand no closing parenthesis helps. -/
theorem Takes.placedBehind_awaiting
    (h : Takes (blank ++ rest) .start text (.awaiting pending opened)) (hblank : Blank blank)
    (hproblem : fault.problem = .operandMissing (opened.length + 1))
    (hstuck : ∀ c d tail, fault.here = c :: d :: tail →
      ∀ other, ¬ Grammatical (text ++ blank ++ c :: d :: other)) :
    fault.PlacedBehind (text ++ blank) := by
  have hnot := h.not_grammatical_awaiting hblank
  have hname : Lexeme.Spells (.name ['a']) ['a'] := .name ⟨'a', [], rfl, rfl, nofun⟩
  exact
    { viable := ⟨['a'] ++ List.replicate opened.length ')',
        by simpa using h.consumed_start.grammatical_operand hblank hname rfl⟩
      stuck := hstuck
      trailing := fun hgrammatical => absurd hgrammatical (by simpa using hnot 0)
      closing := fun _ hlacks => absurd hlacks (hnot _)
      operand := fun _ => by rw [hproblem, h.openParentheses_blank hblank, State.opened] }

/-- Behind a finished expression nothing is missing but the closing parentheses. -/
theorem Takes.placedBehind_finished
    (h : Takes (blank ++ rest) .start text (.finished tree opened)) (hblank : Blank blank)
    (hrest : opened = [] → rest ≠ [])
    (hstuck : ∀ c d tail, rest = c :: d :: tail →
      ∀ other, ¬ Grammatical (text ++ blank ++ c :: d :: other)) :
    (faultBehind opened rest).PlacedBehind (text ++ blank) := by
  have hlacks : LacksClosing (text ++ blank) := by
    rw [LacksClosing, h.openParentheses_blank hblank, State.opened, List.append_assoc]
    exact h.consumed_start.grammatical hblank
  cases opened with
  | nil =>
      have hgrammatical : Grammatical (text ++ blank) := by
        simpa using h.consumed_start.grammatical hblank
      exact
        { viable := ⟨_, hlacks⟩
          stuck := hstuck
          trailing := fun _ => ⟨rfl, hrest rfl⟩
          closing := fun hnot => absurd hgrammatical hnot
          operand := fun hnot => absurd hlacks hnot }
  | cons outer opened =>
      have hnot : ¬ Grammatical (text ++ blank) :=
        h.congr_blank.not_grammatical (readFrom_blank hblank _)
      exact
        { viable := ⟨_, hlacks⟩
          stuck := hstuck
          trailing := fun hgrammatical => absurd hgrammatical hnot
          closing := fun _ _ => by
            rw [h.openParentheses_blank hblank]
            rfl
          operand := fun hnot => absurd hlacks hnot }

/-- A string that lacks its end takes all that is left, and whatever parentheses follow. -/
theorem Takes.placedBehind_unclosed
    (h : Takes (blank ++ '"' :: rest) .start text (.awaiting pending opened))
    (hblank : Blank blank) (hquote : Lexeme.untilQuote rest = none) :
    Fault.PlacedBehind ⟨.operandMissing (opened.length + 1), []⟩
      (text ++ (blank ++ '"' :: rest)) := by
  have hnot (n : Nat) :
      ¬ Grammatical (text ++ (blank ++ '"' :: rest) ++ List.replicate n ')') := by
    have hclosings : Takes (blank ++ '"' :: (rest ++ List.replicate n ')')) .start text
        (.awaiting pending opened) := h.congr fun lexeme hstops => hstops.of_head? (by simp)
    have hfault := readFrom_unclosed hblank (Lexeme.untilQuote_append_closing hquote n)
      pending opened
    simpa using hclosings.not_grammatical hfault
  have hreadAll := readAll_unclosed hblank hquote
  have hopen : openParentheses (text ++ (blank ++ '"' :: rest)) = opened.length :=
    h.openParentheses_eq (by simp [occurrences, hreadAll]) (by simp [occurrences, hreadAll])
  obtain ⟨after, hstring⟩ := Lexeme.exists_isString_append hquote
  exact
    { viable := ⟨after ++ List.replicate opened.length ')',
        by simpa using h.consumed_start.grammatical_operand hblank (.string hstring) rfl⟩
      stuck := nofun
      trailing := fun hgrammatical => absurd hgrammatical (by simpa using hnot 0)
      closing := fun _ hlacks => absurd hlacks (hnot _)
      operand := fun _ => by rw [hopen] }

theorem fault_of_step {state : State} {lexeme : Lexeme} {here : List Char} {fault : Fault}
    (h : step state ⟨lexeme, here⟩ = .error fault) :
    (∃ pending opened, state = .awaiting pending opened ∧ lexeme = .unclosed ∧
        fault = ⟨.operandMissing (opened.length + 1), []⟩) ∨
      (∃ pending opened, state = .awaiting pending opened ∧
        fault = ⟨.operandMissing (opened.length + 1), here⟩) ∨
      ∃ tree opened, state = .finished tree opened ∧ fault = faultBehind opened here := by
  cases state with
  | awaiting pending opened =>
      cases lexeme with
      | unclosed => exact Or.inl ⟨pending, opened, rfl, rfl, (Except.error.inj h).symm⟩
      | closing | operator | stray =>
          exact Or.inr (Or.inl ⟨pending, opened, rfl, (Except.error.inj h).symm⟩)
      | opening | int | string | name => cases h
  | finished tree opened =>
      refine Or.inr (Or.inr ⟨tree, opened, rfl, ?_⟩)
      cases lexeme with
      | operator => cases h
      | closing =>
          cases opened with
          | nil => exact (Except.error.inj h).symm
          | cons => cases h
      | opening | int | string | name | unclosed | stray =>
          cases opened <;> exact (Except.error.inj h).symm

@[simp] theorem here_faultBehind (opened : List Pending) (here : List Char) :
    (faultBehind opened here).here = here := by
  cases opened <;> rfl

/-- At the end of a text the place is behind all of it. -/
theorem Takes.placedBehind_finish {final : State} (h : Takes blank .start text final)
    (hblank : Blank blank) (hfinish : finish final = .error fault) :
    fault.here = [] ∧ fault.PlacedBehind (text ++ blank) := by
  rw [← List.append_nil blank] at h
  cases final with
  | awaiting pending opened =>
      obtain rfl := Except.error.inj hfinish
      exact ⟨rfl, h.placedBehind_awaiting hblank rfl nofun⟩
  | finished tree opened =>
      cases opened with
      | nil => cases hfinish
      | cons outer opened =>
          obtain rfl := Except.error.inj hfinish
          exact ⟨rfl, h.placedBehind_finished hblank nofun nofun⟩

/-- At a token that is refused the place is before the token, or behind the string that lacks its
end. -/
theorem Takes.placedBehind_step {tail : List Char} {c : Char} {final : State}
    (h : Takes (blank ++ c :: tail) .start text final) (hblank : Blank blank)
    (hc : Text.isBlank c = false)
    (hstep : step final ⟨(Lexeme.read c tail).1, c :: tail⟩ = .error fault) :
    fault.here = c :: tail ∧ fault.PlacedBehind (text ++ blank) ∨
      fault.here = [] ∧ fault.PlacedBehind (text ++ (blank ++ c :: tail)) := by
  have hstuck (hhere : fault.here = c :: tail) : ∀ d e rest, fault.here = d :: e :: rest →
      ∀ other, ¬ Grammatical (text ++ blank ++ d :: e :: other) := by
    intro d e rest hcons other
    obtain ⟨rfl, rfl⟩ := List.cons.inj (hhere.symm.trans hcons)
    exact h.stuck hblank hc hstep hhere other
  obtain ⟨pending, opened, rfl, hlexeme, rfl⟩ | ⟨pending, opened, rfl, rfl⟩ |
    ⟨tree, opened, rfl, rfl⟩ := fault_of_step hstep
  · obtain ⟨rfl, hquote⟩ := Lexeme.eq_quote_of_read hlexeme
    exact Or.inr ⟨rfl, h.placedBehind_unclosed hblank hquote⟩
  · exact Or.inl ⟨rfl, h.placedBehind_awaiting hblank rfl (hstuck rfl)⟩
  · have hhere := here_faultBehind opened (c :: tail)
    rw [hhere] at hstuck
    exact Or.inl ⟨hhere, h.placedBehind_finished hblank (fun _ => List.cons_ne_nil c tail)
      (hstuck rfl)⟩

end Places

theorem exists_placedBehind {text : List Char} {fault : Fault} (h : read text = .error fault) :
    ∃ before, text = before ++ fault.here ∧
      (∀ c ∈ fault.here.head?, Text.isBlank c = false) ∧ fault.PlacedBehind before := by
  have hended := ended_run .start text
  unfold read at h
  generalize run .start (Token.readAll text) = result at h hended
  cases hended with
  | @done before blank final htext htakes hblank =>
      obtain ⟨hhere, hplace⟩ := htakes.placedBehind_finish hblank h
      exact ⟨before ++ blank, by simpa [hhere] using htext, by simp [hhere], hplace⟩
  | @refused before blank tail c final _ htext htakes hblank hc hstep =>
      obtain rfl := Except.error.inj h
      rcases htakes.placedBehind_step hblank hc hstep with ⟨hhere, hplace⟩ | ⟨hhere, hplace⟩
      · exact ⟨before ++ blank, by simpa [hhere] using htext, by simpa [hhere] using hc, hplace⟩
      · exact ⟨text, by simp [hhere], by simp [hhere], htext ▸ hplace⟩

end Reader

/-! ## The error that is reported -/

namespace ParseError

theorem offsetOf_append (before rest : List Char) :
    offsetOf (String.ofList before ++ String.ofList rest) rest =
      (String.ofList before).utf8ByteSize := by
  rw [offsetOf, String.utf8ByteSize_append, Nat.add_sub_cancel]

theorem isValid_offset (before rest : List Char) :
    String.Pos.Raw.IsValid (String.ofList before ++ String.ofList rest)
      ⟨(String.ofList before).utf8ByteSize⟩ :=
  String.Pos.Raw.isValid_iff_exists_append.mpr ⟨String.ofList before, String.ofList rest, rfl, rfl⟩

namespace Reason

theorem text_operandMissing (places : Nat) :
    (operandMissing places).text =
      "expected " ++ ", ".intercalate (List.replicate places "operand") := rfl

theorem text_trailing (rest : String) :
    (trailing rest).text = "unexpected input '" ++ rest ++ "'" := rfl

theorem text_operandMissing_ne {places : Nat} {message : String}
    (h : message.toList.head? = some 'u') : (operandMissing places).text ≠ message := by
  rintro rfl
  have hexpected : "expected ".toList = 'e' :: "xpected ".toList := by decide
  rw [text_operandMissing, String.toList_append, hexpected] at h
  cases h

theorem text_operandMissing_ne_text_trailing (places : Nat) (rest : String) :
    (operandMissing places).text ≠ (trailing rest).text := by
  have hinput : "unexpected input '".toList = 'u' :: "nexpected input '".toList := by decide
  apply text_operandMissing_ne
  rw [text_trailing, String.toList_append, String.toList_append, hinput]
  rfl

theorem text_trailing_ne_text_ended (rest : String) : (trailing rest).text ≠ ended.text := by
  intro h
  have hchars := congrArg String.toList h
  have hinput : "unexpected input '".toList = "unexpected ".toList ++ 'i' :: "nput '".toList := by
    decide
  have hended : ended.text.toList = "unexpected ".toList ++ 'e' :: "nd of input".toList := by
    decide
  rw [text_trailing, String.toList_append, String.toList_append, hinput, hended] at hchars
  simp only [List.append_assoc, List.append_cancel_left_eq] at hchars
  cases hchars

end Reason

/-- What is reported of a fault. The reason for an unexpected end is not among it. -/
theorem exists_reason {before : List Char} {fault : Reader.Fault}
    (h : fault.PlacedBehind before) (text : String) :
    ∃ reason, ofFault text fault = ⟨text, offsetOf text fault.here, reason⟩ ∧
      (Grammatical before ∧ fault.here ≠ [] ∧ reason = .trailing (String.ofList fault.here) ∨
        ¬ Grammatical before ∧ LacksClosing before ∧
          reason = .operandMissing (openParentheses before) ∨
        ¬ Grammatical before ∧ ¬ LacksClosing before ∧
          reason = .operandMissing (openParentheses before + 1)) := by
  by_cases hgrammatical : Grammatical before
  · obtain ⟨hproblem, hne⟩ := h.trailing hgrammatical
    exact ⟨_, by rw [ofFault, hproblem]; exact if_neg hne, Or.inl ⟨hgrammatical, hne, rfl⟩⟩
  · by_cases hlacks : LacksClosing before
    · have hproblem := h.closing hgrammatical hlacks
      exact ⟨_, by rw [ofFault, hproblem], Or.inr (Or.inl ⟨hgrammatical, hlacks, rfl⟩)⟩
    · have hproblem := h.operand hlacks
      exact ⟨_, by rw [ofFault, hproblem], Or.inr (Or.inr ⟨hgrammatical, hlacks, rfl⟩)⟩

end ParseError

/-- A text that passes the scan and is no expression is refused at a place, before a character that
is no blank or at the end of the text, up to which the text is the beginning of an expression and
behind which, if two more characters are there, no expression goes on with them. The rest is
reported as unexpected exactly if the text is an expression up to the place. Otherwise the report
names an operand for each open parenthesis, and one more unless only closing ones are missing. -/
theorem parse_fault_place {text : String}
    (hscan : Limits.excess? Limits.start text.toList = none)
    (hrefused : ∀ t, ¬ Expression text.toList t) :
    ∃ (e : ParseError) (before rest : List Char),
      parse text = .error e ∧
      (text = String.ofList before ++ String.ofList rest ∧
        e.offset = (String.ofList before).utf8ByteSize ∧ e.offset ≤ text.utf8ByteSize ∧
        String.Pos.Raw.IsValid text ⟨e.offset⟩ ∧ ∀ c ∈ rest.head?, Text.isBlank c = false) ∧
      (Viable before ∧
        ∀ c d tail, rest = c :: d :: tail → ∀ after, ¬ Grammatical (before ++ c :: d :: after)) ∧
      (e.reason.text = "unexpected input '" ++ String.ofList rest ++ "'" ↔ Grammatical before) ∧
      (Grammatical before → rest ≠ []) ∧
      (¬ Grammatical before →
        (LacksClosing before → e.reason.text = "expected " ++
          ", ".intercalate (List.replicate (openParentheses before) "operand")) ∧
        (¬ LacksClosing before → e.reason.text = "expected " ++
          ", ".intercalate (List.replicate (openParentheses before + 1) "operand"))) ∧
      e.reason.text ≠ "unexpected end of input" := by
  cases hread : Reader.read text.toList with
  | ok t => exact absurd (Reader.expression_of_read hread) (hrefused t)
  | error fault =>
      obtain ⟨before, hsplit, hhead, hplace⟩ := Reader.exists_placedBehind hread
      have htext : text = String.ofList before ++ String.ofList fault.here := by
        rw [← String.ofList_append, ← hsplit, String.ofList_toList]
      have hoffset : ParseError.offsetOf text fault.here = (String.ofList before).utf8ByteSize := by
        rw [htext, ParseError.offsetOf_append]
      have hvalid : String.Pos.Raw.IsValid text ⟨ParseError.offsetOf text fault.here⟩ := by
        rw [hoffset, htext]
        exact ParseError.isValid_offset before fault.here
      obtain ⟨reason, herror, hreason⟩ := ParseError.exists_reason hplace text
      have hparse : parse text = .error (.ofFault text fault) := by rw [parse, hscan, hread]
      refine ⟨_, before, fault.here, hparse, ?_⟩
      rw [herror]
      refine ⟨⟨htext, hoffset, hvalid.le_rawEndPos, hvalid, hhead⟩,
        ⟨hplace.viable, hplace.stuck⟩, ?_⟩
      obtain ⟨hgrammatical, hne, rfl⟩ | ⟨hnot, hlacks, rfl⟩ | ⟨hnot, hlacks, rfl⟩ := hreason
      · exact ⟨iff_of_true rfl hgrammatical, fun _ => hne, fun hnot => absurd hgrammatical hnot,
          ParseError.Reason.text_trailing_ne_text_ended _⟩
      · exact ⟨iff_of_false (ParseError.Reason.text_operandMissing_ne_text_trailing _ _) hnot,
          fun hgrammatical => absurd hgrammatical hnot,
          fun _ => ⟨fun _ => rfl, fun hlacking => absurd hlacks hlacking⟩,
          ParseError.Reason.text_operandMissing_ne (by decide)⟩
      · exact ⟨iff_of_false (ParseError.Reason.text_operandMissing_ne_text_trailing _ _) hnot,
          fun hgrammatical => absurd hgrammatical hnot,
          fun _ => ⟨fun hlacking => absurd hlacking hlacks, fun _ => rfl⟩,
          ParseError.Reason.text_operandMissing_ne (by decide)⟩

/-- The place is behind the last operator and its blanks. An operand is wanted there, for the
operator and for the open parenthesis. -/
theorem parse_fault_place_of_bracket :
    let text := "größe == (b *\u00A0]x)"
    Limits.excess? Limits.start text.toList = none ∧ (∀ t, ¬ Expression text.toList t) ∧
      parse text = .error ⟨text, 17, .operandMissing 2⟩ ∧
      ∃ before rest : List Char, text = String.ofList before ++ String.ofList rest ∧
        (String.ofList before).utf8ByteSize = 17 ∧ Viable before ∧ ¬ Grammatical before := by
  intro text
  have hscan : Limits.excess? Limits.start text.toList = none := by decide +kernel
  have hparse : parse text = .error ⟨text, 17, .operandMissing 2⟩ := by decide +kernel
  have hrefused (t : Expr) : ¬ Expression text.toList t := by
    intro ht
    have hread : (Reader.read text.toList).toOption = none := by decide +kernel
    simp [Reader.read_of_expression ht, Except.toOption] at hread
  obtain ⟨e, before, rest, he, ⟨htext, hoffset, -⟩, ⟨hviable, -⟩, hreason, -⟩ :=
    parse_fault_place hscan hrefused
  obtain rfl := Except.error.inj (hparse.symm.trans he)
  refine ⟨hscan, hrefused, hparse, before, rest, htext, hoffset.symm, hviable, ?_⟩
  intro hgrammatical
  exact ParseError.Reason.text_operandMissing_ne_text_trailing 2 _ (hreason.mpr hgrammatical)

end Rulebook
