import Rulebook.Proofs.Expr.Lexing

namespace Rulebook

/-!
# The scan for limits agrees with the tree

The scan knows nothing of tokens and trees. But on the text of a derivation it meets as many
parentheses at once as the tree has groups on one path, and as many operators as the tree has
nodes for them, so it finds an excess in the text exactly when the tree has one.
-/

open Grammar

namespace Limits

/-- The first character of `text` does not count with the character before it. -/
def Free (last : Char) (text : List Char) : Prop := ∀ c ∈ text.head?, isSecondHalf last c = false

theorem isSecondHalf_of_last {last : Char} (h : last ∉ ['=', '!', '&', '|']) (c : Char) :
    isSecondHalf last c = false := by
  unfold isSecondHalf
  split <;> simp_all

theorem isSecondHalf_of_next {c : Char} (h : isOperatorChar c = false) (last : Char) :
    isSecondHalf last c = false := by
  unfold isSecondHalf
  split <;> simp_all [isOperatorChar]

theorem free_of_last {last : Char} (h : last ∉ ['=', '!', '&', '|']) (text : List Char) :
    Free last text :=
  fun c _ => isSecondHalf_of_last h c

theorem free_of_not_mem_marks {last : Char} (h : last ∉ Lexeme.marks) (text : List Char) :
    Free last text :=
  free_of_last (fun hlast => h (by simp_all [Lexeme.marks])) text

theorem free_cons {c : Char} (hc : isOperatorChar c = false) (last : Char) (rest : List Char) :
    Free last (c :: rest) := by
  intro d hd
  obtain rfl : c = d := by simpa using hd
  exact isSecondHalf_of_next hc last

theorem Free.blank_append {last : Char} {before text : List Char} (hbefore : Blank before)
    (h : Free last text) : Free last (before ++ text) := by
  cases before with
  | nil => exact h
  | cons c rest =>
      have hc := Lexeme.not_mem_marks_of_isBlank (hbefore c List.mem_cons_self)
      exact free_cons (Lexeme.isOperatorChar_of_not_mem_marks hc) last (rest ++ text)

theorem free_of_leaf {raw : List Char} {t : Expr} (h : Leaf raw t) (last : Char)
    (after : List Char) : Free last (raw ++ after) := by
  obtain ⟨c, rest, rfl, hc⟩ := h.exists_cons
  exact free_cons hc last (rest ++ after)

/-! ## Beginnings of a text -/

/-- The count behind a text that has no excess. -/
def run (count : Count) (text : List Char) : Except Excess Count := text.foldlM step count

section Beginnings

variable {count next : Count}

theorem run_cons_of_step {c : Char} (h : step count c = .ok next) (rest : List Char) :
    run count (c :: rest) = run next rest := by
  rw [run, List.foldlM_cons, h]
  rfl

theorem run_append {text : List Char} (h : run count text = .ok next) (rest : List Char) :
    run count (text ++ rest) = run next rest := by
  rw [run, List.foldlM_append, ← run, h]
  rfl

theorem excess?_cons_of_step {c : Char} (h : step count c = .ok next) (rest : List Char) :
    excess? count (c :: rest) = excess? next rest := by
  simp [excess?, h]

theorem excess?_append {text : List Char} (h : run count text = .ok next) (rest : List Char) :
    excess? count (text ++ rest) = excess? next rest := by
  induction text generalizing count with
  | nil =>
      cases h
      rfl
  | cons c text ih =>
      cases hstep : step count c with
      | error e =>
          rw [run, List.foldlM_cons, hstep] at h
          cases h
      | ok middle =>
          rw [List.cons_append, excess?_cons_of_step hstep]
          exact ih ((run_cons_of_step hstep text).symm.trans h)

end Beginnings

/-! ## Single characters -/

section Characters

variable {nesting operators : Nat} {last c : Char}

theorem step_of_not_mem_marks (hc : c ∉ Lexeme.marks) :
    step ⟨.outside last, nesting, operators⟩ c = .ok ⟨.outside c, nesting, operators⟩ := by
  have hoperator := Lexeme.isOperatorChar_of_not_mem_marks hc
  simp only [Lexeme.marks, List.mem_cons, not_or] at hc
  simp [step, stepOutside, isSecondHalf_of_next hoperator, hoperator, hc]

theorem step_of_isOperatorChar (hc : isOperatorChar c = true)
    (hfree : isSecondHalf last c = false) :
    step ⟨.outside last, nesting, operators⟩ c =
      if maxOperators < operators + 1 then .error .operators
      else .ok ⟨.outside c, nesting, operators + 1⟩ := by
  have hne : c ≠ '"' ∧ c ≠ '(' ∧ c ≠ ')' := by
    refine ⟨?_, ?_, ?_⟩ <;> rintro rfl <;> simp [isOperatorChar] at hc
  simp [step, stepOutside, hfree, hc, hne]

theorem excess?_opening_eq_none_iff (rest : List Char) :
    excess? ⟨.outside last, nesting, operators⟩ ('(' :: rest) = none ↔
      nesting + 1 ≤ maxNesting ∧
        excess? ⟨.outside '(', nesting + 1, operators⟩ rest = none := by
  have hfree : isSecondHalf last '(' = false := isSecondHalf_of_next rfl last
  by_cases hmost : maxNesting < nesting + 1
  · simp [excess?, step, stepOutside, hfree, hmost, Nat.not_le.mpr hmost]
  · simp [excess?, step, stepOutside, hfree, hmost, Nat.not_lt.mp hmost]

theorem excess?_closing (rest : List Char) :
    excess? ⟨.outside last, nesting, operators⟩ (')' :: rest) =
      excess? ⟨.outside ')', nesting - 1, operators⟩ rest := by
  have hfree : isSecondHalf last ')' = false := isSecondHalf_of_next rfl last
  exact excess?_cons_of_step (by simp [step, stepOutside, hfree]) rest

theorem excess?_operatorChar_eq_none_iff (hc : isOperatorChar c = true)
    (hfree : isSecondHalf last c = false) (rest : List Char) :
    excess? ⟨.outside last, nesting, operators⟩ (c :: rest) = none ↔
      operators + 1 ≤ maxOperators ∧
        excess? ⟨.outside c, nesting, operators + 1⟩ rest = none := by
  by_cases hmost : maxOperators < operators + 1
  · simp [excess?, step_of_isOperatorChar hc hfree, hmost, Nat.not_le.mpr hmost]
  · simp [excess?, step_of_isOperatorChar hc hfree, hmost, Nat.not_lt.mp hmost]

theorem excess?_secondHalf (hc : isSecondHalf last c = true) (rest : List Char) :
    excess? ⟨.outside last, nesting, operators⟩ (c :: rest) =
      excess? ⟨.outside ' ', nesting, operators⟩ rest :=
  excess?_cons_of_step (by simp [step, stepOutside, hc]) rest

/-- Characters without a meaning of their own leave the counts as they are. -/
theorem excess?_plain_append {run : List Char} (hrun : ∀ c ∈ run, c ∉ Lexeme.marks)
    {rest : List Char} (hfree : Free last (run ++ rest)) :
    ∃ next, Free next rest ∧ excess? ⟨.outside last, nesting, operators⟩ (run ++ rest) =
      excess? ⟨.outside next, nesting, operators⟩ rest := by
  induction run generalizing last with
  | nil => exact ⟨last, hfree, rfl⟩
  | cons c run ih =>
      obtain ⟨hc, hrun⟩ := List.forall_mem_cons.mp hrun
      have hnext := free_of_not_mem_marks hc (run ++ rest)
      obtain ⟨next, hfree, heq⟩ := ih hrun hnext
      exact ⟨next, hfree, (excess?_cons_of_step (step_of_not_mem_marks hc) _).trans heq⟩

theorem excess?_blank_append {before rest : List Char} (hbefore : Blank before)
    (hfree : Free last (before ++ rest)) (nesting operators : Nat) :
    ∃ next, Free next rest ∧ excess? ⟨.outside last, nesting, operators⟩ (before ++ rest) =
      excess? ⟨.outside next, nesting, operators⟩ rest :=
  excess?_plain_append (fun c hc => Lexeme.not_mem_marks_of_isBlank (hbefore c hc)) hfree

theorem run_body {body : List Char} (h : Body body) :
    run ⟨.inside, nesting, operators⟩ body = .ok ⟨.inside, nesting, operators⟩ := by
  induction h with
  | nil => rfl
  | plain hquote hback _ ih =>
      exact (run_cons_of_step (by simp [step, hquote, hback]) _).trans ih
  | @escaped c behind _ ih =>
      calc
        run ⟨.inside, nesting, operators⟩ ('\\' :: c :: behind) =
            run ⟨.escaped, nesting, operators⟩ (c :: behind) := run_cons_of_step rfl _
        _ = run ⟨.inside, nesting, operators⟩ behind := run_cons_of_step rfl _
        _ = .ok ⟨.inside, nesting, operators⟩ := ih

theorem step_quote :
    step ⟨.outside last, nesting, operators⟩ '"' = .ok ⟨.inside, nesting, operators⟩ := by
  have hfree : isSecondHalf last '"' = false := isSecondHalf_of_next rfl last
  simp [step, stepOutside, hfree]

theorem run_string {raw : List Char} (h : IsString raw) :
    run ⟨.outside last, nesting, operators⟩ raw = .ok ⟨.outside '"', nesting, operators⟩ := by
  obtain ⟨body, hbody, rfl⟩ := h
  rw [run_cons_of_step step_quote, run_append (run_body hbody)]
  rfl

end Characters

/-! ## Tokens -/

end Limits

namespace Lexeme

/-- The parentheses that are open behind a token. -/
def nest : Lexeme → Nat → Nat
  | opening, nesting => nesting + 1
  | closing, nesting => nesting - 1
  | _, nesting => nesting

def operators : Lexeme → Nat
  | operator _ => 1
  | _ => 0

theorem weightless_of_tree? {lexeme : Lexeme} {t : Expr} (h : lexeme.tree? = some t) :
    (∀ nesting, lexeme.nest nesting = nesting) ∧ lexeme.operators = 0 := by
  cases lexeme with
  | int | string | name => exact ⟨fun _ => rfl, rfl⟩
  | opening | closing | operator | unclosed | stray => simp [tree?] at h

end Lexeme

namespace Limits

theorem excess?_sign_append {op : BinaryOp} {nesting operators : Nat} {last : Char}
    {after : List Char} (hstops : (Lexeme.operator op).Stops after)
    (hfree : Free last (op.sign ++ after)) :
    ∃ next, Free next after ∧
      (excess? ⟨.outside last, nesting, operators⟩ (op.sign ++ after) = none ↔
        operators + 1 ≤ maxOperators ∧
          excess? ⟨.outside next, nesting, operators + 1⟩ after = none) := by
  cases op with
  | mul | div | add | sub =>
      exact ⟨_, free_of_last (by decide) after,
        excess?_operatorChar_eq_none_iff rfl (hfree _ rfl) after⟩
  | eq | ne | and | or =>
      refine ⟨' ', free_of_last (by decide) after,
        (excess?_operatorChar_eq_none_iff rfl (hfree _ rfl) (_ :: after)).trans ?_⟩
      rw [excess?_secondHalf]
      rfl
  | assign =>
      refine ⟨'=', ?_, excess?_operatorChar_eq_none_iff rfl (hfree '=' rfl) after⟩
      intro c hc
      have hne : c ≠ '=' := hstops c hc
      unfold isSecondHalf
      split <;> simp_all

theorem excess?_tree_append {lexeme : Lexeme} {raw after : List Char} {t : Expr} {last : Char}
    (hraw : lexeme.Spells raw) (ht : lexeme.tree? = some t) (hfree : Free last (raw ++ after))
    (nesting operators : Nat) :
    ∃ next, Free next after ∧ excess? ⟨.outside last, nesting, operators⟩ (raw ++ after) =
      excess? ⟨.outside next, nesting, operators⟩ after := by
  cases hraw with
  | opening | closing | operator => simp [Lexeme.tree?] at ht
  | int hint =>
      refine excess?_plain_append (fun c hc => ?_) hfree
      exact Lexeme.not_mem_marks_of_continuesName (Lexeme.digit_apart (hint.2 c hc)).2.2
  | string hstring =>
      exact ⟨'"', free_of_last (by decide) after, excess?_append (run_string hstring) after⟩
  | name hname =>
      obtain ⟨c, rest, rfl, hc, hrest⟩ := hname
      refine excess?_plain_append (fun d hd => Lexeme.not_mem_marks_of_continuesName ?_) hfree
      rcases List.mem_cons.mp hd with rfl | hd
      · exact Lexeme.continuesName_of_startsName hc
      · exact hrest d hd

/-- The scan over one token, from counts within the limits. -/
theorem excess?_spells_append {lexeme : Lexeme} {raw after : List Char} {last : Char}
    {nesting operators : Nat} (hraw : lexeme.Spells raw) (hstops : lexeme.Stops after)
    (hfree : Free last (raw ++ after)) (hnesting : nesting ≤ maxNesting)
    (hoperators : operators ≤ maxOperators) :
    ∃ next, Free next after ∧
      (excess? ⟨.outside last, nesting, operators⟩ (raw ++ after) = none ↔
        lexeme.nest nesting ≤ maxNesting ∧ operators + lexeme.operators ≤ maxOperators ∧
          excess? ⟨.outside next, lexeme.nest nesting, operators + lexeme.operators⟩ after =
            none) := by
  cases htree : lexeme.tree? with
  | some t =>
      obtain ⟨next, hnext, heq⟩ := excess?_tree_append hraw htree hfree nesting operators
      obtain ⟨hnest, hnone⟩ := Lexeme.weightless_of_tree? htree
      exact ⟨next, hnext, by simp [heq, hnest, hnone, hnesting, hoperators]⟩
  | none =>
      cases hraw with
      | opening =>
          refine ⟨'(', free_of_last (by decide) after, ?_⟩
          simpa [Lexeme.nest, Lexeme.operators, hoperators] using excess?_opening_eq_none_iff after
      | closing =>
          refine ⟨')', free_of_last (by decide) after, ?_⟩
          have hless : nesting - 1 ≤ maxNesting := Nat.le_trans (Nat.sub_le nesting 1) hnesting
          simp [Lexeme.nest, Lexeme.operators, hoperators, hless, excess?_closing]
      | operator op =>
          obtain ⟨next, hnext, hiff⟩ := excess?_sign_append hstops hfree
          exact ⟨next, hnext, by simpa [Lexeme.nest, Lexeme.operators, hnesting] using hiff⟩
      | int | string | name => simp [Lexeme.tree?] at htree

/-! ## Derivations -/

/-- The scan over the text counts what the tree has, and stops only if that is too much. -/
def Agrees (text : List Char) (t : Expr) : Prop :=
  ∀ (last : Char) (after : List Char) {nesting operators : Nat},
    nesting ≤ maxNesting → operators ≤ maxOperators →
      ∃ next, Free next after ∧
        (excess? ⟨.outside last, nesting, operators⟩ (text ++ after) = none ↔
          nesting + t.groupDepth ≤ maxNesting ∧ operators + t.operatorCount ≤ maxOperators ∧
            excess? ⟨.outside next, nesting, operators + t.operatorCount⟩ after = none)

theorem agrees_leaf {before raw : List Char} {t : Expr} (hbefore : Blank before)
    (hraw : Leaf raw t) : Agrees (before ++ raw) t := by
  intro last after nesting operators hnesting hoperators
  obtain ⟨lexeme, hspells, htree⟩ := Lexeme.exists_spells_of_leaf hraw
  obtain ⟨hdepth, hcount⟩ := hraw.size
  obtain ⟨middle, hmiddle, hblank⟩ :=
    excess?_blank_append hbefore (.blank_append hbefore (free_of_leaf hraw last after))
      nesting operators
  obtain ⟨next, hnext, heq⟩ := excess?_tree_append hspells htree hmiddle nesting operators
  refine ⟨next, hnext, ?_⟩
  rw [List.append_assoc, hblank, heq]
  simp [hdepth, hcount, hnesting, hoperators]

theorem Agrees.group {before inner behind : List Char} {t : Expr} (h : Agrees inner t)
    (hbefore : Blank before) (hbehind : Blank behind) :
    Agrees (before ++ '(' :: (inner ++ behind ++ [')'])) (.group t) := by
  intro last after nesting operators hnesting hoperators
  refine ⟨')', free_of_last (by decide) after, ?_⟩
  have htext : before ++ '(' :: (inner ++ behind ++ [')']) ++ after =
      before ++ '(' :: (inner ++ (behind ++ ')' :: after)) := by simp
  have hopening : Free last ('(' :: (inner ++ (behind ++ ')' :: after))) := free_cons rfl _ _
  obtain ⟨middle, _, hblank⟩ :=
    excess?_blank_append hbefore (hopening.blank_append hbefore) nesting operators
  rw [htext, hblank, excess?_opening_eq_none_iff]
  simp only [Expr.groupDepth, Expr.operatorCount]
  by_cases hdeeper : nesting + 1 ≤ maxNesting
  · obtain ⟨next, _, hinside⟩ := h '(' (behind ++ ')' :: after) hdeeper hoperators
    have hclosing : Free next (')' :: after) := free_cons rfl _ _
    obtain ⟨final, _, hblank⟩ :=
      excess?_blank_append hbehind (hclosing.blank_append hbehind) (nesting + 1)
        (operators + t.operatorCount)
    rw [hinside, hblank, excess?_closing, Nat.add_sub_cancel, Nat.add_assoc]
    exact and_iff_right hdeeper
  · have hover : ¬ nesting + (1 + t.groupDepth) ≤ maxNesting := by omega
    simp [hdeeper, hover]

theorem Agrees.link {left before right : List Char} {op : BinaryOp} {l r : Expr}
    (hleft : Agrees left l) (hbefore : Blank before) (hright : Agrees right r)
    (hstops : ∀ after, (Lexeme.operator op).Stops (right ++ after)) :
    Agrees (left ++ (before ++ op.symbol.toList ++ right)) (.binary op l r) := by
  intro last after nesting operators hnesting hoperators
  have htext : left ++ (before ++ op.symbol.toList ++ right) ++ after =
      left ++ (before ++ (op.sign ++ (right ++ after))) := by simp
  obtain ⟨next, hnext, hfirst⟩ :=
    hleft last (before ++ (op.sign ++ (right ++ after))) hnesting hoperators
  obtain ⟨middle, hmiddle, hblank⟩ :=
    excess?_blank_append hbefore hnext nesting (operators + l.operatorCount)
  obtain ⟨joint, _, hsign⟩ := excess?_sign_append (hstops after) hmiddle
  rw [htext, hfirst, hblank, hsign]
  simp only [Expr.groupDepth, Expr.operatorCount]
  by_cases hroom : operators + l.operatorCount + 1 ≤ maxOperators
  · obtain ⟨final, hfinal, hsecond⟩ := hright joint after hnesting hroom
    have hcount : operators + l.operatorCount + 1 + r.operatorCount =
        operators + (1 + l.operatorCount + r.operatorCount) := by omega
    refine ⟨final, hfinal, ?_⟩
    rw [hsecond, hcount]
    constructor
    · rintro ⟨_, _, _, _, hall, hafter⟩
      exact ⟨by omega, hall, hafter⟩
    · rintro ⟨_, hall, hafter⟩
      exact ⟨by omega, by omega, hroom, by omega, hall, hafter⟩
  · -- The scan stops at the operator, so only the place behind the text is left to name.
    obtain ⟨final, hfinal, _⟩ := hright joint after hnesting (Nat.zero_le maxOperators)
    refine ⟨final, hfinal, ?_⟩
    constructor
    · rintro ⟨_, _, hroom', _⟩
      exact absurd hroom' hroom
    · rintro ⟨_, hall, _⟩
      exact absurd (by omega) hroom

theorem agrees_of_derives {level : Nat} {text : List Char} {t : Expr}
    (h : Derives level text t) : Agrees text t := by
  induction h using Derives.induction_link with
  | leaf hbefore hraw => exact agrees_leaf hbefore hraw
  | group hbefore _ hbehind ih => exact ih.group hbefore hbehind
  | tighter _ ih => exact ih
  | @link left before right op l r _ hbefore hright ihleft ihright =>
      have hstops : ∀ after, (Lexeme.operator op).Stops (right ++ after) := by
        obtain ⟨c, rest, rfl, hc⟩ := hright.exists_cons
        exact fun after => Lexeme.operator_stops hc (rest ++ after)
      exact ihleft.link hbefore ihright hstops

end Limits

end Rulebook
