import Rulebook.Proofs.Expr.Lexing

namespace Rulebook

/-!
# The reader accepts the grammar

A derivation drives the reader from an operand's place to the place behind its text. Conversely,
what stands to the left of the reader is at every moment a derived piece of text for each open
parenthesis. So the reader ends with a tree exactly on the texts of the grammar.
-/

open Grammar

/-! ## Joining operands -/

namespace Expr

theorem attach_of_le_grade {t : Expr} {op : BinaryOp} (h : op.level ≤ t.grade) (x : Expr) :
    t.attach op x = .binary op t x := by
  cases t with
  | literal | identifier | group => rfl
  | binary own left right => exact if_neg (Nat.not_lt.mpr h)

theorem attach_attach {op next : BinaryOp} (h : op.level < next.level) (tree t x : Expr) :
    (tree.attach op t).attach next x = tree.attach op (t.attach next x) := by
  induction tree with
  | literal | identifier | group => simp [attach, h]
  | binary own left right _ ih =>
      by_cases hown : own.level < op.level
      · simp [attach, hown, Nat.lt_trans hown h, ih]
      · simp [attach, hown, h]

end Expr

namespace Reader

namespace Pending

/-- The operator before an operand, if there is one, binds less tightly than `level`. -/
def Looser (pending : Pending) (level : Nat) : Prop := ∀ p ∈ pending, p.2.level < level

theorem join_attach {pending : Pending} {op : BinaryOp} {t : Expr}
    (hpending : pending.Looser op.level) (hgrade : op.level ≤ t.grade) (x : Expr) :
    (pending.join t).attach op x = pending.join (.binary op t x) := by
  cases pending with
  | none => exact Expr.attach_of_le_grade hgrade x
  | some p =>
      obtain ⟨tree, own⟩ := p
      have hown : own.level < op.level := hpending (tree, own) rfl
      exact (Expr.attach_attach hown tree t x).trans
        (congrArg (tree.attach own) (Expr.attach_of_le_grade hgrade x))

end Pending

theorem step_of_tree? {lexeme : Lexeme} {t : Expr} (h : lexeme.tree? = some t)
    (pending : Pending) (opened : List Pending) (here : List Char) :
    step (.awaiting pending opened) ⟨lexeme, here⟩ = .ok (.finished (pending.join t) opened) := by
  cases lexeme with
  | int | string | name =>
      cases h
      rfl
  | opening | closing | operator | unclosed | stray => simp [Lexeme.tree?] at h

/-! ## Derivations drive the reader -/

theorem run_of_spells {before raw after : List Char} {lexeme : Lexeme} {state next : State}
    (hbefore : Blank before) (hraw : lexeme.Spells raw) (hstops : lexeme.Stops after)
    (hstep : ∀ here, step state ⟨lexeme, here⟩ = .ok next) :
    run state (Token.readAll (before ++ (raw ++ after))) = run next (Token.readAll after) := by
  rw [Token.readAll_of_spells hbefore hraw hstops, run, hstep]

theorem run_of_derives {level : Nat} {text : List Char} {t : Expr} (h : Derives level text t) :
    ∀ {pending : Pending} {opened : List Pending} {after : List Char}, pending.Looser level →
      Lexeme.Ends after → run (.awaiting pending opened) (Token.readAll (text ++ after)) =
        run (.finished (pending.join t) opened) (Token.readAll after) := by
  -- An operand is joined to what is pending at once, before the operators behind it are seen, so
  -- the claim is about every pending operator that binds less tightly than the level.
  induction h using Derives.induction_link with
  | leaf hbefore hraw =>
      intro pending opened after _ hafter
      obtain ⟨lexeme, hspells, htree⟩ := Lexeme.exists_spells_of_leaf hraw
      rw [List.append_assoc]
      exact run_of_spells hbefore hspells (Lexeme.stops_of_ends htree hafter)
        (step_of_tree? htree pending opened)
  | @group before inner behind t hbefore hinner hbehind ih =>
      intro pending opened after _ _
      have hclosing : Lexeme.Ends (behind ++ ')' :: after) :=
        .blank_append hbehind (Lexeme.ends_cons (by simp [Lexeme.marks]) after)
      calc
        run (.awaiting pending opened)
            (Token.readAll (before ++ '(' :: (inner ++ behind ++ [')']) ++ after)) =
            run (.awaiting pending opened)
              (Token.readAll (before ++ (['('] ++ (inner ++ (behind ++ ')' :: after))))) := by
          simp [List.append_assoc]
        _ = run (.awaiting none (pending :: opened))
              (Token.readAll (inner ++ (behind ++ ')' :: after))) :=
          run_of_spells hbefore .opening trivial fun _ => rfl
        _ = run (.finished t (pending :: opened)) (Token.readAll (behind ++ ([')'] ++ after))) :=
          ih (by simp [Pending.Looser]) hclosing
        _ = run (.finished (pending.join (.group t)) opened) (Token.readAll after) :=
          run_of_spells hbehind .closing trivial fun _ => rfl
  | tighter _ ih =>
      intro pending opened after hpending hafter
      exact ih (fun p hp => Nat.lt_succ_of_lt (hpending p hp)) hafter
  | @link left before right op l r hleft hbefore hright ihleft ihright =>
      intro pending opened after hpending hafter
      have hsign : Lexeme.Ends (before ++ (op.sign ++ (right ++ after))) :=
        .blank_append hbefore (Lexeme.ends_sign op _)
      have hstops : (Lexeme.operator op).Stops (right ++ after) := by
        obtain ⟨c, rest, rfl, hc⟩ := hright.exists_cons
        exact Lexeme.operator_stops hc _
      calc
        run (.awaiting pending opened)
            (Token.readAll (left ++ (before ++ op.symbol.toList ++ right) ++ after)) =
            run (.awaiting pending opened)
              (Token.readAll (left ++ (before ++ (op.sign ++ (right ++ after))))) := by
          simp [List.append_assoc]
        _ = run (.finished (pending.join l) opened)
              (Token.readAll (before ++ (op.sign ++ (right ++ after)))) :=
          ihleft hpending hsign
        _ = run (.awaiting (some (pending.join l, op)) opened) (Token.readAll (right ++ after)) :=
          run_of_spells hbefore (.operator op) hstops fun _ => rfl
        _ = run (.finished ((pending.join l).attach op r) opened) (Token.readAll after) :=
          ihright (by simp [Pending.Looser]) hafter
        _ = run (.finished (pending.join (.binary op l r)) opened) (Token.readAll after) := by
          rw [Pending.join_attach hpending hleft.level_le_grade]

/-! ## What stands to the left of the reader -/

/-- The text between the last open parenthesis and an operand. -/
inductive Pending.Reads : Pending → List Char → Prop where
  | none : Reads none []
  | some {left before : List Char} {tree : Expr} {op : BinaryOp} (hleft : Derives 0 left tree)
      (hbefore : Blank before) : Reads (some (tree, op)) (left ++ (before ++ op.sign))

/-- The text up to the last open parenthesis. -/
inductive Opened : List Pending → List Char → Prop where
  | nil : Opened [] []
  | cons {outer inner before : List Char} {pending : Pending} {opened : List Pending}
      (houter : Opened opened outer) (hinner : pending.Reads inner) (hbefore : Blank before) :
      Opened (pending :: opened) (outer ++ (inner ++ (before ++ ['('])))

/-- The text behind which the reader is in a state. -/
inductive Consumed : State → List Char → Prop where
  | awaiting {outer inner : List Char} {pending : Pending} {opened : List Pending}
      (houter : Opened opened outer) (hinner : pending.Reads inner) :
      Consumed (.awaiting pending opened) (outer ++ inner)
  | finished {outer inner : List Char} {tree : Expr} {opened : List Pending}
      (houter : Opened opened outer) (hinner : Derives 0 inner tree) :
      Consumed (.finished tree opened) (outer ++ inner)

theorem derives_attach {before right : List Char} {op : BinaryOp} {x : Expr}
    (hbefore : Blank before) (hright : Derives 5 right x) {level : Nat} {text : List Char}
    {t : Expr} (h : Derives level text t) (hop : level ≤ op.level) :
    Derives level (text ++ (before ++ op.sign ++ right)) (t.attach op x) := by
  have htight : Derives (op.level + 1) right x := hright.of_le (by have := op.level_le_four; omega)
  induction h using Derives.induction_link with
  | leaf | group => exact absurd hop (by have := op.level_le_four; omega)
  | @tighter level text t h ih =>
      rcases Nat.lt_or_eq_of_le hop with hlt | rfl
      · exact (ih hlt).tighter
      · have hgrade := Nat.le_of_succ_le h.level_le_grade
        rw [Expr.attach_of_le_grade hgrade]
        simpa using h.tighter.link hbefore htight
  | @link left middle other own l r hleft hmiddle hother _ ihright =>
      -- A tighter operator goes down the right edge; one of the same level stays above.
      rcases Nat.lt_or_eq_of_le hop with hlt | heq
      · have hlink := hleft.link hmiddle (ihright hlt)
        simpa [Expr.attach, hlt, List.append_assoc] using hlink
      · have hwhole := hleft.link hmiddle hother
        rw [heq] at hwhole ⊢
        rw [Expr.attach_of_le_grade (Nat.le_of_eq heq.symm)]
        simpa using hwhole.link hbefore htight

theorem derives_join {pending : Pending} {inner right : List Char} {x : Expr}
    (hpending : pending.Reads inner) (hright : Derives 5 right x) :
    Derives 0 (inner ++ right) (pending.join x) := by
  cases hpending with
  | none => exact hright.of_le (Nat.zero_le 5)
  | some hleft hbefore =>
      simpa [Pending.join, List.append_assoc] using
        derives_attach hbefore hright hleft (Nat.zero_le _)

theorem step_cases {state next : State} {token : Token} (h : step state token = .ok next) :
    (∃ pending opened, state = .awaiting pending opened ∧ token.lexeme = .opening ∧
        next = .awaiting none (pending :: opened)) ∨
      (∃ pending opened t, state = .awaiting pending opened ∧ token.lexeme.tree? = some t ∧
        next = .finished (pending.join t) opened) ∨
      (∃ tree opened op, state = .finished tree opened ∧ token.lexeme = .operator op ∧
        next = .awaiting (some (tree, op)) opened) ∨
      ∃ tree pending opened, state = .finished tree (pending :: opened) ∧
        token.lexeme = .closing ∧ next = .finished (pending.join (.group tree)) opened := by
  obtain ⟨lexeme, here⟩ := token
  cases state with
  | awaiting pending opened =>
      cases lexeme with
      | opening => exact Or.inl ⟨pending, opened, rfl, rfl, (Except.ok.inj h).symm⟩
      | int | string | name =>
          exact Or.inr (Or.inl ⟨pending, opened, _, rfl, rfl, (Except.ok.inj h).symm⟩)
      | closing | operator | unclosed | stray => cases h
  | finished tree opened =>
      cases lexeme with
      | operator op =>
          exact Or.inr (Or.inr (Or.inl ⟨tree, opened, op, rfl, rfl, (Except.ok.inj h).symm⟩))
      | closing =>
          cases opened with
          | nil => cases h
          | cons pending opened =>
              exact Or.inr (Or.inr (Or.inr
                ⟨tree, pending, opened, rfl, rfl, (Except.ok.inj h).symm⟩))
      | opening | int | string | name | unclosed | stray => cases opened <;> cases h

/-- Only tokens with a text are taken. -/
theorem ne_of_step {state next : State} {lexeme : Lexeme} {here : List Char}
    (h : step state ⟨lexeme, here⟩ = .ok next) :
    lexeme ≠ .unclosed ∧ ∀ d, lexeme ≠ .stray d := by
  constructor
  · rintro rfl
    simpa [Lexeme.tree?] using step_cases h
  · rintro d rfl
    simpa [Lexeme.tree?] using step_cases h

theorem Consumed.derives {text : List Char} {tree : Expr}
    (h : Consumed (.finished tree []) text) : Derives 0 text tree := by
  cases h with
  | finished houter hinner =>
      cases houter
      exact hinner

theorem Consumed.step {state next : State} {text before raw here : List Char} {lexeme : Lexeme}
    (h : Consumed state text) (hbefore : Blank before) (hraw : lexeme.Spells raw)
    (hstep : Reader.step state ⟨lexeme, here⟩ = .ok next) :
    Consumed next (text ++ (before ++ raw)) := by
  obtain ⟨pending, opened, rfl, rfl, rfl⟩ | ⟨pending, opened, t, rfl, htree, rfl⟩ |
    ⟨tree, opened, op, rfl, rfl, rfl⟩ | ⟨tree, pending, opened, rfl, rfl, rfl⟩ := step_cases hstep
  · cases h with
    | awaiting houter hinner =>
        cases hraw
        simpa [List.append_assoc] using Consumed.awaiting (.cons houter hinner hbefore) .none
  · cases h with
    | awaiting houter hinner =>
        have hleaf := Derives.leaf hbefore (Lexeme.leaf_of_spells hraw htree)
        simpa [List.append_assoc] using Consumed.finished houter (derives_join hinner hleaf)
  · cases h with
    | finished houter hinner =>
        cases hraw
        have hreads : Pending.Reads (some (tree, op)) _ := .some hinner hbefore
        simpa [List.append_assoc] using Consumed.awaiting houter hreads
  · cases h with
    | finished houter hinner =>
        cases hraw
        cases houter with
        | cons houter hpending hopening =>
            have hgroup := Derives.group hopening hinner hbefore
            simpa [List.append_assoc] using
              Consumed.finished houter (derives_join hpending hgroup)

/-! ## The tokens that are taken -/

/-- What a token leads to does not depend on the text behind it. -/
theorem step_of_step {state next : State} {lexeme : Lexeme} {here : List Char}
    (h : step state ⟨lexeme, here⟩ = .ok next) (there : List Char) :
    step state ⟨lexeme, there⟩ = .ok next := by
  obtain ⟨pending, opened, rfl, rfl, rfl⟩ | ⟨pending, opened, t, rfl, htree, rfl⟩ |
    ⟨tree, opened, op, rfl, rfl, rfl⟩ | ⟨tree, pending, opened, rfl, rfl, rfl⟩ := step_cases h
  · rfl
  · exact step_of_tree? htree pending opened there
  · rfl
  · rfl

/-- A token that is taken has a text, and what is left does not make it longer. -/
theorem spells_of_step {state next : State} {c : Char} {tail here : List Char}
    (h : step state ⟨(Lexeme.read c tail).1, here⟩ = .ok next) :
    ∃ raw, (Lexeme.read c tail).1.Spells (c :: raw) ∧
      (Lexeme.read c tail).1.Stops (Lexeme.read c tail).2 ∧
      tail = raw ++ (Lexeme.read c tail).2 := by
  obtain ⟨hclosed, hstray⟩ := ne_of_step h
  exact Lexeme.spells_of_read rfl hclosed hstray

/-- The reader takes the tokens of a text and gets from one state to another. What stands behind the
text matters only to the end of its last token. -/
inductive Takes (after : List Char) : State → List Char → State → Prop where
  | nil (state : State) : Takes after state [] state
  | cons {state next final : State} {before raw rest : List Char} {lexeme : Lexeme}
      (hbefore : Blank before) (hraw : lexeme.Spells raw) (hstops : lexeme.Stops (rest ++ after))
      (hstep : ∀ here, step state ⟨lexeme, here⟩ = .ok next) (hrest : Takes after next rest final) :
      Takes after state (before ++ (raw ++ rest)) final

theorem Takes.run {after text : List Char} {state final : State}
    (h : Takes after state text final) :
    Reader.run state (Token.readAll (text ++ after)) =
      Reader.run final (Token.readAll after) := by
  induction h with
  | nil => rfl
  | cons hbefore hraw hstops hstep _ ih =>
      rw [List.append_assoc, List.append_assoc, run_of_spells hbefore hraw hstops hstep, ih]

theorem Takes.consumed {after text : List Char} {state final : State}
    (h : Takes after state text final) {done : List Char} (hdone : Consumed state done) :
    Consumed final (done ++ text) := by
  induction h generalizing done with
  | nil => simpa using hdone
  | cons hbefore hraw _ hstep _ ih =>
      simpa [List.append_assoc] using ih (hdone.step hbefore hraw (hstep []))

theorem Takes.consumed_start {after text : List Char} {final : State}
    (h : Takes after .start text final) : Consumed final text := by
  simpa using h.consumed (.awaiting .nil .none)

/-- How a run ends: at the end of the text, but for blanks, or at a token that is refused. -/
inductive Ended (state : State) (text : List Char) : Except Fault State → Prop where
  | done {before after : List Char} {final : State} (htext : text = before ++ after)
      (htakes : Takes after state before final) (hafter : Blank after) :
      Ended state text (.ok final)
  | refused {before blank tail : List Char} {c : Char} {final : State} {fault : Fault}
      (htext : text = before ++ (blank ++ c :: tail))
      (htakes : Takes (blank ++ c :: tail) state before final) (hblank : Blank blank)
      (hc : Text.isBlank c = false)
      (hstep : step final ⟨(Lexeme.read c tail).1, c :: tail⟩ = .error fault) :
      Ended state text (.error fault)

theorem Ended.cons {state next : State} {before raw rest : List Char} {lexeme : Lexeme}
    {result : Except Fault State} (hbefore : Blank before) (hraw : lexeme.Spells raw)
    (hstops : lexeme.Stops rest) (hstep : ∀ here, step state ⟨lexeme, here⟩ = .ok next)
    (h : Ended next rest result) : Ended state (before ++ (raw ++ rest)) result := by
  cases h with
  | done htext htakes hafter =>
      subst htext
      exact .done (by simp) (.cons hbefore hraw hstops hstep htakes) hafter
  | refused htext htakes hblank hc hrefused =>
      subst htext
      exact .refused (by simp) (.cons hbefore hraw hstops hstep htakes) hblank hc hrefused

theorem ended_run (state : State) (text : List Char) :
    Ended state text (run state (Token.readAll text)) := by
  induction text using Token.readAll_induction generalizing state with
  | blank text hblank =>
      rw [Token.readAll_of_blank hblank]
      exact .done rfl (.nil state) hblank
  | token before c tail hbefore hc ih =>
      rw [Token.readAll_blank_append hbefore hc, Reader.run]
      cases hstep : step state ⟨(Lexeme.read c tail).1, c :: tail⟩ with
      | error fault => exact .refused rfl (.nil state) hbefore hc hstep
      | ok next =>
          obtain ⟨raw, hraw, hstops, htail⟩ := spells_of_step hstep
          have hended := (ih next).cons hbefore hraw hstops (step_of_step hstep)
          rwa [List.cons_append, ← htail] at hended

theorem finish_eq_ok {state : State} {t : Expr} (h : finish state = .ok t) :
    state = .finished t [] := by
  cases state with
  | awaiting pending opened => cases h
  | finished tree opened =>
      cases opened with
      | nil => exact congrArg (State.finished · []) (Except.ok.inj h)
      | cons => cases h

theorem read_of_expression {text : List Char} {t : Expr} (h : Expression text t) :
    read text = .ok t := by
  obtain ⟨body, after, hbody, hafter, rfl⟩ := h
  have hends : Lexeme.Ends (after ++ []) := .blank_append hafter (by simp [Lexeme.Ends])
  have hrun : run .start (Token.readAll (body ++ after)) = .ok (.finished t []) := by
    rw [State.start, run_of_derives hbody (by simp [Pending.Looser]) (by simpa using hends),
      Token.readAll_of_blank hafter]
    rfl
  rw [read, hrun]
  rfl

theorem expression_of_read {text : List Char} {t : Expr} (h : read text = .ok t) :
    Expression text t := by
  have hended := ended_run .start text
  cases hrun : run .start (Token.readAll text) with
  | error fault => simp [read, hrun] at h
  | ok state =>
      obtain rfl := finish_eq_ok (show finish state = .ok t by simpa [read, hrun] using h)
      rw [hrun] at hended
      cases hended with
      | @done body after _ htext htakes hafter =>
          exact ⟨body, after, htakes.consumed_start.derives, hafter, htext⟩

theorem read_eq_ok_iff {text : List Char} {t : Expr} :
    read text = .ok t ↔ Expression text t :=
  ⟨expression_of_read, read_of_expression⟩

end Reader

end Rulebook
