import Mathlib.Data.List.TakeWhile
import Rulebook.Expr.Parse
import Rulebook.Proofs.Expr.Grammar
import Rulebook.Text.Scanner

namespace Rulebook

/-!
# Tokens and their texts

Cutting a text into tokens and spelling tokens as text are inverse to each other, as long as
the text behind a token does not make it longer.
-/

open Grammar

/-- The characters of an operator. -/
def BinaryOp.sign : BinaryOp → List Char
  | mul => ['*']
  | div => ['/']
  | add => ['+']
  | sub => ['-']
  | eq => ['=', '=']
  | ne => ['!', '=']
  | assign => ['=']
  | and => ['&', '&']
  | or => ['|', '|']

@[simp] theorem BinaryOp.toList_symbol (op : BinaryOp) : op.symbol.toList = op.sign := by
  cases op <;> rfl

namespace Lexeme

/-- The texts of the tokens of an expression. A stray character and an unclosed string have
none. -/
inductive Spells : Lexeme → List Char → Prop where
  | opening : Spells opening ['(']
  | closing : Spells closing [')']
  | operator (op : BinaryOp) : Spells (operator op) op.sign
  | int {raw : List Char} (h : IsInt raw) : Spells (int raw) raw
  | string {raw : List Char} (h : IsString raw) : Spells (string raw) raw
  | name {raw : List Char} (h : IsName raw) : Spells (name raw) raw

/-- The text behind a token does not make it longer. -/
def Stops : Lexeme → List Char → Prop
  | int _, text => ∀ c ∈ text.head?, c.isDigit = false
  | name _, text => ∀ c ∈ text.head?, continuesName c = false
  | operator .assign, text => ∀ c ∈ text.head?, c ≠ '='
  | _, _ => True

/-! ## Strings -/

theorem untilQuote_of_body {body : List Char} (h : Body body) (after : List Char) :
    untilQuote (body ++ '"' :: after) = some (body ++ ['"'], after) := by
  induction h with
  | nil => rfl
  | plain hquote hback _ ih => simp [untilQuote, hback, ih]
  | escaped _ ih => simp [untilQuote, ih]

theorem body_of_untilQuote {text raw after : List Char}
    (h : untilQuote text = some (raw, after)) :
    ∃ body, Body body ∧ raw = body ++ ['"'] ∧ text = body ++ '"' :: after := by
  fun_induction untilQuote text generalizing raw after with
  | case1 => simp at h
  | case2 rest =>
      obtain ⟨rfl, rfl⟩ := Prod.mk.inj (Option.some.inj h)
      exact ⟨[], .nil, rfl, rfl⟩
  | case3 c rest ih =>
      obtain ⟨⟨b, a⟩, hb, hab⟩ := Option.map_eq_some_iff.mp h
      obtain ⟨rfl, rfl⟩ := Prod.mk.inj hab
      obtain ⟨body, hbody, rfl, rfl⟩ := ih hb
      exact ⟨'\\' :: c :: body, hbody.escaped, rfl, rfl⟩
  | case4 c rest hquote hback ih =>
      obtain ⟨⟨b, a⟩, hb, hab⟩ := Option.map_eq_some_iff.mp h
      obtain ⟨rfl, rfl⟩ := Prod.mk.inj hab
      obtain ⟨body, hbody, rfl, rfl⟩ := ih hb
      have hne : c ≠ '\\' := fun heq => by
        cases hrest : body ++ '"' :: a with
        | nil => simp at hrest
        | cons d others => exact hback d others heq hrest
      exact ⟨c :: body, .plain (fun heq => hquote heq) hne hbody, rfl, rfl⟩

/-! ## One token -/

theorem read_of_not_mem_marks {c : Char} (hc : c ∉ marks) (rest : List Char) :
    read c rest =
      if c.isDigit then (int (c :: rest.takeWhile Char.isDigit), rest.dropWhile Char.isDigit)
      else if startsName c then
        (name (c :: rest.takeWhile continuesName), rest.dropWhile continuesName)
      else (stray c, rest) := by
  unfold read
  split <;> simp_all [marks]

theorem readPair_of_stops {second : Char} {pair single : Lexeme} {after : List Char}
    (h : ∀ c ∈ after.head?, c ≠ second) : readPair second pair single after = (single, after) := by
  cases after with
  | nil => rfl
  | cons c rest =>
      have hc : c ≠ second := h c rfl
      simp [readPair, hc]

theorem read_of_spells {lexeme : Lexeme} {c : Char} {raw after : List Char}
    (h : Spells lexeme (c :: raw)) (hstops : lexeme.Stops after) :
    read c (raw ++ after) = (lexeme, after) := by
  generalize htext : c :: raw = text at h
  cases h with
  | opening | closing =>
      obtain ⟨rfl, rfl⟩ := List.cons.inj htext
      rfl
  | operator op =>
      cases op with
      | mul | div | add | sub | eq | ne | and | or =>
          obtain ⟨rfl, rfl⟩ := List.cons.inj htext
          simp [read, readPair]
      | assign =>
          obtain ⟨rfl, rfl⟩ := List.cons.inj htext
          exact readPair_of_stops hstops
  | int hint =>
      subst htext
      obtain ⟨hc, hraw⟩ := List.forall_mem_cons.mp hint.2
      obtain ⟨htake, hdrop⟩ := Text.takeWhile_of_stops hraw hstops
      rw [read_of_not_mem_marks (not_mem_marks_of_continuesName (digit_apart hc).2.2),
        if_pos hc, htake, hdrop]
  | string hstring =>
      obtain ⟨body, hbody, rfl⟩ := hstring
      obtain ⟨rfl, rfl⟩ := List.cons.inj htext
      simp [read, untilQuote_of_body hbody]
  | name hname =>
      obtain ⟨d, others, rfl, hd, hothers⟩ := hname
      obtain ⟨rfl, rfl⟩ := List.cons.inj htext
      obtain ⟨htake, hdrop⟩ := Text.takeWhile_of_stops hothers hstops
      have hdigit : c.isDigit = false := by
        cases hdigit : c.isDigit with
        | false => rfl
        | true => simp [(digit_apart hdigit).2.1] at hd
      rw [read_of_not_mem_marks
          (not_mem_marks_of_continuesName (continuesName_of_startsName hd)),
        hdigit, if_neg Bool.false_ne_true, if_pos hd, htake, hdrop]

theorem readPair_cases {second : Char} {pair single lexeme : Lexeme} {rest after : List Char}
    (h : readPair second pair single rest = (lexeme, after)) :
    lexeme = pair ∧ rest = second :: after ∨
      lexeme = single ∧ rest = after ∧ ∀ c ∈ after.head?, c ≠ second := by
  cases rest with
  | nil =>
      obtain ⟨rfl, rfl⟩ := Prod.mk.inj h
      exact Or.inr ⟨rfl, rfl, by simp⟩
  | cons c others =>
      by_cases hc : c = second
      · obtain ⟨rfl, rfl⟩ := Prod.mk.inj ((if_pos hc).symm.trans h)
        exact Or.inl ⟨rfl, by rw [hc]⟩
      · obtain ⟨rfl, rfl⟩ := Prod.mk.inj ((if_neg hc).symm.trans h)
        exact Or.inr ⟨rfl, rfl, by simpa using hc⟩

theorem spells_of_read {c : Char} {rest after : List Char} {lexeme : Lexeme}
    (h : read c rest = (lexeme, after)) (hclosed : lexeme ≠ unclosed)
    (hstray : ∀ d, lexeme ≠ stray d) :
    ∃ raw, Spells lexeme (c :: raw) ∧ lexeme.Stops after ∧ rest = raw ++ after := by
  unfold read at h
  split at h
  · obtain ⟨rfl, rfl⟩ := Prod.mk.inj h
    exact ⟨[], .opening, trivial, rfl⟩
  · obtain ⟨rfl, rfl⟩ := Prod.mk.inj h
    exact ⟨[], .closing, trivial, rfl⟩
  · obtain ⟨rfl, rfl⟩ := Prod.mk.inj h
    exact ⟨[], .operator .mul, trivial, rfl⟩
  · obtain ⟨rfl, rfl⟩ := Prod.mk.inj h
    exact ⟨[], .operator .div, trivial, rfl⟩
  · obtain ⟨rfl, rfl⟩ := Prod.mk.inj h
    exact ⟨[], .operator .add, trivial, rfl⟩
  · obtain ⟨rfl, rfl⟩ := Prod.mk.inj h
    exact ⟨[], .operator .sub, trivial, rfl⟩
  · obtain ⟨rfl, rfl⟩ | ⟨rfl, rfl, hstop⟩ := readPair_cases h
    · exact ⟨['='], .operator .eq, trivial, rfl⟩
    · exact ⟨[], .operator .assign, hstop, rfl⟩
  · obtain ⟨rfl, rfl⟩ | ⟨rfl, _, _⟩ := readPair_cases h
    · exact ⟨['='], .operator .ne, trivial, rfl⟩
    · exact absurd rfl (hstray '!')
  · obtain ⟨rfl, rfl⟩ | ⟨rfl, _, _⟩ := readPair_cases h
    · exact ⟨['&'], .operator .and, trivial, rfl⟩
    · exact absurd rfl (hstray '&')
  · obtain ⟨rfl, rfl⟩ | ⟨rfl, _, _⟩ := readPair_cases h
    · exact ⟨['|'], .operator .or, trivial, rfl⟩
    · exact absurd rfl (hstray '|')
  · split at h
    · next raw behind hquote =>
        obtain ⟨rfl, rfl⟩ := Prod.mk.inj h
        obtain ⟨body, hbody, rfl, rfl⟩ := body_of_untilQuote hquote
        exact ⟨body ++ ['"'], .string ⟨body, hbody, rfl⟩, trivial, by simp⟩
    · exact absurd (Prod.mk.inj h).1.symm hclosed
  · split at h
    · next hdigit =>
        obtain ⟨rfl, rfl⟩ := Prod.mk.inj h
        refine ⟨rest.takeWhile Char.isDigit, .int ⟨List.cons_ne_nil _ _, ?_⟩,
          Text.head_dropWhile_eq_false _ _, List.takeWhile_append_dropWhile.symm⟩
        exact List.forall_mem_cons.mpr ⟨hdigit, fun _ => List.mem_takeWhile_imp⟩
    · split at h
      · next hstart =>
          obtain ⟨rfl, rfl⟩ := Prod.mk.inj h
          refine ⟨rest.takeWhile continuesName, .name ⟨c, _, rfl, hstart, ?_⟩,
            Text.head_dropWhile_eq_false _ _, List.takeWhile_append_dropWhile.symm⟩
          exact fun _ => List.mem_takeWhile_imp
      · exact absurd (Prod.mk.inj h).1.symm (hstray c)

theorem Spells.exists_cons {lexeme : Lexeme} {raw : List Char} (h : Spells lexeme raw) :
    ∃ c rest, raw = c :: rest ∧ Text.isBlank c = false := by
  cases h with
  | opening => exact ⟨'(', [], rfl, rfl⟩
  | closing => exact ⟨')', [], rfl, rfl⟩
  | operator op =>
      cases op with
      | mul | div | add | sub | eq | ne | assign | and | or => exact ⟨_, _, rfl, rfl⟩
  | int hint =>
      obtain ⟨hne, hdigits⟩ := hint
      obtain ⟨c, rest, rfl⟩ := List.exists_cons_of_ne_nil hne
      exact ⟨c, rest, rfl, (digit_apart (hdigits c List.mem_cons_self)).1⟩
  | string hstring =>
      obtain ⟨body, _, rfl⟩ := hstring
      exact ⟨'"', body ++ ['"'], rfl, rfl⟩
  | name hname =>
      obtain ⟨c, rest, rfl, hc, _⟩ := hname
      exact ⟨c, rest, rfl, isBlank_eq_false_of_continuesName (continuesName_of_startsName hc)⟩

/-! ## Literals and identifiers -/

/-- The tree of a token that is an operand by itself. -/
def tree? : Lexeme → Option Expr
  | int raw => some (.literal .int (String.ofList raw))
  | string raw => some (.literal .string (String.ofList raw))
  | name raw => some (.identifier (String.ofList raw))
  | _ => none

theorem exists_spells_of_leaf {raw : List Char} {t : Expr} (h : Leaf raw t) :
    ∃ lexeme, Spells lexeme raw ∧ lexeme.tree? = some t := by
  cases h with
  | int hint => exact ⟨int raw, .int hint, rfl⟩
  | string hstring => exact ⟨string raw, .string hstring, rfl⟩
  | name hname => exact ⟨name raw, .name hname, rfl⟩

theorem leaf_of_spells {lexeme : Lexeme} {raw : List Char} {t : Expr} (h : Spells lexeme raw)
    (ht : lexeme.tree? = some t) : Leaf raw t := by
  cases h with
  | opening | closing | operator => simp [tree?] at ht
  | int hint => exact Option.some.inj ht ▸ .int hint
  | string hstring => exact Option.some.inj ht ▸ .string hstring
  | name hname => exact Option.some.inj ht ▸ .name hname

/-- The text does not go on as a name, nor, as digits belong to names, as a number. -/
def Ends (text : List Char) : Prop := ∀ c ∈ text.head?, continuesName c = false

theorem stops_of_ends {lexeme : Lexeme} {t : Expr} (ht : lexeme.tree? = some t)
    {after : List Char} (hafter : Ends after) : lexeme.Stops after := by
  cases lexeme with
  | int raw =>
      intro c hc
      cases hdigit : c.isDigit with
      | false => rfl
      | true => exact absurd (digit_apart hdigit).2.2 (by simp [hafter c hc])
  | string raw => trivial
  | name raw => exact hafter
  | opening | closing | operator | unclosed | stray => simp [tree?] at ht

theorem Ends.blank_append {before after : List Char} (hbefore : Blank before)
    (hafter : Ends after) : Ends (before ++ after) := by
  cases before with
  | nil => exact hafter
  | cons c rest =>
      intro d hd
      obtain rfl : c = d := by simpa using hd
      exact continuesName_eq_false_of_isBlank (hbefore c List.mem_cons_self)

theorem ends_cons {c : Char} (hc : c ∈ marks) (rest : List Char) : Ends (c :: rest) := by
  intro d hd
  obtain rfl : c = d := by simpa using hd
  exact (marks_apart c hc).2.1

theorem operator_stops {op : BinaryOp} {c : Char} (hc : Limits.isOperatorChar c = false)
    (rest : List Char) : (operator op).Stops (c :: rest) := by
  cases op with
  | assign =>
      intro d hd
      obtain rfl : c = d := by simpa using hd
      rintro rfl
      simp [Limits.isOperatorChar] at hc
  | mul | div | add | sub | eq | ne | and | or => trivial

theorem ends_sign (op : BinaryOp) (rest : List Char) : Ends (op.sign ++ rest) := by
  cases op with
  | mul | div | add | sub | eq | ne | assign | and | or =>
      exact ends_cons (by simp [marks]) _

end Lexeme

/-! ## The tokens of a text -/

namespace Token

theorem readAll_of_blank {text : List Char} (h : Blank text) : readAll text = [] :=
  scanner.tokens_of_blank h

theorem readAll_blank_append {before rest : List Char} {c : Char} (hbefore : Blank before)
    (hc : Text.isBlank c = false) :
    readAll (before ++ c :: rest) =
      ⟨(Lexeme.read c rest).1, c :: rest⟩ :: readAll (Lexeme.read c rest).2 :=
  (scanner.tokens_blank_append hbefore (c :: rest)).trans (scanner.tokens_cons hc rest)

/-- Induction along the tokens of a text. -/
@[elab_as_elim] theorem readAll_induction {motive : List Char → Prop}
    (blank : ∀ text, Blank text → motive text)
    (token : ∀ before c rest, Blank before → Text.isBlank c = false →
      motive (Lexeme.read c rest).2 → motive (before ++ c :: rest))
    (text : List Char) : motive text :=
  scanner.tokens_induction blank token text

theorem readAll_of_spells {before raw after : List Char} {lexeme : Lexeme} (hbefore : Blank before)
    (hraw : lexeme.Spells raw) (hstops : lexeme.Stops after) :
    readAll (before ++ (raw ++ after)) = ⟨lexeme, raw ++ after⟩ :: readAll after := by
  obtain ⟨c, rest, rfl, hc⟩ := hraw.exists_cons
  rw [List.cons_append, readAll_blank_append hbefore hc, Lexeme.read_of_spells hraw hstops]

end Token

end Rulebook
