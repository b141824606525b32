import Rulebook.Proofs.Text.Classes

namespace Rulebook

/-!
# The grammar of expressions

The grammar is scannerless and stratified. At each of the five operator levels an expression is
a chain of expressions of the next level, joined by operators of its own level and folded to the
left; the innermost level holds the operands. Blanks may stand before an operand, before an
operator and behind a whole expression. Nothing here looks ahead or prefers one reading to
another.
-/

namespace Expr

/-- The level of the operator at the root. An operand, a group included, binds tighter than any
operator. -/
def grade : Expr → Nat
  | binary op _ _ => op.level
  | _ => 5

/-- The most groups on a path from the root to a leaf. -/
def groupDepth : Expr → Nat
  | literal _ _ => 0
  | identifier _ => 0
  | binary _ left right => max left.groupDepth right.groupDepth
  | group inner => 1 + inner.groupDepth

def operatorCount : Expr → Nat
  | literal _ _ => 0
  | identifier _ => 0
  | binary _ left right => 1 + left.operatorCount + right.operatorCount
  | group inner => inner.operatorCount

/-- The size of a tree that may be read from a text. -/
structure WithinLimits (t : Expr) : Prop where
  groups : t.groupDepth ≤ 32
  operators : t.operatorCount ≤ 1024
  depth : t.depth ≤ 256

instance (t : Expr) : Decidable t.WithinLimits :=
  decidable_of_iff (t.groupDepth ≤ 32 ∧ t.operatorCount ≤ 1024 ∧ t.depth ≤ 256)
    ⟨fun ⟨hg, ho, hd⟩ => ⟨hg, ho, hd⟩, fun ⟨hg, ho, hd⟩ => ⟨hg, ho, hd⟩⟩

end Expr

namespace Grammar

/-! ## Operands -/

def Blank (text : List Char) : Prop := ∀ c ∈ text, Text.isBlank c = true

/-- What may stand between the quotes of a string: a quote only behind a backslash, and a
backslash only before the character it takes along. -/
inductive Body : List Char → Prop where
  | nil : Body []
  | plain {c : Char} {rest : List Char} (hquote : c ≠ '"') (hback : c ≠ '\\') (hrest : Body rest) :
      Body (c :: rest)
  | escaped {c : Char} {rest : List Char} (hrest : Body rest) : Body ('\\' :: c :: rest)

def IsInt (raw : List Char) : Prop := raw ≠ [] ∧ ∀ c ∈ raw, c.isDigit = true

def IsString (raw : List Char) : Prop := ∃ body, Body body ∧ raw = '"' :: (body ++ ['"'])

def IsName (raw : List Char) : Prop :=
  ∃ c rest, raw = c :: rest ∧ Lexeme.startsName c = true ∧
    ∀ d ∈ rest, Lexeme.continuesName d = true

/-- The texts of literals and identifiers. -/
inductive Leaf : List Char → Expr → Prop where
  | int {raw : List Char} (h : IsInt raw) : Leaf raw (.literal .int (String.ofList raw))
  | string {raw : List Char} (h : IsString raw) :
      Leaf raw (.literal .string (String.ofList raw))
  | name {raw : List Char} (h : IsName raw) : Leaf raw (.identifier (String.ofList raw))

/-! ## Levels -/

/-- An operator with its right operand, and the texts of both. -/
structure Link where
  before : List Char
  op : BinaryOp
  right : List Char
  operand : Expr

namespace Link

def text (link : Link) : List Char := link.before ++ link.op.symbol.toList ++ link.right

def join (tree : Expr) (link : Link) : Expr := .binary link.op tree link.operand

end Link

/-- `Derives level text t`: the text is an expression of the level, or, at level 5, an operand,
and `t` is its tree. -/
inductive Derives : Nat → List Char → Expr → Prop where
  | leaf {before raw : List Char} {t : Expr} (hbefore : Blank before) (hraw : Leaf raw t) :
      Derives 5 (before ++ raw) t
  | group {before inner after : List Char} {t : Expr} (hbefore : Blank before)
      (hinner : Derives 0 inner t) (hafter : Blank after) :
      Derives 5 (before ++ '(' :: (inner ++ after ++ [')'])) (.group t)
  | chain {level : Nat} {start : List Char} {first : Expr} (links : List Link)
      (hstart : Derives (level + 1) start first)
      (hbefore : ∀ link ∈ links, Blank link.before)
      (hop : ∀ link ∈ links, link.op.level = level)
      (hright : ∀ link ∈ links, Derives (level + 1) link.right link.operand) :
      Derives level (start ++ links.flatMap Link.text) (links.foldl Link.join first)

/-- A whole text, with the blanks behind its expression. -/
def Expression (text : List Char) (t : Expr) : Prop :=
  ∃ body after, Derives 0 body t ∧ Blank after ∧ text = body ++ after

def Grammatical (text : List Char) : Prop := ∃ t, Expression text t

/-- The text goes on to be an expression, for some continuation. -/
def Viable (text : List Char) : Prop := ∃ after, Grammatical (text ++ after)

/-! ## Chains from the right

A chain is also one operand of the next level, or a shorter chain with one more link, and this
is how proofs go through it.
-/

theorem Derives.tighter {level : Nat} {text : List Char} {t : Expr}
    (h : Derives (level + 1) text t) : Derives level text t := by
  simpa using Derives.chain [] h (by simp) (by simp) (by simp)

theorem Derives.of_le {level other : Nat} {text : List Char} {t : Expr} (h : Derives other text t)
    (hle : level ≤ other) : Derives level text t := by
  induction hle with
  | refl => exact h
  | step _ ih => exact ih h.tighter

theorem Derives.link {left before right : List Char} {op : BinaryOp} {l r : Expr}
    (hleft : Derives op.level left l) (hbefore : Blank before)
    (hright : Derives (op.level + 1) right r) :
    Derives op.level (left ++ (before ++ op.symbol.toList ++ right)) (.binary op l r) := by
  generalize hlevel : op.level = level at hleft hright
  cases hleft with
  | leaf | group => exact absurd hlevel (by have := op.level_le_four; omega)
  | @chain _ start first links hstart hbefores hops hrights =>
      have hchain := Derives.chain (links ++ [⟨before, op, right, r⟩]) hstart
        (List.forall_mem_append.mpr ⟨hbefores, by simpa using hbefore⟩)
        (List.forall_mem_append.mpr ⟨hops, by simpa using hlevel⟩)
        (List.forall_mem_append.mpr ⟨hrights, by simpa using hright⟩)
      simpa [Link.text, Link.join, List.append_assoc] using hchain

/-- Induction on a derivation with one link of a chain at a time. -/
theorem Derives.induction_link
    {motive : ∀ level text t, Derives level text t → Prop}
    (leaf : ∀ {before raw : List Char} {t : Expr} (hbefore : Blank before) (hraw : Leaf raw t),
      motive 5 (before ++ raw) t (.leaf hbefore hraw))
    (group : ∀ {before inner after : List Char} {t : Expr} (hbefore : Blank before)
      (hinner : Derives 0 inner t) (hafter : Blank after), motive 0 inner t hinner →
        motive 5 (before ++ '(' :: (inner ++ after ++ [')'])) (.group t)
          (.group hbefore hinner hafter))
    (tighter : ∀ {level : Nat} {text : List Char} {t : Expr} (h : Derives (level + 1) text t),
      motive (level + 1) text t h → motive level text t h.tighter)
    (link : ∀ {left before right : List Char} {op : BinaryOp} {l r : Expr}
      (hleft : Derives op.level left l) (hbefore : Blank before)
      (hright : Derives (op.level + 1) right r),
        motive op.level left l hleft → motive (op.level + 1) right r hright →
          motive op.level (left ++ (before ++ op.symbol.toList ++ right)) (.binary op l r)
            (hleft.link hbefore hright))
    {level : Nat} {text : List Char} {t : Expr} (h : Derives level text t) :
    motive level text t h := by
  induction h with
  | leaf hbefore hraw => exact leaf hbefore hraw
  | group hbefore hinner hafter ih => exact group hbefore hinner hafter ih
  | @chain level start first links hstart hbefore hop hright ihstart ihright =>
      -- The chain so far is what grows along the links.
      have hgrow : ∀ {sofar : List Char} {tree : Expr} (h : Derives level sofar tree),
          motive level sofar tree h → ∃ hwhole,
            motive level (sofar ++ links.flatMap Link.text) (links.foldl Link.join tree)
              hwhole := by
        clear hstart ihstart
        induction links with
        | nil =>
            intro sofar tree hsofar ihsofar
            simpa using ⟨hsofar, ihsofar⟩
        | cons head rest ih =>
            intro sofar tree hsofar ihsofar
            obtain ⟨hbefore, hbefores⟩ := List.forall_mem_cons.mp hbefore
            obtain ⟨rfl, hops⟩ := List.forall_mem_cons.mp hop
            obtain ⟨hhead, hheads⟩ := List.forall_mem_cons.mp hright
            have ihhead := ihright head List.mem_cons_self
            have hmore := ih hbefores hops hheads
              (fun link hlink => ihright link (List.mem_cons_of_mem head hlink))
              (hsofar.link hbefore hhead) (link hsofar hbefore hhead ihsofar ihhead)
            simpa [Link.text, Link.join, List.append_assoc] using hmore
      obtain ⟨_, hwhole⟩ := hgrow hstart.tighter (tighter hstart ihstart)
      exact hwhole

/-! ## What every derivation has -/

theorem Blank.append {left right : List Char} (hleft : Blank left) (hright : Blank right) :
    Blank (left ++ right) :=
  List.forall_mem_append.mpr ⟨hleft, hright⟩

theorem Body.append {left right : List Char} (hleft : Body left) (hright : Body right) :
    Body (left ++ right) := by
  induction hleft with
  | nil => exact hright
  | plain hquote hback _ ih => exact .plain hquote hback ih
  | escaped _ ih => exact .escaped ih

theorem Derives.blank_append {before : List Char} (hbefore : Blank before) {level : Nat}
    {text : List Char} {t : Expr} (h : Derives level text t) :
    Derives level (before ++ text) t := by
  induction h using Derives.induction_link with
  | leaf hown hraw => simpa [List.append_assoc] using Derives.leaf (hbefore.append hown) hraw
  | group hown hinner hafter _ =>
      simpa [List.append_assoc] using Derives.group (hbefore.append hown) hinner hafter
  | tighter _ ih => exact ih.tighter
  | link _ hmiddle hright ihleft _ =>
      simpa [List.append_assoc] using Derives.link ihleft hmiddle hright

theorem Derives.level_le_grade {level : Nat} {text : List Char} {t : Expr}
    (h : Derives level text t) : level ≤ t.grade := by
  induction h using Derives.induction_link with
  | leaf _ hraw => cases hraw <;> exact Nat.le_refl 5
  | group => exact Nat.le_refl 5
  | tighter _ ih => exact Nat.le_of_succ_le ih
  | link => exact Nat.le_refl _

theorem Leaf.size {raw : List Char} {t : Expr} (h : Leaf raw t) :
    t.groupDepth = 0 ∧ t.operatorCount = 0 := by
  cases h <;> exact ⟨rfl, rfl⟩

theorem Leaf.exists_cons {raw : List Char} {t : Expr} (h : Leaf raw t) :
    ∃ c rest, raw = c :: rest ∧ Limits.isOperatorChar c = false := by
  cases h with
  | int hint =>
      obtain ⟨hne, hdigits⟩ := hint
      obtain ⟨c, rest, rfl⟩ := List.exists_cons_of_ne_nil hne
      have hc := (Lexeme.digit_apart (hdigits c List.mem_cons_self)).2.2
      exact ⟨c, rest, rfl,
        Lexeme.isOperatorChar_of_not_mem_marks (Lexeme.not_mem_marks_of_continuesName hc)⟩
  | string hstring =>
      obtain ⟨body, _, rfl⟩ := hstring
      exact ⟨'"', body ++ ['"'], rfl, rfl⟩
  | name hname =>
      obtain ⟨c, rest, rfl, hc, _⟩ := hname
      have hc := Lexeme.continuesName_of_startsName hc
      exact ⟨c, rest, rfl,
        Lexeme.isOperatorChar_of_not_mem_marks (Lexeme.not_mem_marks_of_continuesName hc)⟩

theorem Blank.exists_cons_append {before rest : List Char} {c : Char} (hbefore : Blank before)
    (hc : Limits.isOperatorChar c = false) :
    ∃ d others, before ++ c :: rest = d :: others ∧ Limits.isOperatorChar d = false := by
  cases before with
  | nil => exact ⟨c, rest, rfl, hc⟩
  | cons d others =>
      have hd := Lexeme.not_mem_marks_of_isBlank (hbefore d List.mem_cons_self)
      exact ⟨d, others ++ c :: rest, rfl, Lexeme.isOperatorChar_of_not_mem_marks hd⟩

/-- No expression begins with a character of an operator. -/
theorem Derives.exists_cons {level : Nat} {text : List Char} {t : Expr}
    (h : Derives level text t) :
    ∃ c rest, text = c :: rest ∧ Limits.isOperatorChar c = false := by
  induction h using Derives.induction_link with
  | leaf hbefore hraw =>
      obtain ⟨c, rest, rfl, hc⟩ := hraw.exists_cons
      exact hbefore.exists_cons_append hc
  | group hbefore => exact hbefore.exists_cons_append rfl
  | tighter _ ih => exact ih
  | link _ _ _ ihleft =>
      obtain ⟨c, rest, rfl, hc⟩ := ihleft
      exact ⟨c, _, List.cons_append, hc⟩

end Grammar

end Rulebook
