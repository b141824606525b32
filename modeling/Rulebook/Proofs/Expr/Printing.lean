import Rulebook.Proofs.Expr.Parsing

namespace Rulebook

/-!
# Printed trees read back as themselves

A tree is canonical when its leaves have the form of tokens and its shape is the one the operator
levels give to its flat text. These are the trees of derivations, and the printed text of a
canonical tree has a derivation of that tree.
-/

open Grammar

namespace Expr

/-- An operand to the left of an operator binds at least as tightly as the operator does, and one
to the right binds tighter. -/
def Canonical : Expr → Prop
  | literal .int raw => IsInt raw.toList
  | literal .string raw => IsString raw.toList
  | identifier name => IsName name.toList
  | binary op left right =>
      left.Canonical ∧ right.Canonical ∧ op.level ≤ left.grade ∧ op.level < right.grade
  | group inner => inner.Canonical

theorem toList_print_binary (op : BinaryOp) (left right : Expr) :
    (binary op left right).print.toList =
      left.print.toList ++ ([' '] ++ op.symbol.toList ++ ([' '] ++ right.print.toList)) := by
  simp [print]

theorem toList_print_group (inner : Expr) :
    (group inner).print.toList = [] ++ '(' :: (inner.print.toList ++ [] ++ [')']) := by
  simp [print]

end Expr

/-! ## Trees of derivations -/

theorem Grammar.Leaf.canonical {raw : List Char} {t : Expr} (h : Leaf raw t) : t.Canonical := by
  cases h with
  | int hint => simpa [Expr.Canonical] using hint
  | string hstring => simpa [Expr.Canonical] using hstring
  | name hname => simpa [Expr.Canonical] using hname

theorem Grammar.Derives.canonical {level : Nat} {text : List Char} {t : Expr}
    (h : Derives level text t) : t.Canonical := by
  induction h using Derives.induction_link with
  | leaf _ hraw => exact hraw.canonical
  | group _ _ _ ih => exact ih
  | tighter _ ih => exact ih
  | link hleft _ hright ihleft ihright =>
      exact ⟨ihleft, ihright, hleft.level_le_grade, hright.level_le_grade⟩

theorem canonical_of_parse {text : String} {t : Expr} (h : parse text = .ok t) : t.Canonical := by
  obtain ⟨⟨_, _, hderives, _, _⟩, _⟩ := parse_eq_ok_iff.mp h
  exact hderives.canonical

/-! ## Derivations of printed texts -/

namespace Grammar

theorem Blank.nil : Blank [] := by simp [Blank]

theorem Blank.space : Blank [' '] := by
  intro c hc
  obtain rfl := List.mem_singleton.mp hc
  rfl

theorem Leaf.derives {raw : List Char} {t : Expr} (h : Leaf raw t) : Derives 5 raw t :=
  .leaf .nil h

end Grammar

namespace Expr

theorem Canonical.derives {t : Expr} (h : t.Canonical) : Derives t.grade t.print.toList t := by
  induction t with
  | literal kind raw =>
      cases kind with
      | int => simpa [print, grade] using (Leaf.int h).derives
      | string => simpa [print, grade] using (Leaf.string h).derives
  | identifier name => simpa [print, grade] using (Leaf.name h).derives
  | binary op left right ihleft ihright =>
      obtain ⟨hleft, hright, hle, hlt⟩ := h
      have hl : Derives op.level left.print.toList left := (ihleft hleft).of_le hle
      have hr : Derives (op.level + 1) right.print.toList right := (ihright hright).of_le hlt
      rw [toList_print_binary]
      exact hl.link Blank.space (hr.blank_append Blank.space)
  | group inner ih =>
      rw [toList_print_group]
      exact .group Blank.nil ((ih h).of_le (Nat.zero_le inner.grade)) Blank.nil

theorem Canonical.expression {t : Expr} (h : t.Canonical) : Expression t.print.toList t :=
  ⟨t.print.toList, [], h.derives.of_le (Nat.zero_le t.grade), Blank.nil, by simp⟩

end Expr

theorem parse_print_eq_ok {t : Expr} (h : t.Canonical) (hlimits : t.WithinLimits) :
    parse t.print = .ok t :=
  parse_eq_ok_iff.mpr ⟨h.expression, hlimits⟩

/-- Printing and parsing are inverse on the canonical trees within the limits, which are all the
trees that parsing gives. -/
theorem parse_print_exact (t : Expr) :
    (parse t.print = .ok t ↔ t.Canonical ∧ t.WithinLimits) ∧
      ∀ text, parse text = .ok t → parse t.print = .ok t := by
  have hreads : ∀ text, parse text = .ok t → t.Canonical ∧ t.WithinLimits :=
    fun text h => ⟨canonical_of_parse h, (parse_eq_ok_iff.mp h).2⟩
  refine ⟨⟨hreads t.print, fun ⟨h, hlimits⟩ => parse_print_eq_ok h hlimits⟩, ?_⟩
  intro text h
  obtain ⟨hcanonical, hlimits⟩ := hreads text h
  exact parse_print_eq_ok hcanonical hlimits

/-- A difference of differences keeps its shape only with parentheses on its right. -/
theorem parse_print_difference :
    parse "a - (b-c)" = .ok (.binary .sub (.identifier "a")
      (.group (.binary .sub (.identifier "b") (.identifier "c")))) ∧
    parse "a - (b - c)" = .ok (.binary .sub (.identifier "a")
      (.group (.binary .sub (.identifier "b") (.identifier "c")))) := by
  have hparse : parse "a - (b-c)" = .ok (.binary .sub (.identifier "a")
      (.group (.binary .sub (.identifier "b") (.identifier "c")))) := by decide +kernel
  exact ⟨hparse, (parse_print_exact _).2 "a - (b-c)" hparse⟩

end Rulebook
