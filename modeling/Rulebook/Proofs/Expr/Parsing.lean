import Rulebook.Proofs.Expr.Reading
import Rulebook.Proofs.Expr.Scanning

namespace Rulebook

/-!
# What the parser accepts

The reader takes the texts of the grammar and no others, and on these the scan for limits agrees
with the tree. Together with the limit on the depth of the tree this settles for every text
whether it is read, and as what.
-/

open Grammar

theorem Limits.excess?_eq_none_iff {text : List Char} {t : Expr} (h : Expression text t) :
    excess? start text = none ↔
      t.groupDepth ≤ maxNesting ∧ t.operatorCount ≤ maxOperators := by
  obtain ⟨body, after, hbody, hafter, rfl⟩ := h
  obtain ⟨next, hnext, hiff⟩ := agrees_of_derives hbody ' ' after
    (Nat.zero_le maxNesting) (Nat.zero_le maxOperators)
  -- Behind the expression only blanks are left, and these never are an excess.
  have hnone : excess? ⟨.outside next, 0, 0 + t.operatorCount⟩ after = none := by
    rw [← List.append_nil after] at hnext ⊢
    obtain ⟨final, _, hblank⟩ := excess?_blank_append hafter hnext 0 (0 + t.operatorCount)
    rw [hblank]
    rfl
  rw [start, hiff, Nat.zero_add, Nat.zero_add]
  exact ⟨fun ⟨hgroups, hoperators, _⟩ => ⟨hgroups, hoperators⟩,
    fun ⟨hgroups, hoperators⟩ => ⟨hgroups, hoperators, by simpa using hnone⟩⟩

/-- A text is read when it passes the scan, the reader and the limit on the depth. -/
theorem parse_eq_ok_iff_stages {text : String} {t : Expr} :
    parse text = .ok t ↔
      Limits.excess? Limits.start text.toList = none ∧ Reader.read text.toList = .ok t ∧
        t.depth ≤ maxDepth := by
  unfold parse
  cases hexcess : Limits.excess? Limits.start text.toList with
  | some excess => simp
  | none =>
      cases hread : Reader.read text.toList with
      | error fault => simp
      | ok tree =>
          by_cases hdepth : maxDepth < tree.depth
          · have hnot : ∀ s : Expr, tree = s → ¬ s.depth ≤ maxDepth := by
              rintro _ rfl
              exact Nat.not_le.mpr hdepth
            simpa [hdepth] using hnot t
          · have hle := Nat.not_lt.mp hdepth
            simp only [hdepth, if_false, Except.ok.injEq, true_and]
            exact ⟨fun h => ⟨h, h ▸ hle⟩, And.left⟩

theorem parse_eq_ok_iff {text : String} {t : Expr} :
    parse text = .ok t ↔ Expression text.toList t ∧ t.WithinLimits := by
  rw [parse_eq_ok_iff_stages, Reader.read_eq_ok_iff]
  constructor
  · rintro ⟨hscan, hexpression, hdepth⟩
    obtain ⟨hgroups, hoperators⟩ := (Limits.excess?_eq_none_iff hexpression).mp hscan
    exact ⟨hexpression, hgroups, hoperators, hdepth⟩
  · rintro ⟨hexpression, hgroups, hoperators, hdepth⟩
    exact ⟨(Limits.excess?_eq_none_iff hexpression).mpr ⟨hgroups, hoperators⟩, hexpression, hdepth⟩

/-- The parser accepts exactly the texts of the grammar whose trees are within the limits, and
on the texts of the grammar the scan refuses exactly those with too many groups or operators. -/
theorem parse_exact (text : String) (t : Expr) :
    (parse text = .ok t ↔ Expression text.toList t ∧ t.WithinLimits) ∧
      (Expression text.toList t →
        (Limits.excess? Limits.start text.toList = none ↔
          t.groupDepth ≤ 32 ∧ t.operatorCount ≤ 1024)) :=
  ⟨parse_eq_ok_iff, Limits.excess?_eq_none_iff⟩

theorem expression_sum_in_group :
    ∃ t, Expression "(a + 1) * b".toList t ∧ t.groupDepth = 1 ∧ t.operatorCount = 2 ∧
      Limits.excess? Limits.start "(a + 1) * b".toList = none := by
  let t : Expr :=
    .binary .mul (.group (.binary .add (.identifier "a") (.int 1))) (.identifier "b")
  have hparse : parse "(a + 1) * b" = .ok t := by decide +kernel
  have hexpression := ((parse_exact "(a + 1) * b" t).1.mp hparse).1
  exact ⟨t, hexpression, rfl, rfl, ((parse_exact _ t).2 hexpression).mpr (by decide)⟩

end Rulebook
