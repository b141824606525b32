import Rulebook.Proofs.Eval.Agreement
import Rulebook.Proofs.Package.Visits

namespace Rulebook

/-!
# Failing conditions fail on all facts

Whether a condition can be evaluated is settled by its tree and the depth limit. So a rule whose
condition fails in one run stops every other run that comes to it, whatever the facts are and
whatever earlier rules have made of them.
-/

namespace CompiledPackage

theorem run_eq_error_of_reaches {package : CompiledPackage} (hnamed : package.Named package.order)
    {limit : Nat} {facts after otherFacts standing : FactTable} {rule : String}
    {source : EvalError}
    (hrun : package.run limit facts = (.error ⟨rule, .condition, source⟩, after))
    (hreaches : package.Reaches limit otherFacts rule .condition standing) :
    ∃ other, package.run limit otherFacts = (.error ⟨rule, .condition, other⟩, standing) ∧
      Eval.Agree (.error source) (.error other) := by
  obtain ⟨first, tree, _, htree, hfails⟩ := exists_visits_of_runNames_eq_error hnamed hrun
  have hagree : Eval.Agree (.error source)
      (tree.eval .condition package.filters limit standing).1 := by
    have hfirst : (tree.eval .condition package.filters limit first).1 = .error source :=
      congrArg Prod.fst hfails
    rw [← hfirst]
    exact tree.agree_evalAt limit 1 package.filters package.filters first standing
  obtain ⟨other, hother⟩ := hagree.exists_eq_error
  have hstanding : tree.eval .condition package.filters limit standing =
      (.error other, standing) := Prod.ext hother (tree.eval_condition_snd standing)
  exact ⟨other, hreaches.runNames_eq_error hnamed htree hstanding, hother ▸ hagree⟩

/-- Two evaluations of a tree as a condition, on any facts and with any filters, both succeed or
both fail, and differ in truth values only. So if a condition of a package fails in one run, then
each run with the same limit that comes to it fails there. -/
theorem condition_failure_independent :
    (∀ (t : Expr) (limit : Nat) (filters others : FilterIndex) (facts otherFacts : FactTable),
      Eval.Agree (t.eval .condition filters limit facts).1
        (t.eval .condition others limit otherFacts).1) ∧
    ∀ (package : RulePackage) (compiled : CompiledPackage), package.compile = .ok compiled →
      ∀ (limit : Nat) (facts otherFacts standing : FactTable) (rule : String) (source : EvalError),
        (compiled.run limit facts).1 = .error ⟨rule, .condition, source⟩ →
        compiled.Reaches limit otherFacts rule .condition standing →
        ∃ other, (compiled.run limit otherFacts).1 = .error ⟨rule, .condition, other⟩ ∧
          Eval.Agree (.error source) (.error other) := by
  constructor
  · intro t limit filters others facts otherFacts
    exact t.agree_evalAt limit 1 filters others facts otherFacts
  · intro package compiled hcompile limit facts otherFacts standing rule source hrun hreaches
    have hnamed := (RulePackage.compiles_of_compile hcompile).named
    obtain ⟨other, hother, hagree⟩ := run_eq_error_of_reaches hnamed (Prod.ext hrun rfl) hreaches
    exact ⟨other, congrArg Prod.fst hother, hagree⟩

/-- A truth value is no summand. The first rule fires for one of the tables only. -/
theorem sum_of_truth_fails_on_all_facts :
    let package : RulePackage := ⟨"tank", "", "", [⟨"fill", "level == low", ["_level = _full"]⟩,
      ⟨"check", "(level == full) + 1 == 2", []⟩], []⟩
    let level (text : String) : Expr := .binary .eq (.identifier "level") (.identifier text)
    let fill : CompiledRule := ⟨"fill", level "low",
      [.binary .assign (.identifier "_level") (.identifier "_full")]⟩
    let check : CompiledRule := ⟨"check", .binary .eq
      (.binary .add (.group (level "full")) (.literal .int "1")) (.literal .int "2"), []⟩
    let compiled : CompiledPackage := ⟨"tank", "", "",
      (RuleTable.empty.insert "fill" fill).insert "check" check, ["fill", "check"], .empty⟩
    let low := FactTable.ofList [("level", "low")]
    package.compile = .ok compiled ∧
      (compiled.run 256 low).1 = .error ⟨"check", .condition, .notNumeric "true"⟩ ∧
      ∃ other, (compiled.run 256 .empty).1 = .error ⟨"check", .condition, other⟩ := by
  intro package level fill check compiled low
  have hcompile : package.compile = .ok compiled := by decide +kernel
  have hlow : (compiled.run 256 low).1 = .error ⟨"check", .condition, .notNumeric "true"⟩ := by
    decide +kernel
  have hreaches : compiled.Reaches 256 .empty "check" .condition (.resetTrace .empty) := by
    have hfill : compiled.rule? "fill" = some fill := by decide +kernel
    have hpassed : fill.run .empty 256 "fill" (.resetTrace .empty) =
        (.ok (), .resetTrace .empty) := by decide +kernel
    exact .later hfill hpassed (.condition "check" [] _)
  obtain ⟨other, hother, _⟩ := condition_failure_independent.2 package compiled hcompile 256 low
    .empty _ "check" _ hlow hreaches
  exact ⟨hcompile, hlow, other, hother⟩

end CompiledPackage

end Rulebook
