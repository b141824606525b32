import Rulebook.Proofs.Package.Visits

namespace Rulebook

/-!
# What a failing run leaves behind

A run that fails leaves the facts as they stood when it came to the failing text, and adds the
assignments that this text carried out before it failed. A condition carries out none. An action
carries out some only if an assignment is an operand in it: an assignment takes effect at once and
is not taken back when an operator above it fails.
-/

namespace CompiledPackage

/-- The facts after a failure are those with which the run came to the failing text, and what
this text had assigned until it failed. -/
theorem facts_after_failure {package : RulePackage} {compiled : CompiledPackage}
    (h : package.compile = .ok compiled) {limit : Nat} {facts after : FactTable}
    {e : ExecutionError} (hrun : compiled.run limit facts = (.error e, after)) :
    ∃ standing tree,
      (∀ table, compiled.Reaches limit facts e.rule e.site table ↔ table = standing) ∧
      compiled.tree? e.rule e.site = some tree ∧
      tree.eval e.site.context compiled.filters limit standing = (.error e.source, after) ∧
      after = standing.insertAll
        (tree.writes e.site.context compiled.filters limit standing) ∧
      (e.site = .condition ∨ tree.nestsAssignment = false → after = standing) := by
  have hcompiles := RulePackage.compiles_of_compile h
  have hnodup : compiled.order.Nodup := hcompiles.order ▸ hcompiles.distinct
  obtain ⟨standing, tree, hvisits, htree, hfails⟩ :=
    exists_visits_of_runNames_eq_error hcompiles.named hrun
  have hreaches (table : FactTable) :
      compiled.Reaches limit facts e.rule e.site table ↔ table = standing := by
    constructor
    · intro hother
      exact Visits.unique hnodup hother hvisits
    · rintro rfl
      exact hvisits
  have hafter : after = standing.insertAll
      (tree.writes e.site.context compiled.filters limit standing) := by
    rw [← tree.eval_snd standing, hfails]
  refine ⟨standing, tree, hreaches, htree, hfails, hafter, ?_⟩
  rintro (hsite | hflat)
  · rw [hafter, hsite, Site.context, Expr.writes, Expr.writesAt_condition,
      Table.insertAll_nil]
  · have herror : (tree.evalAt e.site.context compiled.filters limit 1 standing).1 =
        .error e.source := congrArg Prod.fst hfails
    rw [hafter, Expr.writes, Expr.writesAt_of_error hflat herror, Table.insertAll_nil]

/-! ## A chain of assignments

A chain is read from the left, so its first assignment has taken effect when its last part turns
out to be no number. -/

def chain : Expr :=
  .binary .assign (.binary .assign (.identifier "_total") (.identifier "_paid"))
    (.binary .add (.identifier "price") (.literal .int "1"))

def chainPackage : RulePackage :=
  ⟨"order", "", "", [⟨"pay", "item == book", ["_seen = item", "_total = _paid = price + 1"]⟩], []⟩

def chainRule : CompiledRule :=
  ⟨"pay", .binary .eq (.identifier "item") (.identifier "book"),
    [.binary .assign (.identifier "_seen") (.identifier "item"), chain]⟩

def chainCompiled : CompiledPackage :=
  ⟨"order", "", "", RuleTable.empty.insert "pay" chainRule, ["pay"], .empty⟩

def chainFacts : FactTable := FactTable.ofList [("item", "book")]

theorem facts_after_failing_chain :
    let after := FactTable.ofList [("item", "book"), ("seen", "book"), ("total", "paid"),
      ("trace", "pay;")]
    let e : ExecutionError := ⟨"pay", .action 1, .notNumeric "price"⟩
    chainPackage.compile = .ok chainCompiled ∧ chainCompiled.run 256 chainFacts = (.error e, after) ∧
      ∃ standing, chainCompiled.Reaches 256 chainFacts "pay" (.action 1) standing ∧
        after = standing.insertAll (chain.writes .action .empty 256 standing) := by
  intro after e
  have hcompile : chainPackage.compile = .ok chainCompiled := by decide +kernel
  have hrun : chainCompiled.run 256 chainFacts = (.error e, after) := by decide +kernel
  obtain ⟨standing, tree, hreaches, htree, _, hafter, _⟩ := facts_after_failure hcompile hrun
  have hchain : chainCompiled.tree? "pay" (.action 1) = some chain := by decide +kernel
  obtain rfl : chain = tree := Option.some.inj (hchain.symm.trans htree)
  exact ⟨hcompile, hrun, standing, (hreaches standing).mpr rfl, hafter⟩

/-- The facts after a failure are not always those before the failing action. -/
theorem failing_action_may_write :
    ¬ ∀ (package : RulePackage) (compiled : CompiledPackage) (limit : Nat)
      (facts standing after : FactTable) (e : ExecutionError),
      package.compile = .ok compiled → compiled.run limit facts = (.error e, after) →
        compiled.Reaches limit facts e.rule e.site standing → after = standing := by
  intro hatomic
  let standing := FactTable.ofList [("item", "book"), ("seen", "book"), ("trace", "pay;")]
  let after := standing.insert "total" "paid"
  have hcompile : chainPackage.compile = .ok chainCompiled := by decide +kernel
  have hrun : chainCompiled.run 256 chainFacts =
      (.error ⟨"pay", .action 1, .notNumeric "price"⟩, after) := by decide +kernel
  have hreaches : chainCompiled.Reaches 256 chainFacts "pay" (.action 1) standing := by
    have hrule : chainCompiled.rule? "pay" = some chainRule := by decide +kernel
    have hfires : chainRule.outcome .empty 256 chainFacts.resetTrace = .ok Eval.trueText := by
      decide +kernel
    have hbefore : CompiledRule.runActions .empty 256 "pay" 0 (chainRule.actions.take 1)
        (chainFacts.resetTrace.recordFired "pay") = (.ok (), standing) := by decide +kernel
    exact .action hrule hfires (by decide) hbefore
  have hsame : after = standing := hatomic _ _ _ _ _ _ _ hcompile hrun hreaches
  have hdifferent : after ≠ standing := by decide +kernel
  exact hdifferent hsame

end CompiledPackage

end Rulebook
