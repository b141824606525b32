import Rulebook.Proofs.Eval.Formula
import Rulebook.Proofs.Package.Trace

namespace Rulebook

/-!
# Rules whose condition is false

A rule that is found false leaves the facts as they are, and no other rule asks for it. So a run
goes the same way through the package without such rules, and in a run that succeeds the rules that
fire are enough.
-/

namespace CompiledPackage

/-- A run through `names` from `facts` comes to the condition of a rule and finds it false. -/
def Rejects (package : CompiledPackage) (limit : Nat) (names : List String) (facts : FactTable)
    (name : String) : Prop :=
  package.Yields limit names facts name Eval.falseText

variable {package : CompiledPackage} {limit : Nat}

theorem Yields.mem {names : List String} {facts : FactTable} {name value : String}
    (h : package.Yields limit names facts name value) : name ∈ names := by
  obtain ⟨_, _, _, hvisits, _⟩ := h
  exact hvisits.mem

/-- The run through the names that are kept is the run through all of them. -/
theorem runNames_filter {smaller : CompiledPackage} (hfilters : smaller.filters = package.filters)
    {names : List String} (hnodup : names.Nodup) (hnamed : package.Named names)
    {keep : String → Bool}
    (hsame : ∀ name ∈ names, keep name = true → smaller.rule? name = package.rule? name)
    {facts : FactTable}
    (hrejects : ∀ name ∈ names, keep name = false → package.Rejects limit names facts name) :
    smaller.runNames limit (names.filter keep) facts = package.runNames limit names facts := by
  induction names generalizing facts with
  | nil => rfl
  | cons name rest ih =>
      obtain ⟨hfresh, hnodup⟩ := List.nodup_cons.mp hnodup
      obtain ⟨⟨rule, hrule, _⟩, hnamed⟩ := List.forall_mem_cons.mp hnamed
      obtain ⟨hfirst, hsame⟩ := List.forall_mem_cons.mp hsame
      have hrest {between : FactTable}
          (hrun : rule.run package.filters limit name facts = (.ok (), between)) :
          ∀ other ∈ rest, keep other = false → package.Rejects limit rest between other := by
        intro other hother hdropped
        have hrejected := hrejects other (List.mem_cons_of_mem _ hother) hdropped
        rcases (yields_cons_iff hrule).mp hrejected with ⟨rfl, _⟩ | ⟨standing, hstanding, hlater⟩
        · exact absurd hother hfresh
        · obtain rfl := (Prod.mk.inj (hrun.symm.trans hstanding)).2
          exact hlater
      cases hkeep : keep name with
      | false =>
          have hfalse : rule.outcome package.filters limit facts = .ok Eval.falseText := by
            have hrejected := hrejects name List.mem_cons_self hkeep
            rcases (yields_cons_iff hrule).mp hrejected with ⟨_, hfalse⟩ | ⟨_, _, hlater⟩
            · exact hfalse
            · exact absurd hlater.mem hfresh
          have hrun : rule.run package.filters limit name facts = (.ok (), facts) :=
            CompiledRule.run_of_outcome_ne_true hfalse (by decide) name
          rw [List.filter_cons_of_neg (by simp [hkeep]), runNames_cons_of_ok hrule hrun]
          exact ih hnodup hnamed hsame (hrest hrun)
      | true =>
          have hrule' : smaller.rule? name = some rule := (hfirst hkeep).trans hrule
          rw [List.filter_cons_of_pos hkeep]
          rcases hrun : rule.run package.filters limit name facts with ⟨e | _, between⟩
          · rw [runNames_cons_of_error hrule hrun,
              runNames_cons_of_error hrule' (hfilters ▸ hrun)]
          · rw [runNames_cons_of_ok hrule hrun, runNames_cons_of_ok hrule' (hfilters ▸ hrun)]
            exact ih hnodup hnamed hsame (hrest hrun)

theorem exists_visits_of_runNames_eq_ok {names : List String} (hnamed : package.Named names)
    {facts after : FactTable} (h : package.runNames limit names facts = (.ok (), after))
    {name : String} (hname : name ∈ names) :
    ∃ standing, package.Visits limit names facts name .condition standing := by
  induction names generalizing facts with
  | nil => cases hname
  | cons first rest ih =>
      obtain ⟨⟨rule, hrule, _⟩, hnamed⟩ := List.forall_mem_cons.mp hnamed
      rcases List.mem_cons.mp hname with rfl | hname
      · exact ⟨facts, .condition name rest facts⟩
      · rcases hrun : rule.run package.filters limit first facts with ⟨e | _, between⟩
        · rw [runNames_cons_of_error hrule hrun] at h
          cases h
        · rw [runNames_cons_of_ok hrule hrun] at h
          obtain ⟨standing, hvisits⟩ := ih hnamed h hname
          exact ⟨standing, .later hrule hrun hvisits⟩

end CompiledPackage

namespace RulePackage

/-- The package with those of its rules that are kept. -/
def restrict (package : RulePackage) (keep : Rule → Bool) : RulePackage :=
  { package with rules := package.rules.filter keep }

variable {package : RulePackage} {compiled : CompiledPackage}

/-- A rule of a run that succeeds has a condition that is true or false. -/
theorem Compiles.fires_or_rejects (h : package.Compiles compiled) {limit : Nat}
    {facts after : FactTable}
    (hrun : compiled.runNames limit compiled.order facts = (.ok (), after)) {rule : Rule}
    (hrule : rule ∈ package.rules) :
    compiled.Fires limit compiled.order facts rule.name ∨
      compiled.Rejects limit compiled.order facts rule.name := by
  have hname : rule.name ∈ compiled.order := h.order ▸ List.mem_map_of_mem hrule
  obtain ⟨standing, hvisits⟩ :=
    CompiledPackage.exists_visits_of_runNames_eq_ok h.named hrun hname
  obtain ⟨tree, htree, hreads⟩ := h.reads rule hrule
  have heval : tree.condition.eval .condition compiled.filters limit standing =
      (tree.outcome compiled.filters limit standing, standing) := tree.eval_condition standing
  cases houtcome : tree.outcome compiled.filters limit standing with
  | error source =>
      rw [houtcome] at heval
      have hfails := hvisits.runNames_eq_error h.named
        (CompiledPackage.tree?_of_rule? htree .condition) heval
      rw [hrun] at hfails
      cases hfails
  | ok value =>
      rcases Expr.isTruth_of_outcomeAt (hreads.condition.boolean rfl) houtcome with rfl | rfl
      · exact Or.inl ⟨tree, standing, htree, hvisits, houtcome⟩
      · exact Or.inr ⟨tree, standing, htree, hvisits, houtcome⟩

theorem Compiles.exists_compile_restrict (h : package.Compiles compiled) (keep : Rule → Bool) :
    ∃ smaller, (package.restrict keep).compile = .ok smaller := by
  have hdistinct : (package.restrict keep).ruleNames.Nodup :=
    h.distinct.sublist (List.filter_sublist.map Rule.name)
  refine exists_compile_eq_ok hdistinct fun rule hrule => ?_
  obtain ⟨tree, _, hreads⟩ := h.reads rule (List.mem_of_mem_filter hrule)
  exact ⟨tree, hreads⟩

theorem Compiles.run_restrict (h : package.Compiles compiled) {limit : Nat} {facts : FactTable}
    {keep : Rule → Bool}
    (hrejects : ∀ rule ∈ package.rules, keep rule = false →
      compiled.Rejects limit compiled.order facts.resetTrace rule.name)
    {smaller : CompiledPackage} (hsmaller : (package.restrict keep).Compiles smaller) :
    smaller.run limit facts = compiled.run limit facts := by
  -- Names are distinct, so keeping a rule is keeping its name.
  let keepName (name : String) : Bool :=
    decide (name ∈ (package.restrict keep).ruleNames)
  have hkeep : ∀ rule ∈ package.rules, keepName rule.name = keep rule := by
    intro rule hrule
    rw [Bool.eq_iff_iff, decide_eq_true_iff]
    constructor
    · intro hname
      obtain ⟨other, hother, hsame⟩ := List.mem_map.mp hname
      obtain ⟨hother, hkept⟩ := List.mem_filter.mp hother
      obtain rfl : other = rule := List.inj_on_of_nodup_map h.distinct hother hrule hsame
      exact hkept
    · intro hkept
      exact List.mem_map_of_mem (List.mem_filter.mpr ⟨hrule, hkept⟩)
  have hnames : smaller.order = compiled.order.filter keepName := by
    rw [hsmaller.order, h.order, ruleNames, ruleNames, List.filter_map]
    exact congrArg (List.map Rule.name) (List.filter_congr fun rule hrule => (hkeep rule hrule).symm)
  have hfilters : smaller.filters = compiled.filters := hsmaller.filters.trans h.filters.symm
  have hsame : ∀ name ∈ compiled.order, keepName name = true →
      smaller.rule? name = compiled.rule? name := by
    intro name hname hkept
    rw [h.order] at hname
    obtain ⟨rule, hrule, rfl⟩ := List.mem_map.mp hname
    have hmem : rule ∈ (package.restrict keep).rules :=
      List.mem_filter.mpr ⟨hrule, (hkeep rule hrule).symm.trans hkept⟩
    exact hsmaller.rule?_congr h hmem hrule
  rw [CompiledPackage.run, CompiledPackage.run, hnames]
  refine CompiledPackage.runNames_filter hfilters (h.order ▸ h.distinct) h.named hsame ?_
  intro name hname hdropped
  rw [h.order] at hname
  obtain ⟨rule, hrule, rfl⟩ := List.mem_map.mp hname
  exact hrejects rule hrule ((hkeep rule hrule).symm.trans hdropped)

/-- Rules that a run finds false may be deleted: what is left compiles, and its run has the same
outcome and leaves the same facts, the trace among them. If the run succeeds, the rules that fire
are enough. -/
theorem run_without_rejected (h : package.compile = .ok compiled) (limit : Nat)
    (facts : FactTable) :
    (∀ keep : Rule → Bool,
      (∀ rule ∈ package.rules, keep rule = false →
        compiled.Rejects limit compiled.order facts.resetTrace rule.name) →
      ∃ smaller, (package.restrict keep).compile = .ok smaller ∧
        smaller.run limit facts = compiled.run limit facts) ∧
    ∀ keep : Rule → Bool, (compiled.run limit facts).1 = .ok () →
      (∀ rule ∈ package.rules, keep rule = true ↔
        compiled.Fires limit compiled.order facts.resetTrace rule.name) →
      ∃ smaller, (package.restrict keep).compile = .ok smaller ∧
        smaller.run limit facts = compiled.run limit facts := by
  have hcompiles := compiles_of_compile h
  have hdelete : ∀ keep : Rule → Bool,
      (∀ rule ∈ package.rules, keep rule = false →
        compiled.Rejects limit compiled.order facts.resetTrace rule.name) →
      ∃ smaller, (package.restrict keep).compile = .ok smaller ∧
        smaller.run limit facts = compiled.run limit facts := by
    intro keep hrejects
    obtain ⟨smaller, hsmaller⟩ := hcompiles.exists_compile_restrict keep
    exact ⟨smaller, hsmaller, hcompiles.run_restrict hrejects (compiles_of_compile hsmaller)⟩
  refine ⟨hdelete, fun keep hrun hfires => hdelete keep fun rule hrule hdropped => ?_⟩
  rcases hcompiles.fires_or_rejects (Prod.ext hrun rfl) hrule with hfired | hrejected
  · rw [(hfires rule hrule).mpr hfired] at hdropped
    cases hdropped
  · exact hrejected

open CompiledPackage (stockPackage stockCompiled stockFacts) in
/-- The second of the three rules is false. With a price to raise the run succeeds. -/
theorem stock_run_without_praise :
    let keep (rule : Rule) : Bool := rule.name != "praise"
    let priced := stockFacts.insert "price" "3"
    stockPackage.compile = .ok stockCompiled ∧
      (stockCompiled.run 256 stockFacts).1 ≠ .ok () ∧ (stockCompiled.run 256 priced).1 = .ok () ∧
      (∃ smaller, (stockPackage.restrict keep).compile = .ok smaller ∧
        smaller.run 256 stockFacts = stockCompiled.run 256 stockFacts) ∧
      ∃ smaller, (stockPackage.restrict keep).compile = .ok smaller ∧
        smaller.run 256 priced = stockCompiled.run 256 priced := by
  intro keep priced
  have hcompile : stockPackage.compile = .ok stockCompiled := by decide +kernel
  have hnamed := (compiles_of_compile hcompile).named
  have hok : (stockCompiled.run 256 priced).1 = .ok () := by decide +kernel
  have hfires : ∀ rule ∈ stockPackage.rules, keep rule = true ↔
      stockCompiled.Fires 256 stockCompiled.order (.resetTrace priced) rule.name := by
    simp only [← CompiledPackage.mem_firings_iff hnamed]
    decide +kernel
  have hrejects : ∀ rule ∈ stockPackage.rules, keep rule = false →
      stockCompiled.Rejects 256 stockCompiled.order stockFacts.resetTrace rule.name := by
    let sold := (stockFacts.resetTrace.recordFired "sell").insert "level" "low"
    have hdropped : ∀ rule ∈ stockPackage.rules, keep rule = false → rule.name = "praise" := by
      decide +kernel
    have hsell : ∃ rule, stockCompiled.rule? "sell" = some rule ∧
        rule.run .empty 256 "sell" stockFacts.resetTrace = (.ok (), sold) :=
      ⟨⟨"sell", .binary .eq (.identifier "level") (.identifier "full"),
        [.binary .assign (.identifier "_level") (.identifier "_low")]⟩, by decide +kernel⟩
    have hpraise : ∃ rule, stockCompiled.rule? "praise" = some rule ∧
        rule.outcome .empty 256 sold = .ok Eval.falseText :=
      ⟨⟨"praise", .binary .eq (.identifier "level") (.identifier "full"),
        [.binary .assign (.identifier "_sales") (.identifier "_good")]⟩, by decide +kernel⟩
    intro rule hrule hkeep
    obtain ⟨first, hfirst, hrun⟩ := hsell
    obtain ⟨second, hsecond, hfalse⟩ := hpraise
    rw [hdropped rule hrule hkeep]
    exact ⟨second, sold, hsecond, .later hfirst hrun (.condition "praise" ["order"] sold), hfalse⟩
  exact ⟨hcompile, by decide +kernel, hok,
    (run_without_rejected hcompile 256 stockFacts).1 keep hrejects,
    (run_without_rejected hcompile 256 priced).2 keep hok hfires⟩

end RulePackage

end Rulebook
