import Rulebook.Proofs.Package.Changes

namespace Rulebook

/-!
# What the trace says after a run

A run empties the trace and adds the mark of each rule that fires. Only an assignment to the trace
can add anything else or take anything away, and only a semicolon in a name can make two names of
it. Where there is neither, the trace lists the rules that fired.
-/

namespace FactTable

theorem resetTrace_insert (facts : FactTable) (value : String) :
    resetTrace (facts.insert traceName value) = facts.resetTrace := by
  apply Table.ext_get?
  intro name
  rw [resetTrace, resetTrace, Table.get?_insert, Table.get?_insert, Table.get?_insert]
  split <;> rfl

theorem resetTrace_erase (facts : FactTable) :
    resetTrace (facts.erase traceName) = facts.resetTrace := by
  apply Table.ext_get?
  intro name
  rw [resetTrace, resetTrace, Table.get?_insert, Table.get?_insert, Table.get?_erase]
  split <;> rfl

end FactTable

namespace CompiledPackage

open FactTable (traceName marks)

theorem run_congr_resetTrace (package : CompiledPackage) (limit : Nat) {facts other : FactTable}
    (h : facts.resetTrace = other.resetTrace) : package.run limit facts = package.run limit other := by
  rw [run, run, h]

theorem get?_traceName_run {package : CompiledPackage} {limit : Nat} {facts : FactTable}
    (h : ∀ change ∈ package.changes limit facts, change.target? ≠ some traceName) :
    (package.run limit facts).2.get? traceName =
      some (marks (Change.firings (package.changes limit facts))) := by
  have hstart : facts.resetTrace.get? traceName = some "" := by
    rw [FactTable.resetTrace, Table.get?_insert, if_pos rfl]
  rw [run_snd, FactTable.get?_replay_traceName h hstart, String.empty_append]

/-- The trace holds the marks of the rules whose condition the run has found true, in declared
order, if nothing is assigned to it. A rule that fails in an action has its mark, a rule that fails
in its condition has none, and neither has a later one. -/
theorem trace_of_run {package : RulePackage} {compiled : CompiledPackage}
    (h : package.compile = .ok compiled) (limit : Nat) (facts : FactTable) :
    ∃ fired,
      fired.Sublist package.ruleNames ∧
      (∀ name, name ∈ fired ↔ compiled.Fires limit compiled.order facts.resetTrace name) ∧
      (∀ e, (compiled.run limit facts).1 = .error e → ∃ before later earlier,
        package.ruleNames = before ++ e.rule :: later ∧ earlier.Sublist before ∧
          fired = earlier ++ if e.site = .condition then [] else [e.rule]) ∧
      ((∀ change ∈ compiled.changes limit facts, change.target? ≠ some traceName) →
        (compiled.run limit facts).2.get? traceName = some (marks fired) ∧
        ((∀ name ∈ package.ruleNames, name ≠ "" ∧ ';' ∉ name.toList) →
          (compiled.run limit facts).2.fired = fired)) ∧
      (∀ stale, compiled.run limit (facts.insert traceName stale) = compiled.run limit facts) ∧
      compiled.run limit (facts.erase traceName) = compiled.run limit facts := by
  have hcompiles := RulePackage.compiles_of_compile h
  have hsublist : (Change.firings (compiled.changes limit facts)).Sublist package.ruleNames :=
    hcompiles.order ▸ firings_sublist hcompiles.named facts.resetTrace
  refine ⟨Change.firings (compiled.changes limit facts), hsublist, ?_, ?_, ?_, ?_, ?_⟩
  · exact mem_firings_iff hcompiles.named facts.resetTrace
  · intro e he
    rw [← hcompiles.order]
    exact firings_of_runNames_eq_error hcompiles.named (Prod.ext he rfl)
  · intro hspared
    refine ⟨get?_traceName_run hspared, fun hnames => ?_⟩
    have hfired : ∀ name ∈ Change.firings (compiled.changes limit facts),
        name ≠ "" ∧ ';' ∉ name.toList := fun name hname => hnames name (hsublist.subset hname)
    rw [FactTable.fired_of_get? (get?_traceName_run hspared) fun name hname =>
      (hfired name hname).2]
    refine List.filter_eq_self.mpr fun name hname => ?_
    simpa using (hfired name hname).1
  · exact fun stale => run_congr_resetTrace compiled limit (facts.resetTrace_insert stale)
  · exact run_congr_resetTrace compiled limit facts.resetTrace_erase

/-! ## A run with three rules

The first rule fires and makes the second one false and the third one true, which then fails. -/

def stockPackage : RulePackage :=
  ⟨"stock", "", "", [⟨"sell", "level == full", ["_level = _low"]⟩,
    ⟨"praise", "level == full", ["_sales = _good"]⟩,
    ⟨"order", "level == low", ["_price = price + 1"]⟩], []⟩

def stockCompiled : CompiledPackage :=
  let level (text : String) : Expr := .binary .eq (.identifier "level") (.identifier text)
  let rules : List CompiledRule := [
    ⟨"sell", level "full", [.binary .assign (.identifier "_level") (.identifier "_low")]⟩,
    ⟨"praise", level "full", [.binary .assign (.identifier "_sales") (.identifier "_good")]⟩,
    ⟨"order", level "low", [.binary .assign (.identifier "_price")
      (.binary .add (.identifier "price") (.literal .int "1"))]⟩]
  ⟨"stock", "", "", rules.foldl (fun table rule => table.insert rule.name rule) .empty,
    rules.map CompiledRule.name, .empty⟩

def stockFacts : FactTable := FactTable.ofList [("level", "full"), ("trace", "stale;")]

theorem trace_of_stock_run :
    stockPackage.compile = .ok stockCompiled ∧
      (stockCompiled.run 256 stockFacts).2.get? traceName = some "sell;order;" ∧
      (stockCompiled.run 256 stockFacts).2.fired = ["sell", "order"] := by
  have hcompile : stockPackage.compile = .ok stockCompiled := by decide +kernel
  have hspared : ∀ change ∈ stockCompiled.changes 256 stockFacts,
      change.target? ≠ some traceName := by decide +kernel
  have hnames : ∀ name ∈ stockPackage.ruleNames, name ≠ "" ∧ ';' ∉ name.toList := by
    decide +kernel
  obtain ⟨fired, _, _, _, htrace, _⟩ := trace_of_run hcompile 256 stockFacts
  obtain ⟨hget, hfired⟩ := htrace hspared
  have hlist : (stockCompiled.run 256 stockFacts).2.fired = ["sell", "order"] := by
    decide +kernel
  obtain rfl : fired = ["sell", "order"] := (hfired hnames).symm.trans hlist
  exact ⟨hcompile, hget, hlist⟩

/-! ## Names that no rule has -/

/-- The names read from the trace are declared rules, each once and in declared order, if nothing
is assigned to the trace and no rule name has a semicolon in it. -/
theorem fired_sublist_ruleNames {package : RulePackage} {compiled : CompiledPackage}
    (h : package.compile = .ok compiled)
    (hnames : ∀ name ∈ package.ruleNames, ';' ∉ name.toList) {limit : Nat} {facts : FactTable}
    (hspared : ∀ change ∈ compiled.changes limit facts, change.target? ≠ some traceName) :
    (compiled.run limit facts).2.fired.Sublist package.ruleNames ∧
      (compiled.run limit facts).2.fired.Nodup := by
  have hcompiles := RulePackage.compiles_of_compile h
  have hfirings : (Change.firings (compiled.changes limit facts)).Sublist package.ruleNames :=
    hcompiles.order ▸ firings_sublist hcompiles.named facts.resetTrace
  have hfired : (compiled.run limit facts).2.fired.Sublist package.ruleNames := by
    rw [FactTable.fired_of_get? (get?_traceName_run hspared) fun name hname =>
      hnames name (hfirings.subset hname)]
    exact List.filter_sublist.trans hfirings
  exact ⟨hfired, hcompiles.distinct.sublist hfired⟩

theorem stock_fired_sublist :
    stockPackage.compile = .ok stockCompiled ∧
      (∀ name ∈ stockPackage.ruleNames, ';' ∉ name.toList) ∧
      (∀ change ∈ stockCompiled.changes 256 stockFacts, change.target? ≠ some traceName) ∧
      (stockCompiled.run 256 stockFacts).2.fired.Sublist ["sell", "praise", "order"] := by
  have hcompile : stockPackage.compile = .ok stockCompiled := by decide +kernel
  have hnames : ∀ name ∈ stockPackage.ruleNames, ';' ∉ name.toList := by decide +kernel
  have hspared : ∀ change ∈ stockCompiled.changes 256 stockFacts,
      change.target? ≠ some traceName := by decide +kernel
  exact ⟨hcompile, hnames, hspared, (fired_sublist_ruleNames hcompile hnames hspared).1⟩

/-- A package with one rule, which fires where the door is shut. -/
def doorPackage (name action : String) : RulePackage :=
  ⟨"door", "", "", [⟨name, "door == shut", [action]⟩], []⟩

def doorCompiled (name target value : String) : CompiledPackage :=
  ⟨"door", "", "", RuleTable.empty.insert name
    ⟨name, .binary .eq (.identifier "door") (.identifier "shut"),
      [.binary .assign (.identifier target) (.identifier value)]⟩, [name], .empty⟩

def doorFacts : FactTable := FactTable.ofList [("door", "shut")]

/-- Neither condition can be left out: an action may write any text to the trace, and a name with
a semicolon is read back as two names. -/
theorem fired_may_list_undeclared_names :
    (¬ ∀ (package : RulePackage) (compiled : CompiledPackage) (facts after : FactTable),
      package.compile = .ok compiled → (∀ name ∈ package.ruleNames, ';' ∉ name.toList) →
        compiled.run 256 facts = (.ok (), after) → after.fired.Sublist package.ruleNames) ∧
    ¬ ∀ (package : RulePackage) (compiled : CompiledPackage) (facts after : FactTable),
      package.compile = .ok compiled →
        (∀ change ∈ compiled.changes 256 facts, change.target? ≠ some traceName) →
        compiled.run 256 facts = (.ok (), after) → after.fired.Sublist package.ruleNames := by
  constructor
  · intro hall
    have hfired : ["ghost"].Sublist ["knock"] :=
      hall (doorPackage "knock" "_trace = _ghost") (doorCompiled "knock" "_trace" "_ghost")
        doorFacts (doorFacts.insert "trace" "ghost") (by decide +kernel) (by decide +kernel)
        (by decide +kernel)
    simp at hfired
  · intro hall
    have hfired : ["knock", "wait"].Sublist ["knock;wait"] :=
      hall (doorPackage "knock;wait" "_bell = _rung") (doorCompiled "knock;wait" "_bell" "_rung")
        doorFacts ((doorFacts.insert "bell" "rung").insert "trace" "knock;wait;")
        (by decide +kernel) (by decide +kernel) (by decide +kernel)
    simp at hfired

end CompiledPackage

end Rulebook
