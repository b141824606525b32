import Rulebook.Proofs.Facts.Marks
import Rulebook.Proofs.Package.Visits

namespace Rulebook

/-!
# The changes that a run makes

All that a run does to the facts is a list of changes: assignments, and marks of rules that fire.
The facts afterwards are the facts before with these changes made in order. A rule has its mark in
the list if and only if the run comes to its condition and finds it true.
-/

inductive Change where
  | assign (name value : String)
  | fire (rule : String)
  deriving DecidableEq, Repr

namespace Change

def make (facts : FactTable) : Change → FactTable
  | assign name value => facts.insert name value
  | fire rule => facts.recordFired rule

def ofWrite (write : String × String) : Change := assign write.1 write.2

/-- The name of the fact that an assignment writes. -/
def target? : Change → Option String
  | assign name _ => some name
  | fire _ => none

def rule? : Change → Option String
  | assign _ _ => none
  | fire rule => some rule

/-- The rules that fire in a list of changes, in order. -/
def firings (changes : List Change) : List String := changes.filterMap rule?

@[simp] theorem firings_append (first second : List Change) :
    firings (first ++ second) = firings first ++ firings second :=
  List.filterMap_append

@[simp] theorem firings_ofWrite (writes : List (String × String)) :
    firings (writes.map ofWrite) = [] := by
  simp [firings, List.filterMap_map, Function.comp_def, ofWrite, rule?]

end Change

namespace FactTable

def replay (facts : FactTable) (changes : List Change) : FactTable := changes.foldl Change.make facts

theorem replay_append (facts : FactTable) (first second : List Change) :
    facts.replay (first ++ second) = (facts.replay first).replay second :=
  List.foldl_append

theorem replay_ofWrite (facts : FactTable) (writes : List (String × String)) :
    facts.replay (writes.map Change.ofWrite) = facts.insertAll writes :=
  List.foldl_map

/-- Without assignments to it, the trace only grows by the marks. -/
theorem get?_replay_traceName {changes : List Change}
    (h : ∀ change ∈ changes, change.target? ≠ some traceName) {facts : FactTable} {trace : String}
    (htrace : facts.get? traceName = some trace) :
    (facts.replay changes).get? traceName =
      some (trace ++ marks (Change.firings changes)) := by
  induction changes generalizing facts trace with
  | nil => simpa [replay, Change.firings, marks] using htrace
  | cons change rest ih =>
      obtain ⟨hchange, hrest⟩ := List.forall_mem_cons.mp h
      cases change with
      | assign name value =>
          have hname : traceName ≠ name := fun heq => hchange (congrArg some heq.symm)
          have hkept : (facts.insert name value).get? traceName = some trace := by
            rw [Table.get?_insert, if_neg hname, htrace]
          exact ih hrest hkept
      | fire rule =>
          have hgrown : (facts.replay (.fire rule :: rest)).get? traceName =
              some (trace ++ rule ++ ";" ++ marks (Change.firings rest)) :=
            ih hrest (get?_recordFired htrace rule)
          simpa [Change.firings, Change.rule?, marks, String.append_assoc] using hgrown

end FactTable

namespace CompiledRule

variable {filters : FilterIndex} {limit : Nat}

/-- The assignments of actions in a row, until one of them fails. -/
def actionWrites (filters : FilterIndex) (limit : Nat) :
    List Expr → FactTable → List (String × String)
  | [], _ => []
  | action :: rest, facts =>
      action.writes .action filters limit facts ++
        match action.eval .action filters limit facts with
        | (.error _, _) => []
        | (.ok _, facts) => actionWrites filters limit rest facts

theorem runActions_snd (rule : String) (start : Nat) (actions : List Expr) (facts : FactTable) :
    (runActions filters limit rule start actions facts).2 =
      facts.insertAll (actionWrites filters limit actions facts) := by
  induction actions generalizing start facts with
  | nil => rfl
  | cons action rest ih =>
      have haction : (action.eval .action filters limit facts).2 =
          facts.insertAll (action.writes .action filters limit facts) := action.eval_snd facts
      unfold runActions actionWrites
      rw [Table.insertAll_append, ← haction]
      rcases action.eval .action filters limit facts with ⟨_ | value, between⟩
      · rfl
      · exact ih (start + 1) between

/-- The changes of a rule that is recorded as `name`. -/
def changes (filters : FilterIndex) (limit : Nat) (name : String) (rule : CompiledRule)
    (facts : FactTable) : List Change :=
  match rule.outcome filters limit facts with
  | .error _ => []
  | .ok value =>
      if value = Eval.trueText then
        .fire name ::
          (actionWrites filters limit rule.actions (facts.recordFired name)).map .ofWrite
      else []

theorem changes_of_outcome_error {rule : CompiledRule} {facts : FactTable} {source : EvalError}
    (h : rule.outcome filters limit facts = .error source) (name : String) :
    rule.changes filters limit name facts = [] := by
  rw [changes, h]

theorem changes_of_outcome_true {rule : CompiledRule} {facts : FactTable}
    (h : rule.outcome filters limit facts = .ok Eval.trueText) (name : String) :
    rule.changes filters limit name facts = .fire name ::
      (actionWrites filters limit rule.actions (facts.recordFired name)).map .ofWrite := by
  rw [changes, h]
  exact if_pos rfl

theorem changes_of_outcome_ne_true {rule : CompiledRule} {facts : FactTable} {value : String}
    (h : rule.outcome filters limit facts = .ok value) (hvalue : value ≠ Eval.trueText)
    (name : String) : rule.changes filters limit name facts = [] := by
  rw [changes, h]
  exact if_neg hvalue

theorem run_snd (name : String) (rule : CompiledRule) (facts : FactTable) :
    (rule.run filters limit name facts).2 =
      facts.replay (rule.changes filters limit name facts) := by
  rcases rule.outcome_cases filters limit facts with
    ⟨source, hfails⟩ | hfires | ⟨value, hvalue, hne⟩
  · rw [run_of_outcome_error hfails, changes_of_outcome_error hfails]
    rfl
  · rw [run_of_outcome_true hfires, changes_of_outcome_true hfires, runActions_snd]
    exact (FactTable.replay_ofWrite _ _).symm
  · rw [run_of_outcome_ne_true hvalue hne, changes_of_outcome_ne_true hvalue hne]
    rfl

theorem firings_of_outcome_true {rule : CompiledRule} {facts : FactTable}
    (h : rule.outcome filters limit facts = .ok Eval.trueText) (name : String) :
    Change.firings (rule.changes filters limit name facts) = [name] := by
  rw [changes_of_outcome_true h]
  exact congrArg (name :: ·) (Change.firings_ofWrite _)

theorem firings_of_outcome_ne {rule : CompiledRule} {facts : FactTable}
    (h : rule.outcome filters limit facts ≠ .ok Eval.trueText) (name : String) :
    Change.firings (rule.changes filters limit name facts) = [] := by
  rcases rule.outcome_cases filters limit facts with
    ⟨source, hfails⟩ | hfires | ⟨value, hvalue, hne⟩
  · rw [changes_of_outcome_error hfails]
    rfl
  · exact absurd hfires h
  · rw [changes_of_outcome_ne_true hvalue hne]
    rfl

theorem mem_firings_changes_iff {name other : String} {rule : CompiledRule} {facts : FactTable} :
    other ∈ Change.firings (rule.changes filters limit name facts) ↔
      other = name ∧ rule.outcome filters limit facts = .ok Eval.trueText := by
  by_cases h : rule.outcome filters limit facts = .ok Eval.trueText
  · simp [firings_of_outcome_true h, h]
  · simp [firings_of_outcome_ne h, h]

theorem firings_changes_sublist (filters : FilterIndex) (limit : Nat) (name : String)
    (rule : CompiledRule) (facts : FactTable) :
    (Change.firings (rule.changes filters limit name facts)).Sublist [name] := by
  by_cases h : rule.outcome filters limit facts = .ok Eval.trueText
  · rw [firings_of_outcome_true h]
  · rw [firings_of_outcome_ne h]
    exact List.nil_sublist [name]

/-- A rule that fails in an action has fired, and one that fails in its condition has not. -/
theorem firings_of_run_eq_error {name : String} {rule : CompiledRule} {facts after : FactTable}
    {e : ExecutionError} (h : rule.run filters limit name facts = (.error e, after)) :
    e.rule = rule.name ∧ Change.firings (rule.changes filters limit name facts) =
      if e.site = .condition then [] else [name] := by
  rcases rule.outcome_cases filters limit facts with
    ⟨source, hfails⟩ | hfires | ⟨value, hvalue, hne⟩
  · rw [run_of_outcome_error hfails] at h
    cases h
    exact ⟨rfl, by rw [changes_of_outcome_error hfails]; rfl⟩
  · rw [run_of_outcome_true hfires, runActions_eq_error_iff] at h
    obtain ⟨index, standing, action, source, _, _, _, rfl⟩ := h
    exact ⟨rfl, firings_of_outcome_true hfires name⟩
  · rw [run_of_outcome_ne_true hvalue hne] at h
    cases h

end CompiledRule

namespace CompiledPackage

/-- The changes of a run through `names`. -/
def changesFrom (package : CompiledPackage) (limit : Nat) :
    List String → FactTable → List Change
  | [], _ => []
  | name :: rest, facts =>
      match package.rule? name with
      | none => []
      | some rule =>
          rule.changes package.filters limit name facts ++
            match rule.run package.filters limit name facts with
            | (.error _, _) => []
            | (.ok (), facts) => package.changesFrom limit rest facts

/-- The changes of a run, behind the emptying of the trace. -/
def changes (package : CompiledPackage) (limit : Nat) (facts : FactTable) : List Change :=
  package.changesFrom limit package.order facts.resetTrace

variable {package : CompiledPackage} {limit : Nat}

theorem changesFrom_cons_of_error {name : String} {rest : List String} {rule : CompiledRule}
    (hrule : package.rule? name = some rule) {facts after : FactTable} {e : ExecutionError}
    (hrun : rule.run package.filters limit name facts = (.error e, after)) :
    package.changesFrom limit (name :: rest) facts =
      rule.changes package.filters limit name facts := by
  simp only [changesFrom, hrule, hrun, List.append_nil]

theorem changesFrom_cons_of_ok {name : String} {rest : List String} {rule : CompiledRule}
    (hrule : package.rule? name = some rule) {facts after : FactTable}
    (hrun : rule.run package.filters limit name facts = (.ok (), after)) :
    package.changesFrom limit (name :: rest) facts =
      rule.changes package.filters limit name facts ++ package.changesFrom limit rest after := by
  simp only [changesFrom, hrule, hrun]

theorem runNames_snd (names : List String) (facts : FactTable) :
    (package.runNames limit names facts).2 =
      facts.replay (package.changesFrom limit names facts) := by
  induction names generalizing facts with
  | nil => rfl
  | cons name rest ih =>
      cases hrule : package.rule? name with
      | none =>
          simp only [runNames, changesFrom, hrule]
          rfl
      | some rule =>
          have hsnd : (rule.run package.filters limit name facts).2 =
              facts.replay (rule.changes package.filters limit name facts) :=
            rule.run_snd name facts
          rcases hrun : rule.run package.filters limit name facts with ⟨_ | _, between⟩
          · rw [hrun] at hsnd
            rw [runNames_cons_of_error hrule hrun, changesFrom_cons_of_error hrule hrun]
            exact hsnd
          · rw [hrun] at hsnd
            rw [runNames_cons_of_ok hrule hrun, changesFrom_cons_of_ok hrule hrun, ih,
              FactTable.replay_append, ← hsnd]

theorem run_snd (package : CompiledPackage) (limit : Nat) (facts : FactTable) :
    (package.run limit facts).2 = facts.resetTrace.replay (package.changes limit facts) :=
  runNames_snd package.order facts.resetTrace

/-! ## The rules that fire -/

/-- A run through `names` from `facts` comes to the condition of a rule and finds it true. -/
def Fires (package : CompiledPackage) (limit : Nat) (names : List String) (facts : FactTable)
    (name : String) : Prop :=
  ∃ rule standing, package.rule? name = some rule ∧
    package.Visits limit names facts name .condition standing ∧
    rule.outcome package.filters limit standing = .ok Eval.trueText

theorem fires_cons_iff {first name : String} {rest : List String} {facts : FactTable}
    {rule : CompiledRule} (hrule : package.rule? first = some rule) :
    package.Fires limit (first :: rest) facts name ↔
      name = first ∧ rule.outcome package.filters limit facts = .ok Eval.trueText ∨
      ∃ between, rule.run package.filters limit first facts = (.ok (), between) ∧
        package.Fires limit rest between name :=
  yields_cons_iff hrule

theorem mem_firings_iff {names : List String} (hnamed : package.Named names) (facts : FactTable)
    (name : String) :
    name ∈ Change.firings (package.changesFrom limit names facts) ↔
      package.Fires limit names facts name := by
  induction names generalizing facts with
  | nil =>
      refine ⟨nofun, ?_⟩
      rintro ⟨_, _, _, hvisits, _⟩
      cases hvisits
  | cons first rest ih =>
      obtain ⟨⟨rule, hrule, _⟩, hrest⟩ := List.forall_mem_cons.mp hnamed
      rw [fires_cons_iff hrule]
      rcases hrun : rule.run package.filters limit first facts with ⟨_ | _, between⟩
      · rw [changesFrom_cons_of_error hrule hrun, CompiledRule.mem_firings_changes_iff]
        simp
      · rw [changesFrom_cons_of_ok hrule hrun, Change.firings_append, List.mem_append,
          CompiledRule.mem_firings_changes_iff, ih hrest]
        simp

theorem firings_sublist {names : List String} (hnamed : package.Named names) (facts : FactTable) :
    (Change.firings (package.changesFrom limit names facts)).Sublist names := by
  induction names generalizing facts with
  | nil => exact List.nil_sublist []
  | cons name rest ih =>
      obtain ⟨⟨rule, hrule, _⟩, hrest⟩ := List.forall_mem_cons.mp hnamed
      have hfirst : (Change.firings (rule.changes package.filters limit name facts)).Sublist
          [name] := rule.firings_changes_sublist package.filters limit name facts
      rcases hrun : rule.run package.filters limit name facts with ⟨_ | _, between⟩
      · rw [changesFrom_cons_of_error hrule hrun]
        exact hfirst.trans (List.sublist_append_left [name] rest)
      · rw [changesFrom_cons_of_ok hrule hrun, Change.firings_append]
        exact hfirst.append (ih hrest between)

/-- After a failure the last rule to fire is the failing one, or one before it if the failure is
in a condition. -/
theorem firings_of_runNames_eq_error {names : List String} (hnamed : package.Named names)
    {facts after : FactTable} {e : ExecutionError}
    (h : package.runNames limit names facts = (.error e, after)) :
    ∃ before later fired, names = before ++ e.rule :: later ∧ fired.Sublist before ∧
      Change.firings (package.changesFrom limit names facts) =
        fired ++ if e.site = .condition then [] else [e.rule] := by
  induction names generalizing facts with
  | nil => cases h
  | cons name rest ih =>
      obtain ⟨⟨rule, hrule, hname⟩, hrest⟩ := List.forall_mem_cons.mp hnamed
      rcases hrun : rule.run package.filters limit name facts with ⟨failure | _, between⟩
      · rw [runNames_cons_of_error hrule hrun] at h
        cases h
        obtain ⟨howner, hfirings⟩ := CompiledRule.firings_of_run_eq_error hrun
        have hrule' : e.rule = name := howner.trans hname
        refine ⟨[], rest, [], by rw [hrule']; rfl, List.nil_sublist [], ?_⟩
        rw [changesFrom_cons_of_error hrule hrun, hfirings, hrule']
        rfl
      · rw [runNames_cons_of_ok hrule hrun] at h
        obtain ⟨before, later, fired, rfl, hfired, hfirings⟩ := ih hrest h
        have hfirst : (Change.firings (rule.changes package.filters limit name facts)).Sublist
            [name] := rule.firings_changes_sublist package.filters limit name facts
        refine ⟨name :: before, later, _ ++ fired, rfl, hfirst.append hfired, ?_⟩
        rw [changesFrom_cons_of_ok hrule hrun, Change.firings_append, hfirings,
          List.append_assoc]

end CompiledPackage

end Rulebook
