import Rulebook.Package.Run
import Rulebook.Proofs.Eval.Writes
import Rulebook.Proofs.Package.Compiling

namespace Rulebook

/-!
# The sites that a run comes to

A run comes to the condition of a rule when all rules before it are done, and to an action when
the condition has yielded `true` and the actions before it are done. It fails where a tree that it
comes to fails on the facts of that moment, and nowhere else.
-/

namespace CompiledRule

/-- What the condition yields. It leaves the facts alone, so only the result is of interest. -/
def outcome (filters : FilterIndex) (limit : Nat) (rule : CompiledRule) (facts : FactTable) :
    Except EvalError String :=
  (rule.condition.eval .condition filters limit facts).1

def tree? (rule : CompiledRule) : Site → Option Expr
  | .condition => some rule.condition
  | .action index => rule.actions[index]?

variable {filters : FilterIndex} {limit : Nat}

theorem eval_condition (rule : CompiledRule) (facts : FactTable) :
    rule.condition.eval .condition filters limit facts =
      (rule.outcome filters limit facts, facts) :=
  Prod.ext rfl (rule.condition.eval_condition_snd facts)

/-! ## Actions in a row -/

theorem runActions_cons_of_error {rule : String} {start : Nat} {action : Expr} {rest : List Expr}
    {facts after : FactTable} {source : EvalError}
    (h : action.eval .action filters limit facts = (.error source, after)) :
    runActions filters limit rule start (action :: rest) facts =
      (.error ⟨rule, .action start, source⟩, after) := by
  rw [runActions, h]

theorem runActions_cons_of_ok {rule : String} {start : Nat} {action : Expr} {rest : List Expr}
    {facts after : FactTable} {value : String}
    (h : action.eval .action filters limit facts = (.ok value, after)) :
    runActions filters limit rule start (action :: rest) facts =
      runActions filters limit rule (start + 1) rest after := by
  rw [runActions, h]

/-- Actions fail at the first of them that fails, on the facts that those before it leave. -/
theorem runActions_eq_error_iff {rule : String} {start : Nat} {actions : List Expr}
    {facts after : FactTable} {e : ExecutionError} :
    runActions filters limit rule start actions facts = (.error e, after) ↔
      ∃ index standing action source,
        runActions filters limit rule start (actions.take index) facts = (.ok (), standing) ∧
        actions[index]? = some action ∧
        action.eval .action filters limit standing = (.error source, after) ∧
        e = ⟨rule, .action (start + index), source⟩ := by
  induction actions generalizing start facts with
  | nil => simp [runActions]
  | cons first rest ih =>
      rcases heval : first.eval .action filters limit facts with ⟨source | value, between⟩
      · rw [runActions_cons_of_error heval]
        constructor
        · intro h
          cases h
          exact ⟨0, facts, first, source, rfl, rfl, heval, rfl⟩
        · rintro ⟨_ | index, standing, action, source, hbefore, haction, hfails, rfl⟩
          · cases hbefore
            cases haction
            rw [heval] at hfails
            cases hfails
            rfl
          · -- No later action can fail, since the first one is not done.
            rw [List.take_succ_cons, runActions_cons_of_error heval] at hbefore
            cases hbefore
      · rw [runActions_cons_of_ok heval, ih]
        constructor
        · rintro ⟨index, standing, action, source, hbefore, haction, hfails, rfl⟩
          refine ⟨index + 1, standing, action, source, ?_, haction, hfails, ?_⟩
          · rw [List.take_succ_cons, runActions_cons_of_ok heval]
            exact hbefore
          · rw [Nat.add_right_comm, Nat.add_assoc]
        · rintro ⟨_ | index, standing, action, source, hbefore, haction, hfails, rfl⟩
          · cases hbefore
            cases haction
            rw [heval] at hfails
            cases hfails
          · rw [List.take_succ_cons, runActions_cons_of_ok heval] at hbefore
            refine ⟨index, standing, action, source, hbefore, haction, hfails, ?_⟩
            rw [Nat.add_right_comm, Nat.add_assoc]

/-! ## A rule -/

theorem run_of_outcome_error {rule : CompiledRule} {facts : FactTable} {source : EvalError}
    (h : rule.outcome filters limit facts = .error source) (name : String) :
    rule.run filters limit name facts = (.error ⟨rule.name, .condition, source⟩, facts) := by
  rw [run, eval_condition, h]

theorem run_of_outcome_true {rule : CompiledRule} {facts : FactTable}
    (h : rule.outcome filters limit facts = .ok Eval.trueText) (name : String) :
    rule.run filters limit name facts =
      runActions filters limit rule.name 0 rule.actions (facts.recordFired name) := by
  rw [run, eval_condition, h]
  exact if_pos rfl

theorem run_of_outcome_ne_true {rule : CompiledRule} {facts : FactTable} {value : String}
    (h : rule.outcome filters limit facts = .ok value) (hvalue : value ≠ Eval.trueText)
    (name : String) : rule.run filters limit name facts = (.ok (), facts) := by
  rw [run, eval_condition, h]
  exact if_neg hvalue

/-- The three ways of a rule: its condition fails, it fires, or it is passed over. -/
theorem outcome_cases (filters : FilterIndex) (limit : Nat) (rule : CompiledRule)
    (facts : FactTable) :
    (∃ source, rule.outcome filters limit facts = .error source) ∨
      rule.outcome filters limit facts = .ok Eval.trueText ∨
      ∃ value, rule.outcome filters limit facts = .ok value ∧ value ≠ Eval.trueText := by
  cases rule.outcome filters limit facts with
  | error source => exact Or.inl ⟨source, rfl⟩
  | ok value =>
      by_cases hvalue : value = Eval.trueText
      · exact Or.inr (Or.inl (hvalue ▸ rfl))
      · exact Or.inr (Or.inr ⟨value, rfl, hvalue⟩)

end CompiledRule

namespace CompiledPackage

def tree? (package : CompiledPackage) (name : String) (site : Site) : Option Expr :=
  (package.rule? name).bind fun rule => rule.tree? site

/-- A run through `names` from `facts` comes to a site of the rule `name` with the facts
`standing`. -/
inductive Visits (package : CompiledPackage) (limit : Nat) :
    List String → FactTable → String → Site → FactTable → Prop where
  | condition (name : String) (rest : List String) (facts : FactTable) :
      Visits package limit (name :: rest) facts name .condition facts
  | action {name : String} {rest : List String} {facts standing : FactTable} {index : Nat}
      {rule : CompiledRule} (hrule : package.rule? name = some rule)
      (hfires : rule.outcome package.filters limit facts = .ok Eval.trueText)
      (hindex : index < rule.actions.length)
      (hbefore : CompiledRule.runActions package.filters limit rule.name 0
        (rule.actions.take index) (facts.recordFired name) = (.ok (), standing)) :
      Visits package limit (name :: rest) facts name (.action index) standing
  | later {first name : String} {rest : List String} {facts between standing : FactTable}
      {rule : CompiledRule} {site : Site} (hrule : package.rule? first = some rule)
      (hrun : rule.run package.filters limit first facts = (.ok (), between))
      (hrest : Visits package limit rest between name site standing) :
      Visits package limit (first :: rest) facts name site standing

/-- A run of the package on `facts` comes to a site of the rule `name` with the facts
`standing`. -/
def Reaches (package : CompiledPackage) (limit : Nat) (facts : FactTable) (name : String)
    (site : Site) (standing : FactTable) : Prop :=
  package.Visits limit package.order facts.resetTrace name site standing

/-- Every name has its rule, and the rule has that name. -/
def Named (package : CompiledPackage) (names : List String) : Prop :=
  ∀ name ∈ names, ∃ rule, package.rule? name = some rule ∧ rule.name = name

variable {package : CompiledPackage} {limit : Nat}

theorem tree?_of_rule? {name : String} {rule : CompiledRule}
    (h : package.rule? name = some rule) (site : Site) :
    package.tree? name site = rule.tree? site := by
  rw [tree?, h, Option.bind_some]

theorem runNames_cons_of_error {name : String} {rest : List String} {rule : CompiledRule}
    (hrule : package.rule? name = some rule) {facts after : FactTable} {e : ExecutionError}
    (hrun : rule.run package.filters limit name facts = (.error e, after)) :
    package.runNames limit (name :: rest) facts = (.error e, after) := by
  simp only [runNames, hrule, hrun]

theorem runNames_cons_of_ok {name : String} {rest : List String} {rule : CompiledRule}
    (hrule : package.rule? name = some rule) {facts after : FactTable}
    (hrun : rule.run package.filters limit name facts = (.ok (), after)) :
    package.runNames limit (name :: rest) facts = package.runNames limit rest after := by
  simp only [runNames, hrule, hrun]

theorem Visits.mem {names : List String} {facts standing : FactTable} {name : String}
    {site : Site} (h : package.Visits limit names facts name site standing) : name ∈ names := by
  induction h with
  | condition | action => exact List.mem_cons_self
  | later _ _ _ ih => exact List.mem_cons_of_mem _ ih

/-- A run through `names` from `facts` comes to the condition of a rule, which yields `value`. -/
def Yields (package : CompiledPackage) (limit : Nat) (names : List String) (facts : FactTable)
    (name value : String) : Prop :=
  ∃ rule standing, package.rule? name = some rule ∧
    package.Visits limit names facts name .condition standing ∧
    rule.outcome package.filters limit standing = .ok value

theorem yields_cons_iff {first name value : String} {rest : List String} {facts : FactTable}
    {rule : CompiledRule} (hrule : package.rule? first = some rule) :
    package.Yields limit (first :: rest) facts name value ↔
      name = first ∧ rule.outcome package.filters limit facts = .ok value ∨
      ∃ between, rule.run package.filters limit first facts = (.ok (), between) ∧
        package.Yields limit rest between name value := by
  constructor
  · rintro ⟨own, standing, hown, hvisits, hvalue⟩
    cases hvisits with
    | condition =>
        obtain rfl := Option.some.inj (hrule.symm.trans hown)
        exact Or.inl ⟨rfl, hvalue⟩
    | later hfirst hrun hrest =>
        obtain rfl := Option.some.inj (hrule.symm.trans hfirst)
        exact Or.inr ⟨_, hrun, own, standing, hown, hrest, hvalue⟩
  · rintro (⟨rfl, hvalue⟩ | ⟨between, hrun, own, standing, hown, hvisits, hvalue⟩)
    · exact ⟨rule, facts, hrule, .condition name rest facts, hvalue⟩
    · exact ⟨own, standing, hown, .later hrule hrun hvisits, hvalue⟩

/-- A name that stands only once is come to with one table. -/
theorem Visits.unique {names : List String} (hnames : names.Nodup) {facts : FactTable}
    {name : String} {site : Site} {standing other : FactTable}
    (h : package.Visits limit names facts name site standing)
    (hother : package.Visits limit names facts name site other) : standing = other := by
  -- Two visits part only if the name stands again in the rest.
  induction h with
  | condition name rest facts =>
      cases hother with
      | condition => rfl
      | later _ _ hrest => exact absurd hrest.mem (List.nodup_cons.mp hnames).1
  | action hrule _ _ hbefore =>
      cases hother with
      | action hrule' _ _ hbefore' =>
          obtain rfl := Option.some.inj (hrule.symm.trans hrule')
          exact (Prod.mk.inj (hbefore.symm.trans hbefore')).2
      | later _ _ hrest => exact absurd hrest.mem (List.nodup_cons.mp hnames).1
  | later hrule hrun hrest ih =>
      cases hother with
      | condition | action => exact absurd hrest.mem (List.nodup_cons.mp hnames).1
      | later hrule' hrun' hrest' =>
          obtain rfl := Option.some.inj (hrule.symm.trans hrule')
          obtain rfl := (Prod.mk.inj (hrun.symm.trans hrun')).2
          exact ih (List.nodup_cons.mp hnames).2 hrest'

/-- A tree that fails where the run comes to it ends the run. -/
theorem Visits.runNames_eq_error {names : List String} (hnamed : package.Named names)
    {facts standing after : FactTable} {name : String} {site : Site} {tree : Expr}
    {source : EvalError} (h : package.Visits limit names facts name site standing)
    (htree : package.tree? name site = some tree)
    (hfails : tree.eval site.context package.filters limit standing = (.error source, after)) :
    package.runNames limit names facts = (.error ⟨name, site, source⟩, after) := by
  induction h with
  | condition name rest facts =>
      obtain ⟨rule, hrule, hname⟩ := hnamed name List.mem_cons_self
      rw [tree?_of_rule? hrule] at htree
      have hcondition : rule.condition = tree := Option.some.inj htree
      have houtcome : rule.outcome package.filters limit facts = .error source := by
        rw [CompiledRule.outcome, hcondition]
        exact congrArg Prod.fst hfails
      have hafter : facts = after := by
        have hsnd := congrArg Prod.snd hfails
        rwa [Site.context, tree.eval_condition_snd] at hsnd
      rw [runNames_cons_of_error hrule (CompiledRule.run_of_outcome_error houtcome name), hname,
        hafter]
  | @action name rest facts standing index rule hrule hfires _ hbefore =>
      obtain ⟨other, hother, hname⟩ := hnamed name List.mem_cons_self
      obtain rfl : rule = other := Option.some.inj (hrule.symm.trans hother)
      rw [tree?_of_rule? hrule] at htree
      have hactions : CompiledRule.runActions package.filters limit rule.name 0 rule.actions
          (facts.recordFired name) = (.error ⟨rule.name, .action index, source⟩, after) :=
        CompiledRule.runActions_eq_error_iff.mpr
          ⟨index, standing, tree, source, hbefore, htree, hfails, by rw [Nat.zero_add]⟩
      rw [runNames_cons_of_error hrule
        ((CompiledRule.run_of_outcome_true hfires name).trans hactions), hname]
  | later hrule hrun _ ih =>
      rw [runNames_cons_of_ok hrule hrun]
      exact ih (fun other hother => hnamed other (List.mem_cons_of_mem _ hother)) htree hfails

theorem exists_visits_of_run_eq_error {name : String} {rest : List String}
    {rule : CompiledRule} (hrule : package.rule? name = some rule) (hname : rule.name = name)
    {facts after : FactTable} {e : ExecutionError}
    (h : rule.run package.filters limit name facts = (.error e, after)) :
    ∃ standing tree, package.Visits limit (name :: rest) facts e.rule e.site standing ∧
      package.tree? e.rule e.site = some tree ∧
      tree.eval e.site.context package.filters limit standing = (.error e.source, after) := by
  rcases rule.outcome_cases package.filters limit facts with
    ⟨source, hfails⟩ | hfires | ⟨value, hvalue, hne⟩
  · rw [CompiledRule.run_of_outcome_error hfails, hname] at h
    cases h
    refine ⟨facts, rule.condition, .condition name rest facts, tree?_of_rule? hrule _, ?_⟩
    exact (rule.eval_condition facts).trans (by rw [hfails])
  · rw [CompiledRule.run_of_outcome_true hfires, CompiledRule.runActions_eq_error_iff] at h
    obtain ⟨index, standing, action, source, hbefore, haction, hfails, rfl⟩ := h
    have hindex : index < rule.actions.length := (List.getElem?_eq_some_iff.mp haction).1
    simp only [hname, Nat.zero_add]
    exact ⟨standing, action, .action hrule hfires hindex hbefore,
      (tree?_of_rule? hrule _).trans haction, hfails⟩
  · rw [CompiledRule.run_of_outcome_ne_true hvalue hne] at h
    cases h

/-- A run that fails has come to a tree that fails. -/
theorem exists_visits_of_runNames_eq_error {names : List String} (hnamed : package.Named names)
    {facts after : FactTable} {e : ExecutionError}
    (h : package.runNames limit names facts = (.error e, after)) :
    ∃ standing tree, package.Visits limit names facts e.rule e.site standing ∧
      package.tree? e.rule e.site = some tree ∧
      tree.eval e.site.context package.filters limit standing = (.error e.source, after) := by
  induction names generalizing facts with
  | nil => cases h
  | cons name rest ih =>
      obtain ⟨⟨rule, hrule, hname⟩, hrest⟩ := List.forall_mem_cons.mp hnamed
      rcases hrun : rule.run package.filters limit name facts with ⟨failure | _, between⟩
      · rw [runNames_cons_of_error hrule hrun] at h
        cases h
        exact exists_visits_of_run_eq_error hrule hname hrun
      · rw [runNames_cons_of_ok hrule hrun] at h
        obtain ⟨standing, tree, hvisits, htree, hfails⟩ := ih hrest h
        exact ⟨standing, tree, .later hrule hrun hvisits, htree, hfails⟩

end CompiledPackage

theorem RulePackage.Compiles.named {package : RulePackage} {compiled : CompiledPackage}
    (h : package.Compiles compiled) : compiled.Named compiled.order := by
  intro name hname
  rw [h.order] at hname
  obtain ⟨rule, _, rfl, tree, htree, hreads⟩ := h.exists_rule hname
  exact ⟨tree, htree, hreads.name⟩

end Rulebook
