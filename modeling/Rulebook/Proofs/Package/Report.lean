import Rulebook.Proofs.Package.Compiling

namespace Rulebook

/-!
# The report on a package

A report lists the names that stand twice, in the order of their second places, and then, rule by
rule, the first problem of each text that has one. A package compiles if its report is empty, and
otherwise compiling fails with the whole report and nothing else.
-/

namespace Expr

/-- The operator stands somewhere in the tree. -/
inductive Uses (op : BinaryOp) : Expr → Prop where
  | root (left right : Expr) : Uses op (.binary op left right)
  | left (own : BinaryOp) {left : Expr} (right : Expr) (h : Uses op left) :
      Uses op (.binary own left right)
  | right (own : BinaryOp) (left : Expr) {right : Expr} (h : Uses op right) :
      Uses op (.binary own left right)
  | group {inner : Expr} (h : Uses op inner) : Uses op (.group inner)

/-- The tree is a comparison, or two such trees joined by `&&` or `||`, inside any parentheses. -/
inductive Decides : Expr → Prop where
  | eq (left right : Expr) : Decides (.binary .eq left right)
  | ne (left right : Expr) : Decides (.binary .ne left right)
  | and {left right : Expr} (hleft : Decides left) (hright : Decides right) :
      Decides (.binary .and left right)
  | or {left right : Expr} (hleft : Decides left) (hright : Decides right) :
      Decides (.binary .or left right)
  | group {inner : Expr} (h : Decides inner) : Decides (.group inner)

theorem containsOp_iff_uses {op : BinaryOp} {t : Expr} : t.containsOp op = true ↔ t.Uses op := by
  constructor
  · intro h
    induction t with
    | literal | identifier => cases h
    | group inner ih => exact .group (ih h)
    | binary own left right ihleft ihright =>
        simp only [containsOp, Bool.or_eq_true, beq_iff_eq] at h
        rcases h with (rfl | hleft) | hright
        · exact .root left right
        · exact .left own right (ihleft hleft)
        · exact .right own left (ihright hright)
  · intro h
    induction h with
    | root => simp [containsOp]
    | left own right _ ih => simp [containsOp, ih]
    | right own left _ ih => simp [containsOp, ih]
    | group _ ih => exact ih

theorem isBoolean_iff_decides {t : Expr} : t.isBoolean = true ↔ t.Decides := by
  constructor
  · intro h
    induction t with
    | literal | identifier => cases h
    | group inner ih => exact .group (ih h)
    | binary op left right ihleft ihright =>
        cases op with
        | eq => exact .eq left right
        | ne => exact .ne left right
        | and =>
            obtain ⟨hleft, hright⟩ := (Bool.and_eq_true _ _).mp h
            exact .and (ihleft hleft) (ihright hright)
        | or =>
            obtain ⟨hleft, hright⟩ := (Bool.and_eq_true _ _).mp h
            exact .or (ihleft hleft) (ihright hright)
        | mul | div | add | sub | assign => cases h
  · intro h
    induction h with
    | eq | ne => rfl
    | and _ _ ihleft ihright => simp [isBoolean, ihleft, ihright]
    | or _ _ ihleft ihright => simp [isBoolean, ihleft, ihright]
    | group _ ih => exact ih

instance (op : BinaryOp) (t : Expr) : Decidable (t.Uses op) :=
  decidable_of_iff _ containsOp_iff_uses

instance (t : Expr) : Decidable t.Decides := decidable_of_iff _ isBoolean_iff_decides

end Expr

/-- What is wrong with a text of the rule, if anything is. -/
def Compile.problem? (rule : String) (site : Site) (text : String) : Option CompileError :=
  match parse text, site with
  | .error source, _ => some (.unreadable rule site source)
  | .ok tree, .condition =>
      if tree.Uses .assign then some (.invalidOperator rule .condition .assign)
      else if tree.Decides then none
      else some (.notBoolean rule)
  | .ok tree, .action index =>
      if tree.Uses .ne then some (.invalidOperator rule (.action index) .ne) else none

namespace Rule

/-- The texts of a rule with their sites: its condition, and its actions in order. -/
def sites (rule : Rule) : List (Site × String) :=
  (.condition, rule.condition) :: rule.actions.mapIdx fun index text => (.action index, text)

def problems (rule : Rule) : List CompileError :=
  rule.sites.filterMap fun (site, text) => Compile.problem? rule.name site text

end Rule

namespace RulePackage

/-- The names at those places that have the same name at exactly one place before. -/
def secondNames (package : RulePackage) : List String :=
  let names := package.ruleNames
  (names.zipIdx.filter fun (name, place) => (names.take place).count name == 1).map Prod.fst

def report (package : RulePackage) : List CompileError :=
  package.secondNames.map CompileError.duplicateRule ++ package.rules.flatMap Rule.problems

end RulePackage

namespace Compile

/-! ## Names that stand twice -/

theorem repeated_reverse (before names : List String) :
    repeated before.reverse names =
      ((names.zipIdx before.length).filter fun (name, place) =>
        ((before ++ names).take place).count name == 1).map Prod.fst := by
  induction names generalizing before with
  | nil => rfl
  | cons name rest ih =>
      have hrest : repeated (name :: before.reverse) rest =
          ((rest.zipIdx (before.length + 1)).filter fun (other, place) =>
            ((before ++ name :: rest).take place).count other == 1).map Prod.fst := by
        simpa using ih (before ++ [name])
      rw [repeated, hrest, List.zipIdx_cons, List.filter_cons]
      simp only [List.take_left', List.count_reverse, beq_iff_eq]
      split <;> rfl

theorem repeated_nil (package : RulePackage) :
    repeated [] package.ruleNames = package.secondNames := by
  simpa [RulePackage.secondNames] using repeated_reverse [] package.ruleNames

theorem mem_repeated_iff {before names : List String} {name : String} :
    name ∈ repeated before names ↔
      before.count name ≤ 1 ∧ 2 ≤ before.count name + names.count name := by
  induction names generalizing before with
  | nil =>
      simp only [repeated, List.not_mem_nil, List.count_nil, false_iff]
      omega
  | cons first rest ih =>
      unfold repeated
      by_cases heq : name = first
      · subst heq
        split
        · next hcount =>
            refine iff_of_true List.mem_cons_self ⟨by omega, ?_⟩
            rw [List.count_cons_self]
            omega
        · next hcount =>
            rw [ih, List.count_cons_self, List.count_cons_self]
            omega
      · have hne : first ≠ name := fun h => heq h.symm
        split
        · rw [List.mem_cons, ih, List.count_cons_of_ne hne, List.count_cons_of_ne hne]
          exact or_iff_right heq
        · rw [ih, List.count_cons_of_ne hne, List.count_cons_of_ne hne]

theorem nodup_repeated (before names : List String) : (repeated before names).Nodup := by
  induction names generalizing before with
  | nil => exact List.nodup_nil
  | cons name rest ih =>
      unfold repeated
      split
      · next hcount =>
          refine List.nodup_cons.mpr ⟨fun hmem => ?_, ih _⟩
          -- The name stands twice by now, so it is not listed again.
          have hagain := (mem_repeated_iff.mp hmem).1
          rw [List.count_cons_self] at hagain
          omega
      · exact ih _

/-! ## Problems of the texts -/

/-- The errors of a result, none if it is a value. -/
def failures {ε α : Type} : Except (List ε) α → List ε
  | .ok _ => []
  | .error errors => errors

theorem failures_gather {ε α : Type} (results : List (Except (List ε) α)) :
    failures (gather results) = results.flatMap failures := by
  induction results with
  | nil => rfl
  | cons result rest ih =>
      rw [List.flatMap_cons, ← ih]
      cases result <;> cases hrest : gather rest <;> simp [gather, hrest, failures]

theorem failures_readSite (rule : String) (site : Site) (text : String) :
    failures (readSite rule site text) = (problem? rule site text).toList := by
  unfold readSite readText problem?
  cases parse text with
  | error source => rfl
  | ok tree =>
      cases site with
      | condition =>
          simp only [forbidden, true_and, Expr.containsOp_iff_uses, ← Bool.not_eq_true,
            Expr.isBoolean_iff_decides]
          by_cases huses : tree.Uses .assign
          · simp [huses, failures]
          · by_cases hdecides : tree.Decides <;> simp [huses, hdecides, failures]
      | action index =>
          simp only [forbidden, Expr.containsOp_iff_uses]
          by_cases huses : tree.Uses .ne <;> simp [huses, failures]

theorem failures_readActions (rule : String) (actions : List String) :
    (readActions rule actions).flatMap failures =
      (actions.mapIdx fun index text => (Site.action index, text)).filterMap
        fun (site, text) => problem? rule site text := by
  rw [List.filterMap_eq_flatMap_toList, readActions, List.mapIdx_eq_zipIdx_map,
    List.mapIdx_eq_zipIdx_map, List.flatMap_map, List.flatMap_map]
  simp only [failures_readSite]

theorem ruleErrors_eq_problems (rule : Rule) : ruleErrors rule = rule.problems := by
  have hsplit : ruleErrors rule =
      failures (readSite rule.name .condition rule.condition) ++
        failures (gather (readActions rule.name rule.actions)) := by
    unfold ruleErrors compileRule
    cases readSite rule.name .condition rule.condition <;>
      cases gather (readActions rule.name rule.actions) <;> simp [failures]
  rw [hsplit, failures_readSite, failures_gather, failures_readActions, Rule.problems, Rule.sites]
  cases hcondition : problem? rule.name .condition rule.condition <;> simp [hcondition]

theorem errors_eq_report (package : RulePackage) :
    (package.rules.foldl Progress.add (.start package)).errors = package.report := by
  rw [errors_foldl_add, RulePackage.report, ← repeated_nil, Progress.start]
  exact congrArg (_ ++ ·) (List.flatMap_congr fun rule _ => ruleErrors_eq_problems rule)

end Compile

namespace CompileError

theorem errors_of_isMultiple_eq_false {e : CompileError} (h : e.isMultiple = false) :
    e.errors = [e] := by
  cases e with
  | multiple => cases h
  | unreadable | duplicateRule | invalidOperator | notBoolean => rw [errors]

theorem allErrors_of_forall {errors : List CompileError}
    (h : ∀ e ∈ errors, e.isMultiple = false) : allErrors errors = errors := by
  induction errors with
  | nil => rw [allErrors]
  | cons e rest ih =>
      obtain ⟨he, hrest⟩ := List.forall_mem_cons.mp h
      rw [allErrors, errors_of_isMultiple_eq_false he, ih hrest, List.singleton_append]

theorem errors_ofList {errors : List CompileError} (hne : errors ≠ [])
    (h : ∀ e ∈ errors, e.isMultiple = false) : (ofList errors).errors = errors := by
  match errors with
  | [] => exact absurd rfl hne
  | [e] => exact errors_of_isMultiple_eq_false (h e List.mem_cons_self)
  | first :: second :: rest =>
      rw [ofList, CompileError.errors]
      · exact allErrors_of_forall h
      · simp

end CompileError

theorem Compile.isMultiple_of_problem? {rule : String} {site : Site} {text : String}
    {e : CompileError} (h : problem? rule site text = some e) : e.isMultiple = false := by
  unfold problem? at h
  split at h
  · cases h
    rfl
  · split at h
    · cases h
      rfl
    · split at h
      · cases h
      · cases h
        rfl
  · split at h
    · cases h
      rfl
    · cases h

namespace RulePackage

theorem isMultiple_of_mem_report {package : RulePackage} {e : CompileError}
    (h : e ∈ package.report) : e.isMultiple = false := by
  rcases List.mem_append.mp h with h | h
  · obtain ⟨name, _, rfl⟩ := List.mem_map.mp h
    rfl
  · obtain ⟨rule, _, h⟩ := List.mem_flatMap.mp h
    obtain ⟨_, _, h⟩ := List.mem_filterMap.mp h
    exact Compile.isMultiple_of_problem? h

theorem compile_of_report_nil {package : RulePackage} (h : package.report = []) :
    ∃ compiled, package.compile = .ok compiled := by
  rw [compile, Compile.errors_eq_report, h]
  exact ⟨_, rfl⟩

theorem compile_of_report_ne_nil {package : RulePackage} (h : package.report ≠ []) :
    package.compile = .error (.ofList package.report) := by
  rw [compile, Compile.errors_eq_report]
  cases hreport : package.report with
  | nil => exact absurd hreport h
  | cons first rest => rfl

/-- Compiling succeeds if and only if nothing is wrong, and else fails with all that is: one
problem as it is, several as a list. -/
theorem compile_reports (package : RulePackage) :
    (package.secondNames.Nodup ∧
      ∀ name, name ∈ package.secondNames ↔ 2 ≤ package.ruleNames.count name) ∧
    ((∃ compiled, package.compile = .ok compiled) ↔ package.report = []) ∧
    (∀ e, package.report = [e] → package.compile = .error e) ∧
    (2 ≤ package.report.length → package.compile = .error (.multiple package.report)) ∧
    ∀ e, package.compile = .error e → e.errors = package.report := by
  refine ⟨⟨?_, ?_⟩, ⟨?_, compile_of_report_nil⟩, ?_, ?_, ?_⟩
  · rw [← Compile.repeated_nil]
    exact Compile.nodup_repeated [] package.ruleNames
  · intro name
    rw [← Compile.repeated_nil, Compile.mem_repeated_iff]
    simp
  · rintro ⟨compiled, hcompile⟩
    by_contra hne
    rw [compile_of_report_ne_nil hne] at hcompile
    cases hcompile
  · intro e hreport
    rw [compile_of_report_ne_nil (by simp [hreport]), hreport]
    rfl
  · intro hlength
    rw [compile_of_report_ne_nil (List.ne_nil_of_length_pos (by omega))]
    match hreport : package.report, hlength with
    | first :: second :: rest, _ => rfl
  · intro e hcompile
    have hne : package.report ≠ [] := by
      intro hnil
      obtain ⟨compiled, hok⟩ := compile_of_report_nil hnil
      rw [hok] at hcompile
      cases hcompile
    rw [compile_of_report_ne_nil hne] at hcompile
    rw [← Except.error.inj hcompile]
    exact CompileError.errors_ofList hne fun e he => isMultiple_of_mem_report he

/-- The name counts once, each text at most once, and the second rule is looked at like the
first. -/
theorem compile_reports_till :
    let package : RulePackage := ⟨"till", "", "", [⟨"pay", "item = book", ["_paid = 1", "paid != 2"]⟩,
      ⟨"pay", "item", []⟩], []⟩
    let single : RulePackage := ⟨"till", "", "", [⟨"pay", "item", []⟩], []⟩
    package.report.map CompileError.message = ["duplicate rule name 'pay'",
        "operator '=' is not allowed in rule 'pay' condition",
        "operator '!=' is not allowed in rule 'pay' action #1",
        "condition of rule 'pay' does not yield true or false"] ∧
      package.compile = .error (.multiple package.report) ∧
      (CompileError.multiple package.report).errors = package.report ∧
      ∃ e, single.report = [e] ∧ single.compile = .error e := by
  intro package single
  obtain ⟨_, _, _, hmany, herrors⟩ := compile_reports package
  have hcompile : package.compile = .error (.multiple package.report) := hmany (by decide +kernel)
  have hlength : single.report.length = 1 := by decide +kernel
  obtain ⟨e, hreport⟩ := List.length_eq_one_iff.mp hlength
  exact ⟨by decide +kernel, hcompile, herrors _ hcompile, e, hreport,
    (compile_reports single).2.2.1 e hreport⟩

end RulePackage

end Rulebook
