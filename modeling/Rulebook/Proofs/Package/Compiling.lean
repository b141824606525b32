import Mathlib.Data.List.Forall2
import Mathlib.Data.List.Nodup
import Rulebook.Package.Compile

namespace Rulebook

/-!
# What compiling accepts

A package compiles only if its rule names are distinct and every text of its rules is accepted in
its place. The compiled package then holds, under the name of each rule, the trees of its texts,
and lists the names in declared order.
-/

namespace Compile

/-! ## Single texts -/

/-- The text is read as the tree, and the tree may stand at the site. -/
structure Accepts (site : Site) (text : String) (tree : Expr) : Prop where
  reads : parse text = .ok tree
  allowed : tree.containsOp (forbidden site) = false
  boolean : site = .condition → tree.isBoolean = true

theorem readText_eq_ok_iff {rule : String} {site : Site} {text : String} {tree : Expr} :
    readText rule site text = .ok tree ↔ Accepts site text tree := by
  unfold readText
  constructor
  · intro h
    split at h
    · cases h
    · next other hparse =>
        split at h
        · cases h
        · next hallowed =>
            split at h
            · cases h
            · next hboolean =>
                obtain rfl : other = tree := Except.ok.inj h
                refine ⟨hparse, by simpa using hallowed, fun hsite => ?_⟩
                simpa [hsite] using hboolean
  · rintro ⟨hparse, hallowed, hboolean⟩
    have hnot : ¬ (site = .condition ∧ tree.isBoolean = false) := by
      rintro ⟨hsite, hfalse⟩
      simp [hboolean hsite] at hfalse
    simp [hparse, hallowed, hnot]

theorem readSite_eq_ok_iff {rule : String} {site : Site} {text : String} {tree : Expr} :
    readSite rule site text = .ok tree ↔ Accepts site text tree := by
  rw [← @readText_eq_ok_iff rule]
  unfold readSite
  cases readText rule site text <;> simp

/-! ## Rules -/

/-- The trees of a rule, text by text. Actions are accepted alike wherever they stand. -/
structure Reads (rule : Rule) (compiled : CompiledRule) : Prop where
  name : compiled.name = rule.name
  condition : Accepts .condition rule.condition compiled.condition
  actions : List.Forall₂ (Accepts (.action 0)) rule.actions compiled.actions

theorem accepts_action_iff {index : Nat} {text : String} {tree : Expr} :
    Accepts (.action index) text tree ↔ Accepts (.action 0) text tree :=
  ⟨fun ⟨hreads, hallowed, _⟩ => ⟨hreads, hallowed, nofun⟩,
    fun ⟨hreads, hallowed, _⟩ => ⟨hreads, hallowed, nofun⟩⟩

theorem gather_cons_eq_ok_iff {ε α : Type} {result : Except (List ε) α}
    {rest : List (Except (List ε) α)} {values : List α} :
    gather (result :: rest) = .ok values ↔
      ∃ first others, result = .ok first ∧ gather rest = .ok others ∧ values = first :: others := by
  cases result <;> cases hrest : gather rest <;> simp [gather, hrest, eq_comm]

/-- All results are values when each is one, and a value does not depend on the index. -/
theorem gather_mapIdx_eq_ok_iff {ε α β : Type} {related : α → β → Prop} {items : List α}
    {values : List β} {f : Nat → α → Except (List ε) β}
    (hf : ∀ index item value, f index item = .ok value ↔ related item value) :
    gather (items.mapIdx f) = .ok values ↔ List.Forall₂ related items values := by
  -- The indices of the rest are shifted, so `f` changes along the list.
  induction items generalizing values f with
  | nil => cases values <;> simp [gather]
  | cons item rest ih =>
      rw [List.mapIdx_cons, gather_cons_eq_ok_iff]
      simp only [hf, ih fun index => hf (index + 1)]
      constructor
      · rintro ⟨first, others, hfirst, hothers, rfl⟩
        exact .cons hfirst hothers
      · intro h
        cases h with
        | cons hfirst hothers => exact ⟨_, _, hfirst, hothers, rfl⟩

theorem compileRule_eq_ok_iff {rule : Rule} {compiled : CompiledRule} :
    compileRule rule = .ok compiled ↔ Reads rule compiled := by
  have hcondition (tree : Expr) :
      readSite rule.name .condition rule.condition = .ok tree ↔
        Accepts .condition rule.condition tree := readSite_eq_ok_iff
  have hactions (trees : List Expr) :
      gather (readActions rule.name rule.actions) = .ok trees ↔
        List.Forall₂ (Accepts (.action 0)) rule.actions trees :=
    gather_mapIdx_eq_ok_iff fun _ _ _ => readSite_eq_ok_iff.trans accepts_action_iff
  obtain ⟨name, condition, actions⟩ := compiled
  constructor
  · intro h
    unfold compileRule at h
    split at h
    · next tree trees htree htrees =>
        obtain ⟨rfl, rfl, rfl⟩ := CompiledRule.mk.inj (Except.ok.inj h)
        exact ⟨rfl, (hcondition _).mp htree, (hactions _).mp htrees⟩
    all_goals cases h
  · rintro ⟨rfl, htree, htrees⟩
    simp [compileRule, (hcondition _).mpr htree, (hactions _).mpr htrees]

theorem Reads.unique {rule : Rule} {a b : CompiledRule} (ha : Reads rule a) (hb : Reads rule b) :
    a = b :=
  Except.ok.inj ((compileRule_eq_ok_iff.mpr ha).symm.trans (compileRule_eq_ok_iff.mpr hb))

/-! ## Problems -/

/-- The problems of a rule, none if it compiles. -/
def ruleErrors (rule : Rule) : List CompileError :=
  match compileRule rule with
  | .ok _ => []
  | .error errors => errors

theorem readSite_ne_error_nil (rule : String) (site : Site) (text : String) :
    readSite rule site text ≠ .error [] := by
  unfold readSite
  cases readText rule site text <;> simp

theorem gather_ne_error_nil {ε α : Type} {results : List (Except (List ε) α)}
    (h : ∀ result ∈ results, result ≠ .error []) : gather results ≠ .error [] := by
  induction results with
  | nil => simp [gather]
  | cons result rest ih =>
      obtain ⟨hresult, hrest⟩ := List.forall_mem_cons.mp h
      have ih := ih hrest
      cases result <;> cases hgather : gather rest <;> simp_all [gather]

theorem compileRule_ne_error_nil (rule : Rule) : compileRule rule ≠ .error [] := by
  have hcondition := readSite_ne_error_nil rule.name .condition rule.condition
  have hactions : gather (readActions rule.name rule.actions) ≠ .error [] := by
    refine gather_ne_error_nil fun result hresult => ?_
    obtain ⟨index, hindex, rfl⟩ := List.mem_mapIdx.mp hresult
    exact readSite_ne_error_nil rule.name (.action index) rule.actions[index]
  unfold compileRule
  split <;> simp_all

theorem ruleErrors_eq_nil_iff {rule : Rule} :
    ruleErrors rule = [] ↔ ∃ compiled, Reads rule compiled := by
  simp only [← compileRule_eq_ok_iff, ruleErrors]
  cases hrule : compileRule rule with
  | ok compiled => simp
  | error errors =>
      have hne : errors ≠ [] := by
        rintro rfl
        exact compileRule_ne_error_nil rule hrule
      simp [hne]

theorem repeated_eq_nil_iff {before names : List String} (hbefore : before.Nodup) :
    repeated before names = [] ↔ names.Nodup ∧ ∀ name ∈ names, name ∉ before := by
  induction names generalizing before with
  | nil => simp [repeated]
  | cons name rest ih =>
      unfold repeated
      by_cases hmem : name ∈ before
      · simp [List.nodup_iff_count_eq_one.mp hbefore name hmem, hmem]
      · have hcount : before.count name ≠ 1 := by simp [List.count_eq_zero_of_not_mem hmem]
        rw [if_neg hcount, ih (List.nodup_cons.mpr ⟨hmem, hbefore⟩), List.nodup_cons]
        simp only [List.mem_cons, not_or, forall_eq_or_imp]
        constructor
        · rintro ⟨hrest, hapart⟩
          refine ⟨⟨fun hname => (hapart name hname).1 rfl, hrest⟩, hmem, ?_⟩
          exact fun other hother => (hapart other hother).2
        · rintro ⟨⟨hname, hrest⟩, _, hapart⟩
          refine ⟨hrest, fun other hother => ⟨?_, hapart other hother⟩⟩
          rintro rfl
          exact hname hother

theorem errors_add (progress : Progress) (rule : Rule) :
    (progress.add rule).errors = progress.errors ++ ruleErrors rule := by
  unfold Progress.add ruleErrors
  cases compileRule rule with
  | error errors => rfl
  | ok compiled => cases progress.table.contains rule.name <;> simp

theorem errors_foldl_add (progress : Progress) (rules : List Rule) :
    (rules.foldl Progress.add progress).errors = progress.errors ++ rules.flatMap ruleErrors := by
  induction rules generalizing progress with
  | nil => simp
  | cons rule rest ih => simp [ih, errors_add]

/-! ## The rules that are taken up -/

/-- The rules so far are in the table under their own names, and no other rule is. -/
structure Progress.Covers (progress : Progress) (rules : List Rule) : Prop where
  order : progress.order = rules.map Rule.name
  reads : ∀ rule ∈ rules, ∃ compiled,
    progress.table.get? rule.name = some compiled ∧ Reads rule compiled
  only : ∀ name ∉ rules.map Rule.name, progress.table.get? name = none

theorem covers_start (package : RulePackage) : (Progress.start package).Covers [] :=
  ⟨rfl, by simp, fun name _ => Table.get?_empty name⟩

theorem Progress.Covers.add {progress : Progress} {rules : List Rule} {rule : Rule}
    {compiled : CompiledRule} (h : progress.Covers rules)
    (hfresh : rule.name ∉ rules.map Rule.name) (hreads : Reads rule compiled) :
    (progress.add rule).Covers (rules ++ [rule]) := by
  have hcontains : progress.table.contains rule.name = false := by
    simp [Table.contains, h.only rule.name hfresh]
  have hadd : progress.add rule =
      ⟨progress.table.insert rule.name compiled, progress.order ++ [rule.name],
        progress.errors⟩ := by
    simp [Progress.add, compileRule_eq_ok_iff.mpr hreads, hcontains]
  rw [hadd]
  refine ⟨by simp [h.order], ?_, ?_⟩
  · intro other hother
    rw [Table.get?_insert]
    rcases List.mem_append.mp hother with hother | hother
    · have hne : other.name ≠ rule.name := by
        intro heq
        exact hfresh (heq ▸ List.mem_map_of_mem hother)
      rw [if_neg hne]
      exact h.reads other hother
    · obtain rfl := List.mem_singleton.mp hother
      exact ⟨compiled, if_pos rfl, hreads⟩
  · intro name hname
    rw [List.map_append, List.mem_append, not_or] at hname
    have hne : name ≠ rule.name := by simpa using hname.2
    rw [Table.get?_insert, if_neg hne]
    exact h.only name hname.1

theorem Progress.Covers.foldl_add {progress : Progress} {before rest : List Rule}
    (h : progress.Covers before) (hnodup : ((before ++ rest).map Rule.name).Nodup)
    (hreads : ∀ rule ∈ rest, ∃ compiled, Reads rule compiled) :
    (rest.foldl Progress.add progress).Covers (before ++ rest) := by
  induction rest generalizing progress before with
  | nil => simpa using h
  | cons rule rest ih =>
      obtain ⟨⟨compiled, hrule⟩, hrest⟩ := List.forall_mem_cons.mp hreads
      -- A second rule of the same name would be passed over.
      have hfresh : rule.name ∉ before.map Rule.name := by
        intro hmem
        rw [List.map_append, List.map_cons, List.nodup_append] at hnodup
        exact hnodup.2.2 rule.name hmem rule.name List.mem_cons_self rfl
      have hnext := ih (h.add hfresh hrule) (by simpa using hnodup) hrest
      simpa using hnext

end Compile

/-! ## Packages -/

/-- What a package and its compiled form have in common. -/
structure RulePackage.Compiles (package : RulePackage) (compiled : CompiledPackage) : Prop where
  name : compiled.name = package.name
  validFrom : compiled.validFrom = package.validFrom
  validTo : compiled.validTo = package.validTo
  filters : compiled.filters = FilterIndex.ofList package.filters
  order : compiled.order = package.ruleNames
  distinct : package.ruleNames.Nodup
  reads : ∀ rule ∈ package.rules, ∃ tree,
    compiled.rule? rule.name = some tree ∧ Compile.Reads rule tree
  only : ∀ name ∉ package.ruleNames, compiled.rule? name = none

open Compile in
theorem RulePackage.compiles_of_compile {package : RulePackage} {compiled : CompiledPackage}
    (h : package.compile = .ok compiled) : package.Compiles compiled := by
  simp only [RulePackage.compile] at h
  split at h
  · next hnone =>
      rw [errors_foldl_add, List.append_eq_nil_iff] at hnone
      obtain ⟨hduplicates, hrules⟩ := hnone
      have hdistinct : package.ruleNames.Nodup := by
        have hrepeated := List.map_eq_nil_iff.mp hduplicates
        exact ((repeated_eq_nil_iff List.nodup_nil).mp hrepeated).1
      have hreads : ∀ rule ∈ package.rules, ∃ tree, Reads rule tree := by
        intro rule hrule
        exact ruleErrors_eq_nil_iff.mp (List.flatMap_eq_nil_iff.mp hrules rule hrule)
      have hcovers := (covers_start package).foldl_add hdistinct hreads
      obtain rfl := Except.ok.inj h
      exact ⟨rfl, rfl, rfl, rfl, hcovers.order, hdistinct, hcovers.reads, hcovers.only⟩
  · cases h

open Compile in
theorem RulePackage.exists_compile_eq_ok {package : RulePackage}
    (hdistinct : package.ruleNames.Nodup)
    (hreads : ∀ rule ∈ package.rules, ∃ tree, Reads rule tree) :
    ∃ compiled, package.compile = .ok compiled := by
  have hduplicates : repeated [] package.ruleNames = [] :=
    (repeated_eq_nil_iff List.nodup_nil).mpr ⟨hdistinct, by simp⟩
  have hrules : package.rules.flatMap ruleErrors = [] :=
    List.flatMap_eq_nil_iff.mpr fun rule hrule => ruleErrors_eq_nil_iff.mpr (hreads rule hrule)
  have hnone : (package.rules.foldl Progress.add (.start package)).errors = [] := by
    rw [errors_foldl_add, hrules, Progress.start, hduplicates]
    rfl
  rw [compile, hnone]
  exact ⟨_, rfl⟩

namespace RulePackage

variable {package : RulePackage} {compiled : CompiledPackage}

theorem Compiles.exists_rule (h : package.Compiles compiled) {name : String}
    (hname : name ∈ package.ruleNames) :
    ∃ rule ∈ package.rules, rule.name = name ∧
      ∃ tree, compiled.rule? name = some tree ∧ Compile.Reads rule tree := by
  obtain ⟨rule, hrule, rfl⟩ := List.mem_map.mp hname
  exact ⟨rule, hrule, rfl, h.reads rule hrule⟩

/-- What becomes of a rule does not depend on the package around it. -/
theorem Compiles.rule?_congr (h : package.Compiles compiled) {other : RulePackage}
    {otherCompiled : CompiledPackage} (hother : other.Compiles otherCompiled) {rule : Rule}
    (hrule : rule ∈ package.rules) (hmem : rule ∈ other.rules) :
    compiled.rule? rule.name = otherCompiled.rule? rule.name := by
  obtain ⟨tree, hfound, hreads⟩ := h.reads rule hrule
  obtain ⟨held, hheld, hsame⟩ := hother.reads rule hmem
  rw [hfound, hheld, hreads.unique hsame]

end RulePackage

/-- Reports are not compared, but compiled packages are. -/
instance (package : RulePackage) (compiled : CompiledPackage) :
    Decidable (package.compile = .ok compiled) :=
  decidable_of_iff (package.compile.toOption = some compiled) (by
    cases package.compile <;> simp [Except.toOption])

end Rulebook
