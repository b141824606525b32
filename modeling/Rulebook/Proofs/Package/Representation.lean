import Rulebook.Proofs.Keyed
import Rulebook.Proofs.Package.Report

namespace Rulebook

/-!
# What a compiled package holds

A compiled package answers for its source: it lists the names in declared order, has a rule under
each of them and under no other name, and holds the filters as a set. Every rule has the trees of
its texts, with no operator out of place. These answers leave nothing open, so there is only one
such package, and compiling gives it whenever it exists.
-/

namespace CompiledRule

/-- The rule has the name of its source and the trees of its texts, in order. -/
structure Represents (compiled : CompiledRule) (rule : Rule) : Prop where
  name : compiled.name = rule.name
  condition : parse rule.condition = .ok compiled.condition
  actions : rule.actions.map parse = compiled.actions.map .ok

/-- No operator stands where it is not allowed, and the condition yields true or false. -/
structure Placed (compiled : CompiledRule) : Prop where
  condition : ¬ compiled.condition.Uses .assign
  boolean : compiled.condition.isBoolean = true
  actions : ∀ action ∈ compiled.actions, ¬ action.Uses .ne

end CompiledRule

/-- All that can be asked of the compiled package agrees with its source. -/
structure CompiledPackage.Represents (compiled : CompiledPackage) (package : RulePackage) :
    Prop where
  name : compiled.name = package.name
  validFrom : compiled.validFrom = package.validFrom
  validTo : compiled.validTo = package.validTo
  ruleNames : compiled.ruleNames = package.rules.map Rule.name
  distinct : compiled.ruleNames.Nodup
  size : compiled.size = compiled.ruleNames.length
  present : ∀ name, (∃ rule, compiled.rule? name = some rule) ↔ name ∈ compiled.ruleNames
  rules : ∀ rule ∈ package.rules, ∃ tree,
    compiled.rule? rule.name = some tree ∧ tree.Represents rule
  placed : ∀ name rule, compiled.rule? name = some rule → rule.Placed
  filters : ∀ key, compiled.filters.contains key = true ↔ key ∈ package.filters

/-! ## Rules -/

namespace Compile

theorem accepts_condition_iff {text : String} {tree : Expr} :
    Accepts .condition text tree ↔
      parse text = .ok tree ∧ ¬ tree.Uses .assign ∧ tree.isBoolean = true := by
  rw [← Expr.containsOp_iff_uses, Bool.not_eq_true]
  constructor
  · rintro ⟨hreads, hallowed, hboolean⟩
    exact ⟨hreads, hallowed, hboolean rfl⟩
  · rintro ⟨hreads, hallowed, hboolean⟩
    exact ⟨hreads, hallowed, fun _ => hboolean⟩

theorem accepts_action_iff_uses {index : Nat} {text : String} {tree : Expr} :
    Accepts (.action index) text tree ↔ parse text = .ok tree ∧ ¬ tree.Uses .ne := by
  rw [← Expr.containsOp_iff_uses, Bool.not_eq_true]
  constructor
  · rintro ⟨hreads, hallowed, _⟩
    exact ⟨hreads, hallowed⟩
  · rintro ⟨hreads, hallowed⟩
    exact ⟨hreads, hallowed, nofun⟩

theorem accepts_actions_iff {index : Nat} {texts : List String} {trees : List Expr} :
    List.Forall₂ (Accepts (.action index)) texts trees ↔
      texts.map parse = trees.map .ok ∧ ∀ tree ∈ trees, ¬ tree.Uses .ne := by
  induction texts generalizing trees with
  | nil => cases trees <;> simp
  | cons text rest ih =>
      cases trees with
      | nil => simp
      | cons tree others =>
          rw [List.forall₂_cons, accepts_action_iff_uses, ih, List.map_cons, List.map_cons,
            List.cons.injEq, List.forall_mem_cons]
          exact and_and_and_comm

theorem reads_iff {rule : Rule} {compiled : CompiledRule} :
    Reads rule compiled ↔ compiled.Represents rule ∧ compiled.Placed := by
  constructor
  · rintro ⟨hname, hcondition, hactions⟩
    obtain ⟨hreads, hassign, hboolean⟩ := accepts_condition_iff.mp hcondition
    obtain ⟨htrees, hne⟩ := accepts_actions_iff.mp hactions
    exact ⟨⟨hname, hreads, htrees⟩, hassign, hboolean, hne⟩
  · rintro ⟨⟨hname, hreads, htrees⟩, hassign, hboolean, hne⟩
    exact ⟨hname, accepts_condition_iff.mpr ⟨hreads, hassign, hboolean⟩,
      accepts_actions_iff.mpr ⟨htrees, hne⟩⟩

end Compile

/-! ## Packages -/

namespace RulePackage

variable {package : RulePackage} {compiled other : CompiledPackage}

theorem Compiles.mem_ruleNames (h : package.Compiles compiled) {name : String}
    {tree : CompiledRule} (hfound : compiled.rule? name = some tree) :
    name ∈ package.ruleNames := by
  by_contra hname
  rw [h.only name hname] at hfound
  cases hfound

theorem Compiles.represents (h : package.Compiles compiled) : compiled.Represents package where
  name := h.name
  validFrom := h.validFrom
  validTo := h.validTo
  ruleNames := h.order
  distinct := by
    rw [CompiledPackage.ruleNames, h.order]
    exact h.distinct
  size := rfl
  present := by
    intro name
    rw [CompiledPackage.ruleNames, h.order]
    constructor
    · rintro ⟨tree, hfound⟩
      exact h.mem_ruleNames hfound
    · intro hname
      obtain ⟨_, _, _, tree, hfound, _⟩ := h.exists_rule hname
      exact ⟨tree, hfound⟩
  rules := by
    intro rule hrule
    obtain ⟨tree, hfound, hreads⟩ := h.reads rule hrule
    exact ⟨tree, hfound, (Compile.reads_iff.mp hreads).1⟩
  placed := by
    intro name tree hfound
    obtain ⟨_, _, _, held, hheld, hreads⟩ := h.exists_rule (h.mem_ruleNames hfound)
    obtain rfl : held = tree := Option.some.inj (hheld.symm.trans hfound)
    exact (Compile.reads_iff.mp hreads).2
  filters := by
    intro key
    rw [h.filters, FilterIndex.contains_iff, FilterIndex.mem_keys_ofList]

theorem compiles_of_represents (h : compiled.Represents package) : package.Compiles compiled where
  name := h.name
  validFrom := h.validFrom
  validTo := h.validTo
  filters := by
    apply FilterIndex.ext_mem
    intro key
    rw [← FilterIndex.contains_iff, h.filters, FilterIndex.mem_keys_ofList]
  order := h.ruleNames
  distinct := by
    have hdistinct := h.distinct
    rwa [h.ruleNames] at hdistinct
  reads := by
    intro rule hrule
    obtain ⟨tree, hfound, htree⟩ := h.rules rule hrule
    exact ⟨tree, hfound, Compile.reads_iff.mpr ⟨htree, h.placed rule.name tree hfound⟩⟩
  only := by
    intro name hname
    rw [Option.eq_none_iff_forall_ne_some]
    intro tree hfound
    have hmem := (h.present name).mp ⟨tree, hfound⟩
    rw [h.ruleNames] at hmem
    exact hname hmem

theorem Compiles.table_eq (h : package.Compiles compiled) (hother : package.Compiles other) :
    compiled.table = other.table := by
  apply Table.ext_get?
  intro name
  by_cases hname : name ∈ package.ruleNames
  · obtain ⟨rule, hrule, rfl⟩ := List.mem_map.mp hname
    exact h.rule?_congr hother hrule hrule
  · exact (h.only name hname).trans (hother.only name hname).symm

theorem Compiles.unique (h : package.Compiles compiled) (hother : package.Compiles other) :
    compiled = other := by
  have hname : compiled.name = other.name := h.name.trans hother.name.symm
  have hfrom : compiled.validFrom = other.validFrom := h.validFrom.trans hother.validFrom.symm
  have hto : compiled.validTo = other.validTo := h.validTo.trans hother.validTo.symm
  have htable : compiled.table = other.table := h.table_eq hother
  have horder : compiled.order = other.order := h.order.trans hother.order.symm
  have hfilters : compiled.filters = other.filters := h.filters.trans hother.filters.symm
  cases compiled
  cases other
  simp_all only

theorem compile_eq_ok_iff_compiles :
    package.compile = .ok compiled ↔ package.Compiles compiled := by
  refine ⟨compiles_of_compile, fun h => ?_⟩
  have hreads : ∀ rule ∈ package.rules, ∃ tree, Compile.Reads rule tree := by
    intro rule hrule
    obtain ⟨tree, _, htree⟩ := h.reads rule hrule
    exact ⟨tree, htree⟩
  obtain ⟨other, hother⟩ := exists_compile_eq_ok h.distinct hreads
  rw [hother, h.unique (compiles_of_compile hother)]

theorem compile_filters_congr {keys : List String}
    (h : ∀ key, key ∈ keys ↔ key ∈ package.filters) :
    ({ package with filters := keys } : RulePackage).compile = package.compile := by
  have hfilters : FilterIndex.ofList keys = FilterIndex.ofList package.filters := by
    apply FilterIndex.ext_mem
    intro key
    rw [FilterIndex.mem_keys_ofList, FilterIndex.mem_keys_ofList, h]
  simp only [compile, hfilters, Compile.Progress.start, ruleNames]

/-- Compiling gives the package that agrees with its source in all that can be asked of it, and
fails only if there is none. The order and the repetitions of the filters do not matter to it. -/
theorem compile_represents (package : RulePackage) :
    (∀ compiled, package.compile = .ok compiled ↔ compiled.Represents package) ∧
      ∀ keys : List String, (∀ key, key ∈ keys ↔ key ∈ package.filters) →
        ({ package with filters := keys } : RulePackage).compile = package.compile := by
  refine ⟨fun compiled => ?_, fun keys => compile_filters_congr⟩
  rw [compile_eq_ok_iff_compiles]
  exact ⟨Compiles.represents, compiles_of_represents⟩

/-- The rules are found by name although they are declared in another order, and a filter that is
listed twice is one filter. -/
theorem compile_represents_stall :
    let package : RulePackage := ⟨"stall", "2024-01-01", "", [⟨"refill", "crate == low", []⟩,
      ⟨"mark", "(size != xlsSize)", ["label = \"big\"", "seen = seen + 1"]⟩],
      ["xlsSize-9", "xlsSize-10", "xlsSize-9"]⟩
    let refill : CompiledRule :=
      ⟨"refill", .binary .eq (.identifier "crate") (.identifier "low"), []⟩
    let mark : CompiledRule :=
      ⟨"mark", .group (.binary .ne (.identifier "size") (.identifier "xlsSize")),
        [.binary .assign (.identifier "label") (.string "big"),
          .binary .assign (.identifier "seen") (.binary .add (.identifier "seen") (.int 1))]⟩
    let compiled : CompiledPackage := ⟨"stall", "2024-01-01", "",
      (RuleTable.empty.insert "mark" mark).insert "refill" refill, ["refill", "mark"],
      FilterIndex.ofList ["xlsSize-10", "xlsSize-9"]⟩
    package.compile = .ok compiled ∧ compiled.Represents package ∧
      (∀ key, key ∈ ["xlsSize-10", "xlsSize-9"] ↔ key ∈ package.filters) ∧
      ({ package with filters := ["xlsSize-10", "xlsSize-9"] } : RulePackage).compile =
        .ok compiled := by
  intro package refill mark compiled
  have hcompile : package.compile = .ok compiled := by decide +kernel
  have hkeys : ∀ key, key ∈ ["xlsSize-10", "xlsSize-9"] ↔ key ∈ package.filters := by
    intro key
    simp only [package, List.mem_cons, List.not_mem_nil, or_false]
    grind
  obtain ⟨hiff, hfilters⟩ := compile_represents package
  exact ⟨hcompile, (hiff compiled).mp hcompile, hkeys, (hfilters _ hkeys).trans hcompile⟩

end RulePackage

end Rulebook
