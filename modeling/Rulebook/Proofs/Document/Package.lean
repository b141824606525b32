import Rulebook.Document.Forms
import Rulebook.Proofs.Document.Records
import Rulebook.Proofs.Json.Printing

namespace Rulebook

/-!
# Package documents in every layout

The document that is written for a package reads back as the package, and so does every other
document with the same fields: in another order, with unknown fields of any value among them,
without fields that have their defaults, or as an array.
-/

namespace Document

theorem itemDrafts_map {α : Type} (value : α → Json.Value) (as : List α) :
    Json.Value.itemDrafts (as.map value) = as.map fun a => (value a).draft := by
  induction as with
  | nil => rfl
  | cons a rest ih => rw [List.map_cons, Json.Value.itemDrafts, ih, List.map_cons]

theorem isList_map {α : Type} {item : α → Json.Draft → Prop} {value : α → Json.Value}
    (h : ∀ a, item a (value a).draft) (as : List α) :
    IsList item as (Json.Value.list (as.map value)).draft := by
  refine ⟨as.map fun a => (value a).draft, by rw [Json.Value.draft, itemDrafts_map], ?_⟩
  exact List.forall₂_map_right_iff.mpr (List.forall₂_same.mpr fun a _ => h a)

theorem isText_text (s : String) : IsText s (Json.Value.text s).draft := rfl

theorem isList_texts (texts : List String) :
    IsList IsText texts (Json.Value.list (texts.map .text)).draft :=
  isList_map isText_text texts

end Document

open Document (Field IsText IsList Written Fills slot)

/-! ## Rules -/

namespace Rule

/-- The fields of a rule in their order. -/
def schema (rule : Rule) : List Field :=
  [⟨"ruleName", IsText rule.name, False⟩, ⟨"rule", IsText rule.condition, False⟩,
    ⟨"actions", IsList IsText rule.actions, rule.actions = []⟩]

/-- What is read of a rule when the fields named in `done` are. -/
def partly (rule : Rule) (done : List String) : Fields :=
  ⟨slot done "ruleName" rule.name, slot done "rule" rule.condition,
    slot done "actions" rule.actions⟩

theorem fills (rule : Rule) : Fills layout rule.schema rule.partly rule where
  names := rfl
  nodup := by simp [schema]
  start := rfl
  put_field := by
    intro field hfield done draft hkey hholds hfault
    simp only [schema, List.mem_cons, List.not_mem_nil, or_false] at hfield
    rcases hfield with rfl | rfl | rfl
    iterate 2
      · simp [layout, Fields.put, partly, Document.fill_text hkey hholds, Except.map,
          Document.slot_cons_of_ne]
    · simp [layout, Fields.put, partly, Document.fill_texts hkey hholds hfault, Except.map,
        Document.slot_cons_of_ne]
  put_unknown := by
    intro key done draft hkey hfault
    simp only [schema, List.map_cons, List.map_nil, List.mem_cons, List.not_mem_nil, or_false,
      not_or] at hkey
    simp [layout, Fields.put, hkey, Document.skip_of_fault hfault, Except.map]
  make := by
    intro done hdone
    simp only [schema, List.forall_mem_cons, or_false] at hdone
    obtain ⟨hname, hcondition, hactions, -⟩ := hdone
    simp only [layout, Fields.make, partly, Document.slot_of_mem _ hname,
      Document.slot_of_mem _ hcondition, Document.getD_slot hactions]

theorem decode_of_written {rule : Rule} {draft : Json.Draft} (h : Written rule.schema draft)
    (hfault : draft.fault? = none) : decode draft = .ok rule :=
  Document.record_of_written rule.fills h hfault

theorem written_toJson (rule : Rule) : Written rule.schema rule.toJson.draft := by
  have hactions := Document.isList_texts rule.actions
  exact .of_forall₂ (.cons ⟨rfl, rfl⟩ (.cons ⟨rfl, rfl⟩ (.cons ⟨rfl, hactions⟩ .nil)))

end Rule

/-! ## Packages -/

namespace RulePackage

/-- The fields of a package in their order. -/
def schema (package : RulePackage) : List Field :=
  [⟨"packageName", IsText package.name, False⟩,
    ⟨"validFrom", IsText package.validFrom, package.validFrom = ""⟩,
    ⟨"validTo", IsText package.validTo, package.validTo = ""⟩,
    ⟨"ruleSet", IsList (fun rule => Written rule.schema) package.rules, package.rules = []⟩,
    ⟨"filters", IsList IsText package.filters, package.filters = []⟩]

/-- What is read of a package when the fields named in `done` are. -/
def partly (package : RulePackage) (done : List String) : Fields :=
  ⟨slot done "packageName" package.name, slot done "validFrom" package.validFrom,
    slot done "validTo" package.validTo, slot done "ruleSet" package.rules,
    slot done "filters" package.filters⟩

theorem fills (package : RulePackage) : Fills layout package.schema package.partly package where
  names := rfl
  nodup := by simp [schema]
  start := rfl
  put_field := by
    intro field hfield done draft hkey hholds hfault
    simp only [schema, List.mem_cons, List.not_mem_nil, or_false] at hfield
    rcases hfield with rfl | rfl | rfl | rfl | rfl
    iterate 3
      · simp [layout, Fields.put, partly, Document.fill_text hkey hholds, Except.map,
          Document.slot_cons_of_ne]
    · have hfill := Document.fill_slot hkey
        (Document.list_of_isList (fun _ _ => Rule.decode_of_written) hholds hfault)
      simp [layout, Fields.put, partly, hfill, Except.map, Document.slot_cons_of_ne]
    · simp [layout, Fields.put, partly, Document.fill_texts hkey hholds hfault, Except.map,
        Document.slot_cons_of_ne]
  put_unknown := by
    intro key done draft hkey hfault
    simp only [schema, List.map_cons, List.map_nil, List.mem_cons, List.not_mem_nil, or_false,
      not_or] at hkey
    simp [layout, Fields.put, hkey, Document.skip_of_fault hfault, Except.map]
  make := by
    intro done hdone
    simp only [schema, List.forall_mem_cons, or_false] at hdone
    obtain ⟨hname, hfrom, hto, hrules, hfilters, -⟩ := hdone
    simp only [layout, Fields.make, partly, Document.slot_of_mem _ hname,
      Document.getD_slot hfrom, Document.getD_slot hto, Document.getD_slot hrules,
      Document.getD_slot hfilters]

theorem decode_of_written {package : RulePackage} {draft : Json.Draft}
    (h : Written package.schema draft) (hfault : draft.fault? = none) :
    decode draft = .ok package :=
  Document.record_of_written package.fills h hfault

theorem written_toJson (package : RulePackage) :
    Written package.schema package.toJson.draft := by
  have hrules := Document.isList_map Rule.written_toJson package.rules
  have hfilters := Document.isList_texts package.filters
  exact .of_forall₂ (.cons ⟨rfl, rfl⟩ (.cons ⟨rfl, rfl⟩ (.cons ⟨rfl, rfl⟩
    (.cons ⟨rfl, hrules⟩ (.cons ⟨rfl, hfilters⟩ .nil)))))

theorem ofDocument_of_spells {package : RulePackage} {draft : Json.Draft} {text : String}
    (hdraft : Written package.schema draft) (h : Json.Spells (.element draft) text.toList) :
    ofDocument text = .ok package :=
  Document.ofText_of_spells (decode_of_written hdraft (Json.fault?_of_spells h)) h

/-- The document that is written for a package has its fields, and the package reads back from it
and from every other document that has them. -/
theorem ofDocument_layouts (package : RulePackage) :
    (∃ draft, Written package.schema draft ∧
      Json.Spells (.element draft) package.document.toList) ∧
    ofDocument package.document = .ok package ∧
    ∀ draft text, Written package.schema draft →
      Json.Spells (.element draft) text.toList → ofDocument text = .ok package := by
  have hwritten : Written package.schema package.toJson.draft := package.written_toJson
  have hspells : Json.Spells (.element package.toJson.draft) package.document.toList :=
    package.toJson.spells_toText
  refine ⟨⟨package.toJson.draft, hwritten, hspells⟩, ofDocument_of_spells hwritten hspells, ?_⟩
  intro draft text hdraft h
  exact ofDocument_of_spells hdraft h

/-- The fields stand in another order and an unknown one is among them, one of the rules is an
array, and the validity and the filters are left out. -/
theorem ofDocument_stock_layout :
    let package : RulePackage :=
      ⟨"stock", "", "", [⟨"sell", "level == \"full\"", ["_level = _low"]⟩, ⟨"keep", "a == a", []⟩], []⟩
    let sell : Json.Value := .list [.text "sell", .text "level == \"full\"",
      .list [.text "_level = _low"]]
    let keep : Json.Value := .fields [("rule", .text "a == a"), ("ruleName", .text "keep")]
    let since : Json.Value := .fields [("years", .list [.count 1999, .list []])]
    let document : Json.Value := .fields [("ruleSet", .list [sell, keep]), ("since", since),
      ("packageName", .text "stock")]
    Written package.schema document.draft ∧ ofDocument document.toText = .ok package := by
  intro package sell keep since document
  have hsell : Written (Rule.mk "sell" "level == \"full\"" ["_level = _low"]).schema sell.draft := by
    refine .array (.refl _) (List.prefix_refl _) ?_
    exact .cons rfl (.cons rfl (.cons ⟨_, rfl, .cons rfl .nil⟩ .nil))
  have hkeep : Written (Rule.mk "keep" "a == a" []).schema keep.draft := by
    let kept : List Field :=
      [⟨"ruleName", IsText "keep", False⟩, ⟨"rule", IsText "a == a", False⟩]
    have hkept : Document.Keeps (Rule.mk "keep" "a == a" []).schema kept :=
      ⟨.cons_cons _ (.cons_cons _ (.cons _ .slnil)), by simp [Rule.schema, kept]⟩
    have hknown : List.Forall₂ Field.Heads kept
        (Json.Value.memberDrafts [("ruleName", .text "keep"), ("rule", .text "a == a")]) :=
      .cons ⟨rfl, rfl⟩ (.cons ⟨rfl, rfl⟩ .nil)
    exact .object hkept hknown (List.forall_mem_nil _) (.swap _ _ _)
  have hdocument : Written package.schema document.draft := by
    let kept : List Field := [⟨"packageName", IsText "stock", False⟩,
      ⟨"ruleSet", IsList (fun rule => Written rule.schema) package.rules, package.rules = []⟩]
    have hkept : Document.Keeps package.schema kept :=
      ⟨.cons_cons _ (.cons _ (.cons _ (.cons_cons _ (.cons _ .slnil)))),
        by simp [schema, package, kept]⟩
    have hknown : List.Forall₂ Field.Heads kept
        (Json.Value.memberDrafts [("packageName", .text "stock"), ("ruleSet", .list [sell, keep])]) :=
      .cons ⟨rfl, rfl⟩ (.cons ⟨rfl, _, rfl, .cons hsell (.cons hkeep .nil)⟩ .nil)
    have hunknown : ∀ member ∈ Json.Value.memberDrafts [("since", since)],
        ∃ key, member.1 = some key ∧ key ∉ package.schema.map Field.key := by
      simp [schema, Json.Value.memberDrafts]
    exact .object hkept hknown hunknown (@List.perm_append_comm _ [_, _] [_])
  exact ⟨hdocument, (ofDocument_layouts package).2.2 _ _ hdocument document.spells_toText⟩

end RulePackage

end Rulebook
