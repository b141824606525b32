import Mathlib.Data.List.Forall2
import Mathlib.Data.List.Nodup
import Rulebook.Document.Decode
import Rulebook.Proofs.Json.Reading

namespace Rulebook.Document

/-!
# Records in every layout

The document of a record is an object or an array. In an object the fields come in any order, with
unknown ones among them; in an array they come in their own order. Either way a field with its
default may be left out. Decoding fills the fields one by one, so all these documents give the same
record.
-/

open Json (Draft)

/-- A field of a record with a fixed value: its name, the drafts that stand for the value, and
whether a document without the field means the same. -/
structure Field where
  key : String
  holds : Draft → Prop
  isDefault : Prop

/-- Fields may be left out if they have their defaults. -/
def Keeps (fields kept : List Field) : Prop :=
  kept.Sublist fields ∧ ∀ field ∈ fields, field ∈ kept ∨ field.isDefault

/-- The member has the name of the field and a draft that stands for its value. -/
def Field.Heads (field : Field) (member : Option String × Draft) : Prop :=
  member.1 = some field.key ∧ field.holds member.2

/-- The drafts of a record with these fields. -/
inductive Written (fields : List Field) : Draft → Prop where
  | object {kept : List Field} {known unknown members : List (Option String × Draft)}
      (hkept : Keeps fields kept) (hknown : List.Forall₂ Field.Heads kept known)
      (hunknown : ∀ member ∈ unknown, ∃ key, member.1 = some key ∧ key ∉ fields.map Field.key)
      (hmembers : members.Perm (known ++ unknown)) : Written fields (.object members none)
  | array {kept : List Field} {drafts : List Draft} (hkept : Keeps fields kept)
      (hfirst : kept <+: fields) (hdrafts : List.Forall₂ Field.holds kept drafts) :
      Written fields (.array drafts none)

theorem Keeps.refl (fields : List Field) : Keeps fields fields :=
  ⟨List.Sublist.refl fields, fun _ => Or.inl⟩

theorem Written.of_forall₂ {fields : List Field} {members : List (Option String × Draft)}
    (h : List.Forall₂ Field.Heads fields members) : Written fields (.object members none) :=
  .object (.refl fields) h (List.forall_mem_nil _) (by rw [List.append_nil])

/-! ## Texts and lists -/

def IsText (s : String) (draft : Draft) : Prop := draft = .string (some s)

/-- The draft is a list of one draft for each of the values. -/
def IsList {α : Type} (item : α → Draft → Prop) (values : List α) (draft : Draft) : Prop :=
  ∃ drafts, draft = .array drafts none ∧ List.Forall₂ item values drafts

theorem text_of_isText {s : String} {draft : Draft} (h : IsText s draft) : text draft = .ok s := by
  rw [h, text]

theorem items_of_forall₂ {α : Type} {item : α → Draft → Prop} {decode : Decoder α}
    (hitem : ∀ a draft, item a draft → draft.fault? = none → decode draft = .ok a)
    {values : List α} {drafts : List Draft} (h : List.Forall₂ item values drafts)
    (hfault : Draft.itemsFault? drafts = none) : items decode none drafts = .ok values := by
  induction h with
  | nil => rfl
  | cons hfirst _ ih =>
      obtain ⟨hdraft, hrest⟩ := Option.or_eq_none_iff.mp hfault
      simp only [items, hitem _ _ hfirst hdraft, ih hrest]

theorem list_of_isList {α : Type} {item : α → Draft → Prop} {decode : Decoder α}
    (hitem : ∀ a draft, item a draft → draft.fault? = none → decode draft = .ok a)
    {values : List α} {draft : Draft} (h : IsList item values draft)
    (hfault : draft.fault? = none) : list decode draft = .ok values := by
  obtain ⟨drafts, rfl, hdrafts⟩ := h
  exact items_of_forall₂ hitem hdrafts (Option.or_eq_none_iff.mp hfault).1

theorem skip_of_fault {draft : Draft} (h : draft.fault? = none) : skip draft = .ok () := by
  rw [skip, h]

/-- A text that follows the grammar is decoded as its draft. -/
theorem ofText_of_spells {α : Type} {decode : Decoder α} {a : α} {draft : Json.Draft}
    {text : String} (hdecode : decode draft = .ok a)
    (h : Json.Spells (.element draft) text.toList) : ofText decode text = .ok a := by
  have hread : Json.Draft.read text.toList = ⟨draft, false⟩ := Json.Draft.read_of_spells h
  simp only [ofText, hread, hdecode, Bool.false_eq_true, if_false]

/-! ## Filling the fields -/

/-- The content of a field when the fields named in `done` are read. -/
def slot {α : Type} (done : List String) (key : String) (a : α) : Option α :=
  if key ∈ done then some a else none

section
variable {α : Type} {done : List String} {key : String} {draft : Draft}

theorem fill_slot {decode : Decoder α} {a : α} (hkey : key ∉ done) (h : decode draft = .ok a) :
    fill key decode (slot done key a) draft = .ok (slot (key :: done) key a) := by
  simp [fill, slot, hkey, h]

theorem fill_text {s : String} (hkey : key ∉ done) (h : IsText s draft) :
    fill key text (slot done key s) draft = .ok (slot (key :: done) key s) :=
  fill_slot hkey (text_of_isText h)

theorem fill_texts {texts : List String} (hkey : key ∉ done) (h : IsList IsText texts draft)
    (hfault : draft.fault? = none) :
    fill key (list text) (slot done key texts) draft = .ok (slot (key :: done) key texts) :=
  fill_slot hkey (list_of_isList (fun _ _ htext _ => text_of_isText htext) h hfault)

theorem slot_of_mem (a : α) (h : key ∈ done) : slot done key a = some a := if_pos h

theorem slot_cons_of_ne {other : String} (a : α) (h : key ≠ other) :
    slot (other :: done) key a = slot done key a := by
  simp [slot, h]

theorem getD_slot {a standard : α} (h : key ∈ done ∨ a = standard) :
    (slot done key a).getD standard = a := by
  unfold slot
  split
  · rfl
  · next hkey => exact (h.resolve_left hkey).symm

end

/-- A decoder of the record fills its fields in any order: `state done` is what is read when the
fields named in `done` are. -/
structure Fills {σ α : Type} (layout : Layout σ α) (fields : List Field)
    (state : List String → σ) (a : α) : Prop where
  names : layout.fields = fields.map Field.key
  nodup : (fields.map Field.key).Nodup
  start : layout.start = state []
  put_field : ∀ field ∈ fields, ∀ done draft, field.key ∉ done → field.holds draft →
    draft.fault? = none → layout.put (state done) field.key draft = .ok (state (field.key :: done))
  put_unknown : ∀ key done draft, key ∉ fields.map Field.key → draft.fault? = none →
    layout.put (state done) key draft = .ok (state done)
  make : ∀ done, (∀ field ∈ fields, field.key ∈ done ∨ field.isDefault) →
    layout.make (state done) = .ok a

section
variable {σ α : Type} {layout : Layout σ α} {fields : List Field} {state : List String → σ} {a : α}

/-! ## Members and items -/

/-- The names of fields among the names of some members. -/
def named (fields : List Field) (members : List (Option String × Draft)) : List String :=
  (members.filterMap Prod.fst).filter (· ∈ fields.map Field.key)

theorem named_cons_field {field : Field} (hfield : field ∈ fields) (draft : Draft)
    (rest : List (Option String × Draft)) :
    named fields ((some field.key, draft) :: rest) = field.key :: named fields rest := by
  have hkey : field.key ∈ fields.map Field.key := List.mem_map_of_mem hfield
  exact List.filter_cons_of_pos (decide_eq_true hkey)

theorem named_cons_unknown {key : String} (hkey : key ∉ fields.map Field.key) (draft : Draft)
    (rest : List (Option String × Draft)) :
    named fields ((some key, draft) :: rest) = named fields rest :=
  List.filter_cons_of_neg (mt of_decide_eq_true hkey)

theorem named_append (members others : List (Option String × Draft)) :
    named fields (members ++ others) = named fields members ++ named fields others := by
  simp only [named, List.filterMap_append, List.filter_append]

theorem named_perm {members others : List (Option String × Draft)} (h : members.Perm others) :
    (named fields members).Perm (named fields others) :=
  (h.filterMap Prod.fst).filter _

theorem named_known {kept : List Field} {known : List (Option String × Draft)}
    (h : List.Forall₂ Field.Heads kept known) (hkept : ∀ field ∈ kept, field ∈ fields) :
    named fields known = kept.map Field.key := by
  induction h with
  | nil => rfl
  | @cons field member _ _ hfirst _ ih =>
      obtain ⟨hfield, hkept⟩ := List.forall_mem_cons.mp hkept
      obtain ⟨_, draft⟩ := member
      obtain ⟨rfl, -⟩ := hfirst
      rw [named_cons_field hfield, ih hkept, List.map_cons]

theorem named_unknown {unknown : List (Option String × Draft)}
    (h : ∀ member ∈ unknown, ∃ key, member.1 = some key ∧ key ∉ fields.map Field.key) :
    named fields unknown = [] := by
  induction unknown with
  | nil => rfl
  | cons member rest ih =>
      obtain ⟨hfirst, hrest⟩ := List.forall_mem_cons.mp h
      obtain ⟨_, draft⟩ := member
      obtain ⟨key, rfl, hkey⟩ := hfirst
      rw [named_cons_unknown hkey, ih hrest]

/-- A member that is no field, or that has a value for its field. -/
def Admits (fields : List Field) (member : Option String × Draft) : Prop :=
  ∃ key, member.1 = some key ∧
    (key ∉ fields.map Field.key ∨ ∃ field ∈ fields, field.key = key ∧ field.holds member.2)

theorem members_of_fills (h : Fills layout fields state a) {members : List (Option String × Draft)}
    (done : List String) (hmembers : ∀ member ∈ members, Admits fields member)
    (hfault : Draft.membersFault? members = none)
    (hnodup : (named fields members).Nodup) (hdone : (named fields members).Disjoint done) :
    Document.members layout.put none members (state done) =
      .ok (state ((named fields members).reverse ++ done)) := by
  induction members generalizing done with
  | nil => rfl
  | cons member rest ih =>
      obtain ⟨hfirst, hrest⟩ := List.forall_mem_cons.mp hmembers
      obtain ⟨name, draft⟩ := member
      obtain ⟨key, rfl, hkey⟩ := hfirst
      obtain ⟨hdraft, hothers⟩ := Option.or_eq_none_iff.mp hfault
      rcases hkey with hunknown | ⟨field, hfield, rfl, hholds⟩
      · rw [named_cons_unknown hunknown] at hnodup hdone ⊢
        simp only [Document.members, h.put_unknown key done draft hunknown hdraft]
        exact ih done hrest hothers hnodup hdone
      · rw [named_cons_field hfield] at hnodup hdone ⊢
        obtain ⟨hkey, hdone⟩ := List.disjoint_cons_left.mp hdone
        obtain ⟨hnew, hnodup⟩ := List.nodup_cons.mp hnodup
        simp only [Document.members, h.put_field field hfield done draft hkey hholds hdraft]
        have hread := ih (field.key :: done) hrest hothers hnodup
          (List.disjoint_cons_right.mpr ⟨hnew, hdone⟩)
        rw [hread, List.reverse_cons, List.append_assoc, List.singleton_append]

theorem positions_of_fills (h : Fills layout fields state a) {kept : List Field}
    {drafts : List Draft} (others done : List String)
    (hdrafts : List.Forall₂ Field.holds kept drafts) (hkept : ∀ field ∈ kept, field ∈ fields)
    (hfault : Draft.itemsFault? drafts = none)
    (hnodup : (kept.map Field.key).Nodup) (hdone : (kept.map Field.key).Disjoint done) :
    positions layout.put none (kept.map Field.key ++ others) drafts (state done) =
      .ok (state ((kept.map Field.key).reverse ++ done)) := by
  induction hdrafts generalizing done with
  | nil => cases others <;> rfl
  | @cons field draft kept drafts hholds _ ih =>
      obtain ⟨hfield, hkept⟩ := List.forall_mem_cons.mp hkept
      obtain ⟨hdraft, hrest⟩ := Option.or_eq_none_iff.mp hfault
      rw [List.map_cons] at hnodup hdone ⊢
      obtain ⟨hkey, hdone⟩ := List.disjoint_cons_left.mp hdone
      obtain ⟨hnew, hnodup⟩ := List.nodup_cons.mp hnodup
      simp only [List.cons_append, positions,
        h.put_field field hfield done draft hkey hholds hdraft]
      have hread := ih (field.key :: done) hkept hrest hnodup
        (List.disjoint_cons_right.mpr ⟨hnew, hdone⟩)
      rw [hread, List.reverse_cons, List.append_assoc, List.singleton_append]

/-! ## Records -/

theorem exists_heads_of_mem {kept : List Field} {known : List (Option String × Draft)}
    (h : List.Forall₂ Field.Heads kept known) :
    ∀ member ∈ known, ∃ field ∈ kept, field.Heads member := by
  induction h with
  | nil => exact List.forall_mem_nil _
  | @cons field _ _ _ hfirst _ ih =>
      refine List.forall_mem_cons.mpr ⟨⟨field, List.mem_cons_self, hfirst⟩, fun member hin => ?_⟩
      obtain ⟨other, hother, hheads⟩ := ih member hin
      exact ⟨other, List.mem_cons_of_mem field hother, hheads⟩

theorem Keeps.make (h : Fills layout fields state a) {kept : List Field}
    (hkept : Keeps fields kept) (done : List String) (hdone : ∀ field ∈ kept, field.key ∈ done) :
    layout.make (state done) = .ok a :=
  h.make done fun field hfield => (hkept.2 field hfield).imp_left (hdone field)

theorem record_of_written (h : Fills layout fields state a) {draft : Draft}
    (hdraft : Written fields draft) (hfault : draft.fault? = none) :
    record layout draft = .ok a := by
  cases hdraft with
  | @object kept known unknown members hkept hknown hunknown hmembers =>
      have hnamed : (named fields members).Perm (kept.map Field.key) := by
        have hperm : (named fields members).Perm (named fields (known ++ unknown)) :=
          named_perm hmembers
        rwa [named_append, named_known hknown hkept.1.subset, named_unknown hunknown,
          List.append_nil] at hperm
      have hnodup : (named fields members).Nodup :=
        hnamed.nodup_iff.mpr ((hkept.1.map Field.key).nodup h.nodup)
      have hadmits : ∀ member ∈ members, Admits fields member := by
        intro member hin
        rcases List.mem_append.mp (hmembers.mem_iff.mp hin) with hin | hin
        · obtain ⟨field, hfield, hname, hholds⟩ := exists_heads_of_mem hknown member hin
          exact ⟨field.key, hname, Or.inr ⟨field, hkept.1.subset hfield, rfl, hholds⟩⟩
        · obtain ⟨key, hname, hkey⟩ := hunknown member hin
          exact ⟨key, hname, Or.inl hkey⟩
      have hread := members_of_fills h [] hadmits (Option.or_eq_none_iff.mp hfault).1
        hnodup (List.disjoint_nil_right _)
      have hmake := hkept.make h ((named fields members).reverse ++ []) fun field hfield => by
        simpa using hnamed.mem_iff.mpr (List.mem_map_of_mem hfield)
      simp only [record, h.start, hread, hmake]
  | @array kept drafts hkept hfirst hdrafts =>
      obtain ⟨others, hfields⟩ := hfirst
      have hnames : layout.fields = kept.map Field.key ++ others.map Field.key := by
        rw [h.names, ← hfields, List.map_append]
      have hread := positions_of_fills h (others.map Field.key) [] hdrafts
        hkept.1.subset (Option.or_eq_none_iff.mp hfault).1
        ((hkept.1.map Field.key).nodup h.nodup) (List.disjoint_nil_right _)
      have hmake := hkept.make h ((kept.map Field.key).reverse ++ []) fun field hfield => by
        simpa using ⟨field, hfield, rfl⟩
      simp only [record, h.start, hnames, hread, hmake]

end

end Rulebook.Document
