namespace Rulebook

/-!
# Lists in the order of their keys

Every item has a text as its key, and the keys increase strictly, by code point. So a key belongs
to at most one item. A table is such a list of named values.
-/

namespace Keyed

variable {α : Type}

def Increasing (key : α → String) (items : List α) : Prop :=
  items.Pairwise fun a b => key a < key b

instance (key : α → String) (items : List α) : Decidable (Increasing key items) :=
  inferInstanceAs (Decidable (items.Pairwise _))

/-- Puts an item in its place. An item with the same key gives way to it. -/
def put (key : α → String) (item : α) : List α → List α
  | [] => [item]
  | first :: rest =>
      if key item < key first then item :: first :: rest
      else if key item = key first then item :: rest
      else first :: put key item rest

theorem mem_of_mem_put {key : α → String} {item other : α} {items : List α}
    (h : other ∈ put key item items) : other = item ∨ other ∈ items := by
  induction items with
  | nil => simpa [put] using h
  | cons first rest ih =>
      unfold put at h
      split at h
      · simpa using h
      · split at h
        · exact (List.mem_cons.mp h).imp id (List.mem_cons_of_mem first)
        · rcases List.mem_cons.mp h with h | h
          · exact Or.inr (h ▸ List.mem_cons_self)
          · exact (ih h).imp id (List.mem_cons_of_mem first)

theorem increasing_put {key : α → String} (item : α) {items : List α}
    (h : Increasing key items) : Increasing key (put key item items) := by
  induction items with
  | nil => exact List.pairwise_singleton _ _
  | cons first rest ih =>
      obtain ⟨hhead, htail⟩ := List.pairwise_cons.mp h
      unfold put
      split
      · next hlt =>
          refine List.pairwise_cons.mpr ⟨fun other hother => ?_, h⟩
          rcases List.mem_cons.mp hother with rfl | hother
          · exact hlt
          · exact String.lt_trans hlt (hhead other hother)
      · next hnlt =>
          split
          · next heq =>
              exact List.pairwise_cons.mpr
                ⟨fun other hother => heq ▸ hhead other hother, htail⟩
          · next hne =>
              refine List.pairwise_cons.mpr ⟨fun other hother => ?_, ih htail⟩
              rcases mem_of_mem_put hother with rfl | hother
              · exact Std.lt_of_le_of_ne (Std.not_lt.mp hnlt) (Ne.symm hne)
              · exact hhead other hother

theorem mem_put {key : α → String} {item other : α} {items : List α}
    (h : Increasing key items) :
    other ∈ put key item items ↔ other = item ∨ other ∈ items ∧ key other ≠ key item := by
  induction items with
  | nil => simp [put]
  | cons first rest ih =>
      obtain ⟨hhead, htail⟩ := List.pairwise_cons.mp h
      have hrest (hle : ¬ key first < key item) (hmem : other ∈ rest) : key other ≠ key item :=
        fun heq => hle (heq ▸ hhead other hmem)
      unfold put
      split
      · next hlt =>
          have hfirst : key first ≠ key item := fun heq => String.lt_irrefl _ (heq ▸ hlt)
          have hrest := hrest (String.lt_asymm hlt)
          grind
      · split
        · next heq =>
            have hrest := hrest (heq ▸ String.lt_irrefl _)
            grind
        · next hne =>
            have hput := ih htail
            grind

theorem mem_of_lookup_eq_some {name : String} {value : α} {entries : List (String × α)}
    (h : entries.lookup name = some value) : (name, value) ∈ entries := by
  obtain ⟨before, after, rfl, _⟩ := List.lookup_eq_some_iff.mp h
  exact List.mem_append_right before List.mem_cons_self

theorem lookup_eq_some_of_mem {name : String} {value : α} {entries : List (String × α)}
    (h : Increasing Prod.fst entries) (hmem : (name, value) ∈ entries) :
    entries.lookup name = some value := by
  obtain ⟨before, after, rfl⟩ := List.append_of_mem hmem
  refine List.lookup_eq_some_iff.mpr ⟨before, after, rfl, fun entry hentry => ?_⟩
  have hbelow : entry.1 < name :=
    (List.pairwise_append.mp h).2.2 entry hentry (name, value) List.mem_cons_self
  exact bne_iff_ne.mpr fun heq => String.lt_irrefl name (heq ▸ hbelow)

end Keyed

/-- Values by name. -/
@[ext] structure Table (α : Type) where
  entries : List (String × α)
  ordered : Keyed.Increasing Prod.fst entries
  deriving DecidableEq

namespace Table

variable {α : Type}

def empty : Table α := ⟨[], List.Pairwise.nil⟩

instance : Inhabited (Table α) := ⟨empty⟩

/-- Adds a value, in the place of the one that has the name. -/
def insert (table : Table α) (name : String) (value : α) : Table α :=
  ⟨Keyed.put Prod.fst (name, value) table.entries,
    Keyed.increasing_put (name, value) table.ordered⟩

/-- Adds values in order, so that the last one of a name counts. -/
def insertAll (table : Table α) (entries : List (String × α)) : Table α :=
  entries.foldl (fun table entry => table.insert entry.1 entry.2) table

def erase (table : Table α) (name : String) : Table α :=
  ⟨table.entries.filter fun entry => entry.1 != name,
    List.Pairwise.sublist List.filter_sublist table.ordered⟩

def get? (table : Table α) (name : String) : Option α := table.entries.lookup name

def contains (table : Table α) (name : String) : Bool := (table.get? name).isSome

def size (table : Table α) : Nat := table.entries.length

def names (table : Table α) : List String := table.entries.map Prod.fst

@[simp] theorem get?_empty (name : String) : (empty : Table α).get? name = none := rfl

theorem mem_entries_iff {table : Table α} {name : String} {value : α} :
    (name, value) ∈ table.entries ↔ table.get? name = some value :=
  ⟨Keyed.lookup_eq_some_of_mem table.ordered, Keyed.mem_of_lookup_eq_some⟩

/-- What a look-up finds after a value is added. -/
theorem get?_insert (table : Table α) (name : String) (value : α) (other : String) :
    (table.insert name value).get? other =
      if other = name then some value else table.get? other := by
  apply Option.ext
  intro found
  rw [← mem_entries_iff, insert, Keyed.mem_put table.ordered, mem_entries_iff]
  by_cases h : other = name
  · simp [h, eq_comm]
  · simp [h]

theorem get?_erase (table : Table α) (name other : String) :
    (table.erase name).get? other = if other = name then none else table.get? other := by
  apply Option.ext
  intro value
  rw [← mem_entries_iff, erase, List.mem_filter, mem_entries_iff]
  by_cases h : other = name <;> simp [h]

end Table

end Rulebook
