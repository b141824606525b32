import Mathlib.Data.List.Sort
import Rulebook.Facts
import Rulebook.Filters

namespace Rulebook

/-!
# Tables and filter indexes by what they hold

Items in the order of their keys stand in one list only. So a table is determined by its look-ups,
and a filter index by its keys, in whatever order they were added.
-/

namespace Keyed

variable {α : Type} (key : α → String)

instance instIrrefl : Std.Irrefl fun a b => key a < key b := ⟨fun a => String.lt_irrefl (key a)⟩

instance instAntisymm : Std.Antisymm fun a b => key a < key b :=
  ⟨fun _ _ hab hba => absurd hba (String.lt_asymm hab)⟩

end Keyed

theorem FilterIndex.ext_mem {a b : FilterIndex} (h : ∀ key, key ∈ a.keys ↔ key ∈ b.keys) :
    a = b :=
  FilterIndex.ext (a.ordered.eq_of_mem_iff b.ordered h)

namespace Table

variable {α : Type}

theorem ext_get? {a b : Table α} (h : ∀ name, a.get? name = b.get? name) : a = b :=
  Table.ext (a.ordered.eq_of_mem_iff b.ordered fun (name, value) => by
    rw [mem_entries_iff, mem_entries_iff, h])

/-! ## Values added in order -/

@[simp] theorem insertAll_nil (table : Table α) : table.insertAll [] = table := rfl

theorem insertAll_append (table : Table α) (first second : List (String × α)) :
    table.insertAll (first ++ second) = (table.insertAll first).insertAll second :=
  List.foldl_append

/-- The last value of a name counts. -/
theorem get?_insertAll (table : Table α) (entries : List (String × α)) (name : String) :
    (table.insertAll entries).get? name = (entries.reverse.lookup name).or (table.get? name) := by
  induction entries generalizing table with
  | nil => rfl
  | cons entry rest ih =>
      obtain ⟨first, value⟩ := entry
      rw [insertAll, List.foldl_cons, ← insertAll, ih, get?_insert, List.reverse_cons,
        List.lookup_append, Option.or_assoc]
      by_cases h : name = first
      · simp [h]
      · simp [List.lookup_cons, h, beq_false_of_ne h]

theorem get?_insertAll_of_forall_ne {name : String} {entries : List (String × α)}
    (h : ∀ entry ∈ entries, entry.1 ≠ name) (table : Table α) :
    (table.insertAll entries).get? name = table.get? name := by
  have hnone : entries.reverse.lookup name = none :=
    List.lookup_eq_none_iff.mpr fun entry hentry =>
      bne_iff_ne.mpr (Ne.symm (h entry (List.mem_reverse.mp hentry)))
  rw [get?_insertAll, hnone, Option.none_or]

theorem contains_insertAll {table : Table α} {name : String} (h : table.contains name = true)
    (entries : List (String × α)) : (table.insertAll entries).contains name = true := by
  rw [contains] at h
  rw [contains, get?_insertAll, Option.isSome_or, h, Bool.or_true]

/-- Adding the entries of a table one by one gives the table. -/
theorem insertAll_entries (table : Table α) : empty.insertAll table.entries = table := by
  apply ext_get?
  intro name
  rw [get?_insertAll, get?_empty, Option.or_none]
  -- A name has one entry, so it does not matter from which end it is looked up.
  cases h : table.entries.reverse.lookup name with
  | some value =>
      have hmem := List.mem_reverse.mp (Keyed.mem_of_lookup_eq_some h)
      exact (mem_entries_iff.mp hmem).symm
  | none =>
      cases hget : table.get? name with
      | none => rfl
      | some value =>
          have hmem := List.mem_reverse.mpr (mem_entries_iff.mpr hget)
          simpa using List.lookup_eq_none_iff.mp h _ hmem

end Table

end Rulebook
