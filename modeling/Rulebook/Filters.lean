import Rulebook.Keyed

namespace Rulebook

/-!
# Filters

A filter index is a set of keys. A key joins the name of a filter and one of its values by a
dash, and a comparison with a filter asks whether the key of a fact's value is in the set.
-/

@[ext] structure FilterIndex where
  keys : List String
  ordered : Keyed.Increasing id keys
  deriving DecidableEq

namespace FilterIndex

def empty : FilterIndex := ⟨[], List.Pairwise.nil⟩

def insert (index : FilterIndex) (key : String) : FilterIndex :=
  ⟨Keyed.put id key index.keys, Keyed.increasing_put key index.ordered⟩

/-- The set of a list of keys; their order and repetitions do not matter. -/
def ofList (keys : List String) : FilterIndex := keys.foldl insert empty

def contains (index : FilterIndex) (key : String) : Bool := index.keys.contains key

/-- The key under which `filter` lists `value`. -/
def key (filter value : String) : String := filter ++ "-" ++ value

def isMember (index : FilterIndex) (filter value : String) : Bool :=
  index.contains (key filter value)

theorem contains_iff {index : FilterIndex} {key : String} :
    index.contains key = true ↔ key ∈ index.keys := List.contains_iff_mem

theorem mem_keys_insert {index : FilterIndex} {key other : String} :
    other ∈ (index.insert key).keys ↔ other = key ∨ other ∈ index.keys := by
  refine (Keyed.mem_put index.ordered).trans ⟨fun h => h.imp id And.left, fun h => ?_⟩
  by_cases heq : other = key
  · exact Or.inl heq
  · exact h.imp id fun hmem => ⟨hmem, heq⟩

theorem mem_keys_foldl_insert {keys : List String} {index : FilterIndex} {key : String} :
    key ∈ (keys.foldl insert index).keys ↔ key ∈ keys ∨ key ∈ index.keys := by
  induction keys generalizing index with
  | nil => simp
  | cons first rest ih =>
      rw [List.foldl_cons, ih, mem_keys_insert, List.mem_cons, or_left_comm, or_assoc]

theorem mem_keys_ofList {keys : List String} {key : String} :
    key ∈ (ofList keys).keys ↔ key ∈ keys := by
  simp [ofList, mem_keys_foldl_insert, empty]

def size (index : FilterIndex) : Nat := index.keys.length

end FilterIndex

end Rulebook
