import Rulebook.Keyed

namespace Rulebook

/-!
# Fact tables

A fact table maps names to texts. One fact, `trace`, records which rules fired: the name of each,
with a semicolon behind it.
-/

abbrev FactTable := Table String

namespace FactTable

export Table (empty)

/-- The table of a list of facts, in which the last value of a name counts. -/
def ofList (facts : List (String × String)) : FactTable := empty.insertAll facts

/-! ## The trace -/

/-- The name of the fact that records the fired rules. -/
def traceName : String := "trace"

def trace (facts : FactTable) : String := (facts.get? traceName).getD ""

def resetTrace (facts : FactTable) : FactTable := facts.insert traceName ""

def recordFired (facts : FactTable) (rule : String) : FactTable :=
  facts.insert traceName (facts.trace ++ rule ++ ";")

/-- The pieces between semicolons. -/
def pieces : List Char → List (List Char)
  | [] => [[]]
  | c :: rest =>
      match c == ';', pieces rest with
      | false, first :: others => (c :: first) :: others
      | _, others => [] :: others

/-- The names in the trace, in firing order. An empty name leaves no mark in it. -/
def fired (facts : FactTable) : List String :=
  ((pieces facts.trace.toList).filter fun piece => !piece.isEmpty).map String.ofList

end FactTable

end Rulebook
