import Rulebook.Facts

namespace Rulebook

/-!
# Rule names in a trace

A trace is a row of marks, each of them a name with a semicolon behind it. Names that have no
semicolon in them are read back from it, but for the empty name.
-/

namespace FactTable

/-- The trace of a list of names. -/
def marks : List String → String
  | [] => ""
  | name :: rest => name ++ ";" ++ marks rest

theorem toList_marks_cons (name : String) (rest : List String) :
    (marks (name :: rest)).toList = name.toList ++ ';' :: (marks rest).toList := by
  simp [marks]

theorem pieces_cons_semicolon (rest : List Char) : pieces (';' :: rest) = [] :: pieces rest := by
  simp [pieces]

theorem pieces_append_semicolon {name : List Char} (h : ';' ∉ name) (rest : List Char) :
    pieces (name ++ ';' :: rest) = name :: pieces rest := by
  induction name with
  | nil => exact pieces_cons_semicolon rest
  | cons c name ih =>
      rw [List.mem_cons, not_or] at h
      obtain ⟨hc, hname⟩ := h
      have hsemicolon : (c == ';') = false := beq_false_of_ne (Ne.symm hc)
      rw [List.cons_append, pieces, ih hname, hsemicolon]

theorem pieces_marks {names : List String} (h : ∀ name ∈ names, ';' ∉ name.toList) :
    pieces (marks names).toList = names.map String.toList ++ [[]] := by
  induction names with
  | nil => rfl
  | cons name rest ih =>
      obtain ⟨hname, hrest⟩ := List.forall_mem_cons.mp h
      rw [toList_marks_cons, pieces_append_semicolon hname, ih hrest]
      rfl

theorem fired_of_get? {facts : FactTable} {names : List String}
    (h : facts.get? traceName = some (marks names))
    (hnames : ∀ name ∈ names, ';' ∉ name.toList) :
    facts.fired = names.filter fun name => name != "" := by
  have hempty (name : String) : (!name.toList.isEmpty) = (name != "") := by
    rw [Bool.eq_iff_iff]
    simp
  have hback : String.ofList ∘ String.toList = id := funext fun name => String.ofList_toList
  have htrace : facts.trace = marks names := by rw [trace, h, Option.getD_some]
  rw [fired, htrace, pieces_marks hnames, List.filter_append, List.map_append, List.filter_map,
    List.map_map, hback, List.map_id]
  simp [Function.comp_def, hempty]

theorem get?_recordFired {facts : FactTable} {trace : String}
    (h : facts.get? traceName = some trace) (rule : String) :
    (facts.recordFired rule).get? traceName = some (trace ++ rule ++ ";") := by
  simp [recordFired, FactTable.trace, Table.get?_insert, h]

end FactTable

end Rulebook
