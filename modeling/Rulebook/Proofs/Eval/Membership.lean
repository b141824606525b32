import Rulebook.Proofs.Eval.Groups
import Rulebook.Proofs.Eval.Names
import Rulebook.Proofs.Expr.Printing
import Rulebook.Proofs.Package.Compiling

namespace Rulebook

/-!
# Comparisons with filters

The key of a filter's value is the name of the filter, a dash and the value. A value may have
dashes, so the key says which filter it belongs to only if no filter has a dash in its name. In a
condition that is read from a text this holds: only an identifier can name a filter, and it has no
dashes.
-/

namespace FilterIndex

/-- The texts before and behind the first dash of a key. -/
def split? (key : String) : Option (String × String) :=
  match key.toList.dropWhile (· != '-') with
  | [] => none
  | _ :: value => some (String.ofList (key.toList.takeWhile (· != '-')), String.ofList value)

theorem toList_key (filter value : String) :
    (key filter value).toList = filter.toList ++ '-' :: value.toList := by
  simp [key]

theorem split?_key {filter : String} (h : '-' ∉ filter.toList) (value : String) :
    split? (key filter value) = some (filter, value) := by
  have hfilter : ∀ c ∈ filter.toList, (c != '-') = true := by
    intro c hc
    exact bne_iff_ne.mpr fun heq => h (heq ▸ hc)
  have hstops : ∀ c ∈ ('-' :: value.toList).head?, (c != '-') = false := by simp
  obtain ⟨htake, hdrop⟩ := Text.takeWhile_of_stops hfilter hstops
  rw [split?, toList_key, htake, hdrop]
  simp

theorem eq_key_of_split? {text filter value : String} (h : split? text = some (filter, value)) :
    text = key filter value := by
  unfold split? at h
  split at h
  · cases h
  · next c rest hdrop =>
      -- What is dropped starts with the dash.
      have hdash : (c != '-') = false :=
        Text.head_dropWhile_eq_false (· != '-') text.toList c (by rw [hdrop]; rfl)
      obtain rfl : c = '-' := by simpa using hdash
      cases h
      apply String.toList_inj.mp
      rw [toList_key, String.toList_ofList, String.toList_ofList, ← hdrop,
        List.takeWhile_append_dropWhile]

theorem isMember_ofList_iff {keys : List String} {filter value : String}
    (h : '-' ∉ filter.toList) : (ofList keys).isMember filter value = true ↔
      ∃ key ∈ keys, split? key = some (filter, value) := by
  rw [isMember, contains_iff, mem_keys_ofList]
  constructor
  · exact fun hmem => ⟨key filter value, hmem, split?_key h value⟩
  · rintro ⟨text, hmem, hsplit⟩
    exact eq_key_of_split? hsplit ▸ hmem

end FilterIndex

namespace Eval

theorem head_of_isFilter {text : String} (h : isFilter text = true) :
    text.toList.head? = some 'x' := by
  obtain ⟨rest, hrest⟩ := List.isPrefixOf_iff_prefix.mp h
  rw [← hrest]
  rfl

theorem isFilter_eq_false_of_isTruth {text : String} (h : IsTruth text) :
    isFilter text = false := by
  rcases h with rfl | rfl <;> decide

theorem isFilter_eq_false_of_printed {text : String} (h : Decimal.Printed text) :
    isFilter text = false := by
  obtain ⟨c, rest, hcons, hc⟩ := h.exists_cons
  refine Bool.eq_false_iff.mpr fun hfilter => ?_
  have hhead := head_of_isFilter hfilter
  rw [hcons] at hhead
  obtain rfl : c = 'x' := Option.some.inj hhead
  exact absurd hc (by decide)

theorem compare_filter_iff {filters : FilterIndex} {facts : FactTable} {negate : Bool}
    {name filter : String} (h : isFilter filter = true) :
    compare filters facts negate name filter = true ↔
      ∃ value, facts.get? name = some value ∧ filters.isMember filter value = !negate := by
  rw [compare, if_pos h]
  cases facts.get? name with
  | none => simp
  | some value => cases negate <;> simp

end Eval

namespace Expr

/-- The tree and all trees below it. -/
def parts : Expr → List Expr
  | literal kind raw => [literal kind raw]
  | identifier name => [identifier name]
  | binary op left right => binary op left right :: (left.parts ++ right.parts)
  | group inner => group inner :: inner.parts

theorem Canonical.of_mem_parts {t part : Expr} (h : t.Canonical) (hpart : part ∈ t.parts) :
    part.Canonical := by
  induction t with
  | literal | identifier =>
      obtain rfl := List.mem_singleton.mp hpart
      exact h
  | binary op left right ihleft ihright =>
      rcases List.mem_cons.mp hpart with rfl | hpart
      · exact h
      · obtain ⟨hleft, hright, -⟩ := h
        exact (List.mem_append.mp hpart).elim (ihleft hleft) (ihright hright)
  | group inner ih =>
      rcases List.mem_cons.mp hpart with rfl | hpart
      · exact h
      · exact ih h hpart

theorem dash_not_mem_of_isName {raw : List Char} (h : Grammar.IsName raw) : '-' ∉ raw := by
  obtain ⟨c, rest, rfl, hc, hrest⟩ := h
  intro hmem
  have hcontinues : Lexeme.continuesName '-' = true := by
    rcases List.mem_cons.mp hmem with rfl | hmem
    · exact Lexeme.continuesName_of_startsName hc
    · exact hrest '-' hmem
  exact Lexeme.not_mem_marks_of_continuesName hcontinues (by decide)

theorem Canonical.isFilter_raw_eq_false {kind : LiteralKind} {raw : String}
    (h : (literal kind raw).Canonical) : Eval.isFilter raw = false := by
  refine Bool.eq_false_iff.mpr fun hfilter => ?_
  have hhead := Eval.head_of_isFilter hfilter
  cases kind with
  | int =>
      have hdigit : 'x'.isDigit = true := h.2 'x' (List.mem_of_mem_head? hhead)
      exact absurd hdigit (by decide)
  | string =>
      obtain ⟨body, -, hraw⟩ := h
      rw [hraw] at hhead
      exact absurd (Option.some.inj hhead) (by decide)

variable {filters : FilterIndex} {limit depth : Nat} {facts : FactTable}

/-- Neither a literal nor the result of an operator names a filter. -/
theorem Canonical.ungrouped_of_isFilter {t : Expr} (h : t.Canonical) {filter : String}
    (hvalue : t.outcomeAt filters limit facts depth = .ok filter)
    (hfilter : Eval.isFilter filter = true) :
    t.ungrouped = identifier filter ∧ '-' ∉ filter.toList := by
  induction t generalizing depth with
  | literal kind raw =>
      rw [outcomeAt_literal (le_limit_of_outcomeAt hvalue)] at hvalue
      cases hvalue
      simp [h.isFilter_raw_eq_false] at hfilter
  | identifier name =>
      rw [outcomeAt_identifier (le_limit_of_outcomeAt hvalue)] at hvalue
      cases hvalue
      exact ⟨rfl, dash_not_mem_of_isName h⟩
  | binary op left right =>
      rw [outcomeAt_binary (le_limit_of_outcomeAt hvalue)] at hvalue
      split at hvalue
      · cases hvalue
      · cases hvalue
      · rcases BinaryOp.isTruth_or_printed_of_outcome hvalue with htruth | hprinted
        · simp [Eval.isFilter_eq_false_of_isTruth htruth] at hfilter
        · simp [Eval.isFilter_eq_false_of_printed hprinted] at hfilter
  | group inner ih =>
      rw [outcomeAt_group (le_limit_of_outcomeAt hvalue)] at hvalue
      exact ih h hvalue

theorem outcomeAt_comparison {op : BinaryOp} {negate : Bool}
    (hop : op.resolve .condition = .ok (.compare negate)) {left right : Expr} {name text : String}
    (hleft : left.outcomeAt filters limit facts (depth + 1) = .ok name)
    (hright : right.outcomeAt filters limit facts (depth + 1) = .ok text) :
    (binary op left right).outcomeAt filters limit facts depth = .ok Eval.trueText ↔
      Eval.compare filters facts negate name text = true := by
  have hdepth : depth ≤ limit := (Nat.le_succ depth).trans (le_limit_of_outcomeAt hleft)
  rw [outcomeAt_binary hdepth, hleft, hright]
  simp only [BinaryOp.outcome, hop, Eval.apply]
  cases Eval.compare filters facts negate name text with
  | true => simp [Eval.ofBool]
  | false => simp [Eval.ofBool, Eval.trueText, Eval.falseText]

/-- In a condition that compiles, a comparison with a filter asks for a key that belongs to this
filter and to this value. -/
theorem membership_unconfused {rule text : String} {tree : Expr}
    (h : Compile.readText rule .condition text = .ok tree) {op : BinaryOp} {left right : Expr}
    (hpart : binary op left right ∈ tree.parts) (keys : List String) (limit depth : Nat)
    (facts : FactTable) {name filter : String}
    (hleft : left.outcomeAt (FilterIndex.ofList keys) limit facts (depth + 1) = .ok name)
    (hright : right.outcomeAt (FilterIndex.ofList keys) limit facts (depth + 1) = .ok filter)
    (hfilter : Eval.isFilter filter = true) :
    right.ungrouped = identifier filter ∧ '-' ∉ filter.toList ∧
    (op = .eq →
      ((binary op left right).outcomeAt (FilterIndex.ofList keys) limit facts depth = .ok "true" ↔
        ∃ value, facts.get? name = some value ∧
          ∃ key ∈ keys, FilterIndex.split? key = some (filter, value))) ∧
    (op = .ne →
      ((binary op left right).outcomeAt (FilterIndex.ofList keys) limit facts depth = .ok "true" ↔
        ∃ value, facts.get? name = some value ∧
          ¬ ∃ key ∈ keys, FilterIndex.split? key = some (filter, value))) := by
  have htree : tree.Canonical := canonical_of_parse (Compile.readText_eq_ok_iff.mp h).reads
  obtain ⟨-, hcanonical, -⟩ := htree.of_mem_parts hpart
  obtain ⟨hright', hdash⟩ := hcanonical.ungrouped_of_isFilter hright hfilter
  refine ⟨hright', hdash, ?_, ?_⟩
  · rintro rfl
    refine (outcomeAt_comparison rfl hleft hright).trans ?_
    rw [Eval.compare_filter_iff hfilter]
    simp only [← FilterIndex.isMember_ofList_iff hdash, Bool.not_false]
  · rintro rfl
    refine (outcomeAt_comparison rfl hleft hright).trans ?_
    rw [Eval.compare_filter_iff hfilter]
    simp only [← FilterIndex.isMember_ofList_iff hdash, Bool.not_true, Bool.not_eq_true]

/-- A value with a dash is listed. The part of it before the dash is not, although it begins a
key. -/
theorem membership_unconfused_zip :
    let text := "(region == xlsZip) && zone != (xlsZip)"
    let listed : Expr := .binary .eq (.identifier "region") (.identifier "xlsZip")
    let unlisted : Expr := .binary .ne (.identifier "zone") (.group (.identifier "xlsZip"))
    let tree : Expr := .binary .and (.group listed) unlisted
    let keys := ["xlsZip-10-20", "xlsZip-20"]
    let facts := FactTable.ofList [("region", "10-20"), ("zone", "10")]
    Compile.readText "deliver" .condition text = .ok tree ∧
      (listed ∈ tree.parts ∧ unlisted ∈ tree.parts ∧ Eval.isFilter "xlsZip" = true) ∧
      listed.outcomeAt (.ofList keys) 256 facts 3 = .ok "true" ∧
      unlisted.outcomeAt (.ofList keys) 256 facts 2 = .ok "true" := by
  intro text listed unlisted tree keys facts
  have hread : Compile.readText "deliver" .condition text = .ok tree :=
    Compile.readText_eq_ok_iff.mpr ⟨by decide +kernel, rfl, fun _ => rfl⟩
  have hlisted : listed ∈ tree.parts := by decide
  have hunlisted : unlisted ∈ tree.parts := by decide
  refine ⟨hread, ⟨hlisted, hunlisted, by decide⟩, ?_, ?_⟩
  · obtain ⟨-, -, heq, -⟩ :=
      membership_unconfused hread hlisted keys 256 3 facts rfl rfl (by decide)
    exact (heq rfl).mpr ⟨"10-20", by decide, "xlsZip-10-20", by decide, by decide⟩
  · obtain ⟨-, -, -, hne⟩ :=
      membership_unconfused hread hunlisted keys 256 2 facts rfl rfl (by decide)
    exact (hne rfl).mpr ⟨"10", by decide, by decide⟩

end Expr

end Rulebook
