import Rulebook.Document.Forms
import Rulebook.Proofs.Document.Records
import Rulebook.Proofs.Json.Printing
import Rulebook.Proofs.Keyed

namespace Rulebook

/-!
# Fact documents

The document of a fact table has one member for each fact, in the order of the names, so it reads
back as the table and no other table has it. Documents that are written by hand may repeat a name,
and they may have blanks and escapes anywhere: they are read as the table of the last values.
-/

namespace FactTable

/-- The members of an object of texts in the order in which they are written. -/
def memberDrafts (pairs : List (String × String)) : List (Option String × Json.Draft) :=
  pairs.map fun (name, value) => (some name, .string (some value))

/-- The text of one member, without blanks. -/
def memberText (pair : String × String) : List Char :=
  Json.quote pair.1.toList ++ ':' :: Json.quote pair.2.toList

/-! ## Reading -/

theorem members_putMember (pairs : List (String × String)) (facts : FactTable) :
    Document.members putMember none (memberDrafts pairs) facts = .ok (facts.insertAll pairs) := by
  induction pairs generalizing facts with
  | nil => rfl
  | cons pair rest ih => exact ih (facts.insert pair.1 pair.2)

theorem ofDocument_of_spells {pairs : List (String × String)} {text : String}
    (h : Json.Spells (.element (.object (memberDrafts pairs) none)) text.toList) :
    ofDocument text = .ok (ofList pairs) := by
  have hdecode : decode (.object (memberDrafts pairs) none) = .ok (ofList pairs) :=
    members_putMember pairs empty
  exact Document.ofText_of_spells hdecode h

/-- The last value of a name counts. -/
theorem get?_ofList (pairs : List (String × String)) (name : String) :
    (ofList pairs).get? name = pairs.reverse.lookup name := by
  rw [ofList, Table.get?_insertAll, Table.get?_empty, Option.or_none]

/-! ## Writing -/

theorem draft_toJson (facts : FactTable) :
    facts.toJson.draft = .object (memberDrafts facts.entries) none := by
  have hmembers (pairs : List (String × String)) :
      Json.Value.memberDrafts (pairs.map fun (name, value) => (name, .text value)) =
        memberDrafts pairs := by
    induction pairs with
    | nil => rfl
    | cons pair rest ih => rw [List.map_cons, Json.Value.memberDrafts, ih]; rfl
  rw [toJson, Json.Value.draft, hmembers]

theorem spells_document (facts : FactTable) :
    Json.Spells (.element (.object (memberDrafts facts.entries) none)) facts.document.toList := by
  rw [← draft_toJson]
  exact facts.toJson.spells_toText

theorem toList_document (facts : FactTable) :
    facts.document.toList =
      '{' :: (List.intercalate [','] (facts.entries.map memberText) ++ ['}']) := by
  have hmembers (pairs : List (String × String)) :
      Json.Value.printMembers (pairs.map fun (name, value) => (name, .text value)) =
        pairs.map memberText := by
    induction pairs with
    | nil => rfl
    | cons pair rest ih => rw [List.map_cons, Json.Value.printMembers, ih]; rfl
  rw [document, Json.Value.toText, String.toList_ofList, toJson, Json.Value.print, hmembers]
  rfl

theorem ofDocument_document (facts : FactTable) : ofDocument facts.document = .ok facts := by
  rw [ofDocument_of_spells facts.spells_document, ofList, Table.insertAll_entries]

/-- The document of a table lists its facts in the strict order of the names, reads back as the
table, and is no document of another one. Every text of an object of texts is read as the table of
the last values of its names, so two texts with the same last values are read as the same table. -/
theorem document_canonical :
    (∀ facts : FactTable, ofDocument facts.document = .ok facts ∧
      ∃ pairs : List (String × String),
        facts.document.toList =
          '{' :: (List.intercalate [','] (pairs.map memberText) ++ ['}']) ∧
        (pairs.map Prod.fst).Pairwise (· < ·) ∧
        ∀ name value, (name, value) ∈ pairs ↔ facts.get? name = some value) ∧
    (∀ facts other : FactTable, facts.document = other.document → facts = other) ∧
    (∀ (pairs : List (String × String)) (text : String),
      Json.Spells (.element (.object (memberDrafts pairs) none)) text.toList →
        ∃ facts, ofDocument text = .ok facts ∧
          ∀ name, facts.get? name = pairs.reverse.lookup name) ∧
    ∀ (pairs others : List (String × String)) (text otherText : String),
      Json.Spells (.element (.object (memberDrafts pairs) none)) text.toList →
      Json.Spells (.element (.object (memberDrafts others) none)) otherText.toList →
      (∀ name, pairs.reverse.lookup name = others.reverse.lookup name) →
        ∃ facts, ofDocument text = .ok facts ∧ ofDocument otherText = .ok facts := by
  refine ⟨fun facts => ⟨facts.ofDocument_document, facts.entries, facts.toList_document, ?_, ?_⟩,
    ?_, ?_, ?_⟩
  · exact List.pairwise_map.mpr facts.ordered
  · exact fun name value => Table.mem_entries_iff
  · intro facts other h
    have hread := facts.ofDocument_document
    rw [h, ofDocument_document] at hread
    exact (Except.ok.inj hread).symm
  · intro pairs text h
    exact ⟨ofList pairs, ofDocument_of_spells h, get?_ofList pairs⟩
  · intro pairs others text otherText h hother hlast
    have heq : ofList pairs = ofList others :=
      Table.ext_get? fun name => by rw [get?_ofList, get?_ofList, hlast]
    exact ⟨ofList pairs, ofDocument_of_spells h, heq ▸ ofDocument_of_spells hother⟩

/-- A name is repeated, another one is written by its code, and a value by two surrogates. -/
theorem document_canonical_repeated_name :
    let text := "\x7b \"b\" :\"1\",\t\"\\u0061\":\"\\uD83D\\ude00\", \"b\":\"2\"\n\x7d"
    let pairs := [("b", "1"), ("a", "😀"), ("b", "2")]
    let last := ofList [("b", "2"), ("a", "😀")]
    Json.Spells (.element (.object (memberDrafts pairs) none)) text.toList ∧
      (∀ name, pairs.reverse.lookup name = last.entries.reverse.lookup name) ∧
      ∃ facts, ofDocument text = .ok facts ∧ ofDocument last.document = .ok facts ∧
        facts.get? "b" = some "2" := by
  intro text pairs last
  have hblank (c : Char) (hc : c ∈ [' ', '\t', '\n', '\r']) : Json.Blank [c] := by
    simpa [Json.Blank] using hc
  have hletter : Json.SpellsUnit 'a'.toNat ['\\', 'u', '0', '0', '6', '1'] :=
    .digits (i := 0) (j := 0) (k := 6) (l := 1) (.inl rfl) (.inl rfl) (.inl rfl) (.inl rfl)
  have hleading : Json.SpellsUnit 0xD83D ['\\', 'u', 'D', '8', '3', 'D'] :=
    .digits (i := 13) (j := 8) (k := 3) (l := 13) (.inr rfl) (.inr rfl) (.inr rfl) (.inr rfl)
  have htrailing : Json.SpellsUnit 0xDE00 ['\\', 'u', 'd', 'e', '0', '0'] :=
    .digits (i := 13) (j := 14) (k := 0) (l := 0) (.inl rfl) (.inl rfl) (.inl rfl) (.inl rfl)
  have hname := Json.SpellsText.unit hletter .nil
  have hsmile := Json.SpellsText.pair (c := '😀') (i := 0x3D) (j := 0x200) (by decide) (by decide)
    (by decide) hleading htrailing .nil
  have hfirst := Json.Spells.member (hblank ' ' (by decide)) (Json.spells_quote "b")
    (hblank ' ' (by decide)) (Json.spells_quote "1").bare
  have hsecond := Json.Spells.member (hblank '\t' (by decide)) (.text (s := "a") hname)
    Json.Blank.nil (Json.Spells.text (s := "😀") hsmile).bare
  have hthird := Json.Spells.member (hblank ' ' (by decide)) (Json.spells_quote "b")
    Json.Blank.nil (.element Json.Blank.nil (Json.spells_quote "2") (hblank '\n' (by decide)))
  have hobject :=
    (Json.Spells.object (.someMember hfirst (.someMember hsecond (.lastMember hthird)))).bare
  have hspells : Json.Spells (.element (.object (memberDrafts pairs) none)) text.toList :=
    (congrArg (Json.Spells _) (by decide +kernel)).mp hobject
  have hlast (name : String) :
      pairs.reverse.lookup name = last.entries.reverse.lookup name := by
    have hentries : last.entries = [("a", "😀"), ("b", "2")] := by decide
    rw [hentries]
    by_cases h : name = "b"
    · subst h
      rfl
    · simp [pairs, List.lookup_cons, beq_false_of_ne h]
  obtain ⟨facts, hread, hvalues⟩ := document_canonical.2.2.1 pairs text hspells
  obtain ⟨same, hsame, hcanonical⟩ :=
    document_canonical.2.2.2 pairs last.entries text last.document hspells last.spells_document hlast
  obtain rfl : facts = same := Except.ok.inj (hread.symm.trans hsame)
  exact ⟨hspells, hlast, facts, hread, hcanonical, (hvalues "b").trans (by decide)⟩

end FactTable

end Rulebook
