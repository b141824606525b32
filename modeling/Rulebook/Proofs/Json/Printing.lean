import Rulebook.Json.Value
import Rulebook.Proofs.Json.Grammar

namespace Rulebook.Json

/-!
# Printed documents follow the grammar

A printed value is a text of its own draft: each character of a string is escaped or stands for
itself, and the parts of a list or a record have no blanks between them.
-/

theorem Blank.nil : Blank [] := by simp [Blank]

/-! ## Strings -/

theorem hexDigit_digitChar {n : Nat} (h : n < 16) : HexDigit n.digitChar n := by
  have hall : ∀ i : Fin 16, "0123456789abcdef".toList[i.val]? = some (Nat.digitChar i) := by decide
  exact Or.inl (hall ⟨n, h⟩)

theorem spellsUnit_control {n : Nat} (h : n < 0x20) :
    SpellsUnit n ['\\', 'u', '0', '0', (n / 16).digitChar, (n % 16).digitChar] := by
  have hzero : HexDigit '0' 0 := Or.inl rfl
  have hhigh : HexDigit (n / 16).digitChar (n / 16) := hexDigit_digitChar (by omega)
  have hlow : HexDigit (n % 16).digitChar (n % 16) := hexDigit_digitChar (by omega)
  have hvalue : ((0 * 16 + 0) * 16 + n / 16) * 16 + n % 16 = n := by omega
  have hdigits := SpellsUnit.digits hzero hzero hhigh hlow
  rwa [hvalue] at hdigits

theorem spells_escape (c : Char) : SpellsPlain c (escape c) ∨ SpellsUnit c.toNat (escape c) := by
  unfold escape
  split
  case h_8 hquote hback _ _ _ _ _ =>
    split
    · next hcontrol => exact Or.inr (spellsUnit_control hcontrol)
    · next hcontrol => exact Or.inl (.raw (Nat.not_lt.mp hcontrol) hquote hback)
  all_goals exact Or.inl (.letter (by decide))

theorem spellsText_escape (text : List Char) : SpellsText text (text.flatMap escape) := by
  induction text with
  | nil => exact .nil
  | cons c rest ih =>
      rw [List.flatMap_cons]
      cases spells_escape c with
      | inl hplain => exact .plain hplain ih
      | inr hunit => exact .unit hunit ih

theorem spells_quote (s : String) : Spells (.value (.string (some s))) (quote s.toList) :=
  .text (spellsText_escape s.toList)

/-! ## Numbers -/

theorem isDigits_toDigits (n : Nat) : IsDigits (Nat.toDigits 10 n) :=
  ⟨Nat.toDigits_ne_nil, fun _ => Nat.isDigit_of_mem_toDigits (by decide) (by decide)⟩

theorem head_toDigits {n : Nat} (h : (Nat.toDigits 10 n).head? = some '0') : n = 0 := by
  induction n using Nat.strongRecOn with
  | ind n ih =>
      by_cases hn : n < 10
      · rw [Nat.toDigits_of_lt_base hn] at h
        exact Nat.digitChar_eq_zero.mp (Option.some.inj h)
      · -- The first digit is that of the number without its last digit.
        obtain ⟨first, others, hdigits⟩ :=
          List.exists_cons_of_ne_nil (Nat.toDigits_ne_nil : Nat.toDigits 10 (n / 10) ≠ [])
        rw [Nat.toDigits_of_base_le (by decide) (Nat.not_lt.mp hn), hdigits] at h
        have hzero : n / 10 = 0 := ih (n / 10) (by omega) (hdigits ▸ h)
        omega

/-- A count as it is written. -/
def decimal (n : Nat) : Number := ⟨false, Nat.toDigits 10 n, none, none⟩

theorem spellsNumber_decimal (n : Nat) : SpellsNumber (decimal n) (Nat.toDigits 10 n) := by
  have hzero : (decimal n).whole.head? = some '0' → (decimal n).whole = ['0'] := by
    intro h
    obtain rfl := head_toDigits h
    rfl
  have hparts : SpellsNumber (decimal n) ([] ++ (Nat.toDigits 10 n ++ ([] ++ []))) :=
    .parts .positive (isDigits_toDigits n) hzero .none .none
  rwa [List.nil_append, List.append_nil, List.append_nil] at hparts

/-! ## Values -/

theorem Spells.bare {draft : Draft} {text : List Char} (h : Spells (.value draft) text) :
    Spells (.element draft) text := by
  simpa using Spells.element Blank.nil h Blank.nil

theorem spells_member {draft : Draft} {text : List Char} (key : String)
    (h : Spells (.value draft) text) :
    Spells (.member (some key) draft) (quote key.toList ++ ':' :: text) := by
  simpa using Spells.member Blank.nil (spells_quote key) Blank.nil h.bare

namespace Value

mutual

/-- What a value is read as. -/
def draft : Value → Draft
  | text s => .string (some s)
  | count n => .number (decimal n)
  | list items => .array (itemDrafts items) none
  | fields members => .object (memberDrafts members) none

def itemDrafts : List Value → List Draft
  | [] => []
  | item :: rest => item.draft :: itemDrafts rest

def memberDrafts : List (String × Value) → List (Option String × Draft)
  | [] => []
  | (key, value) :: rest => (some key, value.draft) :: memberDrafts rest

end

mutual

theorem spells_print : (value : Value) → Spells (.value value.draft) value.print
  | text s => spells_quote s
  | count n => .number (spellsNumber_decimal n)
  | list [] => .noItems Blank.nil
  | list (item :: rest) => .array (spells_printItems (item :: rest) (List.cons_ne_nil _ _))
  | fields [] => .noMembers Blank.nil
  | fields (member :: rest) =>
      .object (spells_printMembers (member :: rest) (List.cons_ne_nil _ _))

theorem spells_printItems : (items : List Value) → items ≠ [] →
    Spells (.items (itemDrafts items)) (List.intercalate [','] (printItems items))
  | [], h => absurd rfl h
  | [item], _ => by
      simpa [printItems, itemDrafts] using Spells.lastItem (spells_print item).bare
  | item :: next :: rest, _ => by
      have hrest := spells_printItems (next :: rest) (List.cons_ne_nil _ _)
      simpa [printItems, itemDrafts] using Spells.item (spells_print item).bare hrest

theorem spells_printMembers : (members : List (String × Value)) → members ≠ [] →
    Spells (.members (memberDrafts members)) (List.intercalate [','] (printMembers members))
  | [], h => absurd rfl h
  | [(key, value)], _ => by
      simpa [printMembers, memberDrafts] using
        Spells.lastMember (spells_member key (spells_print value))
  | (key, value) :: next :: rest, _ => by
      have hrest := spells_printMembers (next :: rest) (List.cons_ne_nil _ _)
      simpa [printMembers, memberDrafts] using
        Spells.someMember (spells_member key (spells_print value)) hrest

end

theorem spells_toText (value : Value) : Spells (.element value.draft) value.toText.toList := by
  rw [toText, String.toList_ofList]
  exact (spells_print value).bare

end Value

end Rulebook.Json
