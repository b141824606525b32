import Rulebook.Proofs.Json.Lexing

namespace Rulebook.Json

/-!
# Reading well-formed documents

The reader keeps what is open on a stack. A part of a document that follows the grammar takes it
from any state that waits for such a part to the state behind the part, whatever is open around it
and whatever follows. So a document is read as its grammar says, and nothing is marked in it.
-/

namespace Draft

/-- What is read of a text from a state on. -/
def readFrom (state : State) (text : List Char) : Reading := run state (Token.readAll text)

theorem readFrom_blank_append {blank : List Char} (h : Blank blank) (state : State)
    (text : List Char) : readFrom state (blank ++ text) = readFrom state text :=
  congrArg (run state) (Token.readAll_blank_append h text)

theorem readFrom_cons {state next : State} {c : Char} {rest after : List Char} {token : Token}
    (hc : Token.isBlank c = false) (hread : Token.read c rest = (token, after))
    (hstep : step state token = .ok next) : readFrom state (c :: rest) = readFrom next after := by
  rw [readFrom, Token.readAll_cons hc hread, run, hstep]
  rfl

/-- A bracket, comma or colon. -/
theorem readFrom_mark {state next : State} {c : Char} {rest : List Char} (token : Token)
    (hmark : (c, token) ∈ Token.marks) (hstep : step state token = .ok next) :
    readFrom state (c :: rest) = readFrom next rest := by
  obtain ⟨hblank, hread⟩ := Token.read_of_mem_marks hmark rest
  exact readFrom_cons hblank hread hstep

/-! ## States that wait for a part -/

/-- A value comes next, inside `opened`. If the array that is open last is empty it may also be
closed. -/
def Awaits (state : State) (opened : List Frame) : Prop :=
  ∀ token, token ≠ .closeArray → step state token = stepValue opened token

/-- A member comes next, in an object that holds `done` so far. If it is empty it may also be
closed. -/
def AwaitsMember (state : State) (done : List (Option String × Draft)) (opened : List Frame) :
    Prop :=
  ∀ key, step state (.string key) = .ok (.colon done key opened)

theorem awaits_value (opened : List Frame) : Awaits (.value opened) opened := by
  intro token _
  cases token <;> rfl

theorem awaits_firstItem (opened : List Frame) :
    Awaits (.firstItem opened) (.array [] :: opened) := by
  intro token hclose
  cases token with
  | closeArray => exact absurd rfl hclose
  | _ => rfl

theorem awaitsMember_firstKey (opened : List Frame) : AwaitsMember (.firstKey opened) [] opened :=
  fun _ => rfl

theorem awaitsMember_nextKey (done : List (Option String × Draft)) (opened : List Frame) :
    AwaitsMember (.nextKey done opened) done opened :=
  fun _ => rfl

/-! ## Parts -/

/-- Reading the text of a part leads from a state that waits for it to the state behind it. -/
def Reads : Part → List Char → Prop
  | .value draft, text | .element draft, text =>
      ∀ {state opened rest}, Awaits state opened → Number.Ends rest →
        readFrom state (text ++ rest) = readFrom (.behind draft opened) rest
  | .items drafts, text =>
      ∀ {state done opened rest}, Awaits state (.array done :: opened) →
        readFrom state (text ++ ']' :: rest) =
          readFrom (.behind (.array (done.reverse ++ drafts) none) opened) rest
  | .member key draft, text =>
      ∀ {state done opened rest}, AwaitsMember state done opened → Number.Ends rest →
        readFrom state (text ++ rest) =
          readFrom (.behind draft (.object done key :: opened)) rest
  | .members pairs, text =>
      ∀ {state done opened rest}, AwaitsMember state done opened →
        readFrom state (text ++ '}' :: rest) =
          readFrom (.behind (.object (done.reverse ++ pairs) none) opened) rest

section
variable {state : State} {opened : List Frame} {draft : Draft} {c : Char}
  {rest after text : List Char} {token : Token}

/-- A value of one token. -/
theorem readFrom_scalar (hstate : Awaits state opened) (hc : Token.isBlank c = false)
    (hread : Token.read c rest = (token, after))
    (hvalue : stepValue opened token = .ok (.behind draft opened)) :
    readFrom state (c :: rest) = readFrom (.behind draft opened) after := by
  have hclose : token ≠ .closeArray := by
    rintro rfl
    cases hvalue
  exact readFrom_cons hc hread ((hstate token hclose).trans hvalue)

theorem reads_string {key : Option String} {name : List Char}
    (h : Spells (.value (.string key)) name) : Reads (.value (.string key)) name := by
  intro state opened rest hstate _
  obtain ⟨body, rfl, hbody⟩ := Token.readString_of_spells h
  have hread : Token.read '"' (body ++ '"' :: rest) = (.string key, rest) := hbody rest
  simpa using readFrom_scalar hstate rfl hread rfl

theorem readFrom_openArray (hstate : Awaits state opened) :
    readFrom state ('[' :: rest) = readFrom (.firstItem opened) rest :=
  readFrom_mark .openArray (by decide) (hstate .openArray Token.noConfusion)

theorem readFrom_openObject (hstate : Awaits state opened) :
    readFrom state ('{' :: rest) = readFrom (.firstKey opened) rest :=
  readFrom_mark .openObject (by decide) (hstate .openObject Token.noConfusion)

theorem ends_blank_append (hblank : Blank text) (hrest : Number.Ends rest) :
    Number.Ends (text ++ rest) := by
  have hnone : ∀ c ∈ [' ', '\t', '\n', '\r'], Number.continues c = false := by
    simp [Number.continues]
  cases text with
  | nil => exact hrest
  | cons c others => exact Number.ends_cons (hnone c (hblank c List.mem_cons_self)) _

end

theorem reads_of_spells {part : Part} {text : List Char} (h : Spells part text) :
    Reads part text := by
  induction h with
  | null =>
      intro state opened rest hstate _
      have hread : Token.read 'n' ('u' :: 'l' :: 'l' :: rest) = (.null, rest) := by
        simp [Token.read, Token.word]
      exact readFrom_scalar hstate rfl hread rfl
  | bool b =>
      intro state opened rest hstate _
      cases b with
      | false =>
          have hread : Token.read 'f' ('a' :: 'l' :: 's' :: 'e' :: rest) = (.bool false, rest) := by
            simp [Token.read, Token.word]
          exact readFrom_scalar hstate rfl hread rfl
      | true =>
          have hread : Token.read 't' ('r' :: 'u' :: 'e' :: rest) = (.bool true, rest) := by
            simp [Token.read, Token.word]
          exact readFrom_scalar hstate rfl hread rfl
  | number h =>
      intro state opened rest hstate hrest
      obtain ⟨c, digits, rfl, hc, hread⟩ := Token.read_of_spellsNumber h hrest
      exact readFrom_scalar hstate hc hread rfl
  | text h => exact reads_string (.text h)
  | unpaired h hunpaired => exact reads_string (.unpaired h hunpaired)
  | noItems hblank =>
      intro state opened rest hstate _
      rw [List.cons_append, readFrom_openArray hstate, List.append_assoc,
        readFrom_blank_append hblank]
      exact readFrom_mark .closeArray (by decide) rfl
  | array _ ih =>
      intro state opened rest hstate _
      rw [List.cons_append, readFrom_openArray hstate, List.append_assoc]
      exact ih (awaits_firstItem opened)
  | noMembers hblank =>
      intro state opened rest hstate _
      rw [List.cons_append, readFrom_openObject hstate, List.append_assoc,
        readFrom_blank_append hblank]
      exact readFrom_mark .closeObject (by decide) rfl
  | object _ ih =>
      intro state opened rest hstate _
      rw [List.cons_append, readFrom_openObject hstate, List.append_assoc]
      exact ih (awaitsMember_firstKey opened)
  | element hbefore _ hafter ih =>
      intro state opened rest hstate hrest
      rw [List.append_assoc, readFrom_blank_append hbefore, List.append_assoc,
        ih hstate (ends_blank_append hafter hrest), readFrom_blank_append hafter]
  | lastItem _ ih =>
      intro state done opened rest hstate
      rw [ih hstate (Number.ends_cons rfl _)]
      exact readFrom_mark .closeArray (by decide) rfl
  | item _ _ ih ihrest =>
      intro state done opened rest hstate
      rw [List.append_assoc, List.cons_append, ih hstate (Number.ends_cons rfl _),
        readFrom_mark .comma (by decide) rfl, ihrest (awaits_value _)]
      simp
  | @member key draft before name between text hbefore hkey hbetween _ _ ih =>
      intro state done opened rest hstate hrest
      obtain ⟨body, rfl, hbody⟩ := Token.readString_of_spells hkey
      have hread (after : List Char) :
          readFrom state ('"' :: (body ++ '"' :: after)) = readFrom (.colon done key opened) after :=
        readFrom_cons rfl (hbody after) (hstate key)
      -- The key goes onto the stack with the colon behind it.
      have hcolon : readFrom (.colon done key opened) (':' :: (text ++ rest)) =
          readFrom (.value (.object done key :: opened)) (text ++ rest) :=
        readFrom_mark .colon (by decide) rfl
      calc
        readFrom state (before ++ ('"' :: (body ++ ['"']) ++ (between ++ ':' :: text)) ++ rest)
        _ = readFrom state ('"' :: (body ++ '"' :: (between ++ ':' :: (text ++ rest)))) := by
            rw [List.append_assoc, readFrom_blank_append hbefore]
            simp only [List.append_assoc, List.cons_append, List.nil_append]
        _ = readFrom (.colon done key opened) (':' :: (text ++ rest)) := by
            rw [hread, readFrom_blank_append hbetween]
        _ = readFrom (.behind draft (.object done key :: opened)) rest := by
            rw [hcolon, ih (awaits_value _) hrest]
  | lastMember _ ih =>
      intro state done opened rest hstate
      rw [ih hstate (Number.ends_cons rfl _)]
      exact readFrom_mark .closeObject (by decide) rfl
  | someMember _ _ ih ihrest =>
      intro state done opened rest hstate
      rw [List.append_assoc, List.cons_append, ih hstate (Number.ends_cons rfl _),
        readFrom_mark .comma (by decide) rfl, ihrest (awaitsMember_nextKey _ _)]
      simp

/-- A document is read as a whole. -/
theorem read_of_spells {draft : Draft} {text : List Char} (h : Spells (.element draft) text) :
    read text = ⟨draft, false⟩ := by
  have hread : readFrom (.value []) (text ++ []) = readFrom (.behind draft []) [] :=
    reads_of_spells h (awaits_value []) nofun
  rw [List.append_nil] at hread
  calc
    read text = readFrom (.behind draft []) [] := hread
    _ = ⟨draft, false⟩ := by rw [readFrom, Token.readAll_nil, run, finish]

end Draft

/-! ## Flaws -/

/-- What is marked in a part. -/
def Part.fault? : Part → Option Break
  | .value draft | .element draft | .member _ draft => draft.fault?
  | .items drafts => Draft.itemsFault? drafts
  | .members pairs => Draft.membersFault? pairs

theorem fault?_of_spells {part : Part} {text : List Char} (h : Spells part text) :
    part.fault? = none := by
  induction h with
  | null | bool | number | text | unpaired | noItems | noMembers => rfl
  | array _ ih | object _ ih => simpa only [Part.fault?, Draft.fault?, Option.or_none] using ih
  | element _ _ _ ih | member _ _ _ _ _ ih => exact ih
  | lastItem _ ih => simpa only [Part.fault?, Draft.itemsFault?, Option.or_none] using ih
  | lastMember _ ih => simpa only [Part.fault?, Draft.membersFault?, Option.or_none] using ih
  | item _ _ ih ihrest =>
      simp only [Part.fault?] at ih ihrest ⊢
      rw [Draft.itemsFault?, ih, ihrest, Option.none_or]
  | someMember _ _ ih ihrest =>
      simp only [Part.fault?] at ih ihrest ⊢
      rw [Draft.membersFault?, ih, ihrest, Option.none_or]

end Rulebook.Json
