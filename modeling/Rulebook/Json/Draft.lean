import Rulebook.Json.Token

namespace Rulebook.Json

/-!
# Documents as far as they can be read

A text is read once, from the left, up to the first place where it breaks the grammar or ends
too early. What stands before that place becomes a draft, which marks it. Decoding goes through
a draft in the same order, so it meets a problem of its own before the mark if the text has one
there. Arrays and objects may nest to any depth.
-/

inductive Draft where
  | null
  | bool (b : Bool)
  | number (n : Number)
  | string (text : Option String)
  | array (items : List Draft) (stop : Option Break)
  | object (members : List (Option String × Draft)) (stop : Option Break)
  | broken (fault : Break)

namespace Draft

/-- An array or object that is open, with what it holds so far, the last first. -/
inductive Frame where
  | array (items : List Draft)
  | object (members : List (Option String × Draft)) (key : Option String)

/-- What has to come next. -/
inductive State where
  | value (opened : List Frame)
  | firstItem (opened : List Frame)
  | firstKey (opened : List Frame)
  | nextKey (members : List (Option String × Draft)) (opened : List Frame)
  | colon (members : List (Option String × Draft)) (key : Option String) (opened : List Frame)
  | behind (draft : Draft) (opened : List Frame)

/-- The whole draft if `draft`, inside the open arrays and objects, is the last of it. -/
def within (draft : Draft) : List Frame → Draft
  | [] => draft
  | .array items :: opened => within (.array (items.reverse ++ [draft]) none) opened
  | .object members key :: opened =>
      within (.object (members.reverse ++ [(key, draft)]) none) opened

/-- A document, and whether something stands behind its value. -/
structure Reading where
  draft : Draft
  trailing : Bool

def stopped (draft : Draft) (opened : List Frame) : Reading := ⟨draft.within opened, false⟩

/-- The draft of a text that has the fault where `state` waits. -/
def stopAt (fault : Break) : State → Reading
  | .value opened => stopped (.broken fault) opened
  | .firstItem opened => stopped (.array [] (some fault)) opened
  | .firstKey opened => stopped (.object [] (some fault)) opened
  | .nextKey members opened => stopped (.object members.reverse (some fault)) opened
  | .colon members key opened =>
      stopped (.object (members.reverse ++ [(key, .broken fault)]) none) opened
  | .behind draft [] => ⟨draft, true⟩
  | .behind draft (.array items :: opened) =>
      stopped (.array (items.reverse ++ [draft]) (some fault)) opened
  | .behind draft (.object members key :: opened) =>
      stopped (.object (members.reverse ++ [(key, draft)]) (some fault)) opened

/-- Reads a value, or its opening bracket. -/
def stepValue (opened : List Frame) : Token → Except Reading State
  | .null => .ok (.behind .null opened)
  | .bool b => .ok (.behind (.bool b) opened)
  | .number n => .ok (.behind (.number n) opened)
  | .string text => .ok (.behind (.string text) opened)
  | .openArray => .ok (.firstItem opened)
  | .openObject => .ok (.firstKey opened)
  | .broken fault => .error (stopAt fault (.value opened))
  | .brokenString fault => .error (stopAt fault (.value opened))
  | _ => .error (stopAt (.both .malformed) (.value opened))

/-- Reads the key of a member of the object that holds `members` so far. -/
def stepKey (state : State) (members : List (Option String × Draft)) (opened : List Frame) :
    Token → Except Reading State
  | .string key => .ok (.colon members key opened)
  | .brokenString fault => .error (stopAt fault state)
  | _ => .error (stopAt (.both .malformed) state)

def step (state : State) (token : Token) : Except Reading State :=
  match state, token with
  | .firstItem opened, .closeArray => .ok (.behind (.array [] none) opened)
  | .firstItem opened, _ => stepValue (.array [] :: opened) token
  | .firstKey opened, .closeObject => .ok (.behind (.object [] none) opened)
  | .firstKey opened, _ => stepKey state [] opened token
  | .nextKey members opened, _ => stepKey state members opened token
  | .colon members key opened, .colon => .ok (.value (.object members key :: opened))
  | .value opened, _ => stepValue opened token
  | .behind draft (.array items :: opened), .comma =>
      .ok (.value (.array (draft :: items) :: opened))
  | .behind draft (.array items :: opened), .closeArray =>
      .ok (.behind (.array (items.reverse ++ [draft]) none) opened)
  | .behind draft (.object members key :: opened), .comma =>
      .ok (.nextKey ((key, draft) :: members) opened)
  | .behind draft (.object members key :: opened), .closeObject =>
      .ok (.behind (.object (members.reverse ++ [(key, draft)]) none) opened)
  | _, _ => .error (stopAt (.both .malformed) state)

/-- The document of a text that ends in `state`. -/
def finish : State → Reading
  | .behind draft [] => ⟨draft, false⟩
  | state => stopAt (.both .ended) state

def run (state : State) : List Token → Reading
  | [] => finish state
  | token :: rest =>
      match step state token with
      | .ok next => run next rest
      | .error reading => reading

def read (text : List Char) : Reading := run (.value []) (Token.readAll text)

/-! ## The mark of a draft -/

mutual

/-- What is wrong with the text of a draft. -/
def fault? : Draft → Option Break
  | broken fault => some fault
  | array items stop => (itemsFault? items).or stop
  | object members stop => (membersFault? members).or stop
  | null | bool _ | number _ | string _ => none

def itemsFault? : List Draft → Option Break
  | [] => none
  | item :: rest => item.fault?.or (itemsFault? rest)

def membersFault? : List (Option String × Draft) → Option Break
  | [] => none
  | (_, value) :: rest => value.fault?.or (membersFault? rest)

end

end Draft

end Rulebook.Json
