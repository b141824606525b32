import Rulebook.Decimal.Printing
import Rulebook.Json.Draft
import Rulebook.Text.Quoted

namespace Rulebook.Document

/-!
# Decoding documents

A decoder takes from a draft what it wants and names the first problem on its way: a flaw of
the text, or data of another kind. Records may be written as objects or as arrays of their
fields in order. In an object, fields come in any order and unknown ones are skipped; in an
array, fields may be missing at the end.
-/

/-- What a decoder wants. -/
inductive Wanted where
  | text
  | list
  | facts
  | count
  | package
  | rule
  | config
  deriving DecidableEq, Repr

def Wanted.name : Wanted → String
  | text => "a string"
  | list => "a sequence"
  | facts => "a map"
  | count => "usize"
  | package => "struct RulePackage"
  | rule => "struct Rule"
  | config => "struct EngineConfig"

/-- What a document has instead. -/
inductive Found where
  | null
  | bool (b : Bool)
  | integer (n : Int)
  | floating (digits : String)
  | text (s : String)
  | list
  | object
  deriving DecidableEq, Repr

def Found.name : Found → String
  | null => "null"
  | bool true => "boolean `true`"
  | bool false => "boolean `false`"
  | integer n => s!"integer `{n}`"
  | floating digits => s!"floating point `{digits}`"
  | text s => "string " ++ Text.quoted s
  | list => "sequence"
  | object => "map"

inductive Mismatch where
  | kind (found : Found) (wanted : Wanted)
  | negative (n : Int) (wanted : Wanted)
  | duplicateField (field : String)
  | missingField (field : String)
  | tooShort (length : Nat) (wanted : Wanted) (fields : Nat)
  deriving DecidableEq, Repr

def Mismatch.message : Mismatch → String
  | kind found wanted => s!"invalid type: {found.name}, expected {wanted.name}"
  | negative n wanted => s!"invalid value: integer `{n}`, expected {wanted.name}"
  | duplicateField field => s!"duplicate field `{field}`"
  | missingField field => s!"missing field `{field}`"
  | tooShort length wanted fields =>
      s!"invalid length {length}, expected {wanted.name} with {fields} elements"

inductive Error where
  | flaw (flaw : Json.Flaw)
  | mismatch (mismatch : Mismatch)
  deriving DecidableEq, Repr

abbrev Decoder (α : Type) := Json.Draft → Except Error α

/-- A number that is used has a value. -/
def foundNumber (n : Json.Number) : Except Error Found :=
  match n.value? with
  | some (.integer i) => .ok (.integer i)
  | some (.floating x) => .ok (.floating (Decimal.ofFloat x).shortest)
  | none => .error (.flaw .malformed)

/-- What a draft is. Scalars are looked at as a whole, arrays and objects by their brackets. -/
def found : Json.Draft → Except Error Found
  | .null => .ok .null
  | .bool b => .ok (.bool b)
  | .number n => foundNumber n
  | .string (some s) => .ok (.text s)
  | .string none => .error (.flaw .malformed)
  | .array _ _ => .ok .list
  | .object _ _ => .ok .object
  | .broken fault => .error (.flaw fault.used)

def refuse (wanted : Wanted) (draft : Json.Draft) : Error :=
  match found draft with
  | .ok found => .mismatch (.kind found wanted)
  | .error e => e

/-- The end of an array or object, which has to be there. -/
def close (stop : Option Json.Break) : Except Error Unit :=
  match stop with
  | none => .ok ()
  | some fault => .error (.flaw fault.used)

def text : Decoder String
  | .string (some s) => .ok s
  | draft => .error (refuse .text draft)

def count : Decoder Nat
  | .number n =>
      match n.value? with
      | some (.integer (.ofNat k)) => .ok k
      | some (.integer i) => .error (.mismatch (.negative i .count))
      | _ => .error (refuse .count (.number n))
  | draft => .error (refuse .count draft)

def items {α : Type} (item : Decoder α) (stop : Option Json.Break) :
    List Json.Draft → Except Error (List α)
  | [] =>
      match close stop with
      | .ok () => .ok []
      | .error e => .error e
  | draft :: rest =>
      match item draft with
      | .error e => .error e
      | .ok a =>
          match items item stop rest with
          | .error e => .error e
          | .ok others => .ok (a :: others)

def list {α : Type} (item : Decoder α) : Decoder (List α)
  | .array drafts stop => items item stop drafts
  | draft => .error (refuse .list draft)

/-- A value that is not used has to be readable. -/
def skip (draft : Json.Draft) : Except Error Unit :=
  match draft.fault? with
  | none => .ok ()
  | some fault => .error (.flaw fault.skipped)

/-- Takes the members of an object in order, each into the state that the ones before left. -/
def members {σ : Type} (put : σ → String → Decoder σ) (stop : Option Json.Break) :
    List (Option String × Json.Draft) → σ → Except Error σ
  | [], state =>
      match close stop with
      | .ok () => .ok state
      | .error e => .error e
  | (none, _) :: _, _ => .error (.flaw .malformed)
  | (some key, value) :: rest, state =>
      match put state key value with
      | .error e => .error e
      | .ok next => members put stop rest next

/-- Takes the items of an array for the fields in order. There may be fewer items, but not
more. -/
def positions {σ : Type} (put : σ → String → Decoder σ) (stop : Option Json.Break) :
    List String → List Json.Draft → σ → Except Error σ
  | _, [], state =>
      match close stop with
      | .ok () => .ok state
      | .error e => .error e
  | [], _ :: _, _ => .error (.flaw .malformed)
  | field :: fields, draft :: rest, state =>
      match put state field draft with
      | .error e => .error e
      | .ok next => positions put stop fields rest next

/-- A kind of record: its fields in order, how the value of a field is put into the fields read
so far, and the record that they make. A record that cannot be made names the position of the
first field that is missing. -/
structure Layout (σ α : Type) where
  wanted : Wanted
  fields : List String
  start : σ
  put : σ → String → Decoder σ
  make : σ → Except Nat α

/-- Fills a field that has no value yet. -/
def fill {α : Type} (field : String) (decode : Decoder α) (slot : Option α)
    (draft : Json.Draft) : Except Error (Option α) :=
  match slot with
  | some _ => .error (.mismatch (.duplicateField field))
  | none =>
      match decode draft with
      | .ok a => .ok (some a)
      | .error e => .error e

def record {σ α : Type} (layout : Layout σ α) : Decoder α
  | .object pairs stop =>
      match members layout.put stop pairs layout.start with
      | .error e => .error e
      | .ok state =>
          match layout.make state with
          | .ok a => .ok a
          | .error i => .error (.mismatch (.missingField (layout.fields.getD i "")))
  | .array drafts stop =>
      match positions layout.put stop layout.fields drafts layout.start with
      | .error e => .error e
      | .ok state =>
          match layout.make state with
          | .ok a => .ok a
          | .error i => .error (.mismatch (.tooShort i layout.wanted layout.fields.length))
  | draft => .error (refuse layout.wanted draft)

/-- Decodes a whole text. Only a document that is right in itself is looked at for something
behind it. -/
def ofText {α : Type} (decode : Decoder α) (text : String) : Except Error α :=
  let reading := Json.Draft.read text.toList
  match decode reading.draft with
  | .error e => .error e
  | .ok a => if reading.trailing then .error (.flaw .malformed) else .ok a

end Rulebook.Document
