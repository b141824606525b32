import Rulebook.Document.Decode
import Rulebook.Facts
import Rulebook.Json.Value
import Rulebook.Package.Basic

namespace Rulebook

/-!
# Documents of packages and facts

A package needs its name, and a rule its name and condition; all other fields are empty when
they are left out. Facts are written as an object of texts, in the order of their names. A name that
is read twice keeps its last value.
-/

namespace Rule

def toJson (rule : Rule) : Json.Value :=
  .fields [("ruleName", .text rule.name), ("rule", .text rule.condition),
    ("actions", .list (rule.actions.map .text))]

def document (rule : Rule) : String := rule.toJson.toText

/-- The fields of a rule that are read so far. -/
structure Fields where
  name : Option String
  condition : Option String
  actions : Option (List String)
  deriving DecidableEq

namespace Fields

def empty : Fields := ⟨none, none, none⟩

def put (fields : Fields) (field : String) (draft : Json.Draft) : Except Document.Error Fields :=
  if field = "ruleName" then
    (Document.fill field Document.text fields.name draft).map ({ fields with name := · })
  else if field = "rule" then
    (Document.fill field Document.text fields.condition draft).map
      ({ fields with condition := · })
  else if field = "actions" then
    (Document.fill field (Document.list Document.text) fields.actions draft).map
      ({ fields with actions := · })
  else (Document.skip draft).map fun () => fields

def make (fields : Fields) : Except Nat Rule :=
  match fields.name, fields.condition with
  | none, _ => .error 0
  | some _, none => .error 1
  | some name, some condition => .ok ⟨name, condition, fields.actions.getD []⟩

end Fields

def layout : Document.Layout Fields Rule where
  wanted := .rule
  fields := ["ruleName", "rule", "actions"]
  start := Fields.empty
  put := Fields.put
  make := Fields.make

def decode : Document.Decoder Rule := Document.record layout

def ofDocument (text : String) : Except Document.Error Rule := Document.ofText decode text

end Rule

namespace RulePackage

def toJson (package : RulePackage) : Json.Value :=
  .fields [("packageName", .text package.name), ("validFrom", .text package.validFrom),
    ("validTo", .text package.validTo), ("ruleSet", .list (package.rules.map Rule.toJson)),
    ("filters", .list (package.filters.map .text))]

def document (package : RulePackage) : String := package.toJson.toText

/-- The fields of a package that are read so far. -/
structure Fields where
  name : Option String
  validFrom : Option String
  validTo : Option String
  rules : Option (List Rule)
  filters : Option (List String)
  deriving DecidableEq

namespace Fields

def empty : Fields := ⟨none, none, none, none, none⟩

def put (fields : Fields) (field : String) (draft : Json.Draft) : Except Document.Error Fields :=
  if field = "packageName" then
    (Document.fill field Document.text fields.name draft).map ({ fields with name := · })
  else if field = "validFrom" then
    (Document.fill field Document.text fields.validFrom draft).map
      ({ fields with validFrom := · })
  else if field = "validTo" then
    (Document.fill field Document.text fields.validTo draft).map ({ fields with validTo := · })
  else if field = "ruleSet" then
    (Document.fill field (Document.list Rule.decode) fields.rules draft).map
      ({ fields with rules := · })
  else if field = "filters" then
    (Document.fill field (Document.list Document.text) fields.filters draft).map
      ({ fields with filters := · })
  else (Document.skip draft).map fun () => fields

def make (fields : Fields) : Except Nat RulePackage :=
  match fields.name with
  | none => .error 0
  | some name =>
      .ok ⟨name, fields.validFrom.getD "", fields.validTo.getD "", fields.rules.getD [],
        fields.filters.getD []⟩

end Fields

def layout : Document.Layout Fields RulePackage where
  wanted := .package
  fields := ["packageName", "validFrom", "validTo", "ruleSet", "filters"]
  start := Fields.empty
  put := Fields.put
  make := Fields.make

def decode : Document.Decoder RulePackage := Document.record layout

def ofDocument (text : String) : Except Document.Error RulePackage :=
  Document.ofText decode text

end RulePackage

namespace FactTable

def toJson (facts : FactTable) : Json.Value :=
  .fields (facts.entries.map fun (name, value) => (name, .text value))

def document (facts : FactTable) : String := facts.toJson.toText

def putMember (facts : FactTable) (name : String) (value : Json.Draft) :
    Except Document.Error FactTable :=
  match Document.text value with
  | .ok text => .ok (facts.insert name text)
  | .error e => .error e

def decode : Document.Decoder FactTable
  | .object pairs stop => Document.members putMember stop pairs empty
  | draft => .error (Document.refuse .facts draft)

def ofDocument (text : String) : Except Document.Error FactTable := Document.ofText decode text

end FactTable

end Rulebook
