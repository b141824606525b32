import Rulebook.Document.Forms
import Rulebook.Package.Compile
import Rulebook.Package.Run
import Rulebook.Text.Quoted

namespace Rulebook

/-!
# Engines

An engine serves one compiled package at a time, with settings that never change. A package
replaces the one before only if it compiles, and an evaluation changes nothing.
-/

/-! ## Settings -/

/-- No node of a tree is evaluated below `maxDepth`. -/
structure EngineConfig where
  maxDepth : Nat
  deriving DecidableEq, Repr

namespace EngineConfig

def defaultMaxDepth : Nat := 256

def default : EngineConfig := ⟨defaultMaxDepth⟩

/-! The document of the settings. A setting that is left out has its default. -/

def toJson (config : EngineConfig) : Json.Value :=
  .fields [("max_depth", .count config.maxDepth)]

def document (config : EngineConfig) : String := config.toJson.toText

def putField (maxDepth : Option Nat) (field : String) (draft : Json.Draft) :
    Except Document.Error (Option Nat) :=
  if field = "max_depth" then Document.fill field Document.count maxDepth draft
  else (Document.skip draft).map fun () => maxDepth

def layout : Document.Layout (Option Nat) EngineConfig where
  wanted := .config
  fields := ["max_depth"]
  start := none
  put := putField
  make := fun maxDepth => .ok ⟨maxDepth.getD default.maxDepth⟩

def decode : Document.Decoder EngineConfig := Document.record layout

def ofDocument (text : String) : Except Document.Error EngineConfig :=
  Document.ofText decode text

end EngineConfig

/-! ## Engines -/

structure Engine where
  current : Option CompiledPackage
  config : EngineConfig
  deriving DecidableEq

inductive EngineError where
  | compile (source : CompileError)
  | execution (source : ExecutionError)
  | document (source : Document.Error)
  | noPackage

def EngineError.noPackageMessage : String := "no rule package is loaded"

namespace Engine

def new (config : EngineConfig) : Engine := ⟨none, config⟩

def activate (engine : Engine) (package : CompiledPackage) : Engine :=
  { engine with current := some package }

/-- The package that becomes active, and the engine afterwards. -/
def load (engine : Engine) (package : RulePackage) :
    Except EngineError CompiledPackage × Engine :=
  match package.compile with
  | .ok compiled => (.ok compiled, engine.activate compiled)
  | .error source => (.error (.compile source), engine)

def loadDocument (engine : Engine) (text : String) :
    Except EngineError CompiledPackage × Engine :=
  match RulePackage.ofDocument text with
  | .ok package => engine.load package
  | .error source => (.error (.document source), engine)

/-- The facts after a run of the active package. -/
def evaluate (engine : Engine) (facts : FactTable) : Except EngineError FactTable :=
  match engine.current with
  | none => .error .noPackage
  | some package =>
      match package.evaluate engine.config.maxDepth facts with
      | .ok facts => .ok facts
      | .error source => .error (.execution source)

/-- Evaluates a fact document. The document is read before the package is looked for. -/
def evaluateDocument (engine : Engine) (text : String) : Except EngineError String :=
  match FactTable.ofDocument text with
  | .error source => .error (.document source)
  | .ok facts =>
      match engine.evaluate facts with
      | .ok facts => .ok facts.document
      | .error e => .error e

def inspect (engine : Engine) : String :=
  let current :=
    match engine.current with
    | none => "None"
    | some package => "Some(" ++ Text.quoted package.name ++ ")"
  "Engine \x7b current: " ++ current ++ ", config: EngineConfig \x7b max_depth: " ++
    toString engine.config.maxDepth ++ " \x7d \x7d"

end Engine

end Rulebook
