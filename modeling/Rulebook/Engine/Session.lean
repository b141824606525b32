import Rulebook.Engine.Basic

namespace Rulebook

/-!
# Sessions

A session is one engine with the packages that its users have kept. A user may keep the package
that is active and run it later, whatever the engine serves by then.
-/

namespace Engine

inductive Call where
  | load (package : RulePackage)
  | loadDocument (text : String)
  | activate (package : CompiledPackage)
  | evaluate (facts : FactTable)
  | evaluateDocument (text : String)
  | keep
  | runKept (index limit : Nat) (facts : FactTable)

inductive Answer where
  | loaded (result : Except EngineError CompiledPackage)
  | evaluated (result : Except EngineError FactTable)
  | document (result : Except EngineError String)
  | kept (package : Option CompiledPackage)
  | ran (result : Option (Except ExecutionError Unit × FactTable))

end Engine

/-- The packages are kept in the order in which they are taken. Where no package was active,
nothing is kept in its place. -/
structure Session where
  engine : Engine
  kept : List (Option CompiledPackage)

namespace Session

def start (config : EngineConfig) : Session := ⟨.new config, []⟩

def perform (session : Session) : Engine.Call → Engine.Answer × Session
  | .load package =>
      let (result, engine) := session.engine.load package
      (.loaded result, { session with engine := engine })
  | .loadDocument text =>
      let (result, engine) := session.engine.loadDocument text
      (.loaded result, { session with engine := engine })
  | .activate package =>
      (.loaded (.ok package), { session with engine := session.engine.activate package })
  | .evaluate facts => (.evaluated (session.engine.evaluate facts), session)
  | .evaluateDocument text => (.document (session.engine.evaluateDocument text), session)
  | .keep =>
      let current := session.engine.current
      (.kept current, { session with kept := session.kept ++ [current] })
  | .runKept index limit facts =>
      let package := (session.kept[index]?).join
      (.ran (package.map fun package => package.run limit facts), session)

/-- The session after a list of calls. -/
def after (session : Session) : List Engine.Call → Session
  | [] => session
  | call :: rest => (session.perform call).2.after rest

/-- The answers to a list of calls, in order. -/
def answers (session : Session) : List Engine.Call → List Engine.Answer
  | [] => []
  | call :: rest => (session.perform call).1 :: (session.perform call).2.answers rest

end Session

end Rulebook
