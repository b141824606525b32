import Rulebook.Engine.Session
import Rulebook.Proofs.Package.Compiling

namespace Rulebook

/-!
# What an engine serves

An engine serves the package that was last installed, by loading it, reading it from a document or
activating it, and nothing else that is asked of it makes a difference. Each answer is settled by
that package, by the settings and by what is asked; a package that was kept answers for itself.
-/

namespace Engine

namespace Call

/-- The package that a call installs, if it succeeds in installing one. -/
def installed? : Call → Option CompiledPackage
  | load package => package.compile.toOption
  | loadDocument text =>
      (RulePackage.ofDocument text).toOption.bind fun package => package.compile.toOption
  | activate package => some package
  | evaluate _ | evaluateDocument _ | keep | runKept _ _ _ => none

def isKeep : Call → Bool
  | keep => true
  | _ => false

end Call

def lastInstalled (calls : List Call) : Option CompiledPackage :=
  (calls.filterMap Call.installed?).getLast?

/-- The answers that may follow the calls `past`, exit by exit. -/
inductive Serves (config : EngineConfig) (past : List Call) : Call → Answer → Prop where
  | loaded {package : RulePackage} {compiled : CompiledPackage}
      (hcompile : package.compile = .ok compiled) :
      Serves config past (.load package) (.loaded (.ok compiled))
  | rejected {package : RulePackage} {source : CompileError}
      (hcompile : package.compile = .error source) :
      Serves config past (.load package) (.loaded (.error (.compile source)))
  | read {text : String} {package : RulePackage} {result : Except EngineError CompiledPackage}
      (hread : RulePackage.ofDocument text = .ok package)
      (hload : Serves config past (.load package) (.loaded result)) :
      Serves config past (.loadDocument text) (.loaded result)
  | unreadable {text : String} {source : Document.Error}
      (hread : RulePackage.ofDocument text = .error source) :
      Serves config past (.loadDocument text) (.loaded (.error (.document source)))
  | activated (package : CompiledPackage) :
      Serves config past (.activate package) (.loaded (.ok package))
  | noPackage (facts : FactTable) (hactive : lastInstalled past = none) :
      Serves config past (.evaluate facts) (.evaluated (.error .noPackage))
  | evaluated {facts after : FactTable} {package : CompiledPackage}
      (hactive : lastInstalled past = some package)
      (hrun : package.run config.maxDepth facts = (.ok (), after)) :
      Serves config past (.evaluate facts) (.evaluated (.ok after))
  | failed {facts after : FactTable} {package : CompiledPackage} {source : ExecutionError}
      (hactive : lastInstalled past = some package)
      (hrun : package.run config.maxDepth facts = (.error source, after)) :
      Serves config past (.evaluate facts) (.evaluated (.error (.execution source)))
  | factsUnreadable {text : String} {source : Document.Error}
      (hread : FactTable.ofDocument text = .error source) :
      Serves config past (.evaluateDocument text) (.document (.error (.document source)))
  | factsRefused {text : String} {facts : FactTable} {e : EngineError}
      (hread : FactTable.ofDocument text = .ok facts)
      (hevaluate : Serves config past (.evaluate facts) (.evaluated (.error e))) :
      Serves config past (.evaluateDocument text) (.document (.error e))
  | factsEvaluated {text : String} {facts after : FactTable}
      (hread : FactTable.ofDocument text = .ok facts)
      (hevaluate : Serves config past (.evaluate facts) (.evaluated (.ok after))) :
      Serves config past (.evaluateDocument text) (.document (.ok after.document))
  | kept : Serves config past .keep (.kept (lastInstalled past))
  | ran {earlier between : List Call} (limit : Nat) (facts : FactTable)
      (hpast : past = earlier ++ .keep :: between) :
      Serves config past (.runKept (earlier.countP Call.isKeep) limit facts)
        (.ran ((lastInstalled earlier).map fun package => package.run limit facts))
  | neverKept {index : Nat} (limit : Nat) (facts : FactTable)
      (hindex : past.countP Call.isKeep ≤ index) :
      Serves config past (.runKept index limit facts) (.ran none)

theorem lastInstalled_cons (call : Call) (rest : List Call) :
    lastInstalled (call :: rest) = (lastInstalled rest).or call.installed? := by
  unfold lastInstalled
  cases h : call.installed? with
  | none => rw [List.filterMap_cons_none h, Option.or_none]
  | some package =>
      rw [List.filterMap_cons_some h, List.getLast?_cons]
      cases (rest.filterMap Call.installed?).getLast? <;> rfl

/-- Each call that keeps a package has its number among those calls. -/
theorem exists_eq_append_keep {past : List Call} {index : Nat}
    (h : index < past.countP Call.isKeep) :
    ∃ earlier between, past = earlier ++ .keep :: between ∧
      earlier.countP Call.isKeep = index := by
  induction past generalizing index with
  | nil => cases h
  | cons call rest ih =>
      cases hkeep : call.isKeep with
      | false =>
          rw [List.countP_cons_of_neg (by simp [hkeep])] at h
          obtain ⟨earlier, between, rfl, hcount⟩ := ih h
          refine ⟨call :: earlier, between, rfl, ?_⟩
          rw [List.countP_cons_of_neg (by simp [hkeep]), hcount]
      | true =>
          obtain rfl : call = .keep := by cases call <;> simp_all [Call.isKeep]
          cases index with
          | zero => exact ⟨[], rest, rfl, rfl⟩
          | succ index =>
              rw [List.countP_cons_of_pos hkeep] at h
              obtain ⟨earlier, between, rfl, hcount⟩ := ih (Nat.lt_of_succ_lt_succ h)
              refine ⟨.keep :: earlier, between, rfl, ?_⟩
              rw [List.countP_cons_of_pos hkeep, hcount]

theorem load_snd (engine : Engine) (package : RulePackage) :
    (engine.load package).2 =
      ⟨package.compile.toOption.or engine.current, engine.config⟩ := by
  unfold load
  cases package.compile <;> rfl

theorem loadDocument_snd (engine : Engine) (text : String) :
    (engine.loadDocument text).2 =
      ⟨((RulePackage.ofDocument text).toOption.bind fun package => package.compile.toOption).or
        engine.current, engine.config⟩ := by
  unfold loadDocument
  cases RulePackage.ofDocument text with
  | error source => rfl
  | ok package => exact engine.load_snd package

variable {config : EngineConfig} {past : List Call}

theorem serves_load (engine : Engine) (package : RulePackage) :
    Serves config past (.load package) (.loaded (engine.load package).1) := by
  unfold load
  cases hcompile : package.compile with
  | ok compiled => exact .loaded hcompile
  | error source => exact .rejected hcompile

theorem serves_loadDocument (engine : Engine) (text : String) :
    Serves config past (.loadDocument text) (.loaded (engine.loadDocument text).1) := by
  unfold loadDocument
  cases hread : RulePackage.ofDocument text with
  | ok package => exact .read hread (engine.serves_load package)
  | error source => exact .unreadable hread

theorem serves_evaluate (facts : FactTable) :
    Serves config past (.evaluate facts)
      (.evaluated (evaluate ⟨lastInstalled past, config⟩ facts)) := by
  unfold evaluate
  cases hactive : lastInstalled past with
  | none => exact .noPackage facts hactive
  | some package =>
      simp only [CompiledPackage.evaluate]
      rcases hrun : package.run config.maxDepth facts with ⟨source | _, after⟩
      · exact .failed hactive hrun
      · exact .evaluated hactive hrun

theorem serves_evaluateDocument (text : String) :
    Serves config past (.evaluateDocument text)
      (.document (evaluateDocument ⟨lastInstalled past, config⟩ text)) := by
  unfold evaluateDocument
  cases hread : FactTable.ofDocument text with
  | error source => exact .factsUnreadable hread
  | ok facts =>
      have hevaluate : Serves config past (.evaluate facts)
          (.evaluated (evaluate ⟨lastInstalled past, config⟩ facts)) := serves_evaluate facts
      simp only
      cases hresult : evaluate ⟨lastInstalled past, config⟩ facts with
      | error e => exact .factsRefused hread (hresult ▸ hevaluate)
      | ok after => exact .factsEvaluated hread (hresult ▸ hevaluate)

end Engine

namespace Session

open Engine (Call Answer Serves lastInstalled)

/-! ## One call -/

theorem perform_engine (session : Session) (call : Call) :
    (session.perform call).2.engine =
      ⟨call.installed?.or session.engine.current, session.engine.config⟩ := by
  cases call with
  | load package => exact session.engine.load_snd package
  | loadDocument text => exact session.engine.loadDocument_snd text
  | activate | evaluate | evaluateDocument | keep | runKept => rfl

theorem perform_kept (session : Session) (call : Call) :
    (session.perform call).2.kept =
      session.kept ++ if call.isKeep then [session.engine.current] else [] := by
  cases call with
  | keep => rfl
  | load | loadDocument | activate | evaluate | evaluateDocument | runKept =>
      exact (List.append_nil _).symm

/-! ## Many calls -/

theorem after_append (session : Session) (first second : List Call) :
    session.after (first ++ second) = (session.after first).after second := by
  induction first generalizing session with
  | nil => rfl
  | cons call rest ih => exact ih (session.perform call).2

theorem after_engine (session : Session) (calls : List Call) :
    (session.after calls).engine =
      ⟨(lastInstalled calls).or session.engine.current, session.engine.config⟩ := by
  induction calls generalizing session with
  | nil => rfl
  | cons call rest ih =>
      rw [after, ih, perform_engine, Engine.lastInstalled_cons, Option.or_assoc]

theorem start_after_engine (config : EngineConfig) (calls : List Call) :
    ((start config).after calls).engine = ⟨lastInstalled calls, config⟩ := by
  rw [after_engine]
  exact congrArg (Engine.mk · config) Option.or_none

theorem length_kept_after (session : Session) (calls : List Call) :
    (session.after calls).kept.length = session.kept.length + calls.countP Call.isKeep := by
  induction calls generalizing session with
  | nil => rfl
  | cons call rest ih =>
      rw [after, ih, perform_kept, List.length_append, List.countP_cons, Nat.add_assoc,
        Nat.add_comm (rest.countP Call.isKeep)]
      cases call.isKeep <;> rfl

theorem length_kept_start_after (config : EngineConfig) (calls : List Call) :
    ((start config).after calls).kept.length = calls.countP Call.isKeep :=
  (length_kept_after (start config) calls).trans (Nat.zero_add _)

theorem kept_prefix_after (session : Session) (calls : List Call) :
    session.kept <+: (session.after calls).kept := by
  induction calls generalizing session with
  | nil => exact List.prefix_refl _
  | cons call rest ih =>
      have hfirst : session.kept <+: (session.perform call).2.kept := by
        rw [perform_kept]
        exact List.prefix_append _ _
      exact hfirst.trans (ih (session.perform call).2)

/-- A package that is kept stays what it was when it was taken. -/
theorem kept_after_keep (config : EngineConfig) (earlier between : List Call) :
    ((start config).after (earlier ++ .keep :: between)).kept[earlier.countP Call.isKeep]? =
      some (lastInstalled earlier) := by
  have htaken : (((start config).after earlier).perform .keep).2.kept =
      ((start config).after earlier).kept ++ [lastInstalled earlier] := by
    rw [perform_kept, start_after_engine]
    rfl
  rw [after_append, after]
  obtain ⟨later, hlater⟩ :=
    kept_prefix_after (((start config).after earlier).perform .keep).2 between
  rw [← hlater, htaken, ← length_kept_start_after config]
  simp

theorem serves_perform (config : EngineConfig) (past : List Call) (call : Call) :
    Serves config past call (((start config).after past).perform call).1 := by
  have hengine := start_after_engine config past
  cases call with
  | load package => exact Engine.serves_load _ package
  | loadDocument text => exact Engine.serves_loadDocument _ text
  | activate package => exact .activated package
  | evaluate facts =>
      simp only [perform, hengine]
      exact Engine.serves_evaluate facts
  | evaluateDocument text =>
      simp only [perform, hengine]
      exact Engine.serves_evaluateDocument text
  | keep =>
      simp only [perform, hengine]
      exact .kept
  | runKept index limit facts =>
      rcases Nat.lt_or_ge index (past.countP Call.isKeep) with hindex | hindex
      · obtain ⟨earlier, between, rfl, rfl⟩ := Engine.exists_eq_append_keep hindex
        simp only [perform, kept_after_keep, Option.join_some]
        exact .ran limit facts rfl
      · have hnone : ((start config).after past).kept[index]? = none := by
          rw [List.getElem?_eq_none_iff, length_kept_start_after]
          exact hindex
        simp only [perform, hnone]
        exact .neverKept limit facts hindex

theorem answers_append (session : Session) (first second : List Call) :
    session.answers (first ++ second) =
      session.answers first ++ (session.after first).answers second := by
  induction first generalizing session with
  | nil => rfl
  | cons call rest ih => exact congrArg (_ :: ·) (ih (session.perform call).2)

theorem length_answers (session : Session) (calls : List Call) :
    (session.answers calls).length = calls.length := by
  induction calls generalizing session with
  | nil => rfl
  | cons call rest ih => exact congrArg (· + 1) (ih (session.perform call).2)

/-- After any calls the engine serves the package that was installed last, with the settings it
was made with. A call that installs none changes nothing, and each call is answered by the package
that was active at its time. -/
theorem serves_last_installed (config : EngineConfig) (calls : List Call) :
    ((start config).after calls).engine = ⟨lastInstalled calls, config⟩ ∧
    (∀ call, call.installed? = none →
      ((start config).after (calls ++ [call])).engine = ((start config).after calls).engine) ∧
    ∀ past call later, calls = past ++ call :: later →
      ∃ answer, ((start config).answers calls)[past.length]? = some answer ∧
        Serves config past call answer := by
  refine ⟨start_after_engine config calls, ?_, ?_⟩
  · intro call hcall
    rw [after_append, after, after, perform_engine, hcall, Option.none_or]
  · rintro past call later rfl
    refine ⟨_, ?_, serves_perform config past call⟩
    rw [answers_append, List.getElem?_append_right (Nat.le_of_eq (length_answers _ _)), length_answers,
      Nat.sub_self]
    rfl

/-- The first package is kept and replaced. The last load fails, so the second package answers. -/
theorem serves_replacement_after_failed_load :
    let package (name condition : String) : RulePackage :=
      ⟨name, "", "", [⟨"sell", condition, ["_level = _low"]⟩], []⟩
    let facts := FactTable.ofList [("level", "full")]
    let past : List Call := [.load (package "stock" "level == full"), .keep,
      .loadDocument "\x7b\"packageName\":\"empty\"\x7d", .load (package "broken" "(level")]
    let session := (start ⟨2⟩).after (past ++ [.evaluate facts])
    session.engine.current = some ⟨"empty", "", "", .empty, [], .empty⟩ ∧
      session.engine = ((start ⟨2⟩).after past).engine ∧
      ∃ answer, ((start ⟨2⟩).answers (past ++ [.evaluate facts]))[4]? = some answer ∧
        Serves ⟨2⟩ past (.evaluate facts) answer := by
  intro package facts past session
  obtain ⟨hengine, _, hanswers⟩ := serves_last_installed ⟨2⟩ (past ++ [.evaluate facts])
  have hsame : session.engine = ((start ⟨2⟩).after past).engine :=
    (serves_last_installed ⟨2⟩ past).2.1 (.evaluate facts) rfl
  have hlast : lastInstalled (past ++ [.evaluate facts]) =
      some ⟨"empty", "", "", .empty, [], .empty⟩ := by decide +kernel
  rw [hlast] at hengine
  exact ⟨congrArg Engine.current hengine, hsame, hanswers past (.evaluate facts) [] rfl⟩

end Session

end Rulebook
