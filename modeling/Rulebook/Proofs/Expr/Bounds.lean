import Rulebook.Proofs.Expr.Reading
import Rulebook.Proofs.Expr.Scanning

namespace Rulebook

/-!
# The scan bounds the reader

The scan for limits knows nothing of expressions, and it goes over texts that are none. Still it
never falls behind the reader: at every token that the reader takes, the scan has counted as many
open parentheses as the reader has, and at least as many operators. So on a text without an excess
the reader keeps within the limits, whether it ends with a tree or with a fault, and a reader with
limits of its own would do the same.
-/

open Grammar

namespace Reader

/-- The moments of a run: the states that it comes through, each with the number of operators that
are taken before it. -/
def moments (state : State) (taken : Nat) : List Token → List (State × Nat)
  | [] => [(state, taken)]
  | token :: rest =>
      (state, taken) ::
        match step state token with
        | .error _ => []
        | .ok next => moments next (taken + token.lexeme.operators) rest

/-- A moment with at most so many open parentheses and so many operators taken. -/
def Within (groups operators : Nat) (moment : State × Nat) : Prop :=
  moment.1.opened.length ≤ groups ∧ moment.2 ≤ operators

instance (groups operators : Nat) (moment : State × Nat) :
    Decidable (Within groups operators moment) :=
  inferInstanceAs (Decidable (_ ∧ _))

/-- A run that is cut off, without a result, where it would open more parentheses or take more
operators than it may. -/
def runWithin (groups operators : Nat) (state : State) (taken : Nat) :
    List Token → Option (Except Fault State)
  | [] => some (.ok state)
  | token :: rest =>
      match step state token with
      | .error fault => some (.error fault)
      | .ok next =>
          let count := taken + token.lexeme.operators
          if Within groups operators (next, count) then runWithin groups operators next count rest
          else none

/-- The tree or the fault of a text, unless the reading is cut off. -/
def readWithin (groups operators : Nat) (text : List Char) : Option (Except Fault Expr) :=
  match runWithin groups operators .start 0 (Token.readAll text) with
  | none => none
  | some (.error fault) => some (.error fault)
  | some (.ok state) => some (finish state)

theorem mem_moments (state : State) (taken : Nat) (tokens : List Token) :
    (state, taken) ∈ moments state taken tokens := by
  cases tokens <;> exact List.mem_cons_self

/-- A run is cut off exactly if one of its moments is beyond the limits. -/
theorem runWithin_eq_some_run_iff {groups operators : Nat} {state : State} {taken : Nat}
    (tokens : List Token) (hstart : Within groups operators (state, taken)) :
    runWithin groups operators state taken tokens = some (run state tokens) ↔
      ∀ moment ∈ moments state taken tokens, Within groups operators moment := by
  induction tokens generalizing state taken with
  | nil => simpa [runWithin, run, moments] using hstart
  | cons token rest ih =>
      rw [runWithin, run, moments, List.forall_mem_cons, and_iff_right hstart]
      cases step state token with
      | error fault => simp
      | ok next =>
          by_cases hnext : Within groups operators (next, taken + token.lexeme.operators)
          · simpa only [if_pos hnext] using ih hnext
          · simp only [if_neg hnext, reduceCtorEq, false_iff]
            exact fun h => hnext (h _ (mem_moments next _ rest))

theorem readWithin_eq_some_read {groups operators : Nat} {text : List Char}
    (h : ∀ moment ∈ moments .start 0 (Token.readAll text), Within groups operators moment) :
    readWithin groups operators text = some (read text) := by
  have hrun := (runWithin_eq_some_run_iff (Token.readAll text)
    (h _ (mem_moments State.start 0 _))).mpr h
  rw [readWithin, read, hrun]
  cases run .start (Token.readAll text) <;> rfl

/-! ## The scan beside the reader -/

theorem opened_of_step {state next : State} {lexeme : Lexeme} {here : List Char}
    (h : step state ⟨lexeme, here⟩ = .ok next) :
    next.opened.length = lexeme.nest state.opened.length := by
  obtain ⟨pending, opened, rfl, rfl, rfl⟩ | ⟨pending, opened, t, rfl, htree, rfl⟩ |
    ⟨tree, opened, op, rfl, rfl, rfl⟩ | ⟨tree, pending, opened, rfl, rfl, rfl⟩ := step_cases h
  · rfl
  · exact ((Lexeme.weightless_of_tree? htree).1 _).symm
  · rfl
  · rfl

/-- From a place where the scan has counted what the reader has met, the reader keeps within the
limits if the scan does. -/
theorem within_of_excess?_eq_none {text : List Char} {state : State} {last : Char} {taken : Nat}
    (hfree : Limits.Free last text)
    (hscan : Limits.excess? ⟨.outside last, state.opened.length, taken⟩ text = none)
    (hstart : Within maxNesting maxOperators (state, taken)) :
    ∀ moment ∈ moments state taken (Token.readAll text),
      Within maxNesting maxOperators moment := by
  induction text using Token.readAll_induction generalizing state last taken with
  | blank text hblank =>
      rw [Token.readAll_of_blank hblank]
      exact List.forall_mem_singleton.mpr hstart
  | token before c tail hbefore hc ih =>
      rw [Token.readAll_blank_append hbefore hc, moments, List.forall_mem_cons]
      refine ⟨hstart, ?_⟩
      cases hstep : step state ⟨(Lexeme.read c tail).1, c :: tail⟩ with
      | error fault => exact List.forall_mem_nil _
      | ok next =>
          obtain ⟨raw, hraw, hstops, htail⟩ := spells_of_step hstep
          rw [htail, ← List.cons_append] at hfree hscan
          obtain ⟨middle, hmiddle, hblank⟩ :=
            Limits.excess?_blank_append hbefore hfree state.opened.length taken
          obtain ⟨behind, hbehind, htoken⟩ :=
            Limits.excess?_spells_append hraw hstops hmiddle hstart.1 hstart.2
          obtain ⟨hnesting, hoperators, hrest⟩ := htoken.mp (hblank.symm.trans hscan)
          rw [← opened_of_step hstep] at hnesting hrest
          exact ih hbehind hrest ⟨hnesting, hoperators⟩

/-- On a text that the scan lets through, the reader has at most 32 parentheses open and at most
1024 operators taken at every moment, and the reader that is cut off beyond these numbers ends with
the same tree or the same fault. -/
theorem scan_bounds_reader {text : String}
    (h : Limits.excess? Limits.start text.toList = none) :
    (∀ moment ∈ moments .start 0 (Token.readAll text.toList),
      moment.1.opened.length ≤ 32 ∧ moment.2 ≤ 1024) ∧
    readWithin 32 1024 text.toList = some (read text.toList) := by
  have hfree : Limits.Free ' ' text.toList := Limits.free_of_last (by decide) text.toList
  have hstart : Within maxNesting maxOperators (State.start, 0) :=
    ⟨Nat.zero_le maxNesting, Nat.zero_le maxOperators⟩
  have hwithin : ∀ moment ∈ moments .start 0 (Token.readAll text.toList),
      Within maxNesting maxOperators moment := within_of_excess?_eq_none hfree h hstart
  exact ⟨hwithin, readWithin_eq_some_read hwithin⟩

/-- A text that is no expression: an operand is missing behind the third operator, and the first
parenthesis is never closed. -/
theorem scan_bounds_reader_of_fault :
    let text := "((a + 1) == \"((\" =!= b"
    Limits.excess? Limits.start text.toList = none ∧ (read text.toList).toOption = none ∧
      (∃ moment ∈ moments .start 0 (Token.readAll text.toList),
        moment.1.opened.length = 1 ∧ moment.2 = 3) ∧
      (∀ moment ∈ moments .start 0 (Token.readAll text.toList),
        moment.1.opened.length ≤ 32 ∧ moment.2 ≤ 1024) ∧
      readWithin 32 1024 text.toList = some (read text.toList) := by
  intro text
  have hscan : Limits.excess? Limits.start text.toList = none := by decide +kernel
  exact ⟨hscan, by decide +kernel, by decide +kernel, scan_bounds_reader hscan⟩

end Reader

end Rulebook
