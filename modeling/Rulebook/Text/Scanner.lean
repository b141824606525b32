namespace Rulebook.Text

/-!
# Cutting texts into tokens

A text is cut from the left: blanks are skipped, and a token is read from the character that is no
blank. Names, numbers and blanks are runs of one class of characters, and end at the first character
that is not of it.
-/

/-! ## Runs of one class of characters -/

theorem takeWhile_of_stops {p : Char → Bool} {run after : List Char}
    (hrun : ∀ c ∈ run, p c = true) (hafter : ∀ c ∈ after.head?, p c = false) :
    (run ++ after).takeWhile p = run ∧ (run ++ after).dropWhile p = after := by
  rw [List.takeWhile_append_of_pos hrun, List.dropWhile_append_of_pos hrun]
  cases after with
  | nil => simp
  | cons c rest =>
      have hc : p c = false := hafter c rfl
      simp [hc]

theorem head_dropWhile_eq_false (p : Char → Bool) (text : List Char) :
    ∀ c ∈ (text.dropWhile p).head?, p c = false := by
  intro c hc
  have hnot := List.head?_dropWhile_not p text
  rw [Option.mem_def.mp hc] at hnot
  simpa using hnot

/-! ## Scanners -/

/-- A scanner reads the token that begins with a character, and leaves the text behind it. -/
structure Scanner (α : Type) where
  isBlank : Char → Bool
  read : Char → List Char → α × List Char
  length_read_le : ∀ c rest, (read c rest).2.length ≤ rest.length

namespace Scanner

variable {α : Type} (scanner : Scanner α)

/-- Behind a token there is less of the text. -/
theorem length_read_lt {text rest : List Char} {c : Char}
    (h : text.dropWhile scanner.isBlank = c :: rest) :
    (scanner.read c rest).2.length < text.length := by
  have hread := scanner.length_read_le c rest
  have hdrop := (h ▸ List.dropWhile_suffix scanner.isBlank : c :: rest <:+ text).length_le
  rw [List.length_cons] at hdrop
  omega

/-- The tokens of a text, in order. -/
def tokens (text : List Char) : List α :=
  match _hdrop : text.dropWhile scanner.isBlank with
  | [] => []
  | c :: rest => (scanner.read c rest).1 :: tokens (scanner.read c rest).2
  termination_by text.length
  decreasing_by exact scanner.length_read_lt _hdrop

theorem tokens_of_dropWhile_nil {text : List Char} (h : text.dropWhile scanner.isBlank = []) :
    scanner.tokens text = [] := by
  rw [tokens]
  split <;> simp_all

theorem tokens_of_dropWhile_cons {text rest : List Char} {c : Char}
    (h : text.dropWhile scanner.isBlank = c :: rest) :
    scanner.tokens text = (scanner.read c rest).1 :: scanner.tokens (scanner.read c rest).2 := by
  rw [tokens]
  split <;> simp_all

theorem tokens_nil : scanner.tokens [] = [] := scanner.tokens_of_dropWhile_nil rfl

theorem tokens_cons {c : Char} (hc : scanner.isBlank c = false) (rest : List Char) :
    scanner.tokens (c :: rest) =
      (scanner.read c rest).1 :: scanner.tokens (scanner.read c rest).2 :=
  scanner.tokens_of_dropWhile_cons (List.dropWhile_cons_of_neg (by simp [hc]))

theorem tokens_blank_append {blank : List Char} (h : ∀ c ∈ blank, scanner.isBlank c = true)
    (text : List Char) : scanner.tokens (blank ++ text) = scanner.tokens text := by
  have hskip : (blank ++ text).dropWhile scanner.isBlank = text.dropWhile scanner.isBlank :=
    List.dropWhile_append_of_pos h
  cases hdrop : text.dropWhile scanner.isBlank with
  | nil => rw [tokens_of_dropWhile_nil _ hdrop, tokens_of_dropWhile_nil _ (hskip.trans hdrop)]
  | cons c rest =>
      rw [tokens_of_dropWhile_cons _ hdrop, tokens_of_dropWhile_cons _ (hskip.trans hdrop)]

theorem tokens_of_blank {text : List Char} (h : ∀ c ∈ text, scanner.isBlank c = true) :
    scanner.tokens text = [] := by
  have hskip := scanner.tokens_blank_append h []
  rwa [List.append_nil, tokens_nil] at hskip

/-- A text is blank, or it has a first token, and what is to be shown holds behind that. -/
theorem tokens_induction {motive : List Char → Prop}
    (blank : ∀ text, (∀ c ∈ text, scanner.isBlank c = true) → motive text)
    (token : ∀ before c rest, (∀ d ∈ before, scanner.isBlank d = true) →
      scanner.isBlank c = false → motive (scanner.read c rest).2 → motive (before ++ c :: rest))
    (text : List Char) : motive text := by
  have hbefore (text : List Char) :
      ∀ d ∈ text.takeWhile scanner.isBlank, scanner.isBlank d = true :=
    List.all_eq_true.mp List.all_takeWhile
  induction text using Scanner.tokens.induct scanner with
  | case1 text hdrop =>
      have htext : text.takeWhile scanner.isBlank = text := by
        rw [← List.append_nil (text.takeWhile _), ← hdrop, List.takeWhile_append_dropWhile]
      exact htext ▸ blank _ (hbefore text)
  | case2 text c rest hdrop ih =>
      have hc : scanner.isBlank c = false :=
        head_dropWhile_eq_false scanner.isBlank text c (by rw [hdrop]; rfl)
      have htext : text.takeWhile scanner.isBlank ++ c :: rest = text := by
        rw [← hdrop, List.takeWhile_append_dropWhile]
      exact htext ▸ token _ c rest (hbefore text) hc ih

end Scanner

end Rulebook.Text
