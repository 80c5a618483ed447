import FrontEnd.Text.Position
import Mathlib

namespace FrontEnd

namespace Text

/-- The rows of a text are the pieces between its line feeds. An empty text is one empty row. -/
def rows (text : List Char) : List (List Char) := text.splitOn '\n'

/-- The place one column behind the last character of the last row. -/
def finish (text : List Char) : Position :=
  ⟨(rows text).length, ((rows text).getLastD []).length + 1⟩

@[simp] theorem rows_nil : rows [] = [[]] := List.splitOn_nil ..

/-- A line feed ends a row, which is empty if nothing stands in front of it. -/
theorem rows_lineFeed (rest : List Char) : rows ('\n' :: rest) = [] :: rows rest := by
  simp [rows, List.splitOn, List.splitOnP_cons_eq_if_modifyHead]

/-- Any other character belongs to the first row. -/
theorem rows_cons {character : Char} (inside : character ≠ '\n') (rest : List Char) :
    rows (character :: rest) = (rows rest).modifyHead (character :: ·) := by
  simp [rows, List.splitOn, List.splitOnP_cons_eq_if_modifyHead, inside]

theorem rows_ne_nil (text : List Char) : rows text ≠ [] := List.splitOn_ne_nil _ _

/-- A piece of text without line feeds begins a row, or goes on with one. -/
theorem rows_append {piece : List Char} (inside : '\n' ∉ piece) (rest : List Char) :
    rows (piece ++ rest) = (rows rest).modifyHead (piece ++ ·) := by
  induction piece with
  | nil => cases same : rows rest <;> simp [same]
  | cons first piece ih =>
      rw [List.mem_cons, not_or] at inside
      rw [List.cons_append, rows_cons (Ne.symm inside.1), ih inside.2]
      cases rows rest <;> simp

end Text

namespace Position

open Text

/-- Behind a line feed a new line begins. -/
theorem next_lineFeed (position : Position) : position.next '\n' = ⟨position.line + 1, 1⟩ :=
  if_pos rfl

/-- Any other character takes one column. -/
theorem next_of_ne (position : Position) {character : Char} (inside : character ≠ '\n') :
    position.next character = ⟨position.line, position.column + 1⟩ :=
  if_neg inside

/-- The last character leads on from where the others lead to. -/
theorem advance_concat (position : Position) (text : List Char) (character : Char) :
    position.advance (text ++ [character]) = (position.advance text).next character :=
  position.advance_append text [character]

/-- A text in front of another one adds whole rows and the beginning of a row. The place behind it
tells how many rows there are and how long this beginning is. -/
theorem exists_rows_append (front : List Char) :
    ∃ whole beginning, start.advance front = ⟨whole.length + 1, beginning.length + 1⟩ ∧
      ∀ rest, rows (front ++ rest) = whole ++ (rows rest).modifyHead (beginning ++ ·) := by
  induction front using List.reverseRecOn with
  | nil => exact ⟨[], [], rfl, fun rest => by cases same : rows rest <;> simp [same]⟩
  | append_singleton front character ih =>
      obtain ⟨whole, beginning, place, split⟩ := ih
      by_cases feed : character = '\n'
      · subst feed
        refine ⟨whole ++ [beginning], [], ?_, ?_⟩
        · rw [advance_concat, place, next_lineFeed, List.length_append]
          rfl
        · intro rest
          rw [List.append_assoc, split, List.singleton_append, rows_lineFeed]
          cases rows rest <;> simp
      · refine ⟨whole, beginning ++ [character], ?_, ?_⟩
        · rw [advance_concat, place, next_of_ne _ feed, List.length_append]
          rfl
        · intro rest
          rw [List.append_assoc, split, List.singleton_append, rows_cons feed]
          cases rows rest <;> simp

/-- A text ends behind its last row. -/
theorem advance_start (text : List Char) : start.advance text = finish text := by
  obtain ⟨whole, beginning, place, split⟩ := exists_rows_append text
  have all : rows text = whole ++ [beginning] := by simpa using split []
  rw [place, finish, all]
  simp

/-- What begins behind some characters of a text stands in a row of the text. -/
theorem exists_row (before rest : List Char) {piece : List Char} (inside : '\n' ∉ piece) :
    ∃ row front behind, start.advance before = ⟨row + 1, front.length + 1⟩ ∧
      (rows (before ++ (piece ++ rest)))[row]? = some (front ++ (piece ++ behind)) := by
  obtain ⟨whole, beginning, place, split⟩ := exists_rows_append before
  obtain ⟨behind, others, same⟩ := List.exists_cons_of_ne_nil (rows_ne_nil rest)
  refine ⟨whole.length, beginning, behind, place, ?_⟩
  rw [split, rows_append inside, same]
  simp

/-- Lines count first, and then columns. -/
def Before (first second : Position) : Prop :=
  first.line < second.line ∨ first.line = second.line ∧ first.column < second.column

theorem Before.trans {first second third : Position} (one : first.Before second)
    (other : second.Before third) : first.Before third := by
  unfold Before at *
  omega

theorem Before.line_le {first second : Position} (before : first.Before second) :
    first.line ≤ second.line := by
  unfold Before at before
  omega

/-- A character always leads further on. -/
theorem before_next (position : Position) (character : Char) :
    position.Before (position.next character) := by
  by_cases feed : character = '\n'
  · rw [feed, next_lineFeed]
    exact .inl (Nat.lt_succ_self _)
  · rw [next_of_ne _ feed]
    exact .inr ⟨rfl, Nat.lt_succ_self _⟩

theorem before_advance (position : Position) (first : Char) (rest : List Char) :
    position.Before (position.advance (first :: rest)) := by
  induction rest generalizing position first with
  | nil => exact position.before_next first
  | cons second rest ih => exact (position.before_next first).trans (ih _ second)

/-- The place that takes over when another text, which ends at `front`, comes before the text of
`place`. Only the first line is joined to the last one of the other text. -/
def shift (front place : Position) : Position :=
  ⟨place.line + (front.line - 1),
    if place.line = 1 then place.column + (front.column - 1) else place.column⟩

/-- The start of a text is shifted to the end of the one in front. -/
theorem shift_start {front : Position} (line : 1 ≤ front.line) (column : 1 ≤ front.column) :
    front.shift .start = front := by
  obtain ⟨_, _⟩ := front
  simp only [shift, start, if_true, mk.injEq] at *
  omega

/-- A shifted place moves on like the place itself. -/
theorem shift_next (front : Position) {place : Position} (counted : 1 ≤ place.line)
    (character : Char) :
    front.shift (place.next character) = (front.shift place).next character := by
  by_cases feed : character = '\n'
  · -- Only a place on the first line has its column moved, and behind a line feed none is on it.
    have later : place.line + 1 ≠ 1 := by omega
    rw [feed, next_lineFeed, next_lineFeed]
    simp only [shift, if_neg later, mk.injEq, and_true]
    omega
  · rw [next_of_ne _ feed, next_of_ne _ feed]
    simp only [shift, mk.injEq, true_and]
    split <;> omega

theorem shift_advance (front : Position) {place : Position} (counted : 1 ≤ place.line)
    (text : List Char) :
    front.shift (place.advance text) = (front.shift place).advance text := by
  induction text generalizing place with
  | nil => rfl
  | cons first rest ih =>
      rw [advance_cons, advance_cons, ← shift_next front counted]
      exact ih (Nat.le_trans counted (place.before_next first).line_le)

end Position

end FrontEnd
