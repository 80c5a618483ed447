import FrontEnd.Proofs.Text.Rows
import FrontEnd.Text.Cursor.Session

namespace FrontEnd

/-- A text and the number of its characters that have been read. -/
@[ext] structure Mark where
  text : List Char
  consumed : Nat
  within : consumed ≤ text.length

namespace Mark

/-- In front of the first character. -/
def first (source : String) : Mark := ⟨source.toList, 0, Nat.zero_le _⟩

/-- In front of another character, or at the end of the text. -/
def move (mark : Mark) (count : Nat) : Mark :=
  ⟨mark.text, min count mark.text.length, Nat.min_le_right ..⟩

def read (mark : Mark) : List Char := mark.text.take mark.consumed

/-- The line feeds that have been read, and the characters behind the last of them, tell the place.
-/
def place (mark : Mark) : Position :=
  ⟨1 + mark.read.count '\n', 1 + (mark.read.rtakeWhile (· ≠ '\n')).length⟩

/-- The cursor that stands here. -/
def cursor (mark : Mark) : Cursor :=
  ⟨mark.text, mark.text.drop mark.consumed, mark.place⟩

/-- The first place from here on where there is no accepted character. -/
def stop (mark : Mark) (accepts : Char → Bool) : Nat :=
  Nat.find (p := fun count => mark.consumed ≤ count ∧ ¬ (mark.text[count]?.any accepts))
    ⟨mark.text.length, mark.within, by simp⟩

/-- The text in front of another mark. There is none in another text or further in front. -/
def slice? (start stop : Mark) : Option String :=
  if start.text = stop.text ∧ start.consumed ≤ stop.consumed then
    some (String.ofList ((start.text.take stop.consumed).drop start.consumed))
  else none

/-- What an action answers and where it leads to. -/
def perform (mark : Mark) : Cursor.Action → Cursor.Answer × Mark
  | .peek => (.character mark.text[mark.consumed]?, mark)
  | .next => (.character mark.text[mark.consumed]?, mark.move (mark.consumed + 1))
  | .nth count => (.character mark.text[mark.consumed + count]?, mark.move (mark.consumed + count + 1))
  | .collect => (.text (String.ofList (mark.text.drop mark.consumed)), mark.move mark.text.length)
  | .skipIf expected =>
      if mark.text[mark.consumed]? = some expected then (.flag true, mark.move (mark.consumed + 1))
      else (.flag false, mark)
  | .skipWhile accepts => (.nothing, mark.move (mark.stop accepts))
  | .place => (.text mark.place.text, mark)
  | .describe => (.text mark.cursor.describe, mark)
  | .describeFully => (.text mark.cursor.describeFully, mark)

end Mark

/-- Line feeds and the characters behind the last of them can be counted one by one. -/
theorem Position.advance_start_eq_count (text : List Char) :
    start.advance text = ⟨1 + text.count '\n', 1 + (text.rtakeWhile (· ≠ '\n')).length⟩ := by
  induction text using List.reverseRecOn with
  | nil => rfl
  | append_singleton text character ih =>
      rw [advance_concat, ih]
      by_cases feed : character = '\n'
      · subst feed
        rw [next_lineFeed]
        simp [Nat.add_assoc]
      · rw [next_of_ne _ feed]
        simp [feed, Nat.add_assoc]

namespace Mark

variable (mark : Mark)

/-- A mark stands where the characters that it has read lead to. -/
theorem place_eq_advance : mark.place = Position.start.advance mark.read :=
  (Position.advance_start_eq_count _).symm

theorem consumed_move (count : Nat) :
    (mark.move count).consumed = min count mark.text.length := rfl

/-- The character in front of a moved mark is the one at its number, if there is one. -/
theorem getElem?_move (count : Nat) :
    mark.text[(mark.move count).consumed]? = mark.text[count]? := by
  rw [consumed_move]
  by_cases inside : count ≤ mark.text.length
  · rw [Nat.min_eq_left inside]
  · have outside := Nat.le_of_not_le inside
    rw [Nat.min_eq_right outside, List.getElem?_eq_none (Nat.le_refl _),
      List.getElem?_eq_none outside]

/-- Two moves in a row are one move to the sum of their counts. -/
theorem move_move (count more : Nat) :
    (mark.move count).move ((mark.move count).consumed + more) = mark.move (count + more) := by
  ext1
  · rfl
  · simp only [move]
    omega

/-- A cursor peeks at the character behind those that its mark has read. -/
theorem peek?_cursor : mark.cursor.peek? = mark.text[mark.consumed]? := List.head?_drop

/-- To skip characters is to count them. -/
theorem skip_cursor (count : Nat) :
    mark.cursor.skip count = (mark.move (mark.consumed + count)).cursor := by
  have rest : (mark.text.drop mark.consumed).drop count =
      mark.text.drop (mark.move (mark.consumed + count)).consumed := by
    rw [List.drop_drop, move, ← List.drop_eq_drop_min]
  have read : mark.read ++ (mark.text.drop mark.consumed).take count =
      (mark.move (mark.consumed + count)).read := by
    rw [Mark.read, Mark.read, move, ← List.take_eq_take_min, List.take_add]
  have place : mark.place.advance ((mark.text.drop mark.consumed).take count) =
      (mark.move (mark.consumed + count)).place := by
    rw [place_eq_advance, place_eq_advance, ← Position.advance_append, read]
  rw [Cursor.skip, cursor, rest, place]
  rfl

/-- The next character is read, and the mark moves by one. -/
theorem next_cursor :
    mark.cursor.next = (mark.text[mark.consumed]?, (mark.move (mark.consumed + 1)).cursor) := by
  rw [Cursor.next, peek?_cursor, skip_cursor]

/-- A cursor that skips characters moves its mark behind the one that it answers with. -/
theorem nth_cursor (count : Nat) :
    mark.cursor.nth count =
      (mark.text[mark.consumed + count]?, (mark.move (mark.consumed + count + 1)).cursor) := by
  rw [Cursor.nth, skip_cursor, next_cursor, move_move]
  exact congrArg (Prod.mk · _) (mark.getElem?_move _)

/-- Collecting the rest moves a mark to the end of its text. -/
theorem collect_cursor :
    mark.cursor.collect =
      (String.ofList (mark.text.drop mark.consumed), (mark.move mark.text.length).cursor) := by
  have rest : mark.consumed + mark.cursor.rest.length = mark.text.length := by
    rw [cursor, List.length_drop]
    exact Nat.add_sub_of_le mark.within
  rw [Cursor.collect, skip_cursor, rest]
  rfl

end Mark

/-- An accepted character stands at each place in front of the end of a run, and at no later one. -/
theorem any_getElem?_takeWhile (accepts : Char → Bool) (text : List Char) {count : Nat}
    (within : count ≤ (text.takeWhile accepts).length) :
    text[count]?.any accepts = decide (count < (text.takeWhile accepts).length) := by
  induction text generalizing count with
  | nil => simp
  | cons first rest ih =>
      cases accepted : accepts first with
      | false =>
          rw [List.takeWhile_cons_of_neg (by simp [accepted])] at within ⊢
          obtain rfl := Nat.le_zero.1 within
          simp [accepted]
      | true =>
          rw [List.takeWhile_cons_of_pos accepted] at within ⊢
          cases count with
          | zero => simp [accepted]
          | succ count =>
              rw [List.getElem?_cons_succ, ih (Nat.le_of_succ_le_succ within)]
              simp

namespace Mark

variable (mark : Mark)

/-- A mark stops behind all of the accepted characters in front of it. -/
theorem stop_eq (accepts : Char → Bool) :
    mark.stop accepts =
      mark.consumed + ((mark.text.drop mark.consumed).takeWhile accepts).length := by
  rw [stop, Nat.find_eq_iff]
  refine ⟨⟨Nat.le_add_right .., ?_⟩, ?_⟩
  · rw [← List.getElem?_drop, any_getElem?_takeWhile accepts _ (Nat.le_refl _)]
    simp
  · rintro count before ⟨behind, refused⟩
    obtain ⟨more, rfl⟩ := Nat.exists_eq_add_of_le behind
    have inside := Nat.lt_of_add_lt_add_left before
    rw [← List.getElem?_drop, any_getElem?_takeWhile accepts _ (Nat.le_of_lt inside)] at refused
    exact refused (decide_eq_true inside)

/-- Skipping accepted characters moves a mark to where it stops. -/
theorem skipWhile_cursor (accepts : Char → Bool) :
    mark.cursor.skipWhile accepts = (mark.move (mark.stop accepts)).cursor := by
  rw [stop_eq]
  exact mark.skip_cursor _

/-- A mark moves by one character if that is the expected one. -/
theorem skipIf_cursor (expected : Char) :
    mark.cursor.skipIf expected =
      if mark.text[mark.consumed]? = some expected then
        (true, (mark.move (mark.consumed + 1)).cursor)
      else (false, mark.cursor) := by
  rw [Cursor.skipIf, peek?_cursor, skip_cursor]

/-- What is read further behind in a text is placed further behind. -/
theorem place_before {one other : Mark} (same : one.text = other.text)
    (less : one.consumed < other.consumed) : one.place.Before other.place := by
  have longer : other.read = one.read ++ other.read.drop one.consumed := by
    conv_lhs => rw [← List.take_append_drop one.consumed other.read]
    rw [read, read, same, List.take_take, Nat.min_eq_left (Nat.le_of_lt less)]
  have nonempty : other.read.drop one.consumed ≠ [] := by
    rw [Ne, List.drop_eq_nil_iff, read, List.length_take, Nat.min_eq_left other.within]
    exact Nat.not_le.2 less
  obtain ⟨first, rest, more⟩ := List.exists_cons_of_ne_nil nonempty
  rw [place_eq_advance, place_eq_advance, longer, Position.advance_append, more]
  exact Position.before_advance _ first rest

/-- No action changes the text. -/
theorem text_perform (action : Cursor.Action) : (mark.perform action).2.text = mark.text := by
  cases action with
  | skipIf expected =>
      rw [perform]
      split <;> rfl
  | _ => rfl

/-- A cursor moves as the number of characters does that it has read. -/
theorem perform_cursor (action : Cursor.Action) :
    mark.cursor.perform action = ((mark.perform action).1, (mark.perform action).2.cursor) := by
  cases action with
  | peek => rw [Cursor.perform, peek?_cursor]; rfl
  | next => rw [Cursor.perform, next_cursor]; rfl
  | nth count => rw [Cursor.perform, nth_cursor]; rfl
  | collect => rw [Cursor.perform, collect_cursor]; rfl
  | skipIf expected =>
      rw [Cursor.perform, skipIf_cursor, perform]
      split <;> rfl
  | skipWhile accepts => rw [Cursor.perform, skipWhile_cursor]; rfl
  | place => rfl
  | describe => rfl
  | describeFully => rfl

end Mark

end FrontEnd
