import FrontEnd.Proofs.Text.Marks

namespace FrontEnd

namespace Text

/-- The number of bytes of some characters. -/
def size (text : List Char) : Nat := (String.ofList text).utf8ByteSize

theorem size_append (first second : List Char) : size (first ++ second) = size first + size second := by
  rw [size, String.ofList_append, String.utf8ByteSize_append]
  rfl

/-- Every character has a byte. -/
theorem size_pos {text : List Char} (nonempty : text ≠ []) : 0 < size text := by
  refine Nat.pos_of_ne_zero fun zero => nonempty ?_
  have empty := String.utf8ByteSize_eq_zero_iff.1 zero
  simpa using congrArg String.toList empty

/-- The bytes of a part of a text stand between the bytes in front of it and those behind it. -/
theorem extract_append (front part behind : List Char) :
    (String.ofList (front ++ (part ++ behind))).toByteArray.extract (size front)
      (size (front ++ part)) = (String.ofList part).toByteArray := by
  rw [size_append, String.ofList_append, String.ofList_append, String.toByteArray_append,
    String.toByteArray_append]
  have skipped := ByteArray.extract_append_size_add' (b := (String.ofList part).toByteArray ++
    (String.ofList behind).toByteArray) (i := 0) (j := size part)
    (show size front = (String.ofList front).toByteArray.size from rfl)
  exact skipped.trans (ByteArray.extract_append_eq_left rfl)

section

variable {text : List Char} {start stop : Nat}

/-- The characters up to a mark are those up to an earlier one and those in between. -/
theorem take_eq_append (within : start ≤ stop) :
    text.take stop = text.take start ++ (text.take stop).drop start := by
  conv_lhs => rw [← List.take_append_drop start (text.take stop)]
  rw [List.take_take, Nat.min_eq_left within]

/-- A mark further on has more bytes in front of it. -/
theorem size_take_lt (before : start < stop) (within : stop ≤ text.length) :
    size (text.take start) < size (text.take stop) := by
  have nonempty : (text.take stop).drop start ≠ [] := by
    rw [Ne, List.drop_eq_nil_iff, List.length_take]
    omega
  rw [take_eq_append (Nat.le_of_lt before), size_append]
  exact Nat.lt_add_of_pos_right (size_pos nonempty)

/-- More characters have more bytes. -/
theorem size_take_le_iff (within : start ≤ text.length) :
    size (text.take start) ≤ size (text.take stop) ↔ start ≤ stop := by
  constructor
  · intro fewer
    by_contra behind
    exact absurd (size_take_lt (Nat.lt_of_not_le behind) within) (Nat.not_lt.2 fewer)
  · intro before
    rw [take_eq_append before, size_append]
    exact Nat.le_add_right ..

/-- Whole characters end at a valid offset, whatever their sizes are. -/
theorem isValid_size_take (count : Nat) :
    (⟨size (text.take count)⟩ : String.Pos.Raw).IsValid (String.ofList text) :=
  String.Pos.Raw.isValid_ofList.2 ⟨count, rfl⟩

/-- A slice by the offsets of two marks has the characters between them. -/
theorem slice?_size_take (within : start ≤ text.length) :
    slice? (String.ofList text) (size (text.take start)) (size (text.take stop)) =
      if start ≤ stop then some (String.ofList ((text.take stop).drop start)) else none := by
  rw [slice?, dif_pos ⟨isValid_size_take start, isValid_size_take stop⟩]
  simp only [size_take_le_iff within]
  split
  · next before =>
    have parts : text.take start ++ ((text.take stop).drop start ++ text.drop stop) = text := by
      rw [← List.append_assoc, ← take_eq_append before, List.take_append_drop]
    have bytes := extract_append (text.take start) ((text.take stop).drop start) (text.drop stop)
    rw [parts, ← take_eq_append before] at bytes
    exact congrArg some (String.toByteArray_inj.1 bytes)
  · rfl

end

end Text

namespace Mark

/-- The offset of a cursor counts the bytes of what it has read. -/
theorem offset_cursor (mark : Mark) : mark.cursor.offset = Text.size mark.read := by
  have whole : Text.size mark.text = Text.size mark.read + Text.size mark.cursor.rest := by
    rw [← Text.size_append, read, cursor, List.take_append_drop]
  exact Nat.sub_eq_of_eq_add whole

/-- Cursors in the same text enclose the characters between them. -/
theorem sliceTo?_cursor (start stop : Mark) :
    start.cursor.sliceTo? stop.cursor = start.slice? stop := by
  have offsets := And.intro start.offset_cursor stop.offset_cursor
  rw [Cursor.sliceTo?, slice?, offsets.1, offsets.2]
  by_cases same : start.text = stop.text
  · rw [if_pos (show start.cursor.source = stop.cursor.source from same), read, read, ← same]
    simp only [true_and]
    exact Text.slice?_size_take start.within
  · rw [if_neg (show start.cursor.source ≠ stop.cursor.source from same),
      if_neg fun both => same both.1]

/-- There is no slice between different texts, and none backwards. -/
theorem slice?_eq_none_iff {start stop : Mark} :
    start.slice? stop = none ↔ start.text ≠ stop.text ∨ stop.consumed < start.consumed := by
  rw [slice?, ite_eq_right_iff]
  simp only [reduceCtorEq, imp_false, not_and_or, Nat.not_le, ne_eq]

/-- A text goes on up to a mark further behind. -/
theorem slice?_append {start stop behind : Mark} (same : start.text = stop.text)
    (alike : stop.text = behind.text) (before : start.consumed ≤ stop.consumed)
    (further : stop.consumed ≤ behind.consumed) :
    ∃ first second, start.slice? stop = some first ∧ stop.slice? behind = some second ∧
      start.slice? behind = some (first ++ second) := by
  refine ⟨_, _, if_pos ⟨same, before⟩, if_pos ⟨alike, further⟩, ?_⟩
  have longer : (start.text.take behind.consumed).drop start.consumed =
      (start.text.take stop.consumed).drop start.consumed ++
        (stop.text.take behind.consumed).drop stop.consumed := by
    have inside : start.consumed ≤ (start.text.take stop.consumed).length := by
      rw [List.length_take]
      exact Nat.le_min.2 ⟨before, start.within⟩
    rw [Text.take_eq_append further, List.drop_append_of_le_length inside, same]
  rw [slice?, if_pos ⟨same.trans alike, Nat.le_trans before further⟩, longer, String.ofList_append]

end Mark

end FrontEnd
