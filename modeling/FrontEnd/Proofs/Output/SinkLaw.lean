import Mathlib
import FrontEnd.Output.Sink

namespace FrontEnd

namespace Sink

@[ext] theorem ext {first second : Sink} (written : first.written = second.written)
    (room : first.room = second.room) (complaint : first.complaint = second.complaint) :
    first = second := by
  cases first
  cases second
  simp_all

@[simp] theorem fault_take (sink : Sink) (bytes : ByteArray) :
    (sink.take bytes).fault = sink.fault := rfl

/-- What fits of two texts is what fits of the first one and then of the second one. -/
theorem fitting_append (sink : Sink) (first second : ByteArray) :
    sink.fitting (first ++ second) = sink.fitting first ++ (sink.take first).fitting second := by
  obtain ⟨written, room, complaint⟩ := sink
  cases room with
  | none => rfl
  | some room =>
      show (first ++ second).extract 0 room = first.extract 0 room ++ second.extract 0 _
      rw [ByteArray.extract_append, Nat.zero_sub]

/-- To take two texts at once is to take them one after the other. -/
theorem take_append (sink : Sink) (first second : ByteArray) :
    sink.take (first ++ second) = (sink.take first).take second := by
  apply ext
  · show sink.written ++ _ = sink.written ++ _ ++ _
    rw [fitting_append, ByteArray.append_assoc]
  · show sink.room.map _ = (sink.room.map _).map _
    rw [Option.map_map, ByteArray.size_append]
    congr 1
    funext room
    exact Nat.sub_add_eq room first.size second.size
  · rfl

/-- There is room for both texts if each of them finds room in its turn. -/
theorem hasRoom_append (sink : Sink) (first second : ByteArray) :
    sink.hasRoom (first ++ second).size =
      (sink.hasRoom first.size && (sink.take first).hasRoom second.size) := by
  obtain ⟨written, room, complaint⟩ := sink
  cases room with
  | none => rfl
  | some room =>
      simp only [hasRoom, take, Option.map_some, ByteArray.size_append, ← Bool.decide_and]
      congr 1
      apply propext
      omega

/-- A sink that is full takes nothing more. -/
theorem take_take_of_full {sink : Sink} {first : ByteArray}
    (full : sink.hasRoom first.size = false) (second : ByteArray) :
    (sink.take first).take second = sink.take first := by
  obtain ⟨written, room, complaint⟩ := sink
  cases room with
  | none => simp [hasRoom] at full
  | some room =>
      have used : room - first.size = 0 := by
        simp only [hasRoom, decide_eq_false_iff_not] at full
        omega
      simp only [take, fitting, Option.map_some, used, Nat.zero_sub, ByteArray.extract_same,
        ByteArray.append_empty]

/-- A text that fits is taken as a whole. -/
theorem put_of_hasRoom {sink : Sink} {text : String}
    (fits : sink.hasRoom text.toUTF8.size = true) :
    sink.put text = (none, sink.take text.toUTF8) :=
  if_pos fits

/-- A text that does not fit is taken in part, and the sink complains. -/
theorem put_of_full {sink : Sink} {text : String} (full : sink.hasRoom text.toUTF8.size = false) :
    sink.put text = (some sink.fault, sink.take text.toUTF8) :=
  if_neg (Bool.eq_false_iff.1 full)

theorem put_empty (sink : Sink) : sink.put "" = (none, sink) := by
  have nothing : sink.take ByteArray.empty = sink := by
    obtain ⟨written, room, complaint⟩ := sink
    cases room <;> simp [take, fitting, ByteArray.extract_eq_empty_iff.2]
  have fits : sink.hasRoom 0 = true := by
    obtain ⟨written, room, complaint⟩ := sink
    cases room <;> simp [hasRoom]
  rw [put_of_hasRoom fits]
  exact congrArg (Prod.mk none) nothing

/-- The second part of a text is put only if the first part fits. -/
theorem put_append (sink : Sink) (first second : String) :
    sink.put (first ++ second) =
      match sink.put first with
      | (none, next) => next.put second
      | (some fault, next) => (some fault, next) := by
  have bytes : (first ++ second).toUTF8 = first.toUTF8 ++ second.toUTF8 :=
    String.toByteArray_append
  have room := sink.hasRoom_append first.toUTF8 second.toUTF8
  rw [← bytes] at room
  cases fits : sink.hasRoom first.toUTF8.size with
  | false =>
      rw [fits, Bool.false_and] at room
      rw [put_of_full fits, put_of_full room, bytes, take_append, take_take_of_full fits]
  | true =>
      rw [fits, Bool.true_and] at room
      rw [put_of_hasRoom fits]
      dsimp only
      cases rest : (sink.take first.toUTF8).hasRoom second.toUTF8.size with
      | false => rw [put_of_full (room.trans rest), bytes, take_append, put_of_full rest, fault_take]
      | true => rw [put_of_hasRoom (room.trans rest), bytes, take_append, put_of_hasRoom rest]

/-- It makes no difference into which pieces a text is divided. -/
theorem putAll_eq_put_join (sink : Sink) (texts : List String) :
    sink.putAll texts = sink.put (String.join texts) := by
  induction texts generalizing sink with
  | nil => exact sink.put_empty.symm
  | cons text rest ih =>
      rw [putAll, String.join_cons, put_append]
      obtain ⟨fault, next⟩ := sink.put text
      cases fault with
      | none => exact ih next
      | some fault => rfl

/-- Without a limit everything is taken. -/
theorem put_unlimited (text : String) :
    unlimited.put text = (none, ⟨text.toUTF8, none, none⟩) := by
  rw [put_of_hasRoom rfl]
  exact congrArg (Prod.mk none) (ext ByteArray.empty_append rfl rfl)

/-- A limited sink holds the first bytes of the text. -/
theorem written_put_limited (room : Nat) (complaint : Option String) (text : String) :
    ((limited room complaint).put text).2.written = text.toUTF8.extract 0 room := by
  have taken : ((limited room complaint).take text.toUTF8).written = text.toUTF8.extract 0 room :=
    ByteArray.empty_append
  cases fits : (limited room complaint).hasRoom text.toUTF8.size with
  | false => rw [put_of_full fits, taken]
  | true => rw [put_of_hasRoom fits, taken]

/-- It complains if there are more bytes than its room. -/
theorem fst_put_limited (room : Nat) (complaint : Option String) (text : String) :
    ((limited room complaint).put text).1 =
      if text.toUTF8.size ≤ room then none else some (limited room complaint).fault := by
  by_cases fits : text.toUTF8.size ≤ room
  · have hasRoom : (limited room complaint).hasRoom text.toUTF8.size = true := decide_eq_true fits
    rw [put_of_hasRoom hasRoom, if_pos fits]
  · have full : (limited room complaint).hasRoom text.toUTF8.size = false :=
      decide_eq_false fits
    rw [put_of_full full, if_neg fits]

/-- A sink without a complaint of its own says that it is full. -/
theorem text_fault_limited (room : Nat) (complaint : Option String) :
    (limited room complaint).fault.text = complaint.getD "failed to write whole buffer" := by
  cases complaint <;> rfl

end Sink

theorem join_lines (texts : List String) :
    String.join (lines texts) = String.join (texts.map (· ++ "\n")) := by
  induction texts with
  | nil => rfl
  | cons text rest ih =>
      rw [lines, List.flatMap_cons, String.join_append, ← lines, ih]
      simp [String.append_assoc]

end FrontEnd
