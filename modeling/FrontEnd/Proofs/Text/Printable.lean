import FrontEnd.Text.Quoted
import Mathlib.Data.List.Chain

namespace FrontEnd.Text

/-- A range ends before a later one begins. -/
def Precedes (range later : Nat × Nat) : Prop :=
  range.1 ≤ range.2 ∧ range.2 < later.1

instance : DecidableRel Precedes :=
  fun _ _ => inferInstanceAs (Decidable (_ ∧ _))

instance : Trans Precedes Precedes Precedes :=
  ⟨fun first second => ⟨first.1, first.2.trans_le (second.1.trans second.2.le)⟩⟩

/-- A range that ends before a point does not decide about it. -/
theorem outside_cons_of_lt {range : Nat × Nat} {point : Nat} (ends : range.2 < point)
    (later : List (Nat × Nat)) : outside (range :: later) point = outside later point := by
  rw [outside, List.find?_cons_of_neg (by simpa using ends), outside]

/-- The first range that does not end before a point holds it unless it begins behind the point. -/
theorem outside_cons_of_le {range : Nat × Nat} {point : Nat} (reaches : point ≤ range.2)
    (later : List (Nat × Nat)) : outside (range :: later) point = decide (point < range.1) := by
  rw [outside, List.find?_cons_of_pos (by simpa using reaches)]

/-- A point is outside of ascending ranges if none of them holds it. -/
theorem outside_iff {ranges : List (Nat × Nat)} (ascending : ranges.Pairwise Precedes)
    (point : Nat) :
    outside ranges point = true ↔ ∀ range ∈ ranges, ¬(range.1 ≤ point ∧ point ≤ range.2) := by
  induction ranges with
  | nil => simp [outside]
  | cons range later ih =>
      obtain ⟨behind, ascending⟩ := List.pairwise_cons.1 ascending
      rw [List.forall_mem_cons]
      by_cases ends : range.2 < point
      · rw [outside_cons_of_lt ends, ih ascending]
        exact ⟨fun none => ⟨fun inside => absurd inside.2 (Nat.not_le.2 ends), none⟩, And.right⟩
      · have reaches : point ≤ range.2 := Nat.not_lt.1 ends
        rw [outside_cons_of_le reaches, decide_eq_true_iff]
        constructor
        · intro before
          refine ⟨fun inside => absurd inside.1 (Nat.not_le.2 before), ?_⟩
          intro other member inside
          exact absurd (reaches.trans_lt (behind other member).2) (Nat.not_lt.2 inside.1)
        · intro none
          exact Nat.lt_of_not_le fun begun => none.1 ⟨begun, reaches⟩

/-- Each range of unprintable characters ends before the next one begins. -/
theorem unprintableRanges_ascending : unprintableRanges.IsChain Precedes := by
  decide +kernel

/-- A character can be printed if no range of unprintable characters holds it. -/
theorem isPrintable_iff (character : Char) :
    isPrintable character = true ↔
      ∀ range ∈ unprintableRanges,
        ¬(range.1 ≤ character.toNat ∧ character.toNat ≤ range.2) :=
  outside_iff unprintableRanges_ascending.pairwise _

/-- A number is written with the sixteen digits of its base. -/
theorem exists_digitChar_of_mem_toDigits {number : Nat} {character : Char}
    (member : character ∈ Nat.toDigits 16 number) :
    ∃ digit < 16, character = Nat.digitChar digit := by
  induction number using Nat.strongRecOn with
  | ind number ih =>
      rw [Nat.toDigits_eq_if (by decide)] at member
      split at member
      · next small => exact ⟨number, small, List.mem_singleton.1 member⟩
      · next large =>
        obtain front | last := List.mem_append.1 member
        · exact ih _ (Nat.div_lt_self (by omega) (by decide)) front
        · exact ⟨_, Nat.mod_lt _ (by decide), List.mem_singleton.1 last⟩

/-- All of the characters that show one of a text can be printed. -/
theorem isPrintable_of_mem_escape {character shown : Char} (member : shown ∈ escape character) :
    isPrintable shown = true := by
  have digits : ∀ digit < 16, isPrintable (Nat.digitChar digit) = true := by decide +kernel
  unfold escape at member
  split at member
  -- No short escape is left, so that the character itself or its number is shown.
  case h_7 =>
    split at member
    · next printable => rwa [List.mem_singleton.1 member]
    · simp only [List.mem_append, List.mem_cons, List.not_mem_nil, or_false] at member
      obtain ((rfl | rfl | rfl) | digit) | rfl := member
      case inl.inr =>
        obtain ⟨value, small, rfl⟩ := exists_digitChar_of_mem_toDigits digit
        exact digits value small
      all_goals decide +kernel
  all_goals
    simp only [List.mem_cons, List.not_mem_nil, or_false] at member
    obtain rfl | rfl := member <;> decide +kernel

/-- A quoted text stands on one line, and all of it can be printed. -/
theorem isPrintable_of_mem_quoted {text : String} {shown : Char}
    (member : shown ∈ (quoted text).toList) : isPrintable shown = true := by
  have mark : isPrintable '"' = true := by decide +kernel
  rw [quoted, String.toList_ofList, List.mem_append, List.mem_cons, List.mem_flatMap,
    List.mem_singleton] at member
  obtain (rfl | ⟨character, _, shown⟩) | rfl := member
  · exact mark
  · exact isPrintable_of_mem_escape shown
  · exact mark

end FrontEnd.Text
