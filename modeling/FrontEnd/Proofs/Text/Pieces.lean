import Mathlib

namespace FrontEnd

section

variable {property : Char → Bool} {first second rest rest' : List Char}

/-- A part with a property ends where the first character without it stands. -/
theorem takeWhile_append_of_boundary (all : ∀ character ∈ first, property character = true)
    (boundary : ∀ character ∈ rest.head?, ¬ property character = true) :
    (first ++ rest).takeWhile property = first := by
  rw [List.takeWhile_append_of_pos all]
  cases rest with
  | nil => simp
  | cons character rest =>
      have stop := boundary character rfl
      simp [stop]

/-- Such a character stands behind all that has the property. -/
theorem takeWhile_boundary (property : Char → Bool) (text : List Char) :
    ∀ character ∈ (text.drop (text.takeWhile property).length).head?,
      ¬ property character = true := by
  induction text with
  | nil => simp
  | cons first rest ih =>
      by_cases holds : property first = true
      · simpa [holds] using ih
      · simp [holds]

/-- A piece whose characters all have a property ends at the first character without it. -/
theorem append_inj_of_boundary (all : ∀ character ∈ first, property character = true)
    (all' : ∀ character ∈ second, property character = true)
    (boundary : ∀ character ∈ rest.head?, ¬ property character = true)
    (boundary' : ∀ character ∈ rest'.head?, ¬ property character = true)
    (same : first ++ rest = second ++ rest') : first = second ∧ rest = rest' := by
  have pieces : first = second := by
    rw [← takeWhile_append_of_boundary all boundary, same,
      takeWhile_append_of_boundary all' boundary']
  subst pieces
  exact ⟨rfl, List.append_cancel_left same⟩

/-- A piece ends at a mark that is not in it. -/
theorem append_mark_inj {mark : Char} (apart : mark ∉ first) (apart' : mark ∉ second)
    (same : first ++ mark :: rest = second ++ mark :: rest') : first = second ∧ rest = rest' := by
  have inside {piece : List Char} (apart : mark ∉ piece) :
      ∀ character ∈ piece, (character != mark) = true := by
    intro character member
    rw [bne_iff_ne]
    rintro rfl
    exact apart member
  have stop (rest : List Char) :
      ∀ character ∈ (mark :: rest).head?, ¬ (character != mark) = true := by simp
  obtain ⟨pieces, behind⟩ :=
    append_inj_of_boundary (inside apart) (inside apart') (stop rest) (stop rest') same
  exact ⟨pieces, (List.cons.inj behind).2⟩

end

/-- A number is written in decimal digits. -/
theorem isDigit_of_mem_toString (number : Nat) :
    ∀ character ∈ (toString number).toList, character.isDigit = true := by
  intro character member
  rw [Nat.toString_eq_repr, Nat.toList_repr] at member
  exact Nat.isDigit_of_mem_toDigits (by decide) (by decide) member

/-- A number can be read back from its digits. -/
theorem toString_nat_inj {number other : Nat}
    (same : (toString number).toList = (toString other).toList) : number = other := by
  rw [Nat.toString_eq_repr, Nat.toString_eq_repr, Nat.toList_repr, Nat.toList_repr] at same
  rw [← @Nat.ofDigitChars_ten_toDigits number, same, Nat.ofDigitChars_ten_toDigits]

section

variable {number other : Nat} {mark : Char} {rest rest' : List Char}

/-- A number is written with digits only. -/
theorem not_mem_toString (number : Nat) (noDigit : mark.isDigit = false) :
    mark ∉ (toString number).toList := by
  intro member
  rw [isDigit_of_mem_toString number mark member] at noDigit
  cases noDigit

/-- A number is told apart from what stands behind it. -/
theorem number_append_inj (noDigit : mark.isDigit = false)
    (same : (toString number).toList ++ mark :: rest = (toString other).toList ++ mark :: rest') :
    number = other ∧ rest = rest' := by
  obtain ⟨digits, behind⟩ := append_mark_inj (not_mem_toString number noDigit)
    (not_mem_toString other noDigit) same
  exact ⟨toString_nat_inj digits, behind⟩

/-- A number is told apart from what stands in front of it. -/
theorem append_number_inj (noDigit : mark.isDigit = false)
    (same : rest ++ mark :: (toString number).toList = rest' ++ mark :: (toString other).toList) :
    rest = rest' ∧ number = other := by
  have apart (number : Nat) : mark ∉ (toString number).toList.reverse := by
    rw [List.mem_reverse]
    exact not_mem_toString number noDigit
  have backward := congrArg List.reverse same
  rw [List.reverse_append, List.reverse_append, List.reverse_cons, List.reverse_cons,
    List.append_assoc, List.append_assoc, List.singleton_append, List.singleton_append] at backward
  obtain ⟨digits, front⟩ := append_mark_inj (apart number) (apart other) backward
  exact ⟨List.reverse_injective front, toString_nat_inj (List.reverse_injective digits)⟩

end

end FrontEnd
