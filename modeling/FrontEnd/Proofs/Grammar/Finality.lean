import FrontEnd.Proofs.Grammar.Assignment
import FrontEnd.Proofs.Grammar.Relabeling

namespace FrontEnd

open Parse Token Grammar

namespace Parse

/-- While tokens are left unread, the error does not depend on what stands behind them. -/
theorem refused_append {closer : Kind} {tokens : List Token} {refusal : Refusal}
    (refused : result (sequence closer tokens) = .error refusal) (left : refusal.unread ≠ [])
    (more : List Token) :
    result (sequence closer (tokens ++ more)) =
      .error ⟨refusal.error, refusal.unread ++ more⟩ := by
  obtain ⟨next, rest, unread⟩ := List.exists_cons_of_ne_nil left
  have appended := result_sequence_append closer tokens more (by
    rw [refused, behind, unread]
    rfl)
  have error : refusal.moved id id (refusal.unread ++ more) = _ := moved_of_head? id id refused (by
    rw [unread]
    rfl)
  rw [appended, refused, moved, behind, error, ParseError.relabel_id]

end Parse

namespace Grammar.CompleteAssignment

variable {tokens : List Token} {index place : Nat}

theorem index_lt_length (complete : CompleteAssignment tokens index place) :
    index < tokens.length :=
  Nat.lt_of_lt_of_le complete.order complete.place_le_length

/-- Only the tokens in front of the place count, and that the value does not go on there. -/
theorem congr {other : List Token} (complete : CompleteAssignment tokens index place)
    (same : other.take place = tokens.take place) (within : place ≤ (visible other).length)
    (ends : place = (visible other).length ∨
      ∃ token, other[place]? = some token ∧ token.kind.level? = none ∧ token.kind ≠ .equal) :
    CompleteAssignment other index place := by
  obtain ⟨order, _, ⟨sign, found, isSign⟩, viable, value, _⟩ := complete
  refine ⟨order, within, ⟨sign, ?_, isSign⟩, same ▸ viable, same ▸ value, ends⟩
  rw [← List.getElem?_take_of_lt order, same, List.getElem?_take_of_lt order, found]

/-- An assignment stays complete if nothing with which its value goes on is put behind it. -/
theorem append (complete : CompleteAssignment tokens index place)
    (solid : ∀ token ∈ tokens, token.kind ≠ .eof) {more : List Token}
    (apart : ∀ token ∈ more.head?, token.kind.level? = none ∧ token.kind ≠ .equal) :
    CompleteAssignment (tokens ++ more) index place := by
  have inside := complete.place_le_length
  have seen := visible_of_solid solid
  apply complete.congr (List.take_append_of_le_length inside)
  · rw [visible_append_of_solid solid, List.length_append]
    exact inside.trans (Nat.le_add_right _ _)
  · rcases complete.ends with rfl | ⟨token, next, kind⟩
    · rw [seen]
      cases more with
      | nil => exact .inl (by rw [List.append_nil, seen])
      | cons token rest => exact .inr ⟨token, by simp, apart token rfl⟩
    · refine .inr ⟨token, ?_, kind⟩
      rw [List.getElem?_append_left (List.getElem?_eq_some_iff.1 next).1, next]

/-- An assignment that is complete in front of some tokens is complete without those behind them. -/
theorem of_append {more : List Token} (complete : CompleteAssignment (tokens ++ more) index place)
    (solid : ∀ token ∈ tokens, token.kind ≠ .eof) (inside : place < tokens.length) :
    CompleteAssignment tokens index place := by
  have ends := complete.ends
  rw [visible_append_of_solid solid, List.length_append, List.getElem?_append_left inside] at ends
  apply complete.congr (List.take_append_of_le_length inside.le).symm
  · rw [visible_of_solid solid]
    exact inside.le
  · exact .inr (ends.resolve_left (by omega))

end Grammar.CompleteAssignment

namespace Expr

/-- The first complete assignment stays the first one. -/
theorem assignment_append {tokens more : List Token} {refusal : Refusal}
    (solid : ∀ token ∈ tokens, token.kind ≠ .eof)
    (refused : result (sequence .eof tokens) = .error refusal)
    (fault : refusal.error.fault = .invalidTarget)
    (apart : ∀ token ∈ more.head?, token.kind.level? = none ∧ token.kind ≠ .equal) :
    ofTokens (tokens ++ more) = .error refusal.error.diagnostic := by
  obtain ⟨index, place, complete, token, least⟩ :=
    CompleteAssignment.exists_of_refused refused fault
  have appended := complete.append solid apart
  obtain ⟨other, refusedLater, faultLater, failed⟩ := appended.exists_refusal
  obtain ⟨first, firstPlace, isFirst, found, before⟩ :=
    CompleteAssignment.exists_of_refused refusedLater faultLater
  -- Were the place further in front, the assignment would be complete without the later tokens.
  obtain rfl : firstPlace = place := by
    refine Nat.le_antisymm (before index place appended) (Nat.le_of_not_lt fun earlier => ?_)
    have inside := Nat.lt_of_lt_of_le earlier complete.place_le_length
    exact Nat.not_le_of_gt earlier (least first firstPlace (isFirst.of_append solid inside))
  obtain rfl : first = index := isFirst.index_unique appended
  rw [List.getElem?_append_left complete.index_lt_length] at found
  rw [failed, ParseError.diagnostic_eq, ParseError.diagnostic_eq, fault, faultLater, token, found]

/-- A placed error that is not about an assignment stays what it is, whatever stands behind the
tokens. One about an assignment stays what it is unless the value of the assignment goes on. -/
theorem ofTokens_append_of_error {tokens : List Token} {diagnostic : Diagnostic}
    (solid : ∀ token ∈ tokens, token.kind ≠ .eof) (failed : ofTokens tokens = .error diagnostic) :
    (diagnostic.IsPlaced → diagnostic.message ≠ "Invalid assignment target." →
      ∀ more, ofTokens (tokens ++ more) = .error diagnostic) ∧
    (diagnostic.message = "Invalid assignment target." →
      ∀ more : List Token,
        (∀ token ∈ more.head?, token.kind.level? = none ∧ token.kind ≠ .equal) →
        ofTokens (tokens ++ more) = .error diagnostic) := by
  obtain ⟨refusal, refused, rfl⟩ := (ofTokens_eq_error_iff _ _).1 failed
  constructor
  · intro placed noTarget more
    have left : refusal.unread ≠ [] := by
      intro nothing
      rw [ParseError.diagnostic_eq] at placed noTarget
      obtain ⟨what, expected⟩ : ∃ what, refusal.error.fault = .expected what := by
        cases fault : refusal.error.fault with
        | expected what => exact ⟨what, rfl⟩
        | invalidTarget => exact absurd ((ParseFault.message_eq_iff _).2 fault) noTarget
      have token := token_of_expected refused expected
      rw [nothing] at token
      simp [Diagnostic.IsPlaced, token] at placed
    exact (ofTokens_eq_error_iff _ _).2 ⟨_, refused_append refused left more, rfl⟩
  · intro target more apart
    rw [ParseError.diagnostic_eq] at target
    exact assignment_append solid refused ((ParseFault.message_eq_iff _).1 target) apart

/-- A body behind the wrong token does not help, and another expression does not complete an
assignment that is complete already. -/
theorem ofTokens_append_of_error_assignment :
    let headless : List Token := [⟨.keyword .funWord, "fun", ⟨1, 1⟩⟩, ⟨.identifier, "f", ⟨1, 5⟩⟩,
      ⟨.leftParen, "(", ⟨1, 6⟩⟩, ⟨.rightParen, ")", ⟨1, 7⟩⟩, ⟨.number, "1", ⟨1, 9⟩⟩]
    let body : List Token := [⟨.leftBrace, "\x7b", ⟨1, 11⟩⟩, ⟨.rightBrace, "\x7d", ⟨1, 12⟩⟩]
    let assignment : List Token :=
      [⟨.identifier, "a", ⟨1, 1⟩⟩, ⟨.equal, "=", ⟨1, 3⟩⟩, ⟨.identifier, "b", ⟨1, 5⟩⟩]
    let wanted : Diagnostic := ⟨.error, "Expect '\x7b' before function body.", some 1, some 9⟩
    let refused : Diagnostic := ⟨.error, "Invalid assignment target.", some 1, some 3⟩
    (∀ token ∈ headless, token.kind ≠ .eof) ∧ ofTokens headless = .error wanted ∧
      wanted.IsPlaced ∧ wanted.message ≠ "Invalid assignment target." ∧
      ofTokens (headless ++ body) = .error wanted ∧
      (∀ token ∈ assignment, token.kind ≠ .eof) ∧ ofTokens assignment = .error refused ∧
      (∀ token ∈ headless.head?, token.kind.level? = none ∧ token.kind ≠ .equal) ∧
      ofTokens (assignment ++ headless) = .error refused := by
  intro headless body assignment wanted refused
  have solid : ∀ token ∈ headless, token.kind ≠ .eof := by decide
  have unread : result (sequence .eof headless) = .error
      ⟨⟨.expected .bodyBrace, some ⟨.number, "1", ⟨1, 9⟩⟩⟩, [⟨.number, "1", ⟨1, 9⟩⟩]⟩ := by cbv
  have failed : ofTokens headless = .error wanted :=
    (ofTokens_eq_error_iff _ _).2 ⟨_, unread, rfl⟩
  have alsoSolid : ∀ token ∈ assignment, token.kind ≠ .eof := by decide
  have nothing : result (sequence .eof assignment) = .error
      ⟨⟨.invalidTarget, some ⟨.equal, "=", ⟨1, 3⟩⟩⟩, []⟩ := by cbv
  have alsoFailed : ofTokens assignment = .error refused :=
    (ofTokens_eq_error_iff _ _).2 ⟨_, nothing, rfl⟩
  have noTarget : wanted.message ≠ "Invalid assignment target." := by decide
  have apart : ∀ token ∈ headless.head?, token.kind.level? = none ∧ token.kind ≠ .equal := by
    decide
  exact ⟨solid, failed, ⟨rfl, rfl⟩, noTarget,
    (ofTokens_append_of_error solid failed).1 ⟨rfl, rfl⟩ noTarget body, alsoSolid, alsoFailed,
    apart, (ofTokens_append_of_error alsoSolid alsoFailed).2 rfl headless apart⟩

end Expr

end FrontEnd
