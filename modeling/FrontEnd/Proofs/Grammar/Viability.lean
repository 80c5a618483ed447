import FrontEnd.Proofs.Descent.Mirror
import FrontEnd.Proofs.Grammar.Acceptance

namespace FrontEnd

open Parse Token Grammar

/-- A diagnostic is placed at the token of its error, if there is one. -/
theorem ParseError.diagnostic_eq (error : ParseError) :
    error.diagnostic = ⟨.error, error.fault.message, error.token.map (·.position.line),
      error.token.map (·.position.column)⟩ := by
  obtain ⟨fault, _ | token⟩ := error <;> rfl

namespace Grammar

/-- All tokens of a program are visible. -/
theorem Program.visible_eq {dialect : Dialect} {tokens : List Token} {trees : List Expr}
    (program : Program dialect tokens trees) : visible tokens = tokens :=
  visible_of_solid program.solid

/-- No sentence is refused because of an expectation. -/
theorem not_sentence_of_expected {tokens : List Token} {refusal : Refusal} {what : Expectation}
    (refused : result (sequence .eof tokens) = .error refusal)
    (fault : refusal.error.fault = .expected what) : ¬ Sentence (visible tokens) := by
  intro sentence
  obtain ⟨trees, program⟩ := sentence
  obtain ⟨unread, same | ⟨_, other, same, invalid⟩⟩ := program.comes_visible
  · rw [refused] at same
    cases same
  · rw [refused] at same
    cases same
    rw [fault] at invalid
    cases invalid

/-- An unmet expectation stays unmet when other tokens stand behind the token at which it is
found. -/
theorem expected_append {read rest : List Token} {token : Token} {what : Expectation}
    (refused : result (sequence .eof (read ++ token :: rest)) =
      .error ⟨⟨.expected what, some token⟩, token :: rest⟩) (more : List Token) :
    result (sequence .eof (read ++ token :: more)) =
      .error ⟨⟨.expected what, some token⟩, token :: more⟩ := by
  have left : behind (result (sequence .eof (read ++ token :: rest))) = token :: rest := by
    rw [refused]
    rfl
  rw [result_sequence_congr .eof left (token :: more) rfl, refused]
  rfl

/-- The token that is blamed for an expectation cannot go on with what has been read. -/
theorem not_viable_of_expected {read rest : List Token} {token : Token} {what : Expectation}
    (refused : result (sequence .eof (read ++ token :: rest)) =
      .error ⟨⟨.expected what, some token⟩, token :: rest⟩) : ¬ Viable (read ++ [token]) := by
  intro viable
  obtain ⟨more, trees, program⟩ := viable
  have seen := program.visible_eq
  rw [List.append_assoc, List.singleton_append] at program seen
  have noSentence := not_sentence_of_expected (expected_append refused more) rfl
  rw [seen] at noSentence
  exact noSentence ⟨trees, program⟩

/-- An expectation is unmet at a place. A sentence may go on there with any token that meets the
expectation, but not with the token that stands there, and at the end it may not stop. -/
structure EarliestFault (tokens : List Token) (diagnostic : Diagnostic) (what : Expectation)
    (place : Nat) : Prop where
  within : place ≤ (visible tokens).length
  told : diagnostic = ⟨.error, what.message, tokens[place]?.map (·.position.line),
    tokens[place]?.map (·.position.column)⟩
  right : ∀ token : Token, token.kind = what.kind → Viable (tokens.take place ++ [token])
  wrong : place < (visible tokens).length → ¬ Viable (tokens.take (place + 1))
  unfinished : place = (visible tokens).length → ¬ Sentence (visible tokens)

/-- Parsing fails at the first place that is wrong, unless it fails because of an assignment. -/
theorem earliestFault_of_ofTokens_error {tokens : List Token} {diagnostic : Diagnostic}
    (failed : Expr.ofTokens tokens = .error diagnostic)
    (noTarget : diagnostic.message ≠ "Invalid assignment target.") :
    ∃ what place, EarliestFault tokens diagnostic what place := by
  obtain ⟨⟨⟨fault, token⟩, unread⟩, refused, rfl⟩ := (Expr.ofTokens_eq_error_iff _ _).1 failed
  have reads := sequence_reads .eof tokens
  rw [refused] at reads
  obtain ⟨read, same, explains⟩ := reads
  rw [ParseError.diagnostic_eq] at noTarget ⊢
  cases fault with
  | invalidTarget => exact absurd rfl noTarget
  | expected what =>
      obtain ⟨found, goesOn⟩ := explains.expected what rfl
      dsimp only at same found
      subst same found
      have solid : ∀ other ∈ read, other.kind ≠ .eof := by
        obtain ⟨more, trees, program⟩ := goesOn what.kind.token rfl
        intro other member
        exact program.solid other (List.mem_append_left _ member)
      refine ⟨what, read.length, ?_⟩
      constructor
      · rw [visible_append_of_solid solid, List.length_append]
        exact Nat.le_add_right _ _
      · rw [List.getElem?_append_right (le_refl _), Nat.sub_self, List.head?_eq_getElem?]
        rfl
      · intro other kind
        obtain ⟨more, sentence⟩ := goesOn other kind
        refine ⟨more, ?_⟩
        rw [List.take_left, List.append_assoc]
        exact sentence
      · intro inside
        cases unread with
        | nil =>
            rw [visible_append_of_solid solid] at inside
            simp [visible] at inside
        | cons token rest =>
            have wrong := not_viable_of_expected refused
            rw [← List.singleton_append, ← List.append_assoc]
            rwa [List.take_left' (by simp)]
      · intro _
        exact not_sentence_of_expected refused rfl

/-- A number stands where a function has to open its body. -/
theorem earliestFault_of_ofTokens_error_body :
    let tokens : List Token := [⟨.keyword .funWord, "fun", ⟨1, 1⟩⟩, ⟨.identifier, "f", ⟨1, 5⟩⟩,
      ⟨.leftParen, "(", ⟨1, 6⟩⟩, ⟨.rightParen, ")", ⟨1, 7⟩⟩, ⟨.number, "1", ⟨1, 9⟩⟩]
    let diagnostic : Diagnostic := ⟨.error, "Expect '\x7b' before function body.", some 1, some 9⟩
    Expr.ofTokens tokens = .error diagnostic ∧ diagnostic.message ≠ "Invalid assignment target." ∧
      ∃ what place, EarliestFault tokens diagnostic what place := by
  have refused : result (Parse.sequence .eof [⟨.keyword .funWord, "fun", ⟨1, 1⟩⟩,
      ⟨.identifier, "f", ⟨1, 5⟩⟩, ⟨.leftParen, "(", ⟨1, 6⟩⟩, ⟨.rightParen, ")", ⟨1, 7⟩⟩,
      ⟨.number, "1", ⟨1, 9⟩⟩]) =
      .error ⟨⟨.expected .bodyBrace, some ⟨.number, "1", ⟨1, 9⟩⟩⟩, [⟨.number, "1", ⟨1, 9⟩⟩]⟩ := by
    cbv
  have failed := (Expr.ofTokens_eq_error_iff _ _).2 ⟨_, refused, rfl⟩
  have noTarget : "Expect '\x7b' before function body." ≠ "Invalid assignment target." := by decide
  exact ⟨failed, noTarget, earliestFault_of_ofTokens_error failed noTarget⟩

end Grammar

end FrontEnd
