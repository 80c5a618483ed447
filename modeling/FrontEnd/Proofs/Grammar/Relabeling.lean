import FrontEnd.Proofs.Grammar.Concatenation

namespace FrontEnd

open Parse Token

/-- Another place may take over where a diagnostic shows one. -/
def Diagnostic.relocate (places : Position → Position) (diagnostic : Diagnostic) : Diagnostic :=
  match diagnostic.line, diagnostic.column with
  | some line, some column => diagnostic.placed (places ⟨line, column⟩)
  | _, _ => diagnostic

/-- An error keeps its fault when its token is relabelled. -/
def ParseError.relabel (lexemes : String → String) (places : Position → Position)
    (error : ParseError) : ParseError :=
  { error with token := error.token.map (Token.relabel lexemes places) }

theorem ParseError.relabel_id (error : ParseError) : error.relabel id id = error := by
  obtain ⟨fault, _ | token⟩ := error <;> rfl

/-- The message of an error has no lexeme in it, so that only its place is changed. -/
theorem ParseError.diagnostic_relabel (lexemes : String → String) (places : Position → Position)
    (error : ParseError) :
    (error.relabel lexemes places).diagnostic = error.diagnostic.relocate places := by
  obtain ⟨fault, _ | token⟩ := error <;> rfl

namespace Parse

variable (lexemes : String → String) (places : Position → Position)

theorem nextKind_map_relabel (tokens : List Token) :
    nextKind (tokens.map (Token.relabel lexemes places)) = nextKind tokens := by
  cases tokens <;> rfl

/-- The relabelled tokens are read as far as the tokens themselves, and what is left unread is
relabelled, too. -/
theorem result_sequence_relabel (closer : Kind) (tokens : List Token) :
    result (sequence closer (tokens.map (Token.relabel lexemes places))) =
      moved lexemes places (List.map (Expr.relabel lexemes places))
        (result (sequence closer tokens))
        ((behind (result (sequence closer tokens))).map (Token.relabel lexemes places)) := by
  have mirrors : Mirrors lexemes places _ _ _ _ := sequence_mirrors closer tokens
  obtain ⟨read, same, runs⟩ := mirrors
  have run := runs _ (nextKind_map_relabel lexemes places _)
  rwa [← List.map_append, ← same] at run

/-- The error is relabelled if the next token is. -/
theorem moved_of_head? {closer : Kind} {tokens other : List Token} {refusal : Refusal}
    (refused : result (sequence closer tokens) = .error refusal)
    (same : other.head? = refusal.unread.head?.map (Token.relabel lexemes places)) :
    refusal.moved lexemes places other = ⟨refusal.error.relabel lexemes places, other⟩ := by
  obtain ⟨⟨fault, token⟩, unread⟩ := refusal
  cases fault with
  | expected what =>
      obtain rfl : token = unread.head? := token_of_expected refused rfl
      rw [ParseError.relabel, ← same]
      rfl
  | invalidTarget => rfl

end Parse

namespace Expr

/-- Parsing relabelled tokens gives the relabelled trees, or the diagnostic at the other place. -/
theorem ofTokens_map_relabel (lexemes : String → String) (places : Position → Position)
    (tokens : List Token) :
    ofTokens (tokens.map (Token.relabel lexemes places)) =
      ((ofTokens tokens).map (List.map (Expr.relabel lexemes places))).mapError
        (Diagnostic.relocate places) := by
  rw [ofTokens_eq, ofTokens_eq, result_sequence_relabel]
  cases outcome : result (sequence .eof tokens) with
  | ok pair => rfl
  | error refusal =>
      have error := moved_of_head? lexemes places outcome List.head?_map
      simp only [moved, behind, error, Except.map, Except.mapError, ParseError.diagnostic_relabel]

end Expr

end FrontEnd
