import FrontEnd.Proofs.Grammar.Viability
import FrontEnd.Proofs.Token.Foreign

namespace FrontEnd

open Token Parse Grammar

/-- A diagnostic stands where a token stands. -/
def Diagnostic.Blames (diagnostic : Diagnostic) (token : Token) : Prop :=
  diagnostic.line = some token.position.line ∧ diagnostic.column = some token.position.column

/-- Where there is an end, every refusal is because of a token. -/
theorem Parse.exists_token_of_refused {tokens : List Token} {refusal : Refusal}
    (refused : result (sequence .eof tokens) = .error refusal)
    (ends : ∃ last ∈ tokens, last.kind = .eof) :
    ∃ token ∈ tokens, refusal.error.token = some token := by
  have reads := sequence_reads .eof tokens
  rw [refused] at reads
  obtain ⟨read, same, explains⟩ := reads
  rw [same] at ends ⊢
  cases fault : refusal.error.fault with
  | expected what =>
      obtain ⟨found, goesOn⟩ := explains.expected what fault
      obtain ⟨more, trees, program⟩ := goesOn what.kind.token rfl
      cases unread : refusal.unread with
      | nil =>
          rw [unread, List.append_nil] at ends
          obtain ⟨last, member, isEnd⟩ := ends
          exact absurd isEnd (program.solid last (List.mem_append_left _ member))
      | cons token rest =>
          rw [unread] at found
          exact ⟨token, List.mem_append_right _ List.mem_cons_self, found⟩
  | invalidTarget =>
      obtain ⟨before, sign, value, _, _, rfl, _, found, _⟩ := explains.assigned fault
      exact ⟨sign, by simp, found⟩

/-- A source that cannot be parsed has a token that is to blame. -/
theorem Expr.blames_of_ofTokens_scan {source : String} {error : Diagnostic}
    (failed : Expr.ofTokens (scan source) = .error error) :
    error.severity = .error ∧ ∃ token ∈ scan source, error.Blames token := by
  obtain ⟨refusal, refused, rfl⟩ := (Expr.ofTokens_eq_error_iff _ _).1 failed
  obtain ⟨tokens, place, scanned, _⟩ := exists_scan_eq_append source
  have ends : ∃ last ∈ scan source, last.kind = .eof := by
    rw [scanned]
    exact ⟨_, List.mem_append_right _ List.mem_cons_self, rfl⟩
  obtain ⟨token, member, found⟩ := exists_token_of_refused refused ends
  rw [ParseError.diagnostic_eq, found]
  exact ⟨rfl, token, member, rfl, rfl⟩

/-- Each unknown character is blamed in a warning of its own, on one line. -/
theorem Token.blames_of_mem_unknownCharacters {source : String} {warning : Diagnostic}
    (member : warning ∈ unknownCharacters (scan source)) :
    warning.severity = .warning ∧ '\n' ∉ warning.message.toList ∧
      ∃ token ∈ scan source, warning.Blames token := by
  obtain ⟨token, found, rfl⟩ := List.mem_map.1 member
  obtain ⟨inside, unknown⟩ := List.mem_filter.1 found
  have isUnknown : token.kind = .unknown := by simpa using unknown
  have spells := spells_of_mem_scan inside (by simp [isUnknown])
  have noFeed : '\n' ∉ token.lexeme.toList := spells.not_mem_lineFeed
  refine ⟨rfl, ?_, token, inside, rfl, rfl⟩
  simp [unknownWarning, Diagnostic.placed, Diagnostic.warning, noFeed]

/-- A run fails because of its sink, because of unknown characters, or because its tokens are no
program. -/
theorem Run.error_cases {source : String} {listing : Bool} {sink : Sink} {error : RunError}
    (failed : (ofSource source listing sink).result = .error error) :
    (∃ fault, error = .write fault) ∨
      (∃ warnings, error = .unknownCharacters warnings ∧ warnings ≠ [] ∧
        unknownCharacters (scan source) = warnings) ∨
      ∃ diagnostic, error = .parse diagnostic ∧
        Expr.ofTokens (scan source) = .error diagnostic := by
  rw [(ofSource_puts source listing sink).1] at failed
  cases refused : (sink.put (output source listing)).1 with
  | some fault =>
      rw [refused] at failed
      cases failed
      exact .inl ⟨fault, rfl⟩
  | none =>
      rw [refused, settle, verdict] at failed
      cases unknown : unknownCharacters (scan source) with
      | cons first rest =>
          rw [unknown] at failed
          cases failed
          exact .inr (.inl ⟨_, rfl, List.cons_ne_nil first rest, rfl⟩)
      | nil =>
          rw [unknown] at failed
          cases parsed : Expr.ofTokens (scan source) with
          | ok trees =>
              rw [parsed] at failed
              cases failed
          | error diagnostic =>
              rw [parsed] at failed
              cases failed
              exact .inr (.inr ⟨diagnostic, rfl, rfl⟩)

end FrontEnd
