import FrontEnd.Proofs.Descent.Mirror
import FrontEnd.Proofs.Grammar.Acceptance

namespace FrontEnd

open Parse Token Grammar

/-- A diagnostic shows a place if it knows both a line and a column. -/
def Diagnostic.IsPlaced (diagnostic : Diagnostic) : Prop :=
  diagnostic.line.isSome ∧ diagnostic.column.isSome

instance (diagnostic : Diagnostic) : Decidable diagnostic.IsPlaced :=
  inferInstanceAs (Decidable (_ ∧ _))

theorem Diagnostic.isPlaced_placed (diagnostic : Diagnostic) (position : Position) :
    (diagnostic.placed position).IsPlaced := ⟨rfl, rfl⟩

/-- An error that has no token is given one. -/
def ParseError.orAt (token : Token) (error : ParseError) : ParseError :=
  { error with token := error.token.or (some token) }

/-- Then its diagnostic is placed at this token. -/
theorem ParseError.diagnostic_orAt (token : Token) (error : ParseError) :
    (error.orAt token).diagnostic =
      if error.diagnostic.IsPlaced then error.diagnostic
      else error.diagnostic.placed token.position := by
  obtain ⟨fault, _ | found⟩ := error
  · exact (if_neg nofun).symm
  · exact (if_pos ⟨rfl, rfl⟩).symm

namespace Grammar

/-- An expression ends in front of a token that is neither an operator nor a sign of assignment. -/
theorem ends_of_head? {tokens : List Token}
    (apart : ∀ token ∈ tokens.head?, token.kind.level? = none ∧ token.kind ≠ .equal) :
    Ends tokens := by
  cases tokens with
  | nil => exact ends_of_nextKind nextKind_nil rfl (by decide)
  | cons token rest =>
      obtain ⟨noOperator, noSign⟩ := apart token rfl
      exact ends_of_nextKind rfl noOperator noSign

end Grammar

namespace Parse

/-- More tokens are read in the same way up to where the reading has ended, as long as they do not
change the kind that comes next there. -/
theorem result_sequence_append (closer : Kind) (tokens more : List Token)
    (same : nextKind (behind (result (sequence closer tokens)) ++ more) =
      nextKind (behind (result (sequence closer tokens)))) :
    result (sequence closer (tokens ++ more)) =
      moved id id id (result (sequence closer tokens))
        (behind (result (sequence closer tokens)) ++ more) := by
  obtain ⟨read, whole⟩ := exists_read closer tokens
  have left : behind (result (sequence closer
      (read ++ behind (result (sequence closer tokens))))) =
      behind (result (sequence closer tokens)) := by rw [← whole]
  have appended := result_sequence_congr closer left _ same
  rwa [← List.append_assoc, ← whole] at appended

/-- Nothing behind the end is the next kind. -/
theorem nextKind_append_of_eof {last : Token} (isEnd : last.kind = .eof)
    (tokens rest : List Token) : nextKind (tokens ++ last :: rest) = nextKind tokens := by
  cases tokens with
  | nil => exact isEnd
  | cons token tokens => rfl

/-- The token of an unmet expectation is the first one that is left unread. -/
theorem token_of_expected {closer : Kind} {tokens : List Token} {refusal : Refusal}
    {what : Expectation} (refused : result (sequence closer tokens) = .error refusal)
    (fault : refusal.error.fault = .expected what) :
    refusal.error.token = refusal.unread.head? := by
  have reads := sequence_reads closer tokens
  rw [refused] at reads
  obtain ⟨_, _, explains⟩ := reads
  exact (explains.expected what fault).1

/-- The token of a refused assignment is its sign. -/
theorem token_of_invalidTarget {closer : Kind} {tokens : List Token} {refusal : Refusal}
    (refused : result (sequence closer tokens) = .error refusal)
    (fault : refusal.error.fault = .invalidTarget) : ∃ sign, refusal.error.token = some sign := by
  have reads := sequence_reads closer tokens
  rw [refused] at reads
  obtain ⟨_, _, explains⟩ := reads
  obtain ⟨_, sign, _, _, _, _, _, found, _⟩ := explains.assigned fault
  exact ⟨sign, found⟩

/-- A refusal knows a token unless no token is left. -/
theorem moved_of_refused {before : List Token} {refusal : Refusal} (last : Token)
    (rest : List Token) (refused : result (sequence .eof before) = .error refusal) :
    refusal.moved id id (refusal.unread ++ last :: rest) =
      ⟨refusal.error.orAt last, refusal.unread ++ last :: rest⟩ := by
  obtain ⟨⟨fault, token⟩, unread⟩ := refusal
  cases fault with
  | expected what =>
      obtain rfl : token = unread.head? := token_of_expected refused rfl
      cases unread <;> rfl
  | invalidTarget =>
      obtain ⟨sign, rfl⟩ : ∃ sign, token = some sign := token_of_invalidTarget refused rfl
      rfl

end Parse

namespace Expr

/-- Parsing keeps the trees of a sequence or the diagnostic of its refusal. -/
theorem ofTokens_eq (tokens : List Token) :
    ofTokens tokens = ((result (sequence .eof tokens)).map Prod.fst).mapError
      fun refusal => refusal.error.diagnostic := by
  rw [ofTokens, outcome_program]

/-- An end is read like the end of the tokens in front of it, but it places errors. -/
theorem ofTokens_append_end {last : Token} (isEnd : last.kind = .eof) (before rest : List Token) :
    ofTokens (before ++ last :: rest) = (ofTokens before).mapError fun diagnostic =>
      if diagnostic.IsPlaced then diagnostic else diagnostic.placed last.position := by
  have appended := result_sequence_append .eof before (last :: rest)
    (nextKind_append_of_eof isEnd _ _)
  rw [ofTokens_eq, ofTokens_eq, appended]
  cases outcome : result (sequence .eof before) with
  | ok pair => rfl
  | error refusal =>
      simp only [moved, behind, moved_of_refused last rest outcome, Except.map, Except.mapError,
        ParseError.diagnostic_orAt]

/-- The first of two lists of tokens is a program, and the second one does not go on with its last
expression. Then both are parsed one after the other, and an error in the second one stays what it
is. -/
theorem ofTokens_append {first second : List Token} {trees : List Expr}
    (solid : ∀ token ∈ first, token.kind ≠ .eof) (parsed : ofTokens first = .ok trees)
    (apart : ∀ token ∈ second.head?, token.kind.level? = none ∧ token.kind ≠ .equal) :
    ofTokens (first ++ second) = (ofTokens second).map (trees ++ ·) := by
  have program : Program .plain first trees := by
    have seen := program_of_ofTokens parsed .plain
    have whole := visible_append solid nextKind_nil
    rwa [← whole, List.append_nil]
  have comes := (comes_plain_iff ..).1 (program.comes .eof (by decide) (ends_of_head? apart))
  rw [ofTokens_eq, ofTokens_eq, comes]
  cases result (sequence .eof second) <;> rfl

/-- A sum in front of a function without a body leaves the error in the function where it is. -/
theorem ofTokens_append_sum :
    let sum : List Token :=
      [⟨.identifier, "a", ⟨1, 1⟩⟩, ⟨.plus, "+", ⟨1, 3⟩⟩, ⟨.number, "1", ⟨1, 5⟩⟩]
    let tree : Expr := .binary (.literal "a") ⟨.plus, "+", ⟨1, 3⟩⟩ (.literal "1")
    let headless : List Token := [⟨.keyword .funWord, "fun", ⟨2, 1⟩⟩, ⟨.identifier, "f", ⟨2, 5⟩⟩,
      ⟨.leftParen, "(", ⟨2, 6⟩⟩, ⟨.rightParen, ")", ⟨2, 7⟩⟩, ⟨.number, "1", ⟨2, 9⟩⟩]
    (∀ token ∈ sum, token.kind ≠ .eof) ∧ ofTokens sum = .ok [tree] ∧
      (∀ token ∈ headless.head?, token.kind.level? = none ∧ token.kind ≠ .equal) ∧
      ofTokens (sum ++ headless) =
        .error ⟨.error, "Expect '\x7b' before function body.", some 2, some 9⟩ ∧
      ofTokens (sum ++ sum) = .ok [tree, tree] := by
  intro sum tree headless
  have solid : ∀ token ∈ sum, token.kind ≠ .eof := by decide
  have parsed : ofTokens sum = .ok [tree] := by cbv
  have unread : result (sequence .eof headless) = .error
      ⟨⟨.expected .bodyBrace, some ⟨.number, "1", ⟨2, 9⟩⟩⟩, [⟨.number, "1", ⟨2, 9⟩⟩]⟩ := by cbv
  have refused := (ofTokens_eq_error_iff _ _).2 ⟨_, unread, rfl⟩
  have apart : ∀ token ∈ headless.head?, token.kind.level? = none ∧ token.kind ≠ .equal := by decide
  have again : ∀ token ∈ sum.head?, token.kind.level? = none ∧ token.kind ≠ .equal := by decide
  refine ⟨solid, parsed, apart, ?_, ?_⟩
  · rw [ofTokens_append solid parsed apart, refused]
    rfl
  · rw [ofTokens_append solid parsed again, parsed]
    rfl

/-- An end cuts a list of tokens. What stands behind it does not matter, and in front of it the
tokens are parsed as if they stood alone, except that an error at the end of them is placed. -/
theorem ofTokens_append_eof {last : Token} (isEnd : last.kind = .eof) (before rest : List Token) :
    (∀ trees, ofTokens (before ++ last :: rest) = .ok trees ↔ ofTokens before = .ok trees) ∧
    (∀ diagnostic, ofTokens before = .error diagnostic → diagnostic.IsPlaced →
      ofTokens (before ++ last :: rest) = .error diagnostic) ∧
    (∀ diagnostic, ofTokens before = .error diagnostic → ¬ diagnostic.IsPlaced →
      ofTokens (before ++ last :: rest) = .error (diagnostic.placed last.position)) ∧
    (∀ diagnostic, ofTokens (before ++ last :: rest) = .error diagnostic → diagnostic.IsPlaced) ∧
    ∀ others, ofTokens (before ++ last :: others) = ofTokens (before ++ last :: rest) := by
  have cut := ofTokens_append_end isEnd before
  refine ⟨?_, ?_, ?_, ?_, fun others => by rw [cut, cut]⟩
  · intro trees
    rw [cut]
    cases ofTokens before <;> simp [Except.mapError]
  · intro diagnostic failed placed
    rw [cut, failed, Except.mapError, if_pos placed]
  · intro diagnostic failed unplaced
    rw [cut, failed, Except.mapError, if_neg unplaced]
  · intro diagnostic failed
    rw [cut] at failed
    cases outcome : ofTokens before with
    | ok trees =>
        rw [outcome] at failed
        cases failed
    | error found =>
        rw [outcome] at failed
        cases failed
        by_cases placed : found.IsPlaced
        · simpa only [if_pos placed] using placed
        · simpa only [if_neg placed] using found.isPlaced_placed last.position

/-- A missing brace is placed at the end, and a wrong token keeps its place. -/
theorem ofTokens_append_eof_body :
    let signature : List Token := [⟨.keyword .funWord, "fun", ⟨1, 1⟩⟩, ⟨.identifier, "f", ⟨1, 5⟩⟩,
      ⟨.leftParen, "(", ⟨1, 6⟩⟩, ⟨.rightParen, ")", ⟨1, 7⟩⟩]
    let wrong : List Token := signature ++ [⟨.number, "1", ⟨1, 9⟩⟩]
    let last : Token := ⟨.eof, "", ⟨2, 1⟩⟩
    last.kind = .eof ∧
      ofTokens signature = .error (Diagnostic.error "Expect '\x7b' before function body.") ∧
      ofTokens (signature ++ last :: wrong) =
        .error ⟨.error, "Expect '\x7b' before function body.", some 2, some 1⟩ ∧
      ofTokens wrong = .error ⟨.error, "Expect '\x7b' before function body.", some 1, some 9⟩ ∧
      ofTokens (wrong ++ last :: signature) =
        .error ⟨.error, "Expect '\x7b' before function body.", some 1, some 9⟩ := by
  intro signature wrong last
  have nothing : result (sequence .eof signature) =
      .error ⟨⟨.expected .bodyBrace, none⟩, []⟩ := by cbv
  have unread : result (sequence .eof wrong) = .error
      ⟨⟨.expected .bodyBrace, some ⟨.number, "1", ⟨1, 9⟩⟩⟩, [⟨.number, "1", ⟨1, 9⟩⟩]⟩ := by cbv
  have unfinished := (ofTokens_eq_error_iff _ _).2 ⟨_, nothing, rfl⟩
  have refused := (ofTokens_eq_error_iff _ _).2 ⟨_, unread, rfl⟩
  exact ⟨rfl, unfinished, (ofTokens_append_eof rfl signature wrong).2.2.1 _ unfinished (by decide),
    refused, (ofTokens_append_eof rfl wrong signature).2.1 _ refused (by decide)⟩

end Expr

end FrontEnd
