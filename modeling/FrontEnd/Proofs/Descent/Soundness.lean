import FrontEnd.Proofs.Descent.Reads

namespace FrontEnd

/-- A token with nothing but a kind. -/
def Kind.token (kind : Kind) : Token := ⟨kind, "", .start⟩

@[simp] theorem Kind.kind_token (kind : Kind) : kind.token.kind = kind := rfl

namespace Parse

open Token Grammar

/-- The token that is expected is read, or it would go on with the word. -/
theorem reads_expect {α : Type} {word : List Token → Prop} (what : Expectation)
    (tokens : List Token) {next : Token × List Token → Except Refusal (α × List Token)}
    {good : α → List Token → List Token → Prop}
    (goesOn : ∀ token : Token, token.kind = what.kind → ∃ more, word (token :: more))
    (later : ∀ token unread, token.kind = what.kind → unread.length < tokens.length →
      Reads unread (next (token, unread)) (fun result more => good result (token :: more))
        (fun tokens => word (token :: tokens))) :
    Reads tokens ((result (expect what tokens)).bind next) good word := by
  by_cases met : nextKind tokens = what.kind
  · obtain ⟨token, rest, rfl, kind⟩ := exists_cons_of_nextKind met what.kind_ne_eof
    rw [result_expect_of_kind rest kind]
    apply Reads.cons
    exact later token rest kind (Nat.lt_succ_self _)
  · rw [result_expect_of_ne met]
    exact reads_unmet what goesOn

/-- What is read as parameters is a list of parameters of the grammar. -/
theorem parameters_reads (tokens : List Token) :
    Reads tokens (result (parameters tokens)) (fun names read _ => Parameters read names)
      (fun word => ∃ names, Parameters word names) := by
  by_cases closed : closes .rightParen tokens = true
  · rw [result_parameters_of_closes closed]
    exact reads_ok .none
  rw [result_parameters_of_open (Bool.eq_false_iff.2 closed)]
  apply reads_expect _ tokens (fun name identifier => ⟨[], [name], .last identifier⟩)
  intro name unread identifier shorter
  show Reads unread (afterName name unread) _ _
  by_cases next : nextKind unread = .comma
  · obtain ⟨comma, rest, rfl, isComma⟩ := exists_cons_of_nextKind next (by decide)
    have behind : rest.length < tokens.length := Nat.lt_of_succ_lt shorter
    rw [afterName_cons name isComma]
    apply Reads.cons
    apply Reads.map
    apply (parameters_reads rest).mono
    · intro word belongs
      obtain ⟨names, parameters⟩ := belongs
      exact ⟨[], name :: names, by simpa using .more identifier isComma parameters⟩
    · intro names read unread parameters
      exact .more identifier isComma parameters
  · rw [afterName_of_ne name next]
    exact reads_ok (.last identifier)
  termination_by tokens.length

/-- The name, the brackets and the parameters in front of a body are read. -/
theorem signature_reads (tokens : List Token) :
    Reads tokens (result (signature tokens)) (fun head read _ => Signature read head.1 head.2)
      (fun word => ∃ name names, Signature word name names) := by
  have opens : Kind.leftParen.token.kind = .leftParen := rfl
  have closes : Kind.rightParen.token.kind = .rightParen := rfl
  have braces : Kind.leftBrace.token.kind = .leftBrace := rfl
  rw [result_signature]
  refine reads_expect _ _
    (fun name identifier => ⟨_, name, [], .intro identifier opens .none closes braces⟩) ?_
  intro name unread identifier _
  refine reads_expect _ _
    (fun opening opens => ⟨_, name, [], .intro identifier opens .none closes braces⟩) ?_
  intro opening unread opens _
  apply (parameters_reads unread).bind
  · intro between belongs
    obtain ⟨names, parameters⟩ := belongs
    exact ⟨_, name, names, .intro identifier opens parameters closes braces⟩
  intro names between unread _ parameters
  apply reads_expect _ _
  · intro closing closes
    exact ⟨_, name, names, .intro identifier opens parameters closes braces⟩
  intro closing unread closes _
  apply reads_expect _ _
  · intro brace braces
    exact ⟨[], name, names, .intro identifier opens parameters closes braces⟩
  intro brace unread braces _
  exact reads_ok (.intro identifier opens parameters closes braces)

mutual

/-- A reading of an expression without assignments ends where nothing goes on with it. -/
theorem expression_reads (tokens : List Token) :
    Reads tokens (result (expression tokens))
      (fun tree read unread => (∀ dialect, Chain dialect Level.all read tree) ∧ Ends unread)
      (fun word => ∃ tree, Expression .assigning word tree) := by
  rw [result_expression]
  apply (chain_reads Level.all tokens).bind
  · intro word belongs
    obtain ⟨tree, chain⟩ := belongs
    exact ⟨[], tree, by simpa using .equality chain⟩
  intro tree read unread outcome isChain
  obtain ⟨target, stops⟩ := isChain
  have shorter := length_of_result outcome
  show Reads unread (afterTarget tree unread) _ _
  by_cases next : nextKind unread = .equal
  · obtain ⟨sign, rest, rfl, isSign⟩ := exists_cons_of_nextKind next (by decide)
    have behind : rest.length < tokens.length := Nat.lt_of_succ_lt shorter
    rw [afterTarget_cons tree isSign]
    apply (expression_reads rest).refuse
    · intro word belongs
      obtain ⟨other, value⟩ := belongs
      exact ⟨[], tree, by simpa using .assignment rfl (target _) isSign value⟩
    · intro other value unread isValue
      obtain ⟨chain, ends⟩ := isValue
      refine ⟨nofun, ?_⟩
      intro _
      exact ⟨[], sign, value, other, [], rfl, isSign, rfl, chain, ends, tree,
        by simpa using .assignment rfl (target _) isSign (.equality (chain _))⟩
  · rw [afterTarget_of_ne tree next]
    exact reads_ok ⟨by simpa using target, stops, next⟩
  termination_by 16 * tokens.length + 8
  decreasing_by
    · simp only [Level.length_all]
      omega
    · omega

/-- What is read as a chain is one of the grammar, and it stops in front of what is left. -/
theorem chain_reads (levels : List Level) (tokens : List Token) :
    Reads tokens (result (chain levels tokens))
      (fun tree read unread => (∀ dialect, Chain dialect levels read tree) ∧ Stops levels unread)
      (fun word => ∃ tree, Chain .assigning levels word tree) := by
  cases levels with
  | nil =>
      rw [result_chain_nil]
      apply (primary_reads tokens).mono
      · intro word belongs
        obtain ⟨tree, primary⟩ := belongs
        exact ⟨[], tree, by simpa using .primary primary⟩
      · intro tree read unread primary
        exact ⟨fun dialect => .primary (primary dialect), stops_nil unread⟩
  | cons level tighter =>
      rw [result_chain_cons]
      apply (chain_reads tighter tokens).bind
      · intro word belongs
        obtain ⟨tree, chain⟩ := belongs
        exact ⟨[], tree, by simpa using .operand chain⟩
      · intro left read unread outcome isChain
        obtain ⟨operand, stops⟩ := isChain
        have shorter := length_of_result outcome
        exact chainFrom_reads left level tighter unread read
          (fun dialect => .operand (operand dialect)) stops
  termination_by 16 * tokens.length + levels.length + 1
  decreasing_by
    · subst_vars
      omega
    · subst_vars
      simp only [List.length_cons]
      omega
    · subst_vars
      simp only [List.length_cons]
      omega

/-- The rest of a chain is read behind the tokens of its left part. -/
theorem chainFrom_reads (left : Expr) (level : Level) (tighter : List Level)
    (tokens before : List Token) (isChain : ∀ dialect, Chain dialect (level :: tighter) before left)
    (stops : Stops tighter tokens) :
    Reads tokens (result (chainFrom left level tighter tokens))
      (fun tree read unread =>
        (∀ dialect, Chain dialect (level :: tighter) (before ++ read) tree) ∧
          Stops (level :: tighter) unread)
      (fun word => ∃ tree, Chain .assigning (level :: tighter) (before ++ word) tree) := by
  by_cases next : (nextKind tokens).level? = some level
  · obtain ⟨operator, rest, rfl, _⟩ := exists_cons_of_nextKind rfl (Kind.ne_eof_of_level? next)
    rw [result_chainFrom_cons left tighter next]
    rw [nextKind_cons, Kind.level?_eq_some_iff] at next
    apply Reads.cons
    apply (chain_reads tighter rest).bind
    · intro word belongs
      obtain ⟨right, chain⟩ := belongs
      exact ⟨[], _, by simpa using .operator (isChain _) next chain⟩
    · intro right read unread outcome isRight
      obtain ⟨operand, stops⟩ := isRight
      have shorter := length_of_result outcome
      have later := chainFrom_reads (.binary left operator right) level tighter unread
        (before ++ operator :: read)
        (fun dialect => .operator (isChain dialect) next (operand dialect)) stops
      simpa using later
  · rw [result_chainFrom_of_ne left tighter next]
    rw [Kind.level?_eq_some_iff] at next
    exact reads_ok ⟨by simpa using isChain, (stops_cons ..).2 ⟨next, stops⟩⟩
  termination_by 16 * tokens.length + tighter.length + 1
  decreasing_by
    all_goals subst_vars
    all_goals simp only [List.length_cons]
    all_goals omega

/-- What is read as a primary is one of the grammar. -/
theorem primary_reads (tokens : List Token) :
    Reads tokens (result (primary tokens))
      (fun tree read _ => ∀ dialect, Primary dialect read tree)
      (fun word => ∃ tree, Primary .assigning word tree) := by
  have goesOn (token : Token) (number : token.kind = .number) :
      ∃ more tree, Primary .assigning (token :: more) tree :=
    ⟨[], .literal token.lexeme, .literal (.inl number)⟩
  by_cases starter : nextKind tokens ∈ Kind.starters
  · obtain ⟨token, rest, rfl, _⟩ := exists_cons_of_nextKind rfl (Kind.ne_eof_of_starter starter)
    rw [nextKind_cons, Kind.mem_starters_iff] at starter
    rcases starter with isLiteral | opens | isFunction
    · rw [result_primary_of_literal isLiteral]
      apply Reads.cons
      exact reads_ok fun _ => .literal isLiteral
    · rw [result_primary_of_leftParen opens]
      apply Reads.cons
      apply (expression_reads rest).bind
      · intro word belongs
        obtain ⟨tree, inner⟩ := belongs
        exact ⟨[Kind.rightParen.token], .group tree, .group opens inner rfl⟩
      intro tree read unread _ inner
      apply reads_expect _ _
      · intro closing closes
        exact ⟨[], .group tree, .group opens (.equality (inner.1 _)) closes⟩
      · intro closing unread closes _
        exact reads_ok fun dialect => .group opens (.equality (inner.1 dialect)) closes
    · rw [result_primary_of_funWord isFunction]
      apply Reads.cons
      exact function_reads token rest isFunction
  · rw [result_primary_of_ne starter]
    exact reads_unmet .expression goesOn
  termination_by 16 * tokens.length
  decreasing_by
    all_goals subst_vars
    all_goals simp only [List.length_cons]
    all_goals omega

/-- A function is read behind the word that announces it. -/
theorem function_reads (word : Token) (tokens : List Token)
    (isFunction : word.kind = .keyword .funWord) :
    Reads tokens (result (function tokens))
      (fun tree read _ => ∀ dialect, Primary dialect (word :: read) tree)
      (fun tokens => ∃ tree, Primary .assigning (word :: tokens) tree) := by
  have closed : Kind.rightBrace.token.kind = .rightBrace := rfl
  rw [result_function]
  apply (signature_reads tokens).bind
  · intro head belongs
    obtain ⟨name, names, signature⟩ := belongs
    exact ⟨[Kind.rightBrace.token], .function name names [],
      .function isFunction signature .empty closed⟩
  intro names head unread outcome signature
  have shorter := length_of_result outcome
  apply (block_reads unread).bind
  · intro block belongs
    obtain ⟨body, tokens, closing, rfl, program, closes⟩ := belongs
    exact ⟨[], .function names.1 names.2 body,
      by simpa using .function isFunction signature program closes⟩
  · intro body read unread _ isBlock
    obtain ⟨tokens, closing, rfl, program, closes⟩ := isBlock
    exact reads_ok fun dialect =>
      by simpa using .function isFunction signature (program dialect) closes
  termination_by 16 * tokens.length
  decreasing_by
    omega

/-- What is read as a body is a program and the brace that closes it. -/
theorem block_reads (tokens : List Token) :
    Reads tokens (result (block tokens))
      (fun body read _ => ∃ inner closing, read = inner ++ [closing] ∧
        (∀ dialect, Program dialect inner body) ∧ closing.kind = .rightBrace)
      (fun word => ∃ body inner closing, word = inner ++ [closing] ∧
        Program .assigning inner body ∧ closing.kind = .rightBrace) := by
  rw [result_block]
  apply (sequence_reads .rightBrace tokens).bind
  · intro word belongs
    obtain ⟨body, program⟩ := belongs
    exact ⟨_, body, word, Kind.rightBrace.token, rfl, program, rfl⟩
  intro body inner unread _ isProgram
  apply reads_expect _ _
  · intro closing closes
    exact ⟨[], body, inner, closing, rfl, isProgram.1 _, closes⟩
  · intro closing unread closes _
    exact reads_ok ⟨inner, closing, rfl, isProgram.1, closes⟩
  termination_by 16 * tokens.length + 10

/-- Expressions in a row are read up to the token that closes them. -/
theorem sequence_reads (closer : Kind) (tokens : List Token) :
    Reads tokens (result (sequence closer tokens))
      (fun trees read unread => (∀ dialect, Program dialect read trees) ∧ closes closer unread)
      (fun word => ∃ trees, Program .assigning word trees) := by
  by_cases closed : closes closer tokens = true
  · rw [result_sequence_of_closes closed]
    exact reads_ok ⟨fun _ => .empty, closed⟩
  rw [result_sequence_of_open (Bool.eq_false_iff.2 closed)]
  apply (expression_reads tokens).bind
  · intro word belongs
    obtain ⟨tree, first⟩ := belongs
    exact ⟨[], [tree], .next first .empty⟩
  intro tree read unread outcome isFirst
  have shorter := length_of_result outcome
  apply Reads.map
  apply (sequence_reads closer unread).mono
  · intro word belongs
    obtain ⟨trees, rest⟩ := belongs
    exact ⟨[], tree :: trees, by simpa using .next (.equality (isFirst.1 _)) rest⟩
  · intro trees more unread isRest
    exact ⟨fun dialect => .next (.equality (isFirst.1 dialect)) (isRest.1 dialect), isRest.2⟩
  termination_by 16 * tokens.length + 9
  decreasing_by
    all_goals omega

end

end Parse

end FrontEnd
