import FrontEnd.Proofs.Descent.Result
import FrontEnd.Proofs.Relabel

namespace FrontEnd

open Token

/-- The refusal that takes the place of another one when the tokens in front of it are relabelled
and different ones stand behind them. -/
def Refusal.moved (lexemes : String → String) (places : Position → Position) (refusal : Refusal)
    (unread : List Token) : Refusal :=
  match refusal.error.fault with
  | .expected what => ⟨⟨.expected what, unread.head?⟩, unread⟩
  | .invalidTarget =>
      ⟨⟨.invalidTarget, refusal.error.token.map (Token.relabel lexemes places)⟩, unread⟩

namespace Parse

/-- What an outcome leaves unread. -/
def behind {α : Type} : Except Refusal (α × List Token) → List Token
  | .ok pair => pair.2
  | .error refusal => refusal.unread

/-- The outcome that takes the place of another one when different tokens stand behind it. -/
def moved {α : Type} (lexemes : String → String) (places : Position → Position) (f : α → α)
    (outcome : Except Refusal (α × List Token)) (unread : List Token) :
    Except Refusal (α × List Token) :=
  match outcome with
  | .ok pair => .ok (f pair.1, unread)
  | .error refusal => .error (refusal.moved lexemes places unread)

/-- A run on relabelled tokens comes to the relabelled outcome, whatever stands behind the tokens
that have been read, as long as the next kind is the same. -/
def Mirrors {α : Type} (lexemes : String → String) (places : Position → Position) (f : α → α)
    (tokens : List Token) (outcome : Except Refusal (α × List Token))
    (run : List Token → Except Refusal (α × List Token)) : Prop :=
  ∃ read, tokens = read ++ behind outcome ∧ ∀ unread, nextKind unread = nextKind (behind outcome) →
    run (read.map (relabel lexemes places) ++ unread) = moved lexemes places f outcome unread

section

variable {α β : Type} {lexemes : String → String} {places : Position → Position}
  {f : α → α} {g : β → β} {tokens : List Token} {outcome : Except Refusal (α × List Token)}
  {run : List Token → Except Refusal (α × List Token)}

/-- A reading of nothing is mirrored by the change of its value. -/
theorem mirrors_ok (value : α) :
    Mirrors lexemes places f tokens (.ok (value, tokens)) fun other => .ok (f value, other) :=
  ⟨[], rfl, fun _ _ => rfl⟩

/-- An expectation that is not met is blamed on the next token, whichever it is. -/
theorem mirrors_unmet (what : Expectation) :
    Mirrors lexemes places f tokens (unmet what tokens) (unmet what) :=
  ⟨[], rfl, fun _ _ => rfl⟩

/-- A refused assignment is blamed on its own sign, which is relabelled with the tokens. -/
theorem mirrors_refuse (sign : Token) :
    Mirrors lexemes places f tokens (.error ⟨⟨.invalidTarget, some sign⟩, tokens⟩)
      fun other => .error ⟨⟨.invalidTarget, some (sign.relabel lexemes places)⟩, other⟩ :=
  ⟨[], rfl, fun _ _ => rfl⟩

/-- Relabelled tokens begin with the same kind, also if none of them has been read. -/
theorem nextKind_map_append (lexemes : String → String) (places : Position → Position)
    (read : List Token) {unread other : List Token} (same : nextKind other = nextKind unread) :
    nextKind (read.map (relabel lexemes places) ++ other) = nextKind (read ++ unread) := by
  cases read with
  | nil => exact same
  | cons token rest => rfl

/-- Only runs on tokens with the same next kind count. -/
theorem Mirrors.congr {other : List Token → Except Refusal (α × List Token)}
    (mirrors : Mirrors lexemes places f tokens outcome run)
    (same : ∀ inputs, nextKind inputs = nextKind tokens → other inputs = run inputs) :
    Mirrors lexemes places f tokens outcome other := by
  obtain ⟨read, rfl, runs⟩ := mirrors
  refine ⟨read, rfl, ?_⟩
  intro unread next
  rw [same _ (nextKind_map_append lexemes places read next), runs unread next]

/-- One more token in front is relabelled like the others. -/
theorem Mirrors.cons {token : Token}
    (mirrors : Mirrors lexemes places f tokens outcome fun other =>
      run (token.relabel lexemes places :: other)) :
    Mirrors lexemes places f (token :: tokens) outcome run := by
  obtain ⟨read, same, runs⟩ := mirrors
  exact ⟨token :: read, congrArg (List.cons token) same, runs⟩

theorem Mirrors.map {change changed : α → β} (mirrors : Mirrors lexemes places f tokens outcome run)
    (commutes : ∀ value, changed (f value) = g (change value)) :
    Mirrors lexemes places g tokens (outcome.map fun pair => (change pair.1, pair.2))
      fun other => (run other).map fun pair => (changed pair.1, pair.2) := by
  obtain ⟨read, same, runs⟩ := mirrors
  refine ⟨read, ?_, ?_⟩
  · cases outcome <;> exact same
  intro unread next
  have followed := runs unread (by cases outcome <;> exact next)
  show (run _).map _ = _
  rw [followed]
  cases outcome with
  | error refusal => rfl
  | ok pair => simp only [moved, Except.map, commutes]

/-- Two runs in a row mirror two readings in a row. -/
theorem Mirrors.bind {next onward : α × List Token → Except Refusal (β × List Token)}
    (mirrors : Mirrors lexemes places f tokens outcome run)
    (later : ∀ value unread, outcome = .ok (value, unread) →
      Mirrors lexemes places g unread (next (value, unread)) fun other =>
        onward (f value, other)) :
    Mirrors lexemes places g tokens (outcome.bind next) fun other => (run other).bind onward := by
  obtain ⟨read, rfl, runs⟩ := mirrors
  cases outcome with
  | error refusal =>
      refine ⟨read, rfl, ?_⟩
      intro unread next
      show (run _).bind onward = _
      rw [runs unread next]
      rfl
  | ok pair =>
      obtain ⟨more, same, runsOn⟩ := later pair.1 pair.2 rfl
      refine ⟨read ++ more, ?_, ?_⟩
      · rw [List.append_assoc]
        exact congrArg (read ++ ·) same
      intro unread next
      have first := runs (more.map (relabel lexemes places) ++ unread)
        ((nextKind_map_append lexemes places more next).trans (congrArg nextKind same.symm))
      show (run _).bind onward = _
      rw [List.map_append, List.append_assoc, first]
      exact runsOn unread next

/-- Whether a sequence is closed depends on the next kind only. -/
theorem closes_congr (closer : Kind) {first second : List Token}
    (same : nextKind first = nextKind second) : closes closer first = closes closer second := by
  rw [Bool.eq_iff_iff, closes_iff, closes_iff, same]

/-- The rules of the descent mirror themselves. -/
theorem expect_mirrors (what : Expectation) (tokens : List Token) :
    Mirrors lexemes places (relabel lexemes places) tokens (result (expect what tokens))
      fun other => result (expect what other) := by
  by_cases met : nextKind tokens = what.kind
  · obtain ⟨token, rest, rfl, kind⟩ := exists_cons_of_nextKind met what.kind_ne_eof
    rw [result_expect_of_kind rest kind]
    apply Mirrors.cons
    apply (mirrors_ok token).congr
    intro inputs _
    exact result_expect_of_kind inputs kind
  · rw [result_expect_of_ne met]
    apply (mirrors_unmet what).congr
    intro inputs same
    exact result_expect_of_ne (same ▸ met)

/-- A list of parameters mirrors itself, with each of its names relabelled. -/
theorem parameters_mirrors (tokens : List Token) :
    Mirrors lexemes places (List.map (relabel lexemes places)) tokens (result (parameters tokens))
      fun other => result (parameters other) := by
  by_cases closed : closes .rightParen tokens = true
  · rw [result_parameters_of_closes closed]
    apply (mirrors_ok []).congr
    intro inputs same
    exact result_parameters_of_closes (closes_congr _ same ▸ closed)
  rw [Bool.not_eq_true] at closed
  rw [result_parameters_of_open closed]
  refine ((expect_mirrors .parameterName tokens).bind ?_).congr
    fun inputs same => result_parameters_of_open (closes_congr _ same ▸ closed)
  intro name unread outcome
  have shorter := length_of_result outcome
  show Mirrors _ _ _ unread (afterName name unread) (afterName (name.relabel lexemes places))
  by_cases next : nextKind unread = .comma
  · obtain ⟨comma, rest, rfl, isComma⟩ := exists_cons_of_nextKind next (by decide)
    have behind : rest.length < tokens.length := Nat.lt_of_succ_lt shorter
    have alsoComma : (comma.relabel lexemes places).kind = .comma := isComma
    rw [afterName_cons name isComma]
    apply Mirrors.cons
    refine ((parameters_mirrors rest).map ?_).congr
      fun inputs _ => afterName_cons (name.relabel lexemes places) alsoComma inputs
    intro names
    rfl
  · rw [afterName_of_ne name next]
    apply (mirrors_ok [name]).congr
    intro inputs same
    exact afterName_of_ne (name.relabel lexemes places) (same ▸ next)
  termination_by tokens.length

theorem signature_mirrors (tokens : List Token) :
    Mirrors lexemes places
      (Prod.map (relabel lexemes places) (List.map (relabel lexemes places))) tokens
      (result (signature tokens)) fun other => result (signature other) := by
  rw [result_signature]
  refine ((expect_mirrors .functionName tokens).bind ?_).congr
    fun inputs _ => result_signature inputs
  intro name unread _
  dsimp only
  apply (expect_mirrors _ unread).bind
  intro opening unread _
  dsimp only
  apply (parameters_mirrors unread).bind
  intro names unread _
  dsimp only
  apply (expect_mirrors _ unread).bind
  intro closing unread _
  dsimp only
  apply (expect_mirrors _ unread).bind
  intro brace unread _
  exact mirrors_ok (name, names)

mutual

/-- Expressions mirror themselves, by recursion on the tokens that are left. -/
theorem expression_mirrors (tokens : List Token) :
    Mirrors lexemes places (Expr.relabel lexemes places) tokens (result (expression tokens))
      fun other => result (expression other) := by
  rw [result_expression]
  refine ((chain_mirrors Level.all tokens).bind ?_).congr fun inputs _ => result_expression inputs
  intro value unread outcome
  have shorter := length_of_result outcome
  show Mirrors _ _ _ unread (afterTarget value unread)
    (afterTarget (value.relabel lexemes places))
  by_cases next : nextKind unread = .equal
  · obtain ⟨sign, rest, rfl, isSign⟩ := exists_cons_of_nextKind next (by decide)
    have behind : rest.length < tokens.length := Nat.lt_of_succ_lt shorter
    have alsoSign : (sign.relabel lexemes places).kind = .equal := isSign
    rw [afterTarget_cons value isSign]
    apply Mirrors.cons
    refine ((expression_mirrors rest).bind ?_).congr
      fun inputs _ => afterTarget_cons (value.relabel lexemes places) alsoSign inputs
    intro _ unread _
    exact mirrors_refuse sign
  · rw [afterTarget_of_ne value next]
    apply (mirrors_ok value).congr
    intro inputs same
    exact afterTarget_of_ne (value.relabel lexemes places) (same ▸ next)
  termination_by 16 * tokens.length + 8
  decreasing_by
    · simp only [Level.length_all]
      omega
    · omega

/-- Levels have no lexemes and no places, so that a chain mirrors itself at any of them. -/
theorem chain_mirrors (levels : List Level) (tokens : List Token) :
    Mirrors lexemes places (Expr.relabel lexemes places) tokens (result (chain levels tokens))
      fun other => result (chain levels other) := by
  cases levels with
  | nil =>
      rw [result_chain_nil]
      exact (primary_mirrors tokens).congr fun inputs _ => result_chain_nil inputs
  | cons level tighter =>
      rw [result_chain_cons]
      refine ((chain_mirrors tighter tokens).bind ?_).congr
        fun inputs _ => result_chain_cons level tighter inputs
      intro left unread outcome
      have shorter := length_of_result outcome
      exact chainFrom_mirrors left level tighter unread
  termination_by 16 * tokens.length + levels.length + 1
  decreasing_by
    · omega
    · simp only [List.length_cons]
      omega
    · simp only [List.length_cons]
      omega

/-- What goes on with a left operand goes on with the relabelled one. -/
theorem chainFrom_mirrors (left : Expr) (level : Level) (tighter : List Level)
    (tokens : List Token) :
    Mirrors lexemes places (Expr.relabel lexemes places) tokens
      (result (chainFrom left level tighter tokens))
      fun other => result (chainFrom (left.relabel lexemes places) level tighter other) := by
  by_cases next : (nextKind tokens).level? = some level
  · obtain ⟨operator, rest, rfl, _⟩ := exists_cons_of_nextKind rfl (Kind.ne_eof_of_level? next)
    have alsoNext : (operator.relabel lexemes places).kind.level? = some level := next
    rw [result_chainFrom_cons left tighter next]
    apply Mirrors.cons
    refine ((chain_mirrors tighter rest).bind ?_).congr
      fun inputs _ => result_chainFrom_cons (left.relabel lexemes places) tighter alsoNext inputs
    intro right unread outcome
    have shorter := length_of_result outcome
    exact chainFrom_mirrors (.binary left operator right) level tighter unread
  · rw [result_chainFrom_of_ne left tighter next]
    apply (mirrors_ok left).congr
    intro inputs same
    exact result_chainFrom_of_ne (left.relabel lexemes places) tighter (same ▸ next)
  termination_by 16 * tokens.length + tighter.length + 1
  decreasing_by
    all_goals subst_vars
    all_goals simp only [List.length_cons]
    all_goals omega

/-- The kind of a token, which decides about a primary, is not relabelled. -/
theorem primary_mirrors (tokens : List Token) :
    Mirrors lexemes places (Expr.relabel lexemes places) tokens (result (primary tokens))
      fun other => result (primary other) := by
  by_cases starter : nextKind tokens ∈ Kind.starters
  · obtain ⟨token, rest, rfl, _⟩ := exists_cons_of_nextKind rfl (Kind.ne_eof_of_starter starter)
    rw [nextKind_cons, ← kind_relabel lexemes places, Kind.mem_starters_iff] at starter
    rcases starter with isLiteral | opens | isFunction
    · rw [result_primary_of_literal (show token.kind = _ ∨ token.kind = _ from isLiteral)]
      exact Mirrors.cons ((mirrors_ok (Expr.literal token.lexeme)).congr
        fun inputs _ => result_primary_of_literal isLiteral inputs)
    · rw [result_primary_of_leftParen (show token.kind = _ from opens)]
      apply Mirrors.cons
      refine ((expression_mirrors rest).bind ?_).congr
        fun inputs _ => result_primary_of_leftParen opens inputs
      intro tree unread _
      dsimp only
      apply (expect_mirrors _ unread).bind
      intro closing unread _
      exact mirrors_ok (Expr.group tree)
    · rw [result_primary_of_funWord (show token.kind = _ from isFunction)]
      exact Mirrors.cons ((function_mirrors rest).congr
        fun inputs _ => result_primary_of_funWord isFunction inputs)
  · rw [result_primary_of_ne starter]
    apply (mirrors_unmet .expression).congr
    intro inputs same
    exact result_primary_of_ne (same ▸ starter)
  termination_by 16 * tokens.length
  decreasing_by
    all_goals subst_vars
    all_goals simp only [List.length_cons]
    all_goals omega

theorem function_mirrors (tokens : List Token) :
    Mirrors lexemes places (Expr.relabel lexemes places) tokens (result (function tokens))
      fun other => result (function other) := by
  rw [result_function]
  refine ((signature_mirrors tokens).bind ?_).congr fun inputs _ => result_function inputs
  intro head unread outcome
  have shorter := length_of_result outcome
  dsimp only
  apply (block_mirrors unread).bind
  intro body unread _
  apply (mirrors_ok (Expr.function head.1 head.2 body)).congr
  intro inputs _
  rw [Expr.relabel, Expr.relabelAll_eq_map]
  rfl
  termination_by 16 * tokens.length
  decreasing_by
    omega

/-- A body mirrors itself, and its braces do not show. -/
theorem block_mirrors (tokens : List Token) :
    Mirrors lexemes places (List.map (Expr.relabel lexemes places)) tokens (result (block tokens))
      fun other => result (block other) := by
  rw [result_block]
  refine ((sequence_mirrors .rightBrace tokens).bind ?_).congr fun inputs _ => result_block inputs
  intro body unread _
  dsimp only
  apply (expect_mirrors _ unread).bind
  intro closing unread _
  exact mirrors_ok body
  termination_by 16 * tokens.length + 10

/-- A sequence mirrors itself, and so does a whole program. -/
theorem sequence_mirrors (closer : Kind) (tokens : List Token) :
    Mirrors lexemes places (List.map (Expr.relabel lexemes places)) tokens
      (result (sequence closer tokens)) fun other => result (sequence closer other) := by
  by_cases closed : closes closer tokens = true
  · rw [result_sequence_of_closes closed]
    apply (mirrors_ok []).congr
    intro inputs same
    exact result_sequence_of_closes (closes_congr _ same ▸ closed)
  rw [Bool.not_eq_true] at closed
  rw [result_sequence_of_open closed]
  refine ((expression_mirrors tokens).bind ?_).congr
    fun inputs same => result_sequence_of_open (closes_congr _ same ▸ closed)
  intro first unread outcome
  have shorter := length_of_result outcome
  dsimp only
  apply (sequence_mirrors closer unread).map
  intro trees
  rfl
  termination_by 16 * tokens.length + 9
  decreasing_by
    all_goals omega

end

end

/-- A sequence reads a front part of the tokens, whether it is refused or not. -/
theorem exists_read (closer : Kind) (tokens : List Token) :
    ∃ read, tokens = read ++ behind (result (sequence closer tokens)) := by
  have mirrors : Mirrors id id _ _ _ _ := sequence_mirrors closer tokens
  obtain ⟨read, same, _⟩ := mirrors
  exact ⟨read, same⟩

/-- Other tokens may take the place of those that are left unread, as long as the next kind is the
same. -/
theorem result_sequence_congr (closer : Kind) {read unread : List Token}
    (left : behind (result (sequence closer (read ++ unread))) = unread) (other : List Token)
    (next : nextKind other = nextKind unread) :
    result (sequence closer (read ++ other)) =
      moved id id id (result (sequence closer (read ++ unread))) other := by
  have mirrors : Mirrors id id _ _ _ _ := sequence_mirrors closer (read ++ unread)
  obtain ⟨front, same, runs⟩ := mirrors
  rw [left] at same runs
  obtain rfl : read = front := List.append_cancel_right same
  have run := runs other next
  have trees : List.map (Expr.relabel id id) = id := by
    funext values
    rw [← Expr.relabelAll_eq_map, Expr.relabelAll_id]
    rfl
  rwa [trees, show read.map (relabel id id) = read from List.map_id read] at run

end Parse

end FrontEnd
