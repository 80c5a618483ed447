import FrontEnd.Proofs.Descent.Result

namespace FrontEnd

/-- No expectation asks for a sign of assignment. -/
theorem Expectation.kind_ne_equal (what : Expectation) : what.kind ≠ .equal := by
  cases what <;> exact nofun

/-- A sign of assignment is no operator. -/
theorem Kind.ne_equal_of_level? {kind : Kind} {level : Level} (found : kind.level? = some level) :
    kind ≠ .equal := by
  intro sign
  rw [sign] at found
  cases found

/-- No expression starts with a sign of assignment. -/
theorem Kind.ne_equal_of_starter {kind : Kind} (starter : kind ∈ starters) : kind ≠ .equal := by
  intro sign
  simp [sign, starters] at starter

namespace Parse

open Token

/-- A property of what a reading of some tokens comes to is kept if single steps have it and if
readings in a row have it because each of them has it. -/
structure Kept (P : {α : Type} → List Token → Except Refusal (α × List Token) → Prop) : Prop where
  value : ∀ {α : Type} (value : α) (tokens : List Token), P tokens (.ok (value, tokens))
  unmet : ∀ {α : Type} (what : Expectation) (tokens : List Token),
    P (α := α) tokens (unmet what tokens)
  pass : ∀ {α : Type} {token : Token} {tokens : List Token}
    {outcome : Except Refusal (α × List Token)}, token.kind ≠ .eof → token.kind ≠ .equal →
    P tokens outcome → P (token :: tokens) outcome
  assignment : ∀ {sign : Token} (tokens : List Token), sign.kind = .equal →
    P tokens (result (expression tokens)) →
    P (α := Expr) (sign :: tokens) ((result (expression tokens)).bind fun later =>
      .error ⟨⟨.invalidTarget, some sign⟩, later.2⟩)
  bind : ∀ {α β : Type} {tokens : List Token} {first : Except Refusal (α × List Token)}
    {next : α × List Token → Except Refusal (β × List Token)}, P tokens first →
    (∀ value unread, first = .ok (value, unread) → P unread (next (value, unread))) →
    P tokens (first.bind next)

namespace Kept

variable {P : {α : Type} → List Token → Except Refusal (α × List Token) → Prop} (kept : Kept P)

include kept

/-- A property that is kept does not depend on what is done with the value. -/
theorem map {α β : Type} {tokens : List Token} {outcome : Except Refusal (α × List Token)}
    (f : α → β) (holds : P tokens outcome) :
    P tokens (outcome.map fun pair => (f pair.1, pair.2)) := by
  have same : (outcome.map fun pair => (f pair.1, pair.2)) =
      outcome.bind fun pair => .ok (f pair.1, pair.2) := by
    cases outcome <;> rfl
  rw [same]
  exact kept.bind holds fun value unread _ => kept.value (f value) unread

/-- A kept property holds of a single expectation, whether it is met or not. -/
theorem expect (what : Expectation) (tokens : List Token) :
    P tokens (result (Parse.expect what tokens)) := by
  by_cases met : nextKind tokens = what.kind
  · obtain ⟨token, rest, rfl, kind⟩ := exists_cons_of_nextKind met what.kind_ne_eof
    rw [result_expect_of_kind rest kind]
    exact kept.pass (kind ▸ what.kind_ne_eof) (kind ▸ what.kind_ne_equal) (kept.value token rest)
  · rw [result_expect_of_ne met]
    exact kept.unmet what tokens

/-- The property is kept by a list of parameters, by recursion on the tokens left. -/
theorem parameters (tokens : List Token) : P tokens (result (Parse.parameters tokens)) := by
  by_cases closed : closes .rightParen tokens = true
  · rw [result_parameters_of_closes closed]
    exact kept.value [] tokens
  rw [result_parameters_of_open (Bool.eq_false_iff.2 closed)]
  apply kept.bind (kept.expect .parameterName tokens)
  intro name unread outcome
  have shorter := length_of_result outcome
  show P unread (afterName name unread)
  by_cases next : nextKind unread = .comma
  · obtain ⟨comma, rest, rfl, isComma⟩ := exists_cons_of_nextKind next (by decide)
    have behind : rest.length < tokens.length := Nat.lt_of_succ_lt shorter
    rw [afterName_cons name isComma]
    exact kept.pass (by simp [isComma]) (by simp [isComma]) (kept.map _ (parameters rest))
  · rw [afterName_of_ne name next]
    exact kept.value [name] unread
  termination_by tokens.length

/-- A signature is five readings in a row, each of which keeps the property. -/
theorem signature (tokens : List Token) : P tokens (result (Parse.signature tokens)) := by
  rw [result_signature]
  apply kept.bind (kept.expect _ _)
  intro name unread _
  apply kept.bind (kept.expect _ _)
  intro opening unread _
  apply kept.bind (kept.parameters _)
  intro names unread _
  apply kept.bind (kept.expect _ _)
  intro closing unread _
  apply kept.bind (kept.expect _ _)
  intro brace unread _
  exact kept.value (name, names) unread

mutual

/-- An expression keeps the property, with an assignment as the one case of its own. -/
theorem expression (tokens : List Token) : P tokens (result (Parse.expression tokens)) := by
  rw [result_expression]
  apply kept.bind (chain Level.all tokens)
  intro value unread outcome
  have shorter := length_of_result outcome
  show P unread (afterTarget value unread)
  by_cases next : nextKind unread = .equal
  · obtain ⟨sign, rest, rfl, isSign⟩ := exists_cons_of_nextKind next (by decide)
    have behind : rest.length < tokens.length := Nat.lt_of_succ_lt shorter
    rw [afterTarget_cons value isSign]
    exact kept.assignment rest isSign (expression rest)
  · rw [afterTarget_of_ne value next]
    exact kept.value value unread
  termination_by 16 * tokens.length + 8
  decreasing_by
    · simp only [Level.length_all]
      omega
    · omega

/-- A chain keeps the property for any list of levels. -/
theorem chain (levels : List Level) (tokens : List Token) :
    P tokens (result (Parse.chain levels tokens)) := by
  cases levels with
  | nil =>
      rw [result_chain_nil]
      exact primary tokens
  | cons level tighter =>
      rw [result_chain_cons]
      apply kept.bind (chain tighter tokens)
      intro left unread outcome
      have shorter := length_of_result outcome
      exact chainFrom left level tighter unread
  termination_by 16 * tokens.length + levels.length + 1
  decreasing_by
    · omega
    · simp only [List.length_cons]
      omega
    · simp only [List.length_cons]
      omega

theorem chainFrom (left : Expr) (level : Level) (tighter : List Level) (tokens : List Token) :
    P tokens (result (Parse.chainFrom left level tighter tokens)) := by
  by_cases next : (nextKind tokens).level? = some level
  · obtain ⟨operator, rest, rfl, _⟩ := exists_cons_of_nextKind rfl (Kind.ne_eof_of_level? next)
    rw [result_chainFrom_cons left tighter next]
    apply kept.pass (Kind.ne_eof_of_level? next) (Kind.ne_equal_of_level? next)
    apply kept.bind (chain tighter rest)
    intro right unread outcome
    have shorter := length_of_result outcome
    exact chainFrom (.binary left operator right) level tighter unread
  · rw [result_chainFrom_of_ne left tighter next]
    exact kept.value left tokens
  termination_by 16 * tokens.length + tighter.length + 1
  decreasing_by
    all_goals subst_vars
    all_goals simp only [List.length_cons]
    all_goals omega

/-- A primary keeps the property for each of the kinds that can start it. -/
theorem primary (tokens : List Token) : P tokens (result (Parse.primary tokens)) := by
  by_cases starter : nextKind tokens ∈ Kind.starters
  · obtain ⟨token, rest, rfl, _⟩ := exists_cons_of_nextKind rfl (Kind.ne_eof_of_starter starter)
    have solid := Kind.ne_eof_of_starter starter
    have noSign := Kind.ne_equal_of_starter starter
    rw [nextKind_cons, Kind.mem_starters_iff] at starter
    rcases starter with isLiteral | opens | isFunction
    · rw [result_primary_of_literal isLiteral]
      exact kept.pass solid noSign (kept.value _ rest)
    · rw [result_primary_of_leftParen opens]
      apply kept.pass solid noSign
      apply kept.bind (expression rest)
      intro tree unread _
      apply kept.bind (kept.expect _ unread)
      intro closing unread _
      exact kept.value (Expr.group tree) unread
    · rw [result_primary_of_funWord isFunction]
      exact kept.pass solid noSign (function rest)
  · rw [result_primary_of_ne starter]
    exact kept.unmet .expression tokens
  termination_by 16 * tokens.length
  decreasing_by
    all_goals subst_vars
    all_goals simp only [List.length_cons]
    all_goals omega

/-- A function keeps the property since its signature and its body do. -/
theorem function (tokens : List Token) : P tokens (result (Parse.function tokens)) := by
  rw [result_function]
  apply kept.bind (kept.signature tokens)
  intro head unread outcome
  have shorter := length_of_result outcome
  apply kept.bind (block unread)
  intro body unread _
  exact kept.value (Expr.function head.1 head.2 body) unread
  termination_by 16 * tokens.length
  decreasing_by
    omega

theorem block (tokens : List Token) : P tokens (result (Parse.block tokens)) := by
  rw [result_block]
  apply kept.bind (sequence .rightBrace tokens)
  intro body unread _
  apply kept.bind (kept.expect _ unread)
  intro closing unread _
  exact kept.value body unread
  termination_by 16 * tokens.length + 10

/-- A kept property holds of a whole sequence of expressions, and so of a program. -/
theorem sequence (closer : Kind) (tokens : List Token) :
    P tokens (result (Parse.sequence closer tokens)) := by
  by_cases closed : closes closer tokens = true
  · rw [result_sequence_of_closes closed]
    exact kept.value [] tokens
  rw [result_sequence_of_open (Bool.eq_false_iff.2 closed)]
  apply kept.bind (expression tokens)
  intro first unread outcome
  have shorter := length_of_result outcome
  exact kept.map (first :: ·) (sequence closer unread)
  termination_by 16 * tokens.length + 9
  decreasing_by
    all_goals omega

end

end Kept

end Parse

end FrontEnd
