import FrontEnd.Proofs.Descent.Mirror

namespace FrontEnd.Parse

open Token

/-- The rules of the descent. A loop is a rule that enters itself. -/
inductive Rule where
  | expression
  | chain (levels : List Level)
  | chainFrom (left : Expr) (level : Level) (tighter : List Level)
  | primary
  | function
  | signature
  | parameters
  | block
  | sequence (closer : Kind)
  | expect (what : Expectation)

/-- What a rule reads. -/
abbrev Rule.Value : Rule → Type
  | .expression | .chain _ | .chainFrom .. | .primary | .function => Expr
  | .signature => Token × List Token
  | .parameters => List Token
  | .block | .sequence _ => List Expr
  | .expect _ => Token

/-- What a rule comes to by definition. -/
def Rule.result : (rule : Rule) → List Token → Except Refusal (rule.Value × List Token)
  | .expression, tokens => Parse.result (Parse.expression tokens)
  | .chain levels, tokens => Parse.result (Parse.chain levels tokens)
  | .chainFrom left level tighter, tokens => Parse.result (Parse.chainFrom left level tighter tokens)
  | .primary, tokens => Parse.result (Parse.primary tokens)
  | .function, tokens => Parse.result (Parse.function tokens)
  | .signature, tokens => Parse.result (Parse.signature tokens)
  | .parameters, tokens => Parse.result (Parse.parameters tokens)
  | .block, tokens => Parse.result (Parse.block tokens)
  | .sequence closer, tokens => Parse.result (Parse.sequence closer tokens)
  | .expect what, tokens => Parse.result (Parse.expect what tokens)

/-- What is left to do is nothing, or to enter a rule and to go on with its value and with the
tokens that it leaves unread. A refusal of that rule is passed on. -/
inductive Plan (α : Type) where
  | done (outcome : Except Refusal (α × List Token))
  | enter (rule : Rule) (tokens : List Token) (next : rule.Value → List Token → Plan α)

namespace Plan

def yield {α : Type} (value : α) (unread : List Token) : Plan α := .done (.ok (value, unread))

/-- To end as another rule does. -/
def follow (rule : Rule) (tokens : List Token) : Plan rule.Value := .enter rule tokens yield

end Plan

/-- What a rule does by itself. -/
def Rule.body : (rule : Rule) → List Token → Plan rule.Value
  | .expression, tokens =>
      .enter (.chain Level.all) tokens fun value unread =>
        match unread with
        | [] => .yield value []
        | sign :: rest =>
            if sign.kind = .equal then
              .enter .expression rest fun _ unread =>
                .done (.error ⟨⟨.invalidTarget, some sign⟩, unread⟩)
            else .yield value (sign :: rest)
  | .chain [], tokens => .follow .primary tokens
  | .chain (level :: tighter), tokens =>
      .enter (.chain tighter) tokens fun left unread => .follow (.chainFrom left level tighter) unread
  | .chainFrom left _ _, [] => .yield left []
  | .chainFrom left level tighter, operator :: rest =>
      if operator.kind.level? = some level then
        .enter (.chain tighter) rest fun right unread =>
          .follow (.chainFrom (.binary left operator right) level tighter) unread
      else .yield left (operator :: rest)
  | .primary, [] => .done (unmet .expression [])
  | .primary, token :: rest =>
      match token.kind with
      | .number | .identifier => .yield (.literal token.lexeme) rest
      | .leftParen =>
          .enter .expression rest fun inner unread =>
            .enter (.expect (.rightParen "expression")) unread fun _ unread =>
              .yield (.group inner) unread
      | .keyword .funWord => .follow .function rest
      | _ => .done (unmet .expression (token :: rest))
  | .function, tokens =>
      .enter .signature tokens fun head unread =>
        .enter .block unread fun body unread => .yield (.function head.1 head.2 body) unread
  | .signature, tokens =>
      .enter (.expect .functionName) tokens fun name unread =>
        .enter (.expect (.leftParen "function name")) unread fun _ unread =>
          .enter .parameters unread fun names unread =>
            .enter (.expect (.rightParen "parameters")) unread fun _ unread =>
              .enter (.expect .bodyBrace) unread fun _ unread => .yield (name, names) unread
  | .parameters, tokens =>
      if closes .rightParen tokens then .yield [] tokens
      else
        .enter (.expect .parameterName) tokens fun name unread =>
          match unread with
          | [] => .yield [name] []
          | comma :: rest =>
              if comma.kind = .comma then
                .enter .parameters rest fun names unread => .yield (name :: names) unread
              else .yield [name] (comma :: rest)
  | .block, tokens =>
      .enter (.sequence .rightBrace) tokens fun body unread =>
        .enter (.expect .closingBrace) unread fun _ unread => .yield body unread
  | .sequence closer, tokens =>
      if closes closer tokens then .yield [] tokens
      else
        .enter .expression tokens fun first unread =>
          .enter (.sequence closer) unread fun later unread => .yield (first :: later) unread
  | .expect what, [] => .done (unmet what [])
  | .expect what, token :: rest =>
      if token.kind = what.kind then .yield token rest else .done (unmet what (token :: rest))

namespace Plan

variable {α : Type}

/-- A plan ends when all rules that it enters end. A plan that goes on for ever has no outcome. -/
inductive Finishes : {α : Type} → Plan α → Except Refusal (α × List Token) → Prop
  | done {α : Type} (outcome : Except Refusal (α × List Token)) : Finishes (.done outcome) outcome
  | refused {α : Type} {rule : Rule} {tokens : List Token}
      {next : rule.Value → List Token → Plan α} {refusal : Refusal} :
      Finishes (rule.body tokens) (.error refusal) →
      Finishes (.enter rule tokens next) (.error refusal)
  | resumed {α : Type} {rule : Rule} {tokens : List Token}
      {next : rule.Value → List Token → Plan α} {value : rule.Value} {unread : List Token}
      {outcome : Except Refusal (α × List Token)} :
      Finishes (rule.body tokens) (.ok (value, unread)) →
      Finishes (next value unread) outcome → Finishes (.enter rule tokens next) outcome

/-- What a plan comes to if each rule comes to what it is defined to be. -/
def outcome : Plan α → Except Refusal (α × List Token)
  | .done outcome => outcome
  | .enter rule tokens next => (rule.result tokens).bind fun pair => (next pair.1 pair.2).outcome

/-- A plan that enters a rule goes on with what the rule is defined to be. -/
theorem outcome_enter (rule : Rule) (tokens : List Token)
    (next : rule.Value → List Token → Plan α) :
    (enter rule tokens next).outcome =
      (rule.result tokens).bind fun pair => (next pair.1 pair.2).outcome := rfl

theorem outcome_follow (rule : Rule) (tokens : List Token) :
    (follow rule tokens).outcome = rule.result tokens := by
  rw [follow, outcome_enter]
  cases rule.result tokens <;> rfl

/-- A plan that yields right behind a rule changes only the value. -/
theorem outcome_enter_yield (rule : Rule) (tokens : List Token) (f : rule.Value → α) :
    (enter rule tokens fun value unread => .yield (f value) unread).outcome =
      (rule.result tokens).map fun pair => (f pair.1, pair.2) := by
  rw [outcome_enter]
  cases rule.result tokens <;> rfl

/-- Two plans that enter the same rule come to the same if they go on in the same way. -/
theorem outcome_enter_congr {rule : Rule} {tokens : List Token}
    {next : rule.Value → List Token → Plan α}
    {later : rule.Value × List Token → Except Refusal (α × List Token)}
    (same : ∀ value unread, (next value unread).outcome = later (value, unread)) :
    (enter rule tokens next).outcome = (rule.result tokens).bind later :=
  congrArg (Except.bind (rule.result tokens)) (funext fun pair => same pair.1 pair.2)

end Plan

namespace Rule

/-- The body of an expression comes to what an expression is defined to be. -/
theorem outcome_body_expression (tokens : List Token) :
    (body .expression tokens).outcome = Parse.result (Parse.expression tokens) := by
  rw [result_expression]
  refine Plan.outcome_enter_congr fun value unread => ?_
  cases unread with
  | nil => rfl
  | cons sign rest =>
      dsimp only [afterTarget]
      split <;> rfl

theorem outcome_body_chain (levels : List Level) (tokens : List Token) :
    (body (.chain levels) tokens).outcome = Parse.result (Parse.chain levels tokens) := by
  cases levels with
  | nil =>
      rw [result_chain_nil]
      exact Plan.outcome_follow ..
  | cons level tighter =>
      rw [result_chain_cons]
      exact Plan.outcome_enter_congr fun _ _ => Plan.outcome_follow ..

/-- The loop of a chain is the rule that enters itself with a longer left operand. -/
theorem outcome_body_chainFrom (left : Expr) (level : Level) (tighter : List Level)
    (tokens : List Token) :
    (body (.chainFrom left level tighter) tokens).outcome =
      Parse.result (Parse.chainFrom left level tighter tokens) := by
  cases tokens with
  | nil => exact (result_chainFrom_of_ne left tighter (by simp [Kind.level?])).symm
  | cons operator rest =>
      rw [body]
      split
      · next isOperator =>
        rw [result_chainFrom_cons left tighter isOperator]
        exact Plan.outcome_enter_congr fun _ _ => Plan.outcome_follow ..
      · next noOperator =>
        refine (result_chainFrom_of_ne left tighter ?_).symm
        exact noOperator

/-- The body of a primary agrees with its definition for each kind of token. -/
theorem outcome_body_primary (tokens : List Token) :
    (body .primary tokens).outcome = Parse.result (Parse.primary tokens) := by
  cases tokens with
  | nil => exact (result_primary_of_ne (by decide)).symm
  | cons token rest =>
      rw [body]
      cases kind : token.kind with
      | number => exact (result_primary_of_literal (.inl kind) rest).symm
      | identifier => exact (result_primary_of_literal (.inr kind) rest).symm
      | leftParen =>
          rw [result_primary_of_leftParen kind]
          exact Plan.outcome_enter_congr fun _ _ => rfl
      | keyword word =>
          cases word with
          | funWord =>
              rw [result_primary_of_funWord kind]
              exact Plan.outcome_follow ..
          | _ => exact (result_primary_of_ne (by simp [kind, Kind.mem_starters_iff])).symm
      | _ => exact (result_primary_of_ne (by simp [kind, Kind.mem_starters_iff])).symm

/-- The loop of a list of parameters enters itself behind each comma. -/
theorem outcome_body_parameters (tokens : List Token) :
    (body .parameters tokens).outcome = Parse.result (Parse.parameters tokens) := by
  rw [body]
  cases closed : closes .rightParen tokens with
  | true => exact (result_parameters_of_closes closed).symm
  | false =>
      rw [result_parameters_of_open closed]
      refine Plan.outcome_enter_congr fun name unread => ?_
      cases unread with
      | nil => rfl
      | cons comma rest =>
          dsimp only [afterName]
          split
          · exact Plan.outcome_enter_yield ..
          · rfl

/-- The loop of a sequence enters itself behind each expression. -/
theorem outcome_body_sequence (closer : Kind) (tokens : List Token) :
    (body (.sequence closer) tokens).outcome = Parse.result (Parse.sequence closer tokens) := by
  rw [body]
  cases closed : closes closer tokens with
  | true => exact (result_sequence_of_closes closed).symm
  | false =>
      rw [result_sequence_of_open closed]
      exact Plan.outcome_enter_congr fun _ _ => Plan.outcome_enter_yield ..

/-- An expectation enters no rule at all. -/
theorem outcome_body_expect (what : Expectation) (tokens : List Token) :
    (body (.expect what) tokens).outcome = Parse.result (Parse.expect what tokens) := by
  cases tokens with
  | nil => rfl
  | cons token rest =>
      rw [body]
      split
      · next met => exact (result_expect_of_kind rest met).symm
      · next differs =>
        refine (result_expect_of_ne ?_).symm
        exact differs

/-- The steps of a rule are those that it is defined by. -/
theorem outcome_body (rule : Rule) (tokens : List Token) :
    (rule.body tokens).outcome = rule.result tokens := by
  cases rule with
  | expression => exact outcome_body_expression tokens
  | chain levels => exact outcome_body_chain levels tokens
  | chainFrom left level tighter => exact outcome_body_chainFrom left level tighter tokens
  | primary => exact outcome_body_primary tokens
  | function => exact (result_function tokens).symm
  | signature => exact (result_signature tokens).symm
  | parameters => exact outcome_body_parameters tokens
  | block => exact (result_block tokens).symm
  | sequence closer => exact outcome_body_sequence closer tokens
  | expect what => exact outcome_body_expect what tokens

end Rule

/-- Where a plan ends, it comes to what the rules are defined to be. -/
theorem Plan.Finishes.eq_outcome {α : Type} {plan : Plan α}
    {outcome : Except Refusal (α × List Token)} (finishes : plan.Finishes outcome) :
    outcome = plan.outcome := by
  induction finishes with
  | done outcome => rfl
  | refused _ ih =>
      rw [outcome_enter, ← Rule.outcome_body, ← ih]
      rfl
  | resumed _ _ first later =>
      rw [outcome_enter, ← Rule.outcome_body, ← first]
      exact later

end FrontEnd.Parse
