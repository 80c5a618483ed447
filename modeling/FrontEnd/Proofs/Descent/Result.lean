import FrontEnd.Expr.ParseLaw
import FrontEnd.Proofs.Grammar.Rules
import FrontEnd.Proofs.Token.Visible

namespace FrontEnd

/-- The end meets no expectation. -/
theorem Expectation.kind_ne_eof (what : Expectation) : what.kind ≠ .eof := by
  cases what <;> exact nofun

/-- The end is no operator. -/
theorem Kind.ne_eof_of_level? {kind : Kind} {level : Level} (found : kind.level? = some level) :
    kind ≠ .eof := by
  intro last
  rw [last] at found
  cases found

namespace Parse

open Attempt Token

/-- A reading comes to a value and the tokens that it leaves unread, or it is refused. -/
def result {bound : Nat} {α : Type} (attempt : Attempt (Reading bound α)) :
    Except Refusal (α × List Token) :=
  (unbound attempt).outcome

/-- A token of another kind than the expected one is refused, and so is the end. -/
def unmet {α : Type} (what : Expectation) (tokens : List Token) : Except Refusal α :=
  .error ⟨⟨.expected what, tokens.head?⟩, tokens⟩

/-- A reading leaves fewer tokens unread than its bound. -/
theorem length_of_result {bound : Nat} {α : Type} {attempt : Attempt (Reading bound α)}
    {value : α} {unread : List Token} (read : result attempt = .ok (value, unread)) :
    unread.length < bound :=
  length_of_unbound read

/-- A sequence stops in front of its closer or of the end. -/
theorem closes_iff (closer : Kind) (tokens : List Token) :
    closes closer tokens = true ↔ nextKind tokens = closer ∨ nextKind tokens = .eof := by
  cases tokens <;> simp [closes]

/-- An expectation that is met takes one token. -/
theorem result_expect_of_kind {what : Expectation} {token : Token} (rest : List Token)
    (met : token.kind = what.kind) : result (expect what (token :: rest)) = .ok (token, rest) := by
  rw [result, unbound_expect_cons, if_pos met]
  rfl

/-- An expectation that is not met is refused at the next token. -/
theorem result_expect_of_ne {what : Expectation} {tokens : List Token}
    (differs : nextKind tokens ≠ what.kind) : result (expect what tokens) = unmet what tokens := by
  cases tokens with
  | nil => rfl
  | cons token rest =>
      rw [nextKind_cons] at differs
      rw [result, unbound_expect_cons, if_neg differs]
      rfl

/-- What a list of parameters comes to when a name has been read. -/
def afterName (name : Token) : List Token → Except Refusal (List Token × List Token)
  | [] => .ok ([name], [])
  | comma :: rest =>
      if comma.kind = .comma then
        (result (parameters rest)).map fun later => (name :: later.1, later.2)
      else .ok ([name], comma :: rest)

/-- Behind a comma another list of parameters is read. -/
theorem afterName_cons (name : Token) {comma : Token} (isComma : comma.kind = .comma)
    (rest : List Token) :
    afterName name (comma :: rest) =
      (result (parameters rest)).map fun later => (name :: later.1, later.2) :=
  if_pos isComma

/-- A name without a comma behind it is the last one. -/
theorem afterName_of_ne (name : Token) {tokens : List Token} (noComma : nextKind tokens ≠ .comma) :
    afterName name tokens = .ok ([name], tokens) := by
  cases tokens with
  | nil => rfl
  | cons token rest => exact if_neg noComma

/-- A list of parameters is empty in front of a closing parenthesis. -/
theorem result_parameters_of_closes {tokens : List Token}
    (closed : closes .rightParen tokens = true) :
    result (parameters tokens) = .ok ([], tokens) := by
  rw [result, unbound_parameters, if_pos closed]
  rfl

theorem result_parameters_of_open {tokens : List Token}
    (isOpen : closes .rightParen tokens = false) :
    result (parameters tokens) =
      (result (expect .parameterName tokens)).bind fun pair => afterName pair.1 pair.2 := by
  rw [result, unbound_parameters, if_neg (by simp [isOpen]), outcome_bind]
  congr
  funext pair
  obtain ⟨name, _ | ⟨comma, rest⟩⟩ := pair
  · rfl
  · dsimp only [afterName]
    split <;> rfl

/-- A signature is refused at the first of its parts that is not met. -/
theorem result_signature (tokens : List Token) :
    result (signature tokens) =
      (result (expect .functionName tokens)).bind fun name =>
        (result (expect (.leftParen "function name") name.2)).bind fun opening =>
          (result (parameters opening.2)).bind fun names =>
            (result (expect (.rightParen "parameters") names.2)).bind fun closing =>
              (result (expect .bodyBrace closing.2)).bind fun brace =>
                .ok ((name.1, names.1), brace.2) := by
  rw [result, unbound_signature]
  simp only [outcome_bind]
  rfl

/-- What an expression comes to when the target of an assignment may have been read. -/
def afterTarget (value : Expr) : List Token → Except Refusal (Expr × List Token)
  | [] => .ok (value, [])
  | sign :: rest =>
      if sign.kind = .equal then
        (result (expression rest)).bind fun later =>
          .error ⟨⟨.invalidTarget, some sign⟩, later.2⟩
      else .ok (value, sign :: rest)

/-- A sign of assignment is refused, but not before the value behind it has been read. -/
theorem afterTarget_cons (value : Expr) {sign : Token} (isSign : sign.kind = .equal)
    (rest : List Token) :
    afterTarget value (sign :: rest) =
      (result (expression rest)).bind fun later =>
        .error ⟨⟨.invalidTarget, some sign⟩, later.2⟩ :=
  if_pos isSign

/-- Without a sign of assignment an expression ends where its chain does. -/
theorem afterTarget_of_ne (value : Expr) {tokens : List Token}
    (noSign : nextKind tokens ≠ .equal) : afterTarget value tokens = .ok (value, tokens) := by
  cases tokens with
  | nil => rfl
  | cons token rest => exact if_neg noSign

/-- An expression is a chain of all levels and what stands behind it. -/
theorem result_expression (tokens : List Token) :
    result (expression tokens) =
      (result (chain Level.all tokens)).bind fun pair => afterTarget pair.1 pair.2 := by
  rw [result, unbound_expression, outcome_bind]
  congr
  funext pair
  obtain ⟨value, _ | ⟨sign, rest⟩⟩ := pair
  · rfl
  · dsimp only [afterTarget]
    split
    · rw [outcome_bind]
      rfl
    · rfl

theorem result_chain_nil (tokens : List Token) :
    result (chain [] tokens) = result (primary tokens) := by
  rw [result, unbound_chain_nil]
  rfl

/-- A chain is its first operand, which binds tighter, and the operators behind it. -/
theorem result_chain_cons (level : Level) (tighter : List Level) (tokens : List Token) :
    result (chain (level :: tighter) tokens) =
      (result (chain tighter tokens)).bind fun pair =>
        result (chainFrom pair.1 level tighter pair.2) := by
  rw [result, unbound_chain_cons, outcome_bind]
  rfl

/-- An operator of the level of a chain takes a tighter right operand and all that has been read as
the left one. -/
theorem result_chainFrom_cons (left : Expr) {level : Level} (tighter : List Level)
    {operator : Token} (isOperator : operator.kind.level? = some level) (rest : List Token) :
    result (chainFrom left level tighter (operator :: rest)) =
      (result (chain tighter rest)).bind fun pair =>
        result (chainFrom (.binary left operator pair.1) level tighter pair.2) := by
  rw [result, unbound_chainFrom_cons, if_pos isOperator, outcome_bind]
  rfl

/-- A chain stops in front of anything but an operator of its level. -/
theorem result_chainFrom_of_ne (left : Expr) {level : Level} (tighter : List Level)
    {tokens : List Token} (noOperator : (nextKind tokens).level? ≠ some level) :
    result (chainFrom left level tighter tokens) = .ok (left, tokens) := by
  cases tokens with
  | nil =>
      rw [result, unbound_chainFrom_nil]
      rfl
  | cons token rest =>
      rw [nextKind_cons] at noOperator
      rw [result, unbound_chainFrom_cons, if_neg noOperator]
      rfl

/-- A number or an identifier is a primary on its own. -/
theorem result_primary_of_literal {token : Token}
    (kind : token.kind = .number ∨ token.kind = .identifier) (rest : List Token) :
    result (primary (token :: rest)) = .ok (.literal token.lexeme, rest) := by
  rw [result, unbound_primary_cons, outcome_bind]
  rcases kind with kind | kind <;> rw [kind] <;> rfl

/-- A parenthesis opens an expression that has to be closed. -/
theorem result_primary_of_leftParen {token : Token} (kind : token.kind = .leftParen)
    (rest : List Token) :
    result (primary (token :: rest)) =
      (result (expression rest)).bind fun inner =>
        (result (expect (.rightParen "expression") inner.2)).bind fun closing =>
          .ok (.group inner.1, closing.2) := by
  rw [result, unbound_primary_cons, outcome_bind]
  simp only [outcome_note, Except.bind, kind, outcome_bind]
  rfl

/-- The word for functions opens a function. -/
theorem result_primary_of_funWord {token : Token} (kind : token.kind = .keyword .funWord)
    (rest : List Token) : result (primary (token :: rest)) = result (function rest) := by
  rw [result, unbound_primary_cons, outcome_bind, kind]
  rfl

/-- No primary begins with a token of any other kind. -/
theorem result_primary_of_ne {tokens : List Token} (noStarter : nextKind tokens ∉ Kind.starters) :
    result (primary tokens) = unmet .expression tokens := by
  cases tokens with
  | nil =>
      rw [result, unbound_primary_nil]
      rfl
  | cons token rest =>
      simp only [nextKind_cons, Kind.mem_starters_iff, not_or] at noStarter
      obtain ⟨⟨noNumber, noIdentifier⟩, noGroup, noFunction⟩ := noStarter
      rw [result, unbound_primary_cons, outcome_bind]
      simp only [outcome_note, Except.bind]
      rfl

/-- A function is a signature and a body. -/
theorem result_function (tokens : List Token) :
    result (function tokens) =
      (result (signature tokens)).bind fun head =>
        (result (block head.2)).bind fun body =>
          .ok (.function head.1.1 head.1.2 body.1, body.2) := by
  rw [result, unbound_function]
  simp only [outcome_bind]
  rfl

/-- A body is a sequence of expressions and a closing brace. -/
theorem result_block (tokens : List Token) :
    result (block tokens) =
      (result (sequence .rightBrace tokens)).bind fun body =>
        (result (expect .closingBrace body.2)).bind fun closing => .ok (body.1, closing.2) := by
  rw [result, unbound_block]
  simp only [outcome_bind]
  rfl

/-- A sequence is empty in front of its closer. -/
theorem result_sequence_of_closes {closer : Kind} {tokens : List Token}
    (closed : closes closer tokens = true) :
    result (sequence closer tokens) = .ok ([], tokens) := by
  rw [result, unbound_sequence, if_pos closed]
  rfl

theorem result_sequence_of_open {closer : Kind} {tokens : List Token}
    (isOpen : closes closer tokens = false) :
    result (sequence closer tokens) =
      (result (expression tokens)).bind fun first =>
        (result (sequence closer first.2)).map fun later => (first.1 :: later.1, later.2) := by
  rw [result, unbound_sequence, if_neg (by simp [isOpen]), outcome_bind]
  rfl

/-- A program is read up to the end of its tokens. -/
theorem outcome_program (tokens : List Token) :
    (program tokens).outcome = (result (sequence .eof tokens)).map Prod.fst := by
  rw [program, outcome_bind, result, unbound, outcome_map]
  cases (sequence .eof tokens).outcome <;> rfl

end Parse

end FrontEnd
