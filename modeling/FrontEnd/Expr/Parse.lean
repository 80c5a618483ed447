/-
This file reads expressions by recursive descent. Every reading leaves a shorter list of tokens,
so the descent ends. A token of kind `eof` meets no expectation and thus ends every list.
-/

import FrontEnd.Expr.Attempt
import FrontEnd.Expr.Basic
import FrontEnd.Token.Level

namespace FrontEnd.Parse

open Attempt

/-- Whether nothing more is to be read before a token of kind `closer`. -/
def closes (closer : Kind) : List Token → Bool
  | [] => true
  | token :: _ => token.kind = closer ∨ token.kind = .eof

def expect (what : Expectation) : (tokens : List Token) → Attempt (Reading tokens.length Token)
  | [] => missing what []
  | token :: rest =>
      if token.kind = what.kind then pure ⟨token, rest, Nat.lt_succ_self _⟩
      else missing what (token :: rest)

/-- The parameters of a function. A comma may stand behind the last one. -/
def parameters (tokens : List Token) : Attempt (Reading (tokens.length + 1) (List Token)) :=
  if closes .rightParen tokens then pure ⟨[], tokens, Nat.lt_succ_self _⟩
  else do
    let ⟨name, unread, shorter⟩ ← expect .parameterName tokens
    match unread, shorter with
    | [], _ => pure ⟨[name], [], Nat.succ_pos _⟩
    | comma :: rest, shorter =>
        have : rest.length + 1 < tokens.length := shorter
        if comma.kind = .comma then Reading.map (name :: ·) (by omega) <$> parameters rest
        else pure ⟨[name], comma :: rest, by omega⟩
  termination_by tokens.length

/-- The name and the parameters of a function, up to the brace that opens its body. -/
def signature (tokens : List Token) :
    Attempt (Reading tokens.length (Token × List Token)) := do
  let ⟨name, unread, _⟩ ← expect .functionName tokens
  let ⟨_, unread, _⟩ ← expect (.leftParen "function name") unread
  let ⟨names, unread, _⟩ ← parameters unread
  let ⟨_, unread, _⟩ ← expect (.rightParen "parameters") unread
  let ⟨_, unread, _⟩ ← expect .bodyBrace unread
  pure ⟨(name, names), unread, by omega⟩

mutual

/-- An expression that is followed by an equals sign is refused when what stands behind the sign
has been read. -/
def expression (tokens : List Token) : Attempt (Reading tokens.length Expr) := do
  let ⟨value, unread, shorter⟩ ← chain Level.all tokens
  match unread, shorter with
  | [], shorter => pure ⟨value, [], shorter⟩
  | sign :: rest, shorter =>
      have : rest.length + 1 < tokens.length := shorter
      if sign.kind = .equal then do
        let ⟨_, unread, _⟩ ← expression rest
        refuse ⟨.invalidTarget, some sign⟩ unread
      else pure ⟨value, sign :: rest, shorter⟩
  termination_by 16 * tokens.length + 8

/-- Expressions of the tighter levels, joined by operators of the first level. -/
def chain (levels : List Level) (tokens : List Token) : Attempt (Reading tokens.length Expr) :=
  match levels with
  | [] => primary tokens
  | level :: tighter => do
      let ⟨left, unread, _⟩ ← chain tighter tokens
      Reading.map id (by omega) <$> chainFrom left level tighter unread
  termination_by 16 * tokens.length + levels.length + 1

/-- The rest of a chain whose left part has been read. Its operators bind to the left. -/
def chainFrom (left : Expr) (level : Level) (tighter : List Level) (tokens : List Token) :
    Attempt (Reading (tokens.length + 1) Expr) :=
  match tokens with
  | [] => pure ⟨left, [], Nat.lt_succ_self _⟩
  | operator :: rest =>
      if operator.kind.level? = some level then do
        let ⟨right, unread, _⟩ ← chain tighter rest
        Reading.map id (by simp; omega) <$>
          chainFrom (.binary left operator right) level tighter unread
      else pure ⟨left, operator :: rest, Nat.lt_succ_self _⟩
  termination_by 16 * tokens.length + tighter.length + 1

def primary (tokens : List Token) : Attempt (Reading tokens.length Expr) :=
  match tokens with
  | [] => missing .expression []
  | token :: rest => do
      note (.primary token)
      match token.kind with
      | .number | .identifier => pure ⟨.literal token.lexeme, rest, Nat.lt_succ_self _⟩
      | .leftParen =>
          let ⟨inner, unread, _⟩ ← expression rest
          let ⟨_, unread, _⟩ ← expect (.rightParen "expression") unread
          pure ⟨.group inner, unread, by simp at *; omega⟩
      | .keyword .funWord =>
          Reading.map id (by simp) <$> function rest
      | _ => missing .expression (token :: rest)
  termination_by 16 * tokens.length

/-- A function from its name on. -/
def function (tokens : List Token) : Attempt (Reading tokens.length Expr) := do
  let ⟨(name, names), unread, _⟩ ← signature tokens
  let ⟨body, unread, _⟩ ← block unread
  note (.function name names.length)
  pure ⟨.function name names body, unread, by omega⟩
  termination_by 16 * tokens.length

/-- The body of a function with the brace that closes it. -/
def block (tokens : List Token) : Attempt (Reading tokens.length (List Expr)) := do
  let ⟨body, unread, _⟩ ← sequence .rightBrace tokens
  let ⟨_, unread, _⟩ ← expect .closingBrace unread
  pure ⟨body, unread, by omega⟩
  termination_by 16 * tokens.length + 10

/-- Expressions one behind the other, up to a token of kind `closer`. -/
def sequence (closer : Kind) (tokens : List Token) :
    Attempt (Reading (tokens.length + 1) (List Expr)) :=
  if closes closer tokens then pure ⟨[], tokens, Nat.lt_succ_self _⟩
  else do
    let ⟨first, unread, _⟩ ← expression tokens
    Reading.map (first :: ·) (by omega) <$> sequence closer unread
  termination_by 16 * tokens.length + 9

end

/-- The expressions of a whole program. -/
def program (tokens : List Token) : Attempt (List Expr) := do
  let ⟨expressions, _, _⟩ ← sequence .eof tokens
  note (.parsedAll expressions.length tokens.length)
  pure expressions

end FrontEnd.Parse

namespace FrontEnd.Expr

/-- The expressions of a list of tokens, or the diagnostic of the first error. -/
def ofTokens (tokens : List Token) : Except Diagnostic (List Expr) :=
  (Parse.program tokens).outcome.mapError fun refusal => refusal.error.diagnostic

/-- Whether two results of parsing agree in all their expressions or in their diagnostic. -/
def agree : (first second : Except Diagnostic (List Expr)) → Bool
  | .ok first, .ok second => first = second
  | .error first, .error second => first = second
  | _, _ => false

end FrontEnd.Expr
