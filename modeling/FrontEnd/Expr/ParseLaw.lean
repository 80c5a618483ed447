/-
This file shows which readings each rule of the descent consists of. The bounds, which only
termination needs, are left out.
-/

import FrontEnd.Expr.Parse

namespace FrontEnd.Parse

open Attempt

/-- A change of the value changes the value of the reading without its bound. -/
theorem unbound_map {small bound : Nat} {α β : Type} (f : α → β) (within : small ≤ bound)
    (attempt : Attempt (Reading small α)) :
    unbound (Reading.map f within <$> attempt) =
      (fun pair => (f pair.1, pair.2)) <$> unbound attempt := by
  simp only [unbound, Functor.map_map, Reading.map]

theorem unbound_map_id {small bound : Nat} {α : Type} (within : small ≤ bound)
    (attempt : Attempt (Reading small α)) :
    unbound (Reading.map id within <$> attempt) = unbound attempt := by
  rw [unbound_map]
  exact id_map _

/-- A reading that goes on after another one goes on from what that one left unread. -/
theorem unbound_bind {small bound : Nat} {α β : Type} (attempt : Attempt (Reading small α))
    (next : Reading small α → Attempt (Reading bound β))
    (free : α × List Token → Attempt (β × List Token))
    (same : ∀ reading, unbound (next reading) = free (reading.value, reading.unread)) :
    unbound (attempt >>= next) = unbound attempt >>= free := by
  simp only [unbound, map_bind, bind_map_left] at *
  exact bind_congr same

/-- The bound is all that is lost: fewer tokens than it are left unread. -/
theorem length_of_unbound {bound : Nat} {α : Type} {attempt : Attempt (Reading bound α)}
    {value : α} {unread : List Token} (read : (unbound attempt).outcome = .ok (value, unread)) :
    unread.length < bound := by
  rw [unbound, outcome_map] at read
  cases outcome : attempt.outcome with
  | error refusal => simp [outcome, Except.map] at read
  | ok reading =>
      simp only [outcome, Except.map, Except.ok.injEq, Prod.mk.injEq] at read
      exact read.2 ▸ reading.shorter

@[simp] theorem unbound_pure {bound : Nat} {α : Type} (reading : Reading bound α) :
    unbound (pure reading) = pure (reading.value, reading.unread) := rfl

@[simp] theorem unbound_missing {bound : Nat} {α : Type} (what : Expectation)
    (tokens : List Token) :
    unbound (missing what tokens : Attempt (Reading bound α)) = missing what tokens := rfl

@[simp] theorem unbound_refuse {bound : Nat} {α : Type} (error : ParseError)
    (tokens : List Token) :
    unbound (refuse error tokens : Attempt (Reading bound α)) = refuse error tokens := rfl

@[simp] theorem expect_nil (what : Expectation) : expect what [] = missing what [] := rfl

/-- A token of the expected kind is taken. Any other one is missing the expectation. -/
theorem unbound_expect_cons (what : Expectation) (token : Token) (rest : List Token) :
    unbound (expect what (token :: rest)) =
      if token.kind = what.kind then pure (token, rest) else missing what (token :: rest) := by
  rw [expect]
  split <;> rfl

/-- A list of parameters is a name and, behind a comma, another list, which may be empty. -/
theorem unbound_parameters (tokens : List Token) :
    unbound (parameters tokens) =
      if closes .rightParen tokens then pure ([], tokens)
      else (do
        let (name, unread) ← unbound (expect .parameterName tokens)
        match unread with
        | [] => pure ([name], [])
        | comma :: rest =>
            if comma.kind = .comma then
              (fun pair => (name :: pair.1, pair.2)) <$> unbound (parameters rest)
            else pure ([name], comma :: rest)) := by
  rw [parameters]
  split
  · rfl
  · apply unbound_bind
    intro reading
    obtain ⟨name, unread, shorter⟩ := reading
    cases unread with
    | nil => rfl
    | cons comma rest =>
        dsimp only
        split
        · exact unbound_map _ _ _
        · rfl

/-- A signature is a name and parameters in parentheses, in front of the brace of a body. -/
theorem unbound_signature (tokens : List Token) :
    unbound (signature tokens) = (do
      let (name, unread) ← unbound (expect .functionName tokens)
      let (_, unread) ← unbound (expect (.leftParen "function name") unread)
      let (names, unread) ← unbound (parameters unread)
      let (_, unread) ← unbound (expect (.rightParen "parameters") unread)
      let (_, unread) ← unbound (expect .bodyBrace unread)
      pure ((name, names), unread)) := by
  rw [signature]
  apply unbound_bind
  intro reading
  obtain ⟨name, unread, _⟩ := reading
  apply unbound_bind
  intro reading
  obtain ⟨_, unread, _⟩ := reading
  apply unbound_bind
  intro reading
  obtain ⟨names, unread, _⟩ := reading
  apply unbound_bind
  intro reading
  obtain ⟨_, unread, _⟩ := reading
  apply unbound_bind
  intro reading
  obtain ⟨_, unread, _⟩ := reading
  rfl

/-- An expression is a chain of the loosest level. A sign of assignment behind it is refused once
the value that it would have has been read. -/
theorem unbound_expression (tokens : List Token) :
    unbound (expression tokens) = (do
      let (value, unread) ← unbound (chain Level.all tokens)
      match unread with
      | [] => pure (value, [])
      | sign :: rest =>
          if sign.kind = .equal then do
            let (_, unread) ← unbound (expression rest)
            refuse ⟨.invalidTarget, some sign⟩ unread
          else pure (value, sign :: rest)) := by
  rw [expression]
  apply unbound_bind
  intro reading
  obtain ⟨value, unread, shorter⟩ := reading
  cases unread with
  | nil => rfl
  | cons sign rest =>
      dsimp only
      split
      · apply unbound_bind
        intro reading
        obtain ⟨_, unread, _⟩ := reading
        rfl
      · rfl

/-- Nothing but a primary binds tighter than all levels. -/
theorem unbound_chain_nil (tokens : List Token) :
    unbound (chain [] tokens) = unbound (primary tokens) := by
  rw [chain]

/-- A chain begins with a chain of the next tighter level. -/
theorem unbound_chain_cons (level : Level) (tighter : List Level) (tokens : List Token) :
    unbound (chain (level :: tighter) tokens) = (do
      let (left, unread) ← unbound (chain tighter tokens)
      unbound (chainFrom left level tighter unread)) := by
  rw [chain]
  apply unbound_bind
  intro reading
  obtain ⟨left, unread, _⟩ := reading
  exact unbound_map_id _ _

theorem unbound_chainFrom_nil (left : Expr) (level : Level) (tighter : List Level) :
    unbound (chainFrom left level tighter []) = pure (left, []) := by
  rw [chainFrom]
  rfl

/-- A chain goes on as long as there are operators of its level, to the right of all that has been
read. -/
theorem unbound_chainFrom_cons (left : Expr) (level : Level) (tighter : List Level)
    (operator : Token) (rest : List Token) :
    unbound (chainFrom left level tighter (operator :: rest)) =
      if operator.kind.level? = some level then do
        let (right, unread) ← unbound (chain tighter rest)
        unbound (chainFrom (.binary left operator right) level tighter unread)
      else pure (left, operator :: rest) := by
  rw [chainFrom]
  split
  · apply unbound_bind
    intro reading
    obtain ⟨right, unread, _⟩ := reading
    exact unbound_map_id _ _
  · rfl

theorem unbound_primary_nil : unbound (primary []) = missing .expression [] := by
  rw [primary]
  rfl

/-- A token is noted as a primary before its kind decides what is read. -/
theorem unbound_primary_cons (token : Token) (rest : List Token) :
    unbound (primary (token :: rest)) = (do
      note (.primary token)
      match token.kind with
      | .number | .identifier => pure (.literal token.lexeme, rest)
      | .leftParen =>
          let (inner, unread) ← unbound (expression rest)
          let (_, unread) ← unbound (expect (.rightParen "expression") unread)
          pure (.group inner, unread)
      | .keyword .funWord => unbound (function rest)
      | _ => missing .expression (token :: rest)) := by
  rw [primary]
  simp only [unbound, map_bind]
  apply bind_congr
  intro _
  cases token.kind with
  | leftParen =>
      apply unbound_bind
      intro reading
      obtain ⟨inner, unread, _⟩ := reading
      apply unbound_bind
      intro reading
      obtain ⟨_, unread, _⟩ := reading
      rfl
  | keyword word =>
      cases word with
      | funWord => exact unbound_map_id _ _
      | _ => rfl
  | _ => rfl

/-- A function is noted after its body has been read. -/
theorem unbound_function (tokens : List Token) :
    unbound (function tokens) = (do
      let ((name, names), unread) ← unbound (signature tokens)
      let (body, unread) ← unbound (block unread)
      note (.function name names.length)
      pure (.function name names body, unread)) := by
  rw [function]
  apply unbound_bind
  intro reading
  obtain ⟨⟨name, names⟩, unread, _⟩ := reading
  apply unbound_bind
  intro reading
  obtain ⟨body, unread, _⟩ := reading
  rfl

/-- A body ends with its closing brace. -/
theorem unbound_block (tokens : List Token) :
    unbound (block tokens) = (do
      let (body, unread) ← unbound (sequence .rightBrace tokens)
      let (_, unread) ← unbound (expect .closingBrace unread)
      pure (body, unread)) := by
  rw [block]
  apply unbound_bind
  intro reading
  obtain ⟨body, unread, _⟩ := reading
  apply unbound_bind
  intro reading
  obtain ⟨_, unread, _⟩ := reading
  rfl

/-- A sequence reads expressions up to its closer. -/
theorem unbound_sequence (closer : Kind) (tokens : List Token) :
    unbound (sequence closer tokens) =
      if closes closer tokens then pure ([], tokens)
      else (do
        let (first, unread) ← unbound (expression tokens)
        (fun pair => (first :: pair.1, pair.2)) <$> unbound (sequence closer unread)) := by
  rw [sequence]
  split
  · rfl
  · apply unbound_bind
    intro reading
    obtain ⟨first, unread, _⟩ := reading
    exact unbound_map _ _ _

end FrontEnd.Parse
