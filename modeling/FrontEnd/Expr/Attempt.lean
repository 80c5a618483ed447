/-
This file composes attempts to read something from a list of tokens.
-/

import FrontEnd.Expr.ParseError
import FrontEnd.Log

namespace FrontEnd

/-- An error and the tokens that it left unread. -/
structure Refusal where
  error : ParseError
  unread : List Token
  deriving DecidableEq, Repr

/-- A value that was read from a list of tokens, and the fewer than `bound` tokens behind it. -/
structure Reading (bound : Nat) (α : Type) where
  value : α
  unread : List Token
  shorter : unread.length < bound

/-- What is read within a smaller bound is read within a larger one. -/
def Reading.map {small bound : Nat} {α β : Type} (f : α → β) (within : small ≤ bound)
    (reading : Reading small α) : Reading bound β :=
  ⟨f reading.value, reading.unread, Nat.lt_of_lt_of_le reading.shorter within⟩

/-- An attempt to read a value keeps its log also when it is refused. -/
structure Attempt (α : Type) where
  log : List Event
  outcome : Except Refusal α

namespace Attempt

/-- A refusal ends an attempt; otherwise the logs follow one another. -/
def andThen {α β : Type} (first : Attempt α) (second : α → Attempt β) : Attempt β :=
  match first.outcome with
  | .ok value =>
      let next := second value
      ⟨first.log ++ next.log, next.outcome⟩
  | .error refusal => ⟨first.log, .error refusal⟩

instance : Monad Attempt where
  pure value := ⟨[], .ok value⟩
  bind := andThen
  map f attempt := ⟨attempt.log, attempt.outcome.map f⟩

def note (event : Event) : Attempt Unit := ⟨[event], .ok ()⟩

def refuse {α : Type} (error : ParseError) (unread : List Token) : Attempt α :=
  ⟨[], .error ⟨error, unread⟩⟩

/-- A token that does not meet an expectation is the token of the error. -/
def missing {α : Type} (what : Expectation) (tokens : List Token) : Attempt α :=
  refuse ⟨.expected what, tokens.head?⟩ tokens

@[ext] theorem ext {α : Type} {first second : Attempt α} (sameLog : first.log = second.log)
    (sameOutcome : first.outcome = second.outcome) : first = second := by
  cases first
  cases second
  simp_all

@[simp] theorem log_pure {α : Type} (value : α) : (pure value : Attempt α).log = [] := rfl

@[simp] theorem outcome_pure {α : Type} (value : α) :
    (pure value : Attempt α).outcome = .ok value := rfl

@[simp] theorem log_map {α β : Type} (f : α → β) (attempt : Attempt α) :
    (f <$> attempt).log = attempt.log := rfl

@[simp] theorem outcome_map {α β : Type} (f : α → β) (attempt : Attempt α) :
    (f <$> attempt).outcome = attempt.outcome.map f := rfl

@[simp] theorem outcome_bind {α β : Type} (first : Attempt α) (second : α → Attempt β) :
    (first >>= second).outcome = first.outcome.bind fun value => (second value).outcome := by
  change (first.andThen second).outcome = _
  unfold andThen
  cases first.outcome <;> rfl

/-- The log of a refused first attempt is the whole log. -/
theorem log_bind {α β : Type} (first : Attempt α) (second : α → Attempt β) :
    (first >>= second).log =
      first.log ++
        match first.outcome with
        | .ok value => (second value).log
        | .error _ => [] := by
  change (first.andThen second).log = _
  unfold andThen
  cases first.outcome <;> simp

/-- Attempts in a row may be grouped in either way. -/
instance : LawfulMonad Attempt :=
  LawfulMonad.mk' Attempt
    (by
      intro α attempt
      rcases attempt with ⟨log, _ | _⟩ <;> rfl)
    (by
      intro α β value f
      apply ext <;> simp [log_bind, Except.bind])
    (by
      intro α β γ attempt f g
      apply ext
      · simp only [log_bind, outcome_bind]
        cases attempt.outcome <;> simp [Except.bind]
      · simp only [outcome_bind]
        cases attempt.outcome <;> rfl)
    (fun _ _ => rfl) (fun _ _ => rfl) (fun _ _ => rfl)
    (by
      intro α β f attempt
      apply ext
      · simp only [log_bind, log_map]
        cases attempt.outcome <;> simp
      · simp only [outcome_bind, outcome_map]
        cases attempt.outcome <;> rfl)

@[simp] theorem outcome_note (event : Event) : (note event).outcome = .ok () := rfl

@[simp] theorem log_note (event : Event) : (note event).log = [event] := rfl

@[simp] theorem outcome_refuse {α : Type} (error : ParseError) (unread : List Token) :
    (refuse error unread : Attempt α).outcome = .error ⟨error, unread⟩ := rfl

@[simp] theorem log_refuse {α : Type} (error : ParseError) (unread : List Token) :
    (refuse error unread : Attempt α).log = [] := rfl

/-- The reading without its bound. -/
def unbound {bound : Nat} {α : Type} (attempt : Attempt (Reading bound α)) :
    Attempt (α × List Token) :=
  (fun reading => (reading.value, reading.unread)) <$> attempt

end Attempt

end FrontEnd
