import FrontEnd.Token.Basic
import Mathlib.Data.List.TakeWhile

namespace FrontEnd.Token

/-- The tokens before the first one of kind `eof`. -/
def visible (tokens : List Token) : List Token :=
  tokens.takeWhile fun token => token.kind ≠ .eof

/-- The kind of the first token. Where no token is left, the text ends. -/
def nextKind : List Token → Kind
  | [] => .eof
  | token :: _ => token.kind

@[simp] theorem nextKind_nil : nextKind [] = .eof := rfl

@[simp] theorem nextKind_cons (token : Token) (rest : List Token) :
    nextKind (token :: rest) = token.kind := rfl

/-- Tokens without an end are visible in front of any others. -/
theorem visible_append_of_solid {read : List Token} (solid : ∀ token ∈ read, token.kind ≠ .eof)
    (unread : List Token) : visible (read ++ unread) = read ++ visible unread :=
  List.takeWhile_append_of_pos (by simpa using solid)

/-- Nothing is visible behind the end. -/
theorem visible_of_nextKind {tokens : List Token} (ends : nextKind tokens = .eof) :
    visible tokens = [] := by
  cases tokens with
  | nil => rfl
  | cons token rest =>
      have last : token.kind = .eof := ends
      simp [visible, last]

/-- The visible tokens are those in front of an end. -/
theorem visible_append {read unread : List Token} (solid : ∀ token ∈ read, token.kind ≠ .eof)
    (ends : nextKind unread = .eof) : visible (read ++ unread) = read := by
  rw [visible_append_of_solid solid, visible_of_nextKind ends, List.append_nil]

theorem visible_of_solid {tokens : List Token} (solid : ∀ token ∈ tokens, token.kind ≠ .eof) :
    visible tokens = tokens := by
  have whole := visible_append solid nextKind_nil
  rwa [List.append_nil] at whole

/-- A next kind other than the end is that of a token. -/
theorem exists_cons_of_nextKind {tokens : List Token} {kind : Kind}
    (next : nextKind tokens = kind) (solid : kind ≠ .eof) :
    ∃ token rest, tokens = token :: rest ∧ token.kind = kind := by
  cases tokens with
  | nil => exact absurd next.symm solid
  | cons token rest => exact ⟨token, rest, rfl, next⟩

/-- Behind the visible tokens there is an end. -/
theorem exists_visible_append (tokens : List Token) :
    ∃ unread, tokens = visible tokens ++ unread ∧ nextKind unread = .eof := by
  refine ⟨tokens.dropWhile fun token => token.kind ≠ .eof,
    List.takeWhile_append_dropWhile.symm, ?_⟩
  induction tokens with
  | nil => rfl
  | cons token rest ih =>
      by_cases last : token.kind = .eof
      · simp [last]
      · simpa [last] using ih

end FrontEnd.Token
