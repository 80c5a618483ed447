import FrontEnd.Token.Basic

namespace FrontEnd

/-- Expressions. Numbers and variables are both kept as their text, and operators, names and
parameters as their tokens. -/
inductive Expr where
  | literal (text : String)
  | group (inner : Expr)
  | binary (left : Expr) (operator : Token) (right : Expr)
  | function (name : Token) (parameters : List Token) (body : List Expr)
  deriving Repr

namespace Expr

mutual

/-- An expression is shown with its operator in front. -/
def text : Expr → String
  | literal text => text
  | group inner => "(group " ++ inner.text ++ ")"
  | binary left operator right =>
      "(" ++ operator.lexeme ++ " " ++ left.text ++ " " ++ right.text ++ ")"
  | function name parameters body =>
      "(fun " ++ name.lexeme ++ " (" ++ " ".intercalate (parameters.map Token.lexeme) ++ ")" ++
        bodyText body ++ ")"

/-- Each expression of a body follows a space. -/
def bodyText : List Expr → String
  | [] => ""
  | first :: rest => " " ++ first.text ++ bodyText rest

end

mutual

/-- Equality of expressions includes the places of their tokens. -/
def decideEq : (first second : Expr) → Decidable (first = second)
  | literal first, literal second =>
      if same : first = second then isTrue (by rw [same])
      else isFalse fun equal => same (by injection equal)
  | group first, group second =>
      match decideEq first second with
      | isTrue same => isTrue (by rw [same])
      | isFalse different => isFalse fun equal => different (by injection equal)
  | binary left operator right, binary left' operator' right' =>
      match decideEq left left', decEq operator operator', decideEq right right' with
      | isTrue sameLeft, isTrue same, isTrue sameRight =>
          isTrue (by rw [sameLeft, same, sameRight])
      | isFalse different, _, _ => isFalse fun equal => different (by injection equal)
      | _, isFalse different, _ => isFalse fun equal => different (by injection equal)
      | _, _, isFalse different => isFalse fun equal => different (by injection equal)
  | function name parameters body, function name' parameters' body' =>
      match decEq name name', decEq parameters parameters', decideEqBody body body' with
      | isTrue sameName, isTrue same, isTrue sameBody =>
          isTrue (by rw [sameName, same, sameBody])
      | isFalse different, _, _ => isFalse fun equal => different (by injection equal)
      | _, isFalse different, _ => isFalse fun equal => different (by injection equal)
      | _, _, isFalse different => isFalse fun equal => different (by injection equal)
  | literal _, group _ | literal _, binary .. | literal _, function ..
  | group _, literal _ | group _, binary .. | group _, function ..
  | binary .., literal _ | binary .., group _ | binary .., function ..
  | function .., literal _ | function .., group _ | function .., binary .. => isFalse nofun

def decideEqBody : (first second : List Expr) → Decidable (first = second)
  | [], [] => isTrue rfl
  | [], _ :: _ | _ :: _, [] => isFalse nofun
  | first :: rest, first' :: rest' =>
      match decideEq first first', decideEqBody rest rest' with
      | isTrue same, isTrue sameRest => isTrue (by rw [same, sameRest])
      | isFalse different, _ => isFalse fun equal => different (by injection equal)
      | _, isFalse different => isFalse fun equal => different (by injection equal)

end

instance : DecidableEq Expr := decideEq

end Expr

end FrontEnd
