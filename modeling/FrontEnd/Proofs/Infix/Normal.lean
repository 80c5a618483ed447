import FrontEnd.Proofs.Grammar.Rules
import FrontEnd.Proofs.Token.Spelling

namespace FrontEnd

/-- Levels are counted from the loosest one on. -/
def Level.rank : Level → Nat
  | .equality => 0
  | .comparison => 1
  | .term => 2
  | .factor => 3

namespace Expr

/-- The level of an expression that is joined by an operator. -/
def level? : Expr → Option Level
  | binary _ operator _ => operator.kind.level?
  | _ => none

/-- An operator joins expressions that are not looser than itself, and on its right side no
expression of its own level. -/
inductive Normal : Expr → Prop
  | literal (text : String) : Normal (.literal text)
  | group {inner : Expr} : Normal inner → Normal (.group inner)
  | binary {left right : Expr} {operator : Token} {level : Level} :
      operator.kind ∈ level.operators →
      (∀ inner, left.level? = some inner → level.rank ≤ inner.rank) →
      (∀ inner, right.level? = some inner → level.rank < inner.rank) →
      Normal left → Normal right → Normal (.binary left operator right)
  | function {name : Token} {parameters : List Token} {body : List Expr} :
      name.kind = .identifier → (∀ parameter ∈ parameters, parameter.kind = .identifier) →
      (∀ tree ∈ body, Normal tree) → Normal (.function name parameters body)

/-- Literals are numbers and identifiers, names are identifiers, and operators have the lexeme of
their kind. -/
inductive Spelled : Expr → Prop
  | literal {text : String} : Spells text.toList .number ∨ Spells text.toList .identifier →
      Spelled (.literal text)
  | group {inner : Expr} : Spelled inner → Spelled (.group inner)
  | binary {left right : Expr} {operator : Token} :
      Spells operator.lexeme.toList operator.kind → Spelled left → Spelled right →
      Spelled (.binary left operator right)
  | function {name : Token} {parameters : List Token} {body : List Expr} :
      Spells name.lexeme.toList .identifier →
      (∀ parameter ∈ parameters, Spells parameter.lexeme.toList .identifier) →
      (∀ tree ∈ body, Spelled tree) → Spelled (.function name parameters body)

mutual

/-- The lexemes of an expression in the order of a source text. Only groups have brackets. -/
def lexemes : Expr → List String
  | literal text => [text]
  | group inner => "(" :: (inner.lexemes ++ [")"])
  | binary left operator right => left.lexemes ++ operator.lexeme :: right.lexemes
  | function name parameters body =>
      "fun" :: name.lexeme :: "(" :: ((parameters.map Token.lexeme).intersperse "," ++
        ")" :: "\x7b" :: (lexemesAll body ++ ["\x7d"]))

def lexemesAll : List Expr → List String
  | [] => []
  | first :: rest => first.lexemes ++ lexemesAll rest

end

end Expr

/-- A text of lexemes with blanks between all of them. Blanks may also stand before the first one
and behind the last one. -/
inductive Spaced : List String → List Char → Prop
  | none {gap : List Char} : (∀ character ∈ gap, isBlank character = true) → Spaced [] gap
  | last {before behind : List Char} {lexeme : String} :
      (∀ character ∈ before, isBlank character = true) →
      (∀ character ∈ behind, isBlank character = true) →
      Spaced [lexeme] (before ++ (lexeme.toList ++ behind))
  | more {before gap rest : List Char} {first second : String} {lexemes : List String} :
      (∀ character ∈ before, isBlank character = true) →
      (∀ character ∈ gap, isBlank character = true) → gap ≠ [] →
      Spaced (second :: lexemes) rest →
      Spaced (first :: second :: lexemes) (before ++ (first.toList ++ (gap ++ rest)))

end FrontEnd
