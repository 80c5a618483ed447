import FrontEnd.Expr.Basic
import FrontEnd.Token.Level
import Mathlib

namespace FrontEnd

/-- The operators of a layer. -/
def Level.operators : Level → List Kind
  | .equality => [.equalEqual, .bangEqual]
  | .comparison => [.less, .lessEqual, .greater, .greaterEqual]
  | .term => [.plus, .minus]
  | .factor => [.star, .slash]

/-- The level of a kind is the one that has it among its operators. -/
theorem Kind.level?_eq_some_iff (kind : Kind) (level : Level) :
    kind.level? = some level ↔ kind ∈ level.operators := by
  cases level <;> cases kind <;> simp [Kind.level?, Level.operators]

/-- The kinds with which an expression begins. -/
def Kind.starters : List Kind := [.number, .identifier, .leftParen, .keyword .funWord]

/-- An expression starts with a literal, a parenthesis or a function. -/
theorem Kind.mem_starters_iff (kind : Kind) :
    kind ∈ starters ↔
      (kind = .number ∨ kind = .identifier) ∨ kind = .leftParen ∨ kind = .keyword .funWord := by
  simp [starters, or_assoc]

/-- No expression starts with the end. -/
theorem Kind.ne_eof_of_starter {kind : Kind} (starter : kind ∈ starters) : kind ≠ .eof := by
  intro last
  simp [last, starters] at starter

namespace Grammar

/-- Expressions may be assigned to one another in one dialect only. -/
inductive Dialect where
  | plain
  | assigning
  deriving DecidableEq, Repr

/-- The parameters of a function. A comma may stand behind the last one. -/
inductive Parameters : List Token → List Token → Prop
  | none : Parameters [] []
  | last {name : Token} : name.kind = .identifier → Parameters [name] [name]
  | more {name comma : Token} {rest names : List Token} : name.kind = .identifier →
      comma.kind = .comma → Parameters rest names →
      Parameters (name :: comma :: rest) (name :: names)

/-- The name and the parameters of a function, up to the brace that opens its body. -/
inductive Signature : List Token → Token → List Token → Prop
  | intro {name opening closing brace : Token} {between names : List Token} :
      name.kind = .identifier → opening.kind = .leftParen → Parameters between names →
      closing.kind = .rightParen → brace.kind = .leftBrace →
      Signature (name :: opening :: (between ++ [closing, brace])) name names

mutual

/-- An assignment stands for no tree of its own and is given the tree of its target. -/
inductive Expression (dialect : Dialect) : List Token → Expr → Prop
  | equality {tokens : List Token} {tree : Expr} : Chain dialect Level.all tokens tree →
      Expression dialect tokens tree
  | assignment {target value : List Token} {sign : Token} {tree other : Expr} :
      dialect = .assigning → Chain dialect Level.all target tree → sign.kind = .equal →
      Expression dialect value other → Expression dialect (target ++ sign :: value) tree

/-- Operands of the tighter levels, joined by operators of the first level, which bind to the
left. -/
inductive Chain (dialect : Dialect) : List Level → List Token → Expr → Prop
  | primary {tokens : List Token} {tree : Expr} : Primary dialect tokens tree →
      Chain dialect [] tokens tree
  | operand {level : Level} {tighter : List Level} {tokens : List Token} {tree : Expr} :
      Chain dialect tighter tokens tree → Chain dialect (level :: tighter) tokens tree
  | operator {level : Level} {tighter : List Level} {before behind : List Token}
      {operator : Token} {left right : Expr} : Chain dialect (level :: tighter) before left →
      operator.kind ∈ level.operators → Chain dialect tighter behind right →
      Chain dialect (level :: tighter) (before ++ operator :: behind)
        (.binary left operator right)

inductive Primary (dialect : Dialect) : List Token → Expr → Prop
  | literal {token : Token} : token.kind = .number ∨ token.kind = .identifier →
      Primary dialect [token] (.literal token.lexeme)
  | group {opening closing : Token} {tokens : List Token} {tree : Expr} :
      opening.kind = .leftParen → Expression dialect tokens tree → closing.kind = .rightParen →
      Primary dialect (opening :: (tokens ++ [closing])) (.group tree)
  | function {word name closing : Token} {head names tokens : List Token} {body : List Expr} :
      word.kind = .keyword .funWord → Signature head name names → Program dialect tokens body →
      closing.kind = .rightBrace →
      Primary dialect (word :: (head ++ (tokens ++ [closing]))) (.function name names body)

/-- Expressions stand one behind the other. -/
inductive Program (dialect : Dialect) : List Token → List Expr → Prop
  | empty : Program dialect [] []
  | next {tokens rest : List Token} {tree : Expr} {trees : List Expr} :
      Expression dialect tokens tree → Program dialect rest trees →
      Program dialect (tokens ++ rest) (tree :: trees)

end

/-- A list of tokens that is a program if nothing is wrong with assignments. -/
def Sentence (tokens : List Token) : Prop := ∃ trees, Program .assigning tokens trees

/-- A list of tokens with which a sentence may begin. -/
def Viable (tokens : List Token) : Prop := ∃ more, Sentence (tokens ++ more)

end Grammar

end FrontEnd
