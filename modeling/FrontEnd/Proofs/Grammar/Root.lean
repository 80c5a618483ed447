import FrontEnd.Proofs.Grammar.Acceptance
import FrontEnd.Proofs.Grammar.Brackets
import FrontEnd.Proofs.Grammar.Viability
import FrontEnd.Proofs.Infix.ReadBack

namespace FrontEnd

open Token Grammar

namespace Level

theorem rank_injective {first second : Level} (same : first.rank = second.rank) :
    first = second := by
  cases first <;> cases second <;> first | rfl | cases same

/-- Levels further on bind at least as tightly. -/
theorem rank_le_of_mem_onward {level inner : Level} (among : inner ∈ level.onward) :
    level.rank ≤ inner.rank := by
  have all : ∀ inner ∈ level.onward, level.rank ≤ inner.rank := by cases level <;> decide
  exact all inner among

/-- A level is not among those that bind tighter than itself. -/
theorem not_mem_tail_onward (level : Level) : level ∉ level.onward.tail := by
  cases level <;> decide

end Level

/-- An expression that is no operator with its operands. -/
inductive Expr.IsOperand : Expr → Prop
  | literal (text : String) : IsOperand (.literal text)
  | group (inner : Expr) : IsOperand (.group inner)
  | function (name : Token) (parameters : List Token) (body : List Expr) :
      IsOperand (.function name parameters body)

namespace Grammar

/-- The last one of the loosest operators outside of all brackets. -/
structure LastLoosest (tokens : List Token) (index : Nat) (level : Level) : Prop
    extends OuterOperator tokens index level where
  loosest : ∀ other inner, OuterOperator tokens other inner → level.rank ≤ inner.rank
  last : ∀ other, OuterOperator tokens other level → other ≤ index

/-- There is only one such operator. -/
theorem LastLoosest.index_unique {tokens : List Token} {first second : Nat} {one other : Level}
    (root : LastLoosest tokens first one) (also : LastLoosest tokens second other) :
    first = second := by
  obtain rfl : one = other := Level.rank_injective <| Nat.le_antisymm
    (root.loosest second other also.toOuterOperator) (also.loosest first one root.toOuterOperator)
  exact Nat.le_antisymm (also.last first root.toOuterOperator)
    (root.last second also.toOuterOperator)

/-- The operator that joins the last operand of a level to those in front of it. -/
theorem Chain.lastLoosest {dialect : Dialect} {level : Level} {tighter : List Level}
    {before behind : List Token} {operator : Token} {left right : Expr}
    (isLeft : Chain dialect (level :: tighter) before left)
    (member : operator.kind ∈ level.operators) (isRight : Chain dialect tighter behind right)
    (suffix : level :: tighter <:+ Level.all) :
    LastLoosest (before ++ operator :: behind) before.length level := by
  have isOperator := (Kind.level?_eq_some_iff operator.kind level).2 member
  have onward := Level.cons_eq_onward suffix
  have nested := (isLeft.operator member isRight).nested
  rw [onward] at nested
  refine ⟨⟨⟨operator, by simp, isOperator⟩, ?_⟩, ?_, ?_⟩
  · rw [List.take_left]
    exact isLeft.nested.closed
  · intro other inner outer
    exact Level.rank_le_of_mem_onward (nested.outer other inner outer)
  · intro other outer
    rcases (outerOperator_append isLeft.nested.closed ..).1 outer with inside | ⟨place, rfl, later⟩
    · exact inside.index_lt_length.le
    have joins : depth [operator] = 0 := by
      rw [depth_cons, Kind.bracket_of_level? isOperator]
      rfl
    rcases (outerOperator_append joins ..).1 later with itself | ⟨inner, _, inRight⟩
    · have first := itself.index_lt_length
      rw [List.length_singleton] at first
      omega
    · -- An operator of the same level further behind would stand in an operand of the tighter ones.
      have among := isRight.nested.outer inner level inRight
      have tail : tighter = level.onward.tail := by rw [← onward, List.tail_cons]
      exact absurd (tail ▸ among) level.not_mem_tail_onward

/-- A primary is no operator. -/
theorem Primary.isOperand {dialect : Dialect} {tokens : List Token} {tree : Expr}
    (primary : Primary dialect tokens tree) : tree.IsOperand := by
  cases primary with
  | literal => exact .literal _
  | group => exact .group _
  | function => exact .function ..

/-- An expression has no operator outside of all brackets, or the last loosest one joins what stands
on both sides of it. -/
theorem Chain.root {dialect : Dialect} : ∀ {levels : List Level} {tokens : List Token}
    {tree : Expr}, Chain dialect levels tokens tree → levels <:+ Level.all →
      (tree.IsOperand ∧ ∀ index level, ¬ OuterOperator tokens index level) ∨
        ∃ index level left operator right, LastLoosest tokens index level ∧
          tokens[index]? = some operator ∧ tree = .binary left operator right ∧
          Chain dialect Level.all (tokens.take index) left ∧
          Chain dialect Level.all (tokens.drop (index + 1)) right
  | _, _, _, .primary inner, _ =>
      .inl ⟨inner.isOperand, fun index level outer =>
        List.not_mem_nil (inner.nested.outer index level outer)⟩
  | _, _, _, .operand inner, suffix => inner.root ((List.suffix_cons _ _).trans suffix)
  | _, _, _, @Chain.operator _ level tighter before behind joint left right isLeft member isRight,
      suffix => by
      refine .inr ⟨before.length, level, left, joint, right,
        isLeft.lastLoosest member isRight suffix, by simp, rfl, ?_, ?_⟩
      · rw [List.take_left]
        exact isLeft.widen suffix
      · have rest : (before ++ joint :: behind).drop (before.length + 1) = behind := by simp
        rw [rest]
        exact isRight.widen ((List.suffix_cons _ _).trans suffix)

/-- A chain is a program of one expression. -/
theorem ofTokens_of_chain {tokens : List Token} {tree : Expr}
    (chain : Chain .plain Level.all tokens tree) : Expr.ofTokens tokens = .ok [tree] := by
  have program := Program.next (.equality chain) .empty
  rw [List.append_nil] at program
  exact ofTokens_of_program (program.visible_eq.symm ▸ program)

/-- A program of one expression without an end is a chain. -/
theorem chain_of_ofTokens {tokens : List Token} {tree : Expr}
    (solid : ∀ token ∈ tokens, token.kind ≠ .eof) (parsed : Expr.ofTokens tokens = .ok [tree]) :
    Chain .plain Level.all tokens tree := by
  have program := program_of_ofTokens parsed .plain
  rw [visible_of_solid solid] at program
  cases program with
  | next first rest =>
      cases rest
      rw [List.append_nil]
      cases first with
      | equality chain => exact chain
      | assignment assigning => cases assigning

end Grammar

namespace Expr

/-- Tokens that are one expression fall apart at the last one of the loosest operators outside of
all brackets, and the expressions on both sides are its operands. Without such an operator the
expression is no operator with its operands. -/
theorem ofTokens_root {tokens : List Token} {tree : Expr}
    (solid : ∀ token ∈ tokens, token.kind ≠ .eof) (parsed : ofTokens tokens = .ok [tree]) :
    (∀ index level, LastLoosest tokens index level →
      ∃ left operator right, tree = .binary left operator right ∧
        tokens[index]? = some operator ∧ ofTokens (tokens.take index) = .ok [left] ∧
        ofTokens (tokens.drop (index + 1)) = .ok [right]) ∧
    ((∃ index level, OuterOperator tokens index level) →
      ∃ index level, LastLoosest tokens index level) ∧
    ((∀ index level, ¬ OuterOperator tokens index level) → tree.IsOperand) := by
  rcases (chain_of_ofTokens solid parsed).root List.suffix_rfl with
    ⟨isOperand, nowhere⟩ | ⟨index, level, left, operator, right, root, found, rfl, isLeft, isRight⟩
  · refine ⟨?_, ?_, fun _ => isOperand⟩
    · intro index level root
      exact absurd root.toOuterOperator (nowhere index level)
    · rintro ⟨index, level, outer⟩
      exact absurd outer (nowhere index level)
  · refine ⟨?_, fun _ => ⟨index, level, root⟩, ?_⟩
    · intro other inner also
      obtain rfl := root.index_unique also
      exact ⟨left, operator, right, rfl, found, ofTokens_of_chain isLeft,
        ofTokens_of_chain isRight⟩
    · intro nowhere
      exact absurd root.toOuterOperator (nowhere index level)

/-- The second minus is the root, although a third one stands behind it in brackets. -/
theorem ofTokens_root_difference :
    let tokens : List Token := [⟨.identifier, "a", ⟨1, 1⟩⟩, ⟨.minus, "-", ⟨1, 3⟩⟩,
      ⟨.identifier, "b", ⟨1, 5⟩⟩, ⟨.minus, "-", ⟨1, 7⟩⟩, ⟨.number, "2", ⟨1, 9⟩⟩,
      ⟨.star, "*", ⟨1, 11⟩⟩, ⟨.leftParen, "(", ⟨1, 13⟩⟩, ⟨.identifier, "c", ⟨1, 14⟩⟩,
      ⟨.minus, "-", ⟨1, 16⟩⟩, ⟨.number, "1", ⟨1, 18⟩⟩, ⟨.rightParen, ")", ⟨1, 19⟩⟩]
    let left : Expr := .binary (.literal "a") ⟨.minus, "-", ⟨1, 3⟩⟩ (.literal "b")
    let right : Expr := .binary (.literal "2") ⟨.star, "*", ⟨1, 11⟩⟩
      (.group (.binary (.literal "c") ⟨.minus, "-", ⟨1, 16⟩⟩ (.literal "1")))
    (∀ token ∈ tokens, token.kind ≠ .eof) ∧
      ofTokens tokens = .ok [.binary left ⟨.minus, "-", ⟨1, 7⟩⟩ right] ∧
      LastLoosest tokens 3 .term ∧ ofTokens (tokens.take 3) = .ok [left] ∧
      ofTokens (tokens.drop 4) = .ok [right] := by
  intro tokens left right
  have solid : ∀ token ∈ tokens, token.kind ≠ .eof := by decide
  have parsed : ofTokens tokens = .ok [.binary left ⟨.minus, "-", ⟨1, 7⟩⟩ right] := by cbv
  have outer : ∀ index level, OuterOperator tokens index level →
      index = 1 ∧ level = .term ∨ index = 3 ∧ level = .term ∨ index = 5 ∧ level = .factor := by
    intro index level outer
    have inside : index < 11 := outer.index_lt_length
    obtain ⟨⟨token, found, isOperator⟩, outside⟩ := outer
    interval_cases index <;> cases found <;> cases isOperator <;> first | decide | cases outside
  have root : LastLoosest tokens 3 .term := by
    refine ⟨⟨⟨_, rfl, rfl⟩, by decide⟩, ?_, ?_⟩
    · intro other inner also
      rcases outer other inner also with ⟨_, rfl⟩ | ⟨_, rfl⟩ | ⟨_, rfl⟩ <;> decide
    · intro other also
      rcases outer other .term also with ⟨rfl, _⟩ | ⟨rfl, _⟩ | ⟨_, same⟩
      · decide
      · decide
      · cases same
  obtain ⟨first, operator, second, same, _, isLeft, isRight⟩ :=
    (ofTokens_root solid parsed).1 3 .term root
  cases same
  exact ⟨solid, parsed, root, isLeft, isRight⟩

end Expr

end FrontEnd
