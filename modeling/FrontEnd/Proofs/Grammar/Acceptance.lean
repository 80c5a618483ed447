import FrontEnd.Proofs.Descent.Completeness
import FrontEnd.Proofs.Descent.Soundness
import FrontEnd.Token.Scan

namespace FrontEnd

namespace Expr

open Parse Token Grammar

/-- Tokens are accepted with the trees of the sequence up to the end. -/
theorem ofTokens_eq_ok_iff (tokens : List Token) (trees : List Expr) :
    ofTokens tokens = .ok trees ↔
      ∃ unread, result (sequence .eof tokens) = .ok (trees, unread) := by
  rw [ofTokens, outcome_program]
  cases result (sequence .eof tokens) with
  | error refusal => simp [Except.map, Except.mapError]
  | ok pair => cases pair; simp [Except.map, Except.mapError]

/-- They are refused with the diagnostic of that sequence. -/
theorem ofTokens_eq_error_iff (tokens : List Token) (diagnostic : Diagnostic) :
    ofTokens tokens = .error diagnostic ↔
      ∃ refusal, result (sequence .eof tokens) = .error refusal ∧
        refusal.error.diagnostic = diagnostic := by
  rw [ofTokens, outcome_program]
  cases result (sequence .eof tokens) with
  | error refusal => simp [Except.map, Except.mapError]
  | ok pair => simp [Except.map, Except.mapError]

end Expr

namespace Grammar

open Parse Token

/-- A program does not reach beyond the end. -/
theorem Program.solid {dialect : Dialect} {tokens : List Token} {trees : List Expr}
    (program : Program dialect tokens trees) : ∀ token ∈ tokens, token.kind ≠ .eof :=
  fun token member => (program.allows token member).1

/-- Everything in front of the end is read. -/
theorem program_of_ofTokens {tokens : List Token} {trees : List Expr}
    (parsed : Expr.ofTokens tokens = .ok trees) (dialect : Dialect) :
    Program dialect (visible tokens) trees := by
  obtain ⟨unread, outcome⟩ := (Expr.ofTokens_eq_ok_iff tokens trees).1 parsed
  have reads := sequence_reads .eof tokens
  rw [outcome] at reads
  obtain ⟨read, rfl, program, closed⟩ := reads
  have ends : nextKind unread = .eof := by simpa [closes_iff] using closed
  rw [visible_append (program dialect).solid ends]
  exact program dialect

/-- The end of a program is the end of its last expression. -/
theorem Program.comes_visible {dialect : Dialect} {tokens : List Token} {trees : List Expr}
    (program : Program dialect (visible tokens) trees) :
    ∃ unread, Comes dialect (result (sequence .eof tokens)) (.ok (trees, unread)) := by
  obtain ⟨unread, same, ends⟩ := exists_visible_append tokens
  have comes := program.comes .eof (by decide) (ends_of_nextKind ends rfl (by decide))
  rw [← same, result_sequence_of_closes ((closes_iff ..).2 (.inl ends)), Except.map,
    List.append_nil] at comes
  exact ⟨unread, comes⟩

/-- A program of the grammar is accepted with its own trees, whatever stands behind the end. -/
theorem ofTokens_of_program {tokens : List Token} {trees : List Expr}
    (program : Program .plain (visible tokens) trees) : Expr.ofTokens tokens = .ok trees := by
  obtain ⟨unread, comes⟩ := program.comes_visible
  exact (Expr.ofTokens_eq_ok_iff tokens trees).2 ⟨unread, (comes_plain_iff ..).1 comes⟩

end Grammar

namespace Expr

mutual

/-- The tokens that a tree keeps, in the order of the text. -/
def carried : Expr → List Token
  | literal _ => []
  | group inner => inner.carried
  | binary left operator right => left.carried ++ operator :: right.carried
  | function name parameters body => name :: parameters ++ carriedAll body

def carriedAll : List Expr → List Token
  | [] => []
  | first :: rest => first.carried ++ carriedAll rest

end

end Expr

namespace Grammar

open Token

variable {dialect : Dialect}

mutual

/-- An expression carries tokens that it was read from, in their order. -/
theorem Expression.carried_sublist : ∀ {tokens : List Token} {tree : Expr},
    Expression dialect tokens tree → tree.carried.Sublist tokens
  | _, _, .equality chain => chain.carried_sublist
  | _, _, .assignment _ target _ _ =>
      target.carried_sublist.trans (List.sublist_append_left _ _)

/-- The operator of a chain stands between the tokens of its operands. -/
theorem Chain.carried_sublist : ∀ {levels : List Level} {tokens : List Token} {tree : Expr},
    Chain dialect levels tokens tree → tree.carried.Sublist tokens
  | _, _, _, .primary inner => inner.carried_sublist
  | _, _, _, .operand inner => inner.carried_sublist
  | _, _, _, .operator left _ right => by
      rw [Expr.carried]
      exact left.carried_sublist.append (right.carried_sublist.cons_cons _)

/-- Parentheses are carried by no tree, and the names of a function are. -/
theorem Primary.carried_sublist : ∀ {tokens : List Token} {tree : Expr},
    Primary dialect tokens tree → tree.carried.Sublist tokens
  | _, _, .literal _ => by
      rw [Expr.carried]
      exact List.nil_sublist _
  | _, _, .group _ inner _ => by
      rw [Expr.carried]
      exact (inner.carried_sublist.trans (List.sublist_append_left _ _)).cons _
  | _, _, .function _ signature body _ => by
      rw [Expr.carried]
      exact (signature.sublist.append
        (body.carried_sublist.trans (List.sublist_append_left _ _))).cons _

/-- The tokens that the trees of a program keep are tokens of the program, in the same order. -/
theorem Program.carried_sublist : ∀ {tokens : List Token} {trees : List Expr},
    Program dialect tokens trees → (Expr.carriedAll trees).Sublist tokens
  | _, _, .empty => by
      rw [Expr.carriedAll]
  | _, _, .next first rest => by
      rw [Expr.carriedAll]
      exact first.carried_sublist.append rest.carried_sublist

end

/-- A list of tokens is parsed into some trees if and only if the grammar without assignments gives
these trees to the tokens in front of the end. Then no equals sign stands among them, the trees keep
tokens in their order, and the grammar gives no other trees. -/
theorem ofTokens_ok_iff_program (tokens : List Token) (trees : List Expr) :
    (Expr.ofTokens tokens = .ok trees ↔ Program .plain (visible tokens) trees) ∧
      (Expr.ofTokens tokens = .ok trees →
        (∀ token ∈ visible tokens, token.kind ≠ .equal) ∧
          (Expr.carriedAll trees).Sublist (visible tokens) ∧
          ∀ others, Program .plain (visible tokens) others → others = trees) := by
  refine ⟨⟨fun parsed => program_of_ofTokens parsed .plain, ofTokens_of_program⟩, ?_⟩
  intro parsed
  have program := program_of_ofTokens parsed .plain
  refine ⟨fun token member => (program.allows token member).2 rfl, program.carried_sublist, ?_⟩
  intro others other
  have same := (ofTokens_of_program other).symm.trans parsed
  exact Except.ok.inj same

/-- A product is an operand of the sum that it stands in, and the grammar knows no other way. -/
theorem ofTokens_ok_iff_program_sum :
    let tokens := Token.scan "a + b * c"
    let sum : Expr := .binary (.literal "a") ⟨.plus, "+", ⟨1, 3⟩⟩
      (.binary (.literal "b") ⟨.star, "*", ⟨1, 7⟩⟩ (.literal "c"))
    Expr.ofTokens tokens = .ok [sum] ∧
      ∀ others, Program .plain (visible tokens) others → others = [sum] := by
  have parsed : Expr.ofTokens (Token.scan "a + b * c") =
      .ok [.binary (.literal "a") ⟨.plus, "+", ⟨1, 3⟩⟩
        (.binary (.literal "b") ⟨.star, "*", ⟨1, 7⟩⟩ (.literal "c"))] := by cbv
  exact ⟨parsed, ((ofTokens_ok_iff_program _ _).2 parsed).2.2⟩

end Grammar

end FrontEnd
