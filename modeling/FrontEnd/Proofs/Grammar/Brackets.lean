import FrontEnd.Proofs.Grammar.Words

namespace FrontEnd

/-- What a token of a kind adds to the number of open brackets. -/
def Kind.bracket : Kind → Int
  | leftParen | leftBrace => 1
  | rightParen | rightBrace => -1
  | _ => 0

/-- Operators are no brackets. -/
theorem Kind.bracket_of_level? {kind : Kind} {level : Level} (found : kind.level? = some level) :
    kind.bracket = 0 := by
  cases kind <;> first | rfl | cases found

/-- How many more brackets the tokens open than they close. -/
def Token.depth (tokens : List Token) : Int := (tokens.map fun token => token.kind.bracket).sum

namespace Token

@[simp] theorem depth_nil : depth [] = 0 := rfl

@[simp] theorem depth_cons (token : Token) (rest : List Token) :
    depth (token :: rest) = token.kind.bracket + depth rest := by
  simp [depth]

@[simp] theorem depth_append (first second : List Token) :
    depth (first ++ second) = depth first + depth second := by
  simp [depth]

end Token

namespace Grammar

open Token

/-- At an index of a list of tokens stands an operator of a level, outside of all brackets. -/
structure OuterOperator (tokens : List Token) (index : Nat) (level : Level) : Prop where
  isOperator : ∃ token, tokens[index]? = some token ∧ token.kind.level? = some level
  outside : depth (tokens.take index) = 0

/-- An outer operator is one of the tokens. -/
theorem OuterOperator.index_lt_length {tokens : List Token} {index : Nat} {level : Level}
    (outer : OuterOperator tokens index level) : index < tokens.length := by
  obtain ⟨token, found, _⟩ := outer.isOperator
  exact (List.getElem?_eq_some_iff.1 found).1

/-- Behind brackets that are all closed it does not matter that there were any. -/
theorem outerOperator_append {first : List Token} (closed : depth first = 0)
    (second : List Token) (index : Nat) (level : Level) :
    OuterOperator (first ++ second) index level ↔
      OuterOperator first index level ∨
        ∃ inner, index = first.length + inner ∧ OuterOperator second inner level := by
  by_cases early : index < first.length
  · have place : (first ++ second)[index]? = first[index]? := List.getElem?_append_left early
    have before : (first ++ second).take index = first.take index :=
      List.take_append_of_le_length early.le
    constructor
    · intro outer
      obtain ⟨isOperator, outside⟩ := outer
      exact .inl ⟨place ▸ isOperator, before ▸ outside⟩
    · rintro (⟨isOperator, outside⟩ | ⟨inner, rfl, _⟩)
      · exact ⟨place.symm ▸ isOperator, before.symm ▸ outside⟩
      · omega
  · obtain ⟨inner, rfl⟩ := Nat.exists_eq_add_of_le (Nat.le_of_not_lt early)
    have place : (first ++ second)[first.length + inner]? = second[inner]? := by
      rw [List.getElem?_append_right (Nat.le_add_right _ _), Nat.add_sub_cancel_left]
    have before : depth ((first ++ second).take (first.length + inner)) =
        depth (second.take inner) := by
      rw [List.take_append, List.take_of_length_le (Nat.le_add_right _ _),
        Nat.add_sub_cancel_left, depth_append, closed, zero_add]
    constructor
    · intro outer
      obtain ⟨isOperator, outside⟩ := outer
      exact .inr ⟨inner, rfl, place ▸ isOperator, before.symm.trans outside⟩
    · rintro (outer | ⟨other, same, isOperator, outside⟩)
      · exact absurd outer.index_lt_length early
      · obtain rfl : inner = other := Nat.add_left_cancel same
        exact ⟨place.symm ▸ isOperator, before.trans outside⟩

/-- No bracket is closed before it is opened, all brackets are closed in the end, and the operators
outside of them belong to some levels. -/
structure Nested (levels : List Level) (tokens : List Token) : Prop where
  closed : depth tokens = 0
  opened : ∀ index, 0 ≤ depth (tokens.take index)
  outer : ∀ index level, OuterOperator tokens index level → level ∈ levels

section

variable {levels : List Level} {tokens first second : List Token}

theorem nested_nil : Nested levels [] := by
  refine ⟨rfl, fun index => by simp, ?_⟩
  intro index level outer
  exact absurd outer.index_lt_length (Nat.not_lt_zero _)

theorem nested_singleton {token : Token} (noBracket : token.kind.bracket = 0)
    (among : ∀ level, token.kind.level? = some level → level ∈ levels) : Nested levels [token] := by
  refine ⟨by simp [noBracket], ?_, ?_⟩
  · intro index
    cases index <;> simp [noBracket]
  · intro index level outer
    obtain ⟨found, same, isOperator⟩ := outer.isOperator
    have member := List.mem_of_getElem? same
    rw [List.mem_singleton] at member
    exact among level (member ▸ isOperator)

/-- Most tokens are neither brackets nor operators. -/
theorem nested_of_kind {token : Token} {kind : Kind} (same : token.kind = kind)
    (noBracket : kind.bracket = 0) (noOperator : kind.level? = none) : Nested levels [token] :=
  nested_singleton (same ▸ noBracket) (by simp [same, noOperator])

/-- More levels may be allowed outside of brackets. -/
theorem Nested.mono {more : List Level} (nested : Nested levels tokens) (among : levels ⊆ more) :
    Nested more tokens :=
  ⟨nested.closed, nested.opened, fun index level outer => among (nested.outer index level outer)⟩

/-- Tokens in a row are nested if both parts are. -/
theorem Nested.append (one : Nested levels first) (other : Nested levels second) :
    Nested levels (first ++ second) := by
  refine ⟨?_, ?_, ?_⟩
  · rw [depth_append, one.closed, other.closed, zero_add]
  · intro index
    rw [List.take_append, depth_append]
    exact add_nonneg (one.opened _) (other.opened _)
  · intro index level outer
    rcases (outerOperator_append one.closed ..).1 outer with before | ⟨inner, _, behind⟩
    · exact one.outer index level before
    · exact other.outer inner level behind

/-- Between two brackets no operator stands outside. -/
theorem Nested.wrap {opening closing : Token} (nested : Nested levels tokens)
    (opens : opening.kind.bracket = 1) (closes : closing.kind.bracket = -1) :
    Nested [] (opening :: (tokens ++ [closing])) := by
  have inside (index : Nat) (within : index ≤ tokens.length) :
      0 ≤ depth ((tokens ++ [closing]).take index) := by
    rw [List.take_append_of_le_length within]
    exact nested.opened index
  have whole : depth (tokens ++ [closing]) = -1 := by
    rw [depth_append, nested.closed, depth_cons, closes, depth_nil]
    rfl
  refine ⟨by rw [depth_cons, whole, opens]; rfl, ?_, ?_⟩
  · intro index
    cases index with
    | zero => simp
    | succ index =>
        rw [List.take_succ_cons, depth_cons, opens]
        by_cases within : index ≤ tokens.length
        · have nonneg := inside index within
          omega
        · rw [List.take_of_length_le (by simp; omega), whole]
          decide
  · intro index level outer
    have within := outer.index_lt_length
    obtain ⟨⟨token, found, isOperator⟩, outside⟩ := outer
    cases index with
    | zero =>
        obtain rfl : opening = token := by simpa using found
        rw [Kind.bracket_of_level? isOperator] at opens
        cases opens
    | succ index =>
        rw [List.take_succ_cons, depth_cons, opens] at outside
        have nonneg := inside index (by simpa using within)
        omega

end

/-- Parameters are names and commas, without operators and brackets. -/
theorem Parameters.nested {tokens names : List Token} (parameters : Parameters tokens names) :
    Nested [] tokens := by
  induction parameters with
  | none => exact nested_nil
  | last identifier => exact nested_of_kind identifier rfl rfl
  | more identifier comma _ ih =>
      exact (nested_of_kind identifier rfl rfl).append
        ((nested_of_kind comma rfl rfl).append ih)

mutual

/-- The brackets of an expression are closed, with any operators between them. -/
theorem Expression.nested {dialect : Dialect} : ∀ {tokens : List Token} {tree : Expr},
    Expression dialect tokens tree → Nested Level.all tokens
  | _, _, .equality chain => chain.nested
  | _, _, .assignment _ target sign value =>
      target.nested.append ((nested_of_kind sign rfl rfl).append value.nested)

/-- Outside of its brackets a chain has operators of its own levels only. -/
theorem Chain.nested {dialect : Dialect} : ∀ {levels : List Level} {tokens : List Token}
    {tree : Expr}, Chain dialect levels tokens tree → Nested levels tokens
  | _, _, _, .primary inner => inner.nested
  | _, _, _, .operand inner => inner.nested.mono (List.subset_cons_self _ _)
  | _, _, _, @Chain.operator _ level tighter _ _ operator _ _ left member right => by
      have isOperator := (Kind.level?_eq_some_iff operator.kind level).2 member
      have joins : Nested (level :: tighter) [operator] :=
        nested_singleton (Kind.bracket_of_level? isOperator) (by simp [isOperator])
      exact left.nested.append
        (joins.append (right.nested.mono (List.subset_cons_self _ _)))

/-- A primary has no operators outside of its brackets. -/
theorem Primary.nested {dialect : Dialect} : ∀ {tokens : List Token} {tree : Expr},
    Primary dialect tokens tree → Nested [] tokens
  | _, _, .literal kind => by
      rcases kind with kind | kind <;> exact nested_of_kind kind rfl rfl
  | _, _, .group opening inner closing =>
      inner.nested.wrap (by rw [opening]; rfl) (by rw [closing]; rfl)
  | _, _, @Primary.function _ word _ closing _ _ tokens _ isFunction
      (@Signature.intro name opening closingParen brace between _ identifier opens parameters
        closes braces) body closesBody => by
      have first : Nested [] [word] := nested_of_kind isFunction rfl rfl
      have second : Nested [] [name] := nested_of_kind identifier rfl rfl
      have third : Nested [] (opening :: (between ++ [closingParen])) :=
        parameters.nested.wrap (by rw [opens]; rfl) (by rw [closes]; rfl)
      have fourth : Nested [] (brace :: (tokens ++ [closing])) :=
        body.nested.wrap (by rw [braces]; rfl) (by rw [closesBody]; rfl)
      have whole := first.append (second.append (third.append fourth))
      simpa using whole

/-- The brackets of a program are nested. -/
theorem Program.nested {dialect : Dialect} : ∀ {tokens : List Token} {trees : List Expr},
    Program dialect tokens trees → Nested Level.all tokens
  | _, _, .empty => nested_nil
  | _, _, .next first rest => first.nested.append rest.nested

end

end Grammar

end FrontEnd
