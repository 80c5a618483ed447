import FrontEnd.Proofs.Grammar.Rules
import FrontEnd.Proofs.Token.Visible

namespace FrontEnd

/-- The kinds that may stand in a word of a dialect. -/
def Grammar.Dialect.Allows (dialect : Grammar.Dialect) (kind : Kind) : Prop :=
  kind ≠ .eof ∧ (dialect = .plain → kind ≠ .equal)

/-- Operators are allowed in any dialect. -/
theorem Level.allows_of_mem_operators {level : Level} {kind : Kind}
    (member : kind ∈ level.operators) (dialect : Grammar.Dialect) : dialect.Allows kind := by
  have all : ∀ kind ∈ level.operators, kind ≠ .eof ∧ kind ≠ .equal := by
    cases level <;> decide
  exact ⟨(all kind member).1, fun _ => (all kind member).2⟩

namespace Grammar

/-- Parameters have neither an end nor a sign of assignment in them. -/
theorem Parameters.allows {tokens names : List Token} (dialect : Dialect)
    (parameters : Parameters tokens names) :
    ∀ token ∈ tokens, dialect.Allows token.kind := by
  induction parameters with
  | none => simp
  | last identifier => simp [Dialect.Allows, identifier]
  | more identifier comma _ ih =>
      simp only [List.forall_mem_cons]
      exact ⟨by simp [Dialect.Allows, identifier], by simp [Dialect.Allows, comma], ih⟩

/-- The names of parameters stand among their tokens. -/
theorem Parameters.sublist {tokens names : List Token} (parameters : Parameters tokens names) :
    names.Sublist tokens := by
  induction parameters with
  | none => exact List.Sublist.refl _
  | last _ => exact List.Sublist.refl _
  | more _ _ _ ih => exact (ih.cons _).cons_cons _

/-- Signatures are the same in any dialect. -/
theorem Signature.allows {tokens names : List Token} {name : Token} (dialect : Dialect)
    (signature : Signature tokens name names) :
    ∀ token ∈ tokens, dialect.Allows token.kind := by
  obtain ⟨identifier, opening, parameters, closing, brace⟩ := signature
  simp only [List.forall_mem_cons, List.forall_mem_append]
  refine ⟨?_, ?_, parameters.allows dialect, ?_, ?_⟩ <;> simp [Dialect.Allows, *]

/-- The name of a function stands in front of its parameters. -/
theorem Signature.sublist {tokens names : List Token} {name : Token}
    (signature : Signature tokens name names) : (name :: names).Sublist tokens := by
  obtain ⟨_, _, parameters, _, _⟩ := signature
  exact ((parameters.sublist.trans (List.sublist_append_left _ _)).cons _).cons_cons _

mutual

/-- An expression has no token that its dialect does not allow. -/
theorem Expression.allows {dialect : Dialect} : ∀ {tokens : List Token} {tree : Expr},
    Expression dialect tokens tree → ∀ token ∈ tokens, dialect.Allows token.kind
  | _, _, .equality chain => chain.allows
  | _, _, .assignment assigning target sign value => by
      simp only [List.forall_mem_append, List.forall_mem_cons]
      exact ⟨target.allows, by simp [Dialect.Allows, sign, assigning], value.allows⟩

theorem Chain.allows {dialect : Dialect} : ∀ {levels : List Level} {tokens : List Token}
    {tree : Expr}, Chain dialect levels tokens tree → ∀ token ∈ tokens, dialect.Allows token.kind
  | _, _, _, .primary inner => inner.allows
  | _, _, _, .operand inner => inner.allows
  | _, _, _, .operator left member right => by
      simp only [List.forall_mem_append, List.forall_mem_cons]
      exact ⟨left.allows, Level.allows_of_mem_operators member dialect, right.allows⟩

theorem Primary.allows {dialect : Dialect} : ∀ {tokens : List Token} {tree : Expr},
    Primary dialect tokens tree → ∀ token ∈ tokens, dialect.Allows token.kind
  | _, _, .literal kind => by
      rcases kind with kind | kind <;> simp [Dialect.Allows, kind]
  | _, _, .group opening inner closing => by
      simp only [List.forall_mem_append, List.forall_mem_cons]
      exact ⟨by simp [Dialect.Allows, opening], inner.allows, by simp [Dialect.Allows, closing]⟩
  | _, _, .function word signature body closing => by
      simp only [List.forall_mem_append, List.forall_mem_cons]
      exact ⟨by simp [Dialect.Allows, word], signature.allows dialect, body.allows,
        by simp [Dialect.Allows, closing]⟩

/-- Only tokens that the dialect allows stand in a program. -/
theorem Program.allows {dialect : Dialect} : ∀ {tokens : List Token} {trees : List Expr},
    Program dialect tokens trees → ∀ token ∈ tokens, dialect.Allows token.kind
  | _, _, .empty => by simp
  | _, _, .next first rest => by
      simp only [List.forall_mem_append]
      exact ⟨first.allows, rest.allows⟩

end

/-- A primary is never empty, and its first token is a starter. -/
theorem Primary.starts {dialect : Dialect} {tokens : List Token} {tree : Expr}
    (primary : Primary dialect tokens tree) :
    ∃ token rest, tokens = token :: rest ∧ token.kind ∈ Kind.starters := by
  cases primary with
  | literal kind =>
      refine ⟨_, _, rfl, ?_⟩
      rcases kind with kind | kind <;> simp [Kind.starters, kind]
  | group opening _ _ => exact ⟨_, _, rfl, by simp [Kind.starters, opening]⟩
  | function word _ _ _ => exact ⟨_, _, rfl, by simp [Kind.starters, word]⟩

/-- A chain starts with its first primary. -/
theorem Chain.starts {dialect : Dialect} : ∀ {levels : List Level} {tokens : List Token}
    {tree : Expr}, Chain dialect levels tokens tree →
    ∃ token rest, tokens = token :: rest ∧ token.kind ∈ Kind.starters
  | _, _, _, .primary inner => inner.starts
  | _, _, _, .operand inner => inner.starts
  | _, _, _, .operator left _ _ => by
      obtain ⟨token, rest, rfl, starter⟩ := left.starts
      exact ⟨token, _, rfl, starter⟩

/-- No expression is empty. -/
theorem Expression.starts {dialect : Dialect} {tokens : List Token} {tree : Expr}
    (expression : Expression dialect tokens tree) :
    ∃ token rest, tokens = token :: rest ∧ token.kind ∈ Kind.starters := by
  cases expression with
  | equality chain => exact chain.starts
  | assignment _ target _ _ =>
      obtain ⟨token, rest, rfl, starter⟩ := target.starts
      exact ⟨token, _, rfl, starter⟩

/-- No operator of these levels comes next. -/
def Stops (levels : List Level) (tokens : List Token) : Prop :=
  ∀ level ∈ levels, Token.nextKind tokens ∉ level.operators

/-- Nothing comes next with which an expression goes on. -/
def Ends (tokens : List Token) : Prop :=
  Stops Level.all tokens ∧ Token.nextKind tokens ≠ .equal

@[simp] theorem stops_nil (tokens : List Token) : Stops [] tokens := by
  simp [Stops]

theorem stops_cons (level : Level) (tighter : List Level) (tokens : List Token) :
    Stops (level :: tighter) tokens ↔
      Token.nextKind tokens ∉ level.operators ∧ Stops tighter tokens := by
  simp [Stops]

/-- Where all levels stop, all but the first one do. -/
theorem Stops.tail {levels : List Level} {tokens : List Token} (stops : Stops levels tokens) :
    Stops levels.tail tokens :=
  fun level member => stops level (List.mem_of_mem_tail member)

/-- Each operator belongs to one level. -/
theorem stops_of_mem_operators {level : Level} {levels : List Level} {tokens : List Token}
    (member : Token.nextKind tokens ∈ level.operators) (other : level ∉ levels) :
    Stops levels tokens := by
  intro inner among belongs
  rw [← Kind.level?_eq_some_iff] at member belongs
  rw [belongs] at member
  exact other (Option.some.inj member ▸ among)

/-- An expression does not go on with a token that has no part in chains and in assignments. -/
theorem ends_of_nextKind {tokens : List Token} {kind : Kind} (same : Token.nextKind tokens = kind)
    (apart : kind.level? = none) (noSign : kind ≠ .equal) : Ends tokens := by
  subst same
  refine ⟨?_, noSign⟩
  intro level _ belongs
  rw [← Kind.level?_eq_some_iff, apart] at belongs
  cases belongs

/-- Where an expression begins, the one before it has ended. -/
theorem ends_of_starter {token : Token} (starter : token.kind ∈ Kind.starters)
    (rest : List Token) : Ends (token :: rest) := by
  simp only [Kind.starters, List.mem_cons, List.not_mem_nil, or_false] at starter
  rcases starter with kind | kind | kind | kind <;>
    exact ends_of_nextKind kind rfl (by decide)

/-- An expression ends in front of a program. -/
theorem Program.ends_append {dialect : Dialect} {tokens unread : List Token} {trees : List Expr}
    (program : Program dialect tokens trees) (ends : Ends unread) : Ends (tokens ++ unread) := by
  cases program with
  | empty => exact ends
  | next first _ =>
      obtain ⟨token, rest, rfl, starter⟩ := first.starts
      exact ends_of_starter starter _

end Grammar

end FrontEnd
