import FrontEnd.Proofs.Grammar.Rules
import FrontEnd.Proofs.Infix.Normal
import FrontEnd.Proofs.Relabel

namespace FrontEnd

namespace Level

/-- A level and the tighter ones. -/
def onward : Level → List Level
  | .equality => [.equality, .comparison, .term, .factor]
  | .comparison => [.comparison, .term, .factor]
  | .term => [.term, .factor]
  | .factor => [.factor]

/-- The levels from one on begin with it. -/
theorem onward_eq_cons (level : Level) : level.onward = level :: level.onward.tail := by
  cases level <;> rfl

/-- Of two levels the looser one goes on with the tighter one. -/
theorem onward_suffix_iff (level inner : Level) :
    inner.onward <:+ level.onward ↔ level.rank ≤ inner.rank := by
  cases level <;> cases inner <;> decide

/-- Behind a level only tighter ones stand. -/
theorem onward_suffix_tail_iff (level inner : Level) :
    inner.onward <:+ level.onward.tail ↔ level.rank < inner.rank := by
  cases level <;> cases inner <;> decide

/-- The levels from any one on are the last ones of all. -/
theorem onward_suffix_all (level : Level) : level.onward <:+ Level.all := by
  cases level <;> decide

/-- The levels behind a level in the list of all levels are the tighter ones. -/
theorem cons_eq_onward {level : Level} {tighter : List Level}
    (suffix : level :: tighter <:+ Level.all) : level :: tighter = level.onward := by
  simp only [Level.all, List.suffix_cons_iff, List.suffix_nil, List.cons.injEq, reduceCtorEq,
    or_false] at suffix
  rcases suffix with ⟨rfl, rfl⟩ | ⟨rfl, rfl⟩ | ⟨rfl, rfl⟩ | ⟨rfl, rfl⟩ <;> rfl

end Level

namespace Expr

/-- The levels of the tightest chain that an expression is. -/
def levels (tree : Expr) : List Level :=
  match tree.level? with
  | some level => level.onward
  | none => []

/-- A tree may stand on the left side of a level unless it is looser. -/
theorem levels_suffix_iff (tree : Expr) (level : Level) :
    tree.levels <:+ level.onward ↔
      ∀ inner, tree.level? = some inner → level.rank ≤ inner.rank := by
  unfold levels
  cases tree.level? with
  | none => simp
  | some inner => simp [Level.onward_suffix_iff]

/-- It may stand on the right side if it is tighter. -/
theorem levels_suffix_tail_iff (tree : Expr) (level : Level) :
    tree.levels <:+ level.onward.tail ↔
      ∀ inner, tree.level? = some inner → level.rank < inner.rank := by
  unfold levels
  cases tree.level? with
  | none => simp
  | some inner => simp [Level.onward_suffix_tail_iff]

/-- Any tree may stand where all levels are allowed. -/
theorem levels_suffix_all (tree : Expr) : tree.levels <:+ Level.all := by
  unfold levels
  cases tree.level? with
  | none => exact List.nil_suffix
  | some level => exact level.onward_suffix_all

end Expr

namespace Grammar

/-- An expression of the tighter levels is one of all levels. -/
theorem Chain.widen {dialect : Dialect} {levels tight : List Level} {tokens : List Token}
    {tree : Expr} (chain : Chain dialect tight tokens tree) (suffix : tight <:+ levels) :
    Chain dialect levels tokens tree := by
  obtain ⟨front, rfl⟩ := suffix
  induction front with
  | nil => exact chain
  | cons level front ih => exact .operand ih

end Grammar

open Grammar Token

/-- Each token has the kind that its lexeme dictates. -/
def AllSpelled (tokens : List Token) : Prop :=
  ∀ token ∈ tokens, Spells token.lexeme.toList token.kind

theorem allSpelled_cons (token : Token) (rest : List Token) :
    AllSpelled (token :: rest) ↔ Spells token.lexeme.toList token.kind ∧ AllSpelled rest :=
  List.forall_mem_cons

theorem allSpelled_append (first second : List Token) :
    AllSpelled (first ++ second) ↔ AllSpelled first ∧ AllSpelled second :=
  List.forall_mem_append

/-- A lexeme dictates one kind only. -/
theorem kind_eq_of_lexeme_eq {token : Token} {text : String} {kind : Kind}
    (spelled : Spells token.lexeme.toList token.kind) (same : token.lexeme = text)
    (dictates : Spells text.toList kind) : token.kind = kind :=
  (same ▸ spelled).unique dictates

/-- Nothing but the place tells tokens of one kind and one lexeme apart. -/
theorem unplaced_eq {first second : Token} (kinds : first.kind = second.kind)
    (lexemes : first.lexeme = second.lexeme) : first.unplaced = second.unplaced := by
  rw [unplaced, unplaced, relabel, relabel, kinds, lexemes]

/-- Parameters are read back from their lexemes with commas between them. -/
theorem exists_parameters : ∀ (names tokens : List Token),
    (∀ name ∈ names, name.kind = .identifier ∧ Spells name.lexeme.toList .identifier) →
    AllSpelled tokens → tokens.map Token.lexeme = (names.map Token.lexeme).intersperse "," →
    ∃ others, Parameters tokens others ∧ others.map unplaced = names.map unplaced
  | [], tokens, _, _, same => by
      obtain rfl : tokens = [] := by simpa using same
      exact ⟨[], .none, rfl⟩
  | [name], tokens, identifiers, spelled, same => by
      obtain ⟨token, rfl, sameName⟩ : ∃ token, tokens = [token] ∧ token.lexeme = name.lexeme := by
        simpa [List.map_eq_singleton_iff] using same
      obtain ⟨isName, spelledName⟩ := identifiers name List.mem_cons_self
      have found := spelled token List.mem_cons_self
      have isIdentifier := kind_eq_of_lexeme_eq found sameName spelledName
      have same := unplaced_eq (isIdentifier.trans isName.symm) sameName
      exact ⟨[token], .last isIdentifier, congrArg (fun other => [other]) same⟩
  | name :: second :: names, tokens, identifiers, spelled, same => by
      have comma : Spells ",".toList .comma := .lone (by decide)
      simp only [List.map_cons, List.intersperse_cons_cons, List.map_eq_cons_iff] at same
      obtain ⟨token, _, rfl, sameName, sign, rest, rfl, isComma, same⟩ := same
      simp only [allSpelled_cons] at spelled
      obtain ⟨isName, spelledName⟩ := identifiers name List.mem_cons_self
      have isIdentifier := kind_eq_of_lexeme_eq spelled.1 sameName spelledName
      obtain ⟨others, parameters, unplacedSame⟩ := exists_parameters (second :: names) rest
        (fun name member => identifiers name (List.mem_cons_of_mem _ member)) spelled.2.2 same
      have separates := kind_eq_of_lexeme_eq spelled.2.1 isComma comma
      have same := unplaced_eq (isIdentifier.trans isName.symm) sameName
      refine ⟨token :: others, .more isIdentifier separates parameters, ?_⟩
      rw [List.map_cons, unplacedSame, same]
      rfl

/-- Tokens with the lexemes of an expression form an expression that differs in places only. -/
def ReadsBack (tree : Expr) : Prop :=
  ∀ tokens : List Token, AllSpelled tokens → tokens.map Token.lexeme = tree.lexemes →
    ∃ other, Chain .plain tree.levels tokens other ∧ other.unplaced = tree.unplaced

/-- A tree that reads back as a chain reads back as an expression. -/
theorem ReadsBack.exists_expression {tree : Expr} (reads : ReadsBack tree) {tokens : List Token}
    (spelled : AllSpelled tokens) (same : tokens.map Token.lexeme = tree.lexemes) :
    ∃ other, Expression .plain tokens other ∧ other.unplaced = tree.unplaced := by
  obtain ⟨other, chain, unplacedSame⟩ := reads tokens spelled same
  exact ⟨other, .equality (chain.widen tree.levels_suffix_all), unplacedSame⟩

/-- Trees in a row read back as a program. -/
theorem exists_program {trees : List Expr} (reads : ∀ tree ∈ trees, ReadsBack tree) :
    ∀ tokens : List Token, AllSpelled tokens → tokens.map Token.lexeme = Expr.lexemesAll trees →
      ∃ others, Program .plain tokens others ∧
        others.map Expr.unplaced = trees.map Expr.unplaced := by
  induction trees with
  | nil =>
      intro tokens _ same
      obtain rfl : tokens = [] := by simpa [Expr.lexemesAll] using same
      exact ⟨[], .empty, rfl⟩
  | cons tree trees ih =>
      intro tokens spelled same
      rw [Expr.lexemesAll, List.map_eq_append_iff] at same
      obtain ⟨first, rest, rfl, sameFirst, sameRest⟩ := same
      rw [allSpelled_append] at spelled
      rw [List.forall_mem_cons] at reads
      obtain ⟨other, expression, unplacedFirst⟩ := reads.1.exists_expression spelled.1 sameFirst
      obtain ⟨others, program, unplacedRest⟩ := ih reads.2 rest spelled.2 sameRest
      exact ⟨other :: others, .next expression program, by simp [unplacedFirst, unplacedRest]⟩

/-- The lexeme of a literal is all that is left of its token. -/
theorem readsBack_literal {text : String}
    (dictates : Spells text.toList .number ∨ Spells text.toList .identifier) :
    ReadsBack (.literal text) := by
  intro tokens spelled same
  obtain ⟨token, rfl, sameLexeme⟩ : ∃ token, tokens = [token] ∧ token.lexeme = text := by
    simpa [Expr.lexemes, List.map_eq_singleton_iff] using same
  have found := spelled token List.mem_cons_self
  have isLiteral : token.kind = .number ∨ token.kind = .identifier :=
    dictates.imp (kind_eq_of_lexeme_eq found sameLexeme) (kind_eq_of_lexeme_eq found sameLexeme)
  exact ⟨_, .primary (.literal isLiteral), by rw [sameLexeme]⟩

/-- A group reads back between its parentheses. -/
theorem ReadsBack.group {inner : Expr} (reads : ReadsBack inner) : ReadsBack (.group inner) := by
  intro tokens spelled same
  simp only [Expr.lexemes, List.map_eq_cons_iff, List.map_eq_append_iff,
    List.map_eq_nil_iff] at same
  obtain ⟨opening, _, rfl, isOpening, between, _, rfl, same, closing, _, rfl, isClosing, rfl⟩ :=
    same
  simp only [allSpelled_cons, allSpelled_append] at spelled
  obtain ⟨spelledOpening, spelledBetween, spelledClosing, _⟩ := spelled
  obtain ⟨other, expression, unplacedSame⟩ := reads.exists_expression spelledBetween same
  have opens : opening.kind = .leftParen :=
    kind_eq_of_lexeme_eq spelledOpening isOpening (.lone (by decide))
  have closes : closing.kind = .rightParen :=
    kind_eq_of_lexeme_eq spelledClosing isClosing (.lone (by decide))
  exact ⟨.group other, .primary (.group opens expression closes),
    congrArg Expr.group unplacedSame⟩

/-- Operands of a normal tree need no brackets. -/
theorem ReadsBack.binary {left right : Expr} {operator : Token} {level : Level}
    (readsLeft : ReadsBack left) (readsRight : ReadsBack right)
    (member : operator.kind ∈ level.operators)
    (leftLevel : ∀ inner, left.level? = some inner → level.rank ≤ inner.rank)
    (rightLevel : ∀ inner, right.level? = some inner → level.rank < inner.rank)
    (operatorSpelled : Spells operator.lexeme.toList operator.kind) :
    ReadsBack (.binary left operator right) := by
  intro tokens spelled same
  simp only [Expr.lexemes, List.map_eq_cons_iff, List.map_eq_append_iff] at same
  obtain ⟨before, _, rfl, sameLeft, sign, behind, rfl, isSign, sameRight⟩ := same
  simp only [allSpelled_cons, allSpelled_append] at spelled
  obtain ⟨spelledBefore, spelledSign, spelledBehind⟩ := spelled
  obtain ⟨first, chainFirst, unplacedFirst⟩ := readsLeft before spelledBefore sameLeft
  obtain ⟨second, chainSecond, unplacedSecond⟩ := readsRight behind spelledBehind sameRight
  have kindSame := kind_eq_of_lexeme_eq spelledSign isSign operatorSpelled
  have wideFirst := chainFirst.widen ((Expr.levels_suffix_iff left level).2 leftLevel)
  have wideSecond := chainSecond.widen ((Expr.levels_suffix_tail_iff right level).2 rightLevel)
  have levelsSame : (Expr.binary left operator right).levels = level :: level.onward.tail := by
    rw [← level.onward_eq_cons, Expr.levels, Expr.level?, (Kind.level?_eq_some_iff _ _).2 member]
  refine ⟨.binary first sign second, ?_, ?_⟩
  · rw [levelsSame]
    rw [level.onward_eq_cons] at wideFirst
    exact .operator wideFirst (kindSame ▸ member) wideSecond
  · show Expr.binary first.unplaced sign.unplaced second.unplaced = _
    rw [unplacedFirst, unplaced_eq kindSame isSign, unplacedSecond]
    rfl

/-- A function reads back with its name, its parameters and its body. -/
theorem readsBack_function {name : Token} {parameters : List Token} {body : List Expr}
    (isName : name.kind = .identifier)
    (areParameters : ∀ parameter ∈ parameters, parameter.kind = .identifier)
    (nameSpelled : Spells name.lexeme.toList .identifier)
    (parametersSpelled : ∀ parameter ∈ parameters, Spells parameter.lexeme.toList .identifier)
    (reads : ∀ tree ∈ body, ReadsBack tree) : ReadsBack (.function name parameters body) := by
  intro tokens spelled same
  simp only [Expr.lexemes, List.map_eq_cons_iff, List.map_eq_append_iff,
    List.map_eq_nil_iff] at same
  obtain ⟨word, _, rfl, isWord, title, _, rfl, isTitle, opening, _, rfl, isOpening, between, _,
    rfl, sameBetween, closing, _, rfl, isClosing, brace, _, rfl, isBrace, inside, _, rfl,
    sameInside, final, _, rfl, isFinal, rfl⟩ := same
  simp only [allSpelled_cons, allSpelled_append] at spelled
  obtain ⟨spelledWord, spelledTitle, spelledOpening, spelledBetween, spelledClosing,
    spelledBrace, spelledInside, spelledFinal, _⟩ := spelled
  have identifiers : ∀ parameter ∈ parameters,
      parameter.kind = .identifier ∧ Spells parameter.lexeme.toList .identifier :=
    fun parameter member => ⟨areParameters parameter member, parametersSpelled parameter member⟩
  obtain ⟨others, parametersRead, unplacedNames⟩ :=
    exists_parameters parameters between identifiers spelledBetween sameBetween
  obtain ⟨trees, program, unplacedBody⟩ := exists_program reads inside spelledInside sameInside
  have isFunction := kind_eq_of_lexeme_eq spelledWord isWord (.keyword .funWord)
  have isIdentifier := kind_eq_of_lexeme_eq spelledTitle isTitle nameSpelled
  have opens : opening.kind = .leftParen :=
    kind_eq_of_lexeme_eq spelledOpening isOpening (.lone (by decide))
  have closes : closing.kind = .rightParen :=
    kind_eq_of_lexeme_eq spelledClosing isClosing (.lone (by decide))
  have begins : brace.kind = .leftBrace :=
    kind_eq_of_lexeme_eq spelledBrace isBrace (.lone (by decide))
  have ends : final.kind = .rightBrace :=
    kind_eq_of_lexeme_eq spelledFinal isFinal (.lone (by decide))
  have signature := Signature.intro isIdentifier opens parametersRead closes begins
  refine ⟨.function title others trees, .primary ?_, ?_⟩
  · have primary := Primary.function isFunction signature program ends
    simpa using primary
  · have titleSame := unplaced_eq (isIdentifier.trans isName.symm) isTitle
    rw [Expr.unplaced, Expr.unplaced, Expr.relabel, Expr.relabel, Expr.relabelAll_eq_map,
      Expr.relabelAll_eq_map]
    show Expr.function title.unplaced (others.map unplaced) (trees.map Expr.unplaced) = _
    rw [titleSame, unplacedNames, unplacedBody]
    rfl

/-- Every normal tree is read back from its lexemes. -/
theorem Expr.Normal.readsBack {tree : Expr} (normal : tree.Normal) (spelled : tree.Spelled) :
    ReadsBack tree := by
  induction normal with
  | literal text =>
      cases spelled with
      | literal dictates => exact readsBack_literal dictates
  | group _ ih =>
      cases spelled with
      | group inner => exact (ih inner).group
  | binary member leftLevel rightLevel _ _ ihLeft ihRight =>
      cases spelled with
      | binary operator left right =>
          exact (ihLeft left).binary (ihRight right) member leftLevel rightLevel operator
  | function isName areParameters _ ih =>
      cases spelled with
      | function name parameters body =>
          exact readsBack_function isName areParameters name parameters
            fun tree member => ih tree member (body tree member)

end FrontEnd
