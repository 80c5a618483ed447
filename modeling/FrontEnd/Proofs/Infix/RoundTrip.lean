import FrontEnd.Proofs.Grammar.Acceptance
import FrontEnd.Proofs.Infix.ReadBack
import FrontEnd.Proofs.Token.MaximalMunch

namespace FrontEnd

open Grammar Token

/-- No token goes on into a gap of blanks, or beyond the end. -/
theorem Kind.not_extends_of_gap (kind : Kind) {gap : List Char} (rest : List Char)
    (blank : ∀ character ∈ gap, isBlank character = true) (nonempty : gap ≠ [] ∨ rest = []) :
    ∀ character ∈ (gap ++ rest).head?, ¬ kind.Extends character := by
  cases gap with
  | nil =>
      obtain rfl : rest = [] := nonempty.resolve_left (absurd rfl)
      simp
  | cons first more =>
      intro character next
      obtain rfl : first = character := by simpa using next
      exact kind.not_extends_of_isBlank (blank first List.mem_cons_self)

/-- Lexemes with blanks between them are cut where they have been put together. -/
theorem Spaced.exists_cut {lexemes : List String} {text : List Char}
    (spaced : Spaced lexemes text)
    (spelled : ∀ lexeme ∈ lexemes, ∃ kind, Spells lexeme.toList kind) :
    ∃ lexed, Cut text lexed ∧ lexed.map Prod.snd = lexemes := by
  induction spaced with
  | none blank => exact ⟨[], .blanks blank, rfl⟩
  | @last before behind lexeme blankBefore blankBehind =>
      obtain ⟨kind, spells⟩ := spelled lexeme List.mem_cons_self
      have ends := kind.not_extends_of_gap [] blankBehind (.inr rfl)
      rw [List.append_nil] at ends
      exact ⟨_, .lexeme blankBefore spells ends (.blanks blankBehind), by simp⟩
  | @more before gap rest first second lexemes blankBefore blankGap nonempty _ ih =>
      rw [List.forall_mem_cons] at spelled
      obtain ⟨kind, spells⟩ := spelled.1
      obtain ⟨lexed, cut, same⟩ := ih spelled.2
      have ends := kind.not_extends_of_gap rest blankGap (.inl nonempty)
      have behind := cut.append_of_blanks blankGap
      exact ⟨_, .lexeme blankBefore spells ends behind, by simp [same]⟩

namespace Expr

theorem lexemesAll_eq_flatMap (trees : List Expr) :
    lexemesAll trees = trees.flatMap lexemes := by
  induction trees with
  | nil => rfl
  | cons first rest ih => rw [lexemesAll, ih, List.flatMap_cons]

end Expr

/-- What stands in an interspersed list is an entry of it or stands between entries. -/
theorem mem_of_mem_intersperse {entry between : String} :
    ∀ {entries : List String}, entry ∈ entries.intersperse between → entry ∈ between :: entries
  | [], member => by simp at member
  | [_], member => List.mem_cons_of_mem _ member
  | first :: second :: entries, member => by
      simp only [List.intersperse_cons_cons, List.mem_cons] at member
      rcases member with same | same | member
      · simp [same]
      · simp [same]
      · have later := mem_of_mem_intersperse member
        simp only [List.mem_cons] at later ⊢
        tauto

/-- Every lexeme of a tree has a kind. -/
theorem Expr.Spelled.exists_spells {tree : Expr} (spelled : tree.Spelled) :
    ∀ lexeme ∈ tree.lexemes, ∃ kind, Spells lexeme.toList kind := by
  have lone (sign : Char) (kind : Kind) (member : (sign, kind) ∈ Kind.loneSigns) :
      ∃ kind, Spells [sign] kind := ⟨kind, .lone member⟩
  induction spelled with
  | literal dictates =>
      simp only [lexemes, List.forall_mem_singleton]
      exact dictates.elim (fun number => ⟨_, number⟩) (fun identifier => ⟨_, identifier⟩)
  | group _ ih =>
      simp only [lexemes, List.forall_mem_cons, List.forall_mem_append]
      exact ⟨lone '(' .leftParen (by decide), ih, lone ')' .rightParen (by decide), by simp⟩
  | binary operator _ _ ihLeft ihRight =>
      simp only [lexemes, List.forall_mem_cons, List.forall_mem_append]
      exact ⟨ihLeft, ⟨_, operator⟩, ihRight⟩
  | function name parameters _ ih =>
      simp only [lexemes, lexemesAll_eq_flatMap, List.forall_mem_cons, List.forall_mem_append]
      refine ⟨⟨_, .keyword .funWord⟩, ⟨_, name⟩, lone '(' .leftParen (by decide), ?_,
        lone ')' .rightParen (by decide), lone '\x7b' .leftBrace (by decide), ?_,
        lone '\x7d' .rightBrace (by decide), by simp⟩
      · intro lexeme member
        rcases List.mem_cons.1 (mem_of_mem_intersperse member) with comma | parameter
        · subst comma
          exact lone ',' .comma (by decide)
        · obtain ⟨token, among, same⟩ := List.mem_map.1 parameter
          subst same
          exact ⟨_, parameters token among⟩
      · intro lexeme member
        obtain ⟨tree, among, inside⟩ := List.mem_flatMap.1 member
        exact ih tree among lexeme inside

namespace Grammar

/-- All parameters are identifiers. -/
theorem Parameters.isIdentifier {tokens names : List Token} (parameters : Parameters tokens names) :
    ∀ name ∈ names, name.kind = .identifier := by
  induction parameters with
  | none => simp
  | last identifier => simpa using identifier
  | more identifier _ _ ih => exact List.forall_mem_cons.2 ⟨identifier, ih⟩

theorem Signature.isIdentifier {tokens names : List Token} {name : Token}
    (signature : Signature tokens name names) :
    ∀ other ∈ name :: names, other.kind = .identifier := by
  obtain ⟨identifier, _, parameters, _, _⟩ := signature
  exact List.forall_mem_cons.2 ⟨identifier, parameters.isIdentifier⟩

variable {dialect : Dialect}

mutual

/-- An expression that has been read is normal, and spelled as its tokens are. -/
theorem Expression.normal : ∀ {tokens : List Token} {tree : Expr},
    Expression dialect tokens tree → AllSpelled tokens → tree.Normal ∧ tree.Spelled
  | _, _, .equality chain, spelled => by
      obtain ⟨normal, treeSpelled, _⟩ := chain.normal spelled List.suffix_rfl
      exact ⟨normal, treeSpelled⟩
  | _, _, .assignment _ target _ _, spelled => by
      obtain ⟨normal, treeSpelled, _⟩ :=
        target.normal ((allSpelled_append _ _).1 spelled).1 List.suffix_rfl
      exact ⟨normal, treeSpelled⟩

/-- The levels of a tree are among those of its chain. -/
theorem Chain.normal : ∀ {levels : List Level} {tokens : List Token} {tree : Expr},
    Chain dialect levels tokens tree → AllSpelled tokens → levels <:+ Level.all →
      tree.Normal ∧ tree.Spelled ∧ tree.levels <:+ levels
  | _, _, _, .primary inner, spelled, _ => by
      obtain ⟨normal, treeSpelled, noLevel⟩ := inner.normal spelled
      refine ⟨normal, treeSpelled, ?_⟩
      rw [Expr.levels, noLevel]
  | _, _, _, .operand inner, spelled, suffix => by
      obtain ⟨normal, treeSpelled, among⟩ :=
        inner.normal spelled ((List.suffix_cons _ _).trans suffix)
      exact ⟨normal, treeSpelled, among.trans (List.suffix_cons _ _)⟩
  | _, _, _, @Chain.operator _ level tighter _ _ operator left right isLeft member isRight, spelled,
      suffix => by
      simp only [allSpelled_append, allSpelled_cons] at spelled
      obtain ⟨spelledLeft, spelledOperator, spelledRight⟩ := spelled
      obtain ⟨normalLeft, treeLeft, amongLeft⟩ := isLeft.normal spelledLeft suffix
      obtain ⟨normalRight, treeRight, amongRight⟩ :=
        isRight.normal spelledRight ((List.suffix_cons _ _).trans suffix)
      have onward := Level.cons_eq_onward suffix
      obtain rfl : tighter = level.onward.tail := by rw [← onward, List.tail_cons]
      rw [onward, Expr.levels_suffix_iff] at amongLeft
      rw [Expr.levels_suffix_tail_iff] at amongRight
      refine ⟨.binary member amongLeft amongRight normalLeft normalRight,
        .binary spelledOperator treeLeft treeRight, ?_⟩
      have found := (Kind.level?_eq_some_iff operator.kind level).2 member
      rw [Expr.levels, Expr.level?, found, onward]

/-- A primary is normal, and has no level that could be too loose. -/
theorem Primary.normal : ∀ {tokens : List Token} {tree : Expr},
    Primary dialect tokens tree → AllSpelled tokens →
      tree.Normal ∧ tree.Spelled ∧ tree.level? = none
  | _, _, @Primary.literal _ token kind, spelled => by
      have dictates := spelled token List.mem_cons_self
      rcases kind with isNumber | isIdentifier
      · exact ⟨.literal _, .literal (.inl (isNumber ▸ dictates)), rfl⟩
      · exact ⟨.literal _, .literal (.inr (isIdentifier ▸ dictates)), rfl⟩
  | _, _, .group _ inner _, spelled => by
      simp only [allSpelled_append, allSpelled_cons] at spelled
      obtain ⟨normal, treeSpelled⟩ := inner.normal spelled.2.1
      exact ⟨.group normal, .group treeSpelled, rfl⟩
  | _, _, @Primary.function _ _ name _ head names _ body _ signature program _, spelled => by
      simp only [allSpelled_append, allSpelled_cons] at spelled
      obtain ⟨_, spelledHead, spelledBody, _⟩ := spelled
      have inner := program.normal spelledBody
      have identifiers := signature.isIdentifier
      have dictates : ∀ other ∈ name :: names, Spells other.lexeme.toList .identifier := by
        intro other member
        have kind := identifiers other member
        exact kind ▸ spelledHead other (signature.sublist.subset member)
      rw [List.forall_mem_cons] at identifiers dictates
      exact ⟨.function identifiers.1 identifiers.2 fun tree member => (inner tree member).1,
        .function dictates.1 dictates.2 fun tree member => (inner tree member).2, rfl⟩

theorem Program.normal : ∀ {tokens : List Token} {trees : List Expr},
    Program dialect tokens trees → AllSpelled tokens → ∀ tree ∈ trees, tree.Normal ∧ tree.Spelled
  | _, _, .empty, _ => by simp
  | _, _, .next first rest, spelled => by
      rw [allSpelled_append] at spelled
      exact List.forall_mem_cons.2 ⟨first.normal spelled.1, rest.normal spelled.2⟩

end

end Grammar

/-- What is scanned is spelled as its kinds dictate. -/
theorem allSpelled_visible_scan (source : String) : AllSpelled (visible (scan source)) :=
  fun _ member => spells_of_mem_visible_scan member

/-- A text of normal trees is read back as these trees. -/
theorem exists_ofTokens_of_spaced {trees : List Expr} (normal : ∀ tree ∈ trees, tree.Normal)
    (spelled : ∀ tree ∈ trees, tree.Spelled) {source : String}
    (spaced : Spaced (Expr.lexemesAll trees) source.toList) :
    ∃ others, Expr.ofTokens (scan source) = .ok others ∧
      others.map Expr.unplaced = trees.map Expr.unplaced := by
  have kinds : ∀ lexeme ∈ Expr.lexemesAll trees, ∃ kind, Spells lexeme.toList kind := by
    rw [Expr.lexemesAll_eq_flatMap]
    intro lexeme member
    obtain ⟨tree, among, inside⟩ := List.mem_flatMap.1 member
    exact (spelled tree among).exists_spells lexeme inside
  obtain ⟨lexed, cut, same⟩ := spaced.exists_cut kinds
  have contents := (scan_of_cut cut).2
  have lexemes : (visible (scan source)).map Token.lexeme = Expr.lexemesAll trees := by
    rw [← same, ← contents, List.map_map]
    rfl
  obtain ⟨others, program, unplacedSame⟩ := exists_program
    (fun tree among => (normal tree among).readsBack (spelled tree among))
    (visible (scan source)) (allSpelled_visible_scan source) lexemes
  exact ⟨others, ofTokens_of_program program, unplacedSame⟩

/-- The trees that are read from texts are the normal trees. Any text in which their lexemes stand
in order, with blanks between them, is read back as the same trees with other places. -/
theorem ofTokens_scan_round_trip :
    (∀ (trees : List Expr) (source : String),
      (∀ tree ∈ trees, tree.Normal ∧ tree.Spelled) →
      Spaced (Expr.lexemesAll trees) source.toList →
      ∃ others, Expr.ofTokens (scan source) = .ok others ∧
        others.map Expr.unplaced = trees.map Expr.unplaced) ∧
    ∀ (source : String) (trees : List Expr), Expr.ofTokens (scan source) = .ok trees →
      ∀ tree ∈ trees, tree.Normal ∧ tree.Spelled := by
  constructor
  · intro trees source fine spaced
    exact exists_ofTokens_of_spaced (fun tree among => (fine tree among).1)
      (fun tree among => (fine tree among).2) spaced
  · intro source trees parsed
    exact (program_of_ofTokens parsed .plain).normal (allSpelled_visible_scan source)

/-- A product on the right side of a difference, over two lines. -/
theorem ofTokens_scan_round_trip_difference :
    let product : Expr := .binary (.literal "b") ⟨.star, "*", .start⟩ (.literal "2")
    let tree : Expr := .binary (.literal "a") ⟨.minus, "-", .start⟩ product
    let source := "a -\n b * 2 "
    (∀ member ∈ [tree], member.Normal ∧ member.Spelled) ∧
      Spaced (Expr.lexemesAll [tree]) source.toList ∧
      ∃ others, Expr.ofTokens (scan source) = .ok others ∧
        others.map Expr.unplaced = [tree].map Expr.unplaced ∧
        ∀ other ∈ others, other.Normal ∧ other.Spelled := by
  intro product tree source
  have normal : tree.Normal := by
    have factor : Kind.star ∈ Level.factor.operators := by decide
    have term : Kind.minus ∈ Level.term.operators := by decide
    refine .binary term nofun ?_ (.literal _)
      (.binary factor nofun nofun (.literal _) (.literal _))
    intro inner found
    cases found
    decide
  have spelled : tree.Spelled := by
    have longer (keyword : Keyword) : keyword.spelling.toList.length ≠ 1 := by
      cases keyword <;> decide
    have name (word : Char) (start : isWordStart word = true) : Spells [word] .identifier :=
      .identifier start nofun fun keyword same => longer keyword (congrArg List.length same)
    have star : Spells ['*'] .star := .lone (by decide)
    have minus : Spells ['-'] .minus := .lone (by decide)
    have two : Spells ['2'] .number := .number (by decide) (List.all_eq_true.1 (by decide))
    exact .binary minus (.literal (.inr (name 'a' (by decide))))
      (.binary star (.literal (.inr (name 'b' (by decide)))) (.literal (.inl two)))
  have spaced : Spaced (Expr.lexemesAll [tree]) source.toList := by
    have text : source.toList = [] ++ ("a".toList ++ ([' '] ++ ([] ++ ("-".toList ++
        (['\n', ' '] ++ ([] ++ ("b".toList ++ ([' '] ++ ([] ++ ("*".toList ++ ([' '] ++
        ([] ++ ("2".toList ++ [' ']))))))))))))) := by
      simp only [source]
      decide
    have lexemes : Expr.lexemesAll [tree] = ["a", "-", "b", "*", "2"] := by
      simp [tree, product, Expr.lexemesAll, Expr.lexemes]
    rw [text, lexemes]
    have noGap : ∀ character ∈ ([] : List Char), isBlank character = true := by simp
    have space : ∀ character ∈ [' '], isBlank character = true := by simp [isBlank]
    have newLine : ∀ character ∈ ['\n', ' '], isBlank character = true := by simp [isBlank]
    apply Spaced.more noGap space (List.cons_ne_nil _ _)
    apply Spaced.more noGap newLine (List.cons_ne_nil _ _)
    apply Spaced.more noGap space (List.cons_ne_nil _ _)
    apply Spaced.more noGap space (List.cons_ne_nil _ _)
    exact .last noGap space
  have fine : ∀ member ∈ [tree], member.Normal ∧ member.Spelled := by
    simpa using ⟨normal, spelled⟩
  obtain ⟨others, parsed, same⟩ := ofTokens_scan_round_trip.1 [tree] source fine spaced
  exact ⟨fine, spaced, others, parsed, same, ofTokens_scan_round_trip.2 source others parsed⟩

end FrontEnd
