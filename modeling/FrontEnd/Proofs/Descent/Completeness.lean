import FrontEnd.Proofs.Descent.Result
import FrontEnd.Proofs.Grammar.Words

namespace FrontEnd

open Parse Token Grammar

namespace Parse

/-- An outcome is the one that is expected. Where assignments are allowed, one of them may have been
refused instead. -/
def Comes {α : Type} (dialect : Dialect) (outcome expected : Except Refusal α) : Prop :=
  outcome = expected ∨ dialect = .assigning ∧
    ∃ refusal, outcome = .error refusal ∧ refusal.error.fault = .invalidTarget

variable {α β : Type} {dialect : Dialect}

theorem Comes.refl (outcome : Except Refusal α) : Comes dialect outcome outcome := .inl rfl

/-- Without assignments an outcome comes to another one only if it is the same. -/
theorem comes_plain_iff (outcome expected : Except Refusal α) :
    Comes .plain outcome expected ↔ outcome = expected := by
  simp [Comes]

/-- Readings in a row come to what they come to one by one. -/
theorem Comes.bind {outcome : Except Refusal α} {value : α} {next : α → Except Refusal β}
    {expected : Except Refusal β} (first : Comes dialect outcome (.ok value))
    (second : Comes dialect (next value) expected) :
    Comes dialect (outcome.bind next) expected := by
  rcases first with rfl | ⟨assigning, refusal, rfl, fault⟩
  · exact second
  · exact .inr ⟨assigning, refusal, rfl, fault⟩

/-- An outcome comes to whatever its expected outcome comes to. -/
theorem Comes.trans {first second third : Except Refusal α} (one : Comes dialect first second)
    (other : Comes dialect second third) : Comes dialect first third := by
  rcases one with rfl | refused
  · exact other
  · exact .inr refused

/-- A change of the value leaves what an outcome comes to alone. -/
theorem Comes.map {outcome expected : Except Refusal α} (f : α → β)
    (comes : Comes dialect outcome expected) :
    Comes dialect (outcome.map f) (expected.map f) := by
  rcases comes with rfl | ⟨assigning, refusal, rfl, fault⟩
  · exact .refl _
  · exact .inr ⟨assigning, refusal, rfl, fault⟩

/-- What remains of a chain when its left part has been read. -/
def resume : (levels : List Level) → (left : Expr) → List Token →
    Except Refusal (Expr × List Token)
  | [], left, tokens => .ok (left, tokens)
  | level :: tighter, left, tokens => result (chainFrom left level tighter tokens)

/-- Reading goes on nowhere in front of tokens at which all levels stop. -/
theorem resume_of_stops {levels : List Level} {tokens : List Token} (left : Expr)
    (stops : Stops levels tokens) : resume levels left tokens = .ok (left, tokens) := by
  cases levels with
  | nil => rfl
  | cons level tighter =>
      have apart := ((stops_cons level tighter tokens).1 stops).1
      rw [← Kind.level?_eq_some_iff] at apart
      exact result_chainFrom_of_ne left tighter apart

/-- A reading that succeeds hands its value on. -/
theorem bind_of_ok {outcome : Except Refusal α} {value : α} (ok : outcome = .ok value)
    (next : α → Except Refusal β) : outcome.bind next = next value := by
  rw [ok]
  rfl

end Parse

namespace Grammar

variable {dialect : Dialect}

/-- No token with which an expression begins is a token that closes a list of expressions. -/
theorem closes_eq_false {closer : Kind} (notStarter : closer ∉ Kind.starters) {token : Token}
    (starter : token.kind ∈ Kind.starters) (rest : List Token) :
    closes closer (token :: rest) = false := by
  rw [Bool.eq_false_iff, ne_eq, closes_iff]
  intro closed
  obtain same | same := closed
  · exact notStarter (same ▸ starter)
  · rw [nextKind_cons] at same
    simp [same, Kind.starters] at starter

/-- Parameters that the grammar allows are read in front of a closing parenthesis. -/
theorem Parameters.result_parameters {tokens names : List Token}
    (parameters : Parameters tokens names) (unread : List Token)
    (closed : nextKind unread = .rightParen) :
    result (Parse.parameters (tokens ++ unread)) = .ok (names, unread) := by
  have closes_unread : closes .rightParen unread = true := (closes_iff ..).2 (.inl closed)
  have isName {name : Token} (identifier : name.kind = .identifier) (rest : List Token) :
      closes .rightParen (name :: rest) = false :=
    closes_eq_false (by decide) (by simp [identifier, Kind.starters]) rest
  induction parameters with
  | none => exact result_parameters_of_closes closes_unread
  | @last name identifier =>
      have noComma : nextKind unread ≠ .comma := by simp [closed]
      rw [List.singleton_append, result_parameters_of_open (isName identifier unread),
        bind_of_ok (result_expect_of_kind unread identifier)]
      exact afterName_of_ne name noComma
  | @more name comma rest names identifier isComma _ ih =>
      rw [List.cons_append, List.cons_append, result_parameters_of_open (isName identifier _),
        bind_of_ok (result_expect_of_kind _ identifier), afterName_cons name isComma, ih]
      rfl

/-- A signature that the grammar allows is read whatever stands behind it. -/
theorem Signature.result_signature {tokens names : List Token} {name : Token}
    (signature : Signature tokens name names) (unread : List Token) :
    result (Parse.signature (tokens ++ unread)) = .ok ((name, names), unread) := by
  cases signature with
  | @intro _ opening closing brace between _ identifier opens parameters closes braces =>
      have same : name :: opening :: (between ++ [closing, brace]) ++ unread =
          name :: opening :: (between ++ closing :: brace :: unread) := by simp
      have parametersRead := parameters.result_parameters (closing :: brace :: unread) closes
      rw [same, Parse.result_signature, bind_of_ok (result_expect_of_kind _ identifier),
        bind_of_ok (result_expect_of_kind _ opens), bind_of_ok parametersRead,
        bind_of_ok (result_expect_of_kind _ closes), bind_of_ok (result_expect_of_kind _ braces)]

mutual

/-- An expression of the grammar is read in front of any tokens that can end it. -/
theorem Expression.comes : ∀ {tokens : List Token} {tree : Expr},
    Expression dialect tokens tree → ∀ {unread : List Token}, Ends unread →
      Comes dialect (result (expression (tokens ++ unread))) (.ok (tree, unread))
  | _, tree, .equality chain, unread, ends => by
      have target := chain.comes (by decide) ends.1.tail
      rw [resume_of_stops tree ends.1] at target
      rw [result_expression]
      apply target.bind
      show Comes dialect (afterTarget tree unread) _
      rw [afterTarget_of_ne tree ends.2]
      exact .refl _
  | _, tree, @Expression.assignment _ target value sign _ other assigning chain isSign behind,
      unread, ends => by
      have stops : Stops Level.all (sign :: (value ++ unread)) := by
        intro level _
        cases level <;> simp [isSign, Level.operators]
      have targetRead := chain.comes (by decide) stops.tail
      rw [resume_of_stops tree stops] at targetRead
      have same : target ++ sign :: value ++ unread = target ++ sign :: (value ++ unread) := by
        simp
      rw [same, result_expression]
      apply targetRead.bind
      show Comes dialect (afterTarget tree (sign :: (value ++ unread))) _
      rw [afterTarget_cons tree isSign]
      rcases behind.comes ends with valueRead | ⟨_, refusal, refused, fault⟩
      · rw [bind_of_ok valueRead]
        exact .inr ⟨assigning, _, rfl, rfl⟩
      · rw [refused]
        exact .inr ⟨assigning, refusal, rfl, fault⟩

/-- A chain of the grammar is read where its tighter levels stop, and reading goes on behind it. -/
theorem Chain.comes : ∀ {levels : List Level} {tokens : List Token} {tree : Expr},
    Chain dialect levels tokens tree → levels.Nodup → ∀ {unread : List Token},
      Stops levels.tail unread →
        Comes dialect (result (chain levels (tokens ++ unread))) (resume levels tree unread)
  | _, _, _, .primary inner, _, unread, _ => by
      rw [result_chain_nil]
      exact inner.comes unread
  | _, _, tree, @Chain.operand _ level tighter _ _ inner, distinct, unread, stops => by
      have operandRead := inner.comes distinct.of_cons stops.tail
      rw [resume_of_stops tree (show Stops tighter unread from stops)] at operandRead
      rw [result_chain_cons]
      exact operandRead.bind (.refl _)
  | _, _, _, @Chain.operator _ level tighter before behind operator left right isLeft member
      isRight, distinct, unread, stops => by
      have apart : Stops tighter (operator :: (behind ++ unread)) :=
        stops_of_mem_operators member (List.nodup_cons.1 distinct).1
      have leftRead := isLeft.comes distinct apart
      have rightRead := isRight.comes distinct.of_cons stops.tail
      rw [resume_of_stops right (show Stops tighter unread from stops)] at rightRead
      have same : before ++ operator :: behind ++ unread =
          before ++ operator :: (behind ++ unread) := by simp
      rw [same]
      apply leftRead.trans
      rw [resume, result_chainFrom_cons _ _ ((Kind.level?_eq_some_iff ..).2 member)]
      exact rightRead.bind (.refl _)

/-- A primary of the grammar is read whatever stands behind it. -/
theorem Primary.comes : ∀ {tokens : List Token} {tree : Expr},
    Primary dialect tokens tree → ∀ (unread : List Token),
      Comes dialect (result (primary (tokens ++ unread))) (.ok (tree, unread))
  | _, _, .literal kind, unread => by
      rw [List.singleton_append, result_primary_of_literal kind]
      exact .refl _
  | _, _, @Primary.group _ opening closing tokens tree opens inner closes, unread => by
      have same : opening :: (tokens ++ [closing]) ++ unread =
          opening :: (tokens ++ closing :: unread) := by simp
      have ends : Ends (closing :: unread) := ends_of_nextKind closes rfl (by decide)
      rw [same, result_primary_of_leftParen opens]
      apply (inner.comes ends).bind
      rw [bind_of_ok (result_expect_of_kind _ closes)]
      exact .refl _
  | _, _, @Primary.function _ word name closing head names tokens body isFunction signature program
      closes, unread => by
      have same : word :: (head ++ (tokens ++ [closing])) ++ unread =
          word :: (head ++ (tokens ++ closing :: unread)) := by simp
      have ends : Ends (closing :: unread) := ends_of_nextKind closes rfl (by decide)
      have closed : Parse.closes .rightBrace (closing :: unread) = true :=
        (closes_iff ..).2 (.inl closes)
      have bodyRead := program.comes .rightBrace (by decide) ends
      rw [result_sequence_of_closes closed, Except.map, List.append_nil] at bodyRead
      have blockRead : Comes dialect (result (block (tokens ++ closing :: unread)))
          (.ok (body, unread)) := by
        rw [result_block]
        apply bodyRead.bind
        rw [bind_of_ok (result_expect_of_kind _ closes)]
        exact .refl _
      rw [same, result_primary_of_funWord isFunction, result_function,
        bind_of_ok (signature.result_signature _)]
      exact blockRead.bind (.refl _)

/-- A program is read with what stands behind it in the same list of expressions. -/
theorem Program.comes : ∀ {tokens : List Token} {trees : List Expr},
    Program dialect tokens trees → ∀ (closer : Kind) {unread : List Token},
      closer ∉ Kind.starters → Ends unread →
        Comes dialect (result (sequence closer (tokens ++ unread)))
          ((result (sequence closer unread)).map fun later => (trees ++ later.1, later.2))
  | _, _, .empty, closer, unread, notStarter, ends => by
      cases outcome : result (sequence closer unread) <;> simp [outcome, Except.map, Comes.refl]
  | _, _, @Program.next _ tokens rest tree trees first later, closer, unread, notStarter, ends => by
      have starts : closes closer (tokens ++ (rest ++ unread)) = false := by
        obtain ⟨token, more, rfl, starter⟩ := first.starts
        exact closes_eq_false notStarter starter _
      have firstRead := first.comes (later.ends_append ends)
      have laterRead := (later.comes closer notStarter ends).map
        fun pair => (tree :: pair.1, pair.2)
      rw [List.append_assoc, result_sequence_of_open starts]
      apply (firstRead.bind laterRead).trans
      cases outcome : result (sequence closer unread) <;> simp [Except.map, Comes.refl]

end

end Grammar

end FrontEnd
