import FrontEnd.Proofs.Descent.Plan
import FrontEnd.Proofs.Descent.Soundness
import Mathlib.Logic.Relation

namespace FrontEnd

namespace Token

/-- From some tokens others are reached without an end in between. -/
def Reaches (tokens unread : List Token) : Prop :=
  ∃ read, tokens = read ++ unread ∧ ∀ token ∈ read, token.kind ≠ .eof

namespace Reaches

variable {tokens unread rest : List Token}

theorem refl (tokens : List Token) : Reaches tokens tokens := ⟨[], rfl, nofun⟩

theorem trans (first : Reaches tokens unread) (second : Reaches unread rest) :
    Reaches tokens rest := by
  obtain ⟨read, rfl, solid⟩ := first
  obtain ⟨more, rfl, solid'⟩ := second
  exact ⟨read ++ more, (List.append_assoc ..).symm, List.forall_mem_append.2 ⟨solid, solid'⟩⟩

theorem tail {token : Token} (solid : token.kind ≠ .eof) (tokens : List Token) :
    Reaches (token :: tokens) tokens :=
  ⟨[token], rfl, List.forall_mem_singleton.2 solid⟩

end Reaches

/-- There is no end among the first visible tokens. -/
theorem ne_eof_of_mem_take {tokens : List Token} {place : Nat}
    (inside : place ≤ (visible tokens).length) : ∀ token ∈ tokens.take place, token.kind ≠ .eof := by
  intro token member
  obtain ⟨rest, same, _⟩ := exists_visible_append tokens
  rw [same, List.take_append_of_le_length inside] at member
  simpa using List.mem_takeWhile_imp (List.mem_of_mem_take member)

/-- What is reached from a place in front of the end is a later place in front of the end. -/
theorem Reaches.exists_drop {tokens unread : List Token} {place : Nat}
    (reaches : Reaches (tokens.drop place) unread) (inside : place ≤ (visible tokens).length) :
    ∃ stop, unread = tokens.drop stop ∧ place ≤ stop ∧ stop ≤ (visible tokens).length := by
  obtain ⟨read, same, solid⟩ := reaches
  refine ⟨place + read.length, ?_, Nat.le_add_right .., ?_⟩
  · rw [← List.drop_drop, same, List.drop_left]
  · have split : tokens = (tokens.take place ++ read) ++ unread := by
      rw [List.append_assoc, ← same, List.take_append_drop]
    have front : (tokens.take place).length = place :=
      List.length_take_of_le (inside.trans (List.takeWhile_prefix _).length_le)
    have whole := visible_append_of_solid
      (List.forall_mem_append.2 ⟨ne_eof_of_mem_take inside, solid⟩) unread
    rw [← split] at whole
    rw [whole, List.length_append, List.length_append, front]
    exact Nat.le_add_right ..

/-- The first end is the only one that is reached. -/
theorem Reaches.eq_drop {tokens unread : List Token} (reaches : Reaches tokens unread)
    (ends : nextKind unread = .eof) : unread = tokens.drop (visible tokens).length := by
  obtain ⟨read, rfl, solid⟩ := reaches
  rw [visible_append solid ends, List.drop_left]

end Token

namespace Parse

open Token

/-- To enter a rule at some tokens. -/
structure Call where
  rule : Rule
  tokens : List Token

/-- A plan calls for a rule if it enters the rule when all rules in front of it have ended. -/
inductive Plan.Calls : {α : Type} → Plan α → Call → Prop
  | first {α : Type} {rule : Rule} {tokens : List Token}
      {next : rule.Value → List Token → Plan α} : Calls (.enter rule tokens next) ⟨rule, tokens⟩
  | later {α : Type} {rule : Rule} {tokens : List Token}
      {next : rule.Value → List Token → Plan α} {value : rule.Value} {unread : List Token}
      {call : Call} :
      (rule.body tokens).Finishes (.ok (value, unread)) → Calls (next value unread) call →
      Calls (.enter rule tokens next) call

/-- A call enters another one on its way. -/
def Call.Enters (call inner : Call) : Prop := (call.rule.body call.tokens).Calls inner

/-- A loop may have nothing to do. -/
def Rule.isLoop : Rule → Bool
  | .chainFrom .. | .parameters | .sequence _ => true
  | _ => false

/-- Rules that enter one another at the same tokens do so in the order of their ranks. -/
def Rule.rank : Rule → Nat
  | .expect _ => 0
  | .parameters => 1
  | .signature => 2
  | .function => 3
  | .primary => 4
  | .chain levels => levels.length + 5
  | .chainFrom _ _ tighter => tighter.length + 6
  | .expression => 10
  | .sequence _ => 11
  | .block => 12

namespace Call

/-- A token outweighs the difference of two ranks. -/
def size (call : Call) : Nat := 16 * call.tokens.length + call.rule.rank

/-- A call with a value leaves fewer tokens than this unread. -/
def bound (call : Call) : Nat := call.tokens.length + call.rule.isLoop.toNat

/-- What a call may come to when it has got to some of its tokens. -/
structure Allows {α : Type} (call : Call) (tokens : List Token)
    (outcome : Except Refusal (α × List Token)) : Prop where
  reaches : Reaches tokens (behind outcome)
  shorter : ∀ value unread, outcome = .ok (value, unread) → unread.length < call.bound

end Call

/-- A plan of a call that has got to some of its tokens moves on from there. -/
def Plan.Fits {α : Type} (call : Call) : List Token → Plan α → Prop
  | tokens, .done outcome => call.Allows tokens outcome
  | tokens, .enter rule later next =>
      Reaches tokens later ∧ Call.size ⟨rule, later⟩ < call.size ∧
        ∀ value unread, Reaches later unread → unread.length < Call.bound ⟨rule, later⟩ →
          Fits call unread (next value unread)

section

variable {call : Call} {tokens unread : List Token}

/-- A call may yield a value once it has got far enough. -/
theorem Call.allows_yield {α : Type} (value : α) (reaches : Reaches tokens unread)
    (shorter : unread.length < call.bound) : call.Allows tokens (.ok (value, unread)) where
  reaches := reaches
  shorter _ _ same := by
    cases same
    exact shorter

/-- A call may be refused wherever it has got to. -/
theorem Call.allows_refusal {α : Type} (error : ParseError) :
    call.Allows (α := α) tokens (.error ⟨error, tokens⟩) where
  reaches := .refl tokens
  shorter := nofun

/-- A call may end as another one does. -/
theorem Plan.fits_follow {rule : Rule} (reaches : Reaches tokens unread)
    (smaller : Call.size ⟨rule, unread⟩ < call.size)
    (within : Call.bound ⟨rule, unread⟩ ≤ call.bound) :
    (Plan.follow rule unread).Fits call tokens :=
  ⟨reaches, smaller, fun value rest _ shorter =>
    Call.allows_yield value (.refl rest) (Nat.lt_of_lt_of_le shorter within)⟩

end

/-- With fewer tokens left, any rank that is at most fifteen ranks higher may be entered. -/
theorem Call.size_lt_of_fewer {rule inner : Rule} {tokens later : List Token}
    (fewer : later.length < tokens.length) (near : inner.rank < rule.rank + 16) :
    Call.size ⟨inner, later⟩ < Call.size ⟨rule, tokens⟩ := by
  simp only [size]
  omega

/-- A call of lower rank is smaller even if it begins at the same tokens. -/
theorem Call.size_lt_of_rank {rule inner : Rule} {tokens later : List Token}
    (within : later.length ≤ tokens.length) (lower : inner.rank < rule.rank) :
    Call.size ⟨inner, later⟩ < Call.size ⟨rule, tokens⟩ := by
  simp only [size]
  omega

namespace Rule

open Call

/-- An expression enters a chain at its own tokens, which is lower, and another expression only
behind a sign. -/
theorem fits_body_expression (tokens : List Token) :
    (body .expression tokens).Fits ⟨.expression, tokens⟩ tokens := by
  refine ⟨.refl tokens, size_lt_of_rank (Nat.le_refl _) (by decide),
    fun value unread _ shorter => ?_⟩
  cases unread with
  | nil => exact allows_yield value (.refl _) shorter
  | cons sign rest =>
      dsimp only
      split
      · next isSign =>
        exact ⟨.tail (by simp [isSign]) rest,
          size_lt_of_fewer (Nat.lt_of_succ_lt shorter) (by decide),
          fun _ _ _ _ => allows_refusal _⟩
      · exact allows_yield value (.refl _) shorter

/-- A chain enters one of a tighter level at its own tokens, and its loop further on. -/
theorem fits_body_chain (levels : List Level) (tokens : List Token) :
    (body (.chain levels) tokens).Fits ⟨.chain levels, tokens⟩ tokens := by
  cases levels with
  | nil =>
      have smaller : size ⟨.primary, tokens⟩ < size ⟨.chain [], tokens⟩ := Nat.lt_succ_self _
      exact Plan.fits_follow (.refl _) smaller (Nat.le_refl _)
  | cons level tighter =>
      refine ⟨.refl tokens, size_lt_of_rank (Nat.le_refl _) (Nat.lt_succ_self _),
        fun left unread _ shorter => ?_⟩
      exact Plan.fits_follow (.refl _) (size_lt_of_fewer shorter (by simp [rank])) shorter

/-- The loop of a chain moves on by its operator. -/
theorem fits_body_chainFrom (left : Expr) (level : Level) (tighter : List Level)
    (tokens : List Token) :
    (body (.chainFrom left level tighter) tokens).Fits ⟨.chainFrom left level tighter, tokens⟩
      tokens := by
  cases tokens with
  | nil => exact allows_yield left (.refl _) (Nat.lt_succ_self _)
  | cons operator rest =>
      rw [body]
      split
      · next isOperator =>
        refine ⟨.tail (Kind.ne_eof_of_level? isOperator) rest,
          size_lt_of_fewer (Nat.lt_succ_self _) (by simp [rank]),
          fun right unread _ shorter => ?_⟩
        -- The loop is entered again, but behind the operator.
        have fewer : unread.length < (operator :: rest).length := Nat.lt_succ_of_lt shorter
        exact Plan.fits_follow (.refl _) (size_lt_of_fewer fewer (by simp [rank]))
          (Nat.succ_le_succ (Nat.le_of_lt fewer))
      · exact allows_yield left (.refl _) (Nat.lt_succ_self _)

/-- A primary moves on by one token before it enters anything. -/
theorem fits_body_primary (tokens : List Token) :
    (body .primary tokens).Fits ⟨.primary, tokens⟩ tokens := by
  cases tokens with
  | nil => exact allows_refusal _
  | cons token rest =>
      by_cases last : token.kind = .eof
      · -- No primary begins with the end, so that it is never passed.
        rw [body, last]
        exact allows_refusal _
      have reaches := Reaches.tail last rest
      have fewer := Nat.lt_succ_self rest.length
      rw [body]
      split
      · exact allows_yield _ reaches fewer
      · exact allows_yield _ reaches fewer
      · refine ⟨reaches, size_lt_of_fewer fewer (by decide), fun inner unread _ within => ?_⟩
        have fewer := Nat.lt_succ_of_lt within
        refine ⟨.refl unread, size_lt_of_fewer fewer (by decide), fun _ unread _ shorter => ?_⟩
        exact allows_yield _ (.refl _) (Nat.lt_trans shorter fewer)
      · exact Plan.fits_follow reaches (size_lt_of_fewer fewer (by decide)) (Nat.le_of_lt fewer)
      · exact allows_refusal _

/-- A function enters its signature at its own tokens, and its body further on. -/
theorem fits_body_function (tokens : List Token) :
    (body .function tokens).Fits ⟨.function, tokens⟩ tokens := by
  refine ⟨.refl tokens, size_lt_of_rank (Nat.le_refl _) (by decide), fun head unread _ fewer => ?_⟩
  refine ⟨.refl unread, size_lt_of_fewer fewer (by decide), fun body unread _ shorter => ?_⟩
  exact allows_yield _ (.refl _) (Nat.lt_trans shorter fewer)

/-- A signature takes its name before it enters its parameters. -/
theorem fits_body_signature (tokens : List Token) :
    (body .signature tokens).Fits ⟨.signature, tokens⟩ tokens := by
  refine ⟨.refl tokens, size_lt_of_rank (Nat.le_refl _) (by decide), fun name unread _ fewer => ?_⟩
  refine ⟨.refl unread, size_lt_of_fewer fewer (by decide), fun _ unread _ shorter => ?_⟩
  have fewer := Nat.lt_trans shorter fewer
  refine ⟨.refl unread, size_lt_of_fewer fewer (by decide), fun names unread _ within => ?_⟩
  have fewer := Nat.lt_of_le_of_lt (Nat.le_of_lt_succ within) fewer
  refine ⟨.refl unread, size_lt_of_fewer fewer (by decide), fun _ unread _ shorter => ?_⟩
  have fewer := Nat.lt_trans shorter fewer
  refine ⟨.refl unread, size_lt_of_fewer fewer (by decide), fun _ unread _ shorter => ?_⟩
  exact allows_yield _ (.refl _) (Nat.lt_trans shorter fewer)

/-- The loop of a list of parameters moves on by a name and by a comma. -/
theorem fits_body_parameters (tokens : List Token) :
    (body .parameters tokens).Fits ⟨.parameters, tokens⟩ tokens := by
  rw [body]
  split
  · exact allows_yield _ (.refl _) (Nat.lt_succ_self _)
  refine ⟨.refl tokens, size_lt_of_rank (Nat.le_refl _) (by decide), fun name unread _ fewer => ?_⟩
  cases unread with
  | nil => exact allows_yield _ (.refl _) (Nat.lt_succ_of_lt fewer)
  | cons comma rest =>
      dsimp only
      split
      · next isComma =>
        have fewer := Nat.lt_of_succ_lt fewer
        refine ⟨.tail (by simp [isComma]) rest, size_lt_of_fewer fewer (by decide),
          fun names unread _ within => ?_⟩
        exact allows_yield _ (.refl _)
          (Nat.lt_of_lt_of_le within (Nat.succ_le_succ (Nat.le_of_lt fewer)))
      · exact allows_yield _ (.refl _) (Nat.lt_succ_of_lt fewer)

/-- A body enters a sequence at its own tokens. -/
theorem fits_body_block (tokens : List Token) :
    (body .block tokens).Fits ⟨.block, tokens⟩ tokens := by
  refine ⟨.refl tokens, size_lt_of_rank (Nat.le_refl _) (by decide), fun body unread _ within => ?_⟩
  have within := Nat.le_of_lt_succ within
  refine ⟨.refl unread, size_lt_of_rank within (by decide), fun _ rest _ shorter => ?_⟩
  exact allows_yield _ (.refl _) (Nat.lt_of_lt_of_le shorter within)

/-- The loop of a sequence moves on by an expression, which is never empty. -/
theorem fits_body_sequence (closer : Kind) (tokens : List Token) :
    (body (.sequence closer) tokens).Fits ⟨.sequence closer, tokens⟩ tokens := by
  rw [body]
  split
  · exact allows_yield _ (.refl _) (Nat.lt_succ_self _)
  refine ⟨.refl tokens, size_lt_of_rank (Nat.le_refl _) (Nat.lt_succ_self _),
    fun first unread _ fewer => ?_⟩
  refine ⟨.refl unread, size_lt_of_fewer fewer (by simp), fun later unread _ within => ?_⟩
  exact allows_yield _ (.refl _) (Nat.lt_of_lt_of_le within (Nat.succ_le_succ (Nat.le_of_lt fewer)))

/-- An expectation takes a token or stays in front of it. -/
theorem fits_body_expect (what : Expectation) (tokens : List Token) :
    (body (.expect what) tokens).Fits ⟨.expect what, tokens⟩ tokens := by
  cases tokens with
  | nil => exact allows_refusal _
  | cons token rest =>
      rw [body]
      split
      · next met =>
        exact allows_yield token (.tail (met ▸ what.kind_ne_eof) rest) (Nat.lt_succ_self _)
      · exact allows_refusal _

/-- A rule by itself only moves on, and enters smaller calls. -/
theorem fits_body (rule : Rule) (tokens : List Token) :
    (rule.body tokens).Fits ⟨rule, tokens⟩ tokens := by
  cases rule with
  | expression => exact fits_body_expression tokens
  | chain levels => exact fits_body_chain levels tokens
  | chainFrom left level tighter => exact fits_body_chainFrom left level tighter tokens
  | primary => exact fits_body_primary tokens
  | function => exact fits_body_function tokens
  | signature => exact fits_body_signature tokens
  | parameters => exact fits_body_parameters tokens
  | block => exact fits_body_block tokens
  | sequence closer => exact fits_body_sequence closer tokens
  | expect what => exact fits_body_expect what tokens

end Rule

namespace Plan

variable {α : Type} {plan : Plan α} {call inner : Call} {tokens : List Token}

/-- Whatever a plan enters on its way, in the end it has only moved on. -/
theorem Finishes.allows {outcome : Except Refusal (α × List Token)}
    (finishes : plan.Finishes outcome) (fits : plan.Fits call tokens) :
    call.Allows tokens outcome := by
  induction finishes generalizing call tokens with
  | done outcome => exact fits
  | refused _ ih =>
      obtain ⟨reaches, _, _⟩ := fits
      exact ⟨reaches.trans (ih (Rule.fits_body ..)).reaches, nofun⟩
  | resumed _ _ first later =>
      obtain ⟨reaches, _, next⟩ := fits
      have allowed := first (Rule.fits_body ..)
      have rest := later (next _ _ allowed.reaches (allowed.shorter _ _ rfl))
      exact ⟨reaches.trans (allowed.reaches.trans rest.reaches), rest.shorter⟩

/-- What a plan enters is smaller than the call whose plan it is, and further on. -/
theorem Calls.fits (calls : plan.Calls inner) (fits : plan.Fits call tokens) :
    Reaches tokens inner.tokens ∧ inner.size < call.size := by
  induction calls generalizing tokens with
  | first => exact ⟨fits.1, fits.2.1⟩
  | later finishes _ ih =>
      obtain ⟨reaches, _, next⟩ := fits
      have allowed := finishes.allows (Rule.fits_body ..)
      obtain ⟨further, smaller⟩ := ih (next _ _ allowed.reaches (allowed.shorter _ _ rfl))
      exact ⟨reaches.trans (allowed.reaches.trans further), smaller⟩

/-- A plan ends if all that it enters ends. -/
theorem exists_finishes (plan : Plan α) (ends : ∀ inner, plan.Calls inner →
    ∃ outcome, (inner.rule.body inner.tokens).Finishes outcome) :
    ∃ outcome, plan.Finishes outcome := by
  induction plan with
  | done outcome => exact ⟨outcome, .done outcome⟩
  | enter rule tokens next ih =>
      obtain ⟨outcome, finishes⟩ := ends _ .first
      cases outcome with
      | error refusal => exact ⟨_, .refused finishes⟩
      | ok pair =>
          obtain ⟨last, later⟩ := ih pair.1 pair.2 fun inner calls =>
            ends inner (.later finishes calls)
          exact ⟨last, .resumed finishes later⟩

end Plan

namespace Call

/-- The descent has no endless chain of calls, neither by recursion nor by a loop. -/
theorem wellFounded_enters : WellFounded fun inner call : Call => call.Enters inner :=
  Subrelation.wf (fun enters => (enters.fits (Rule.fits_body ..)).2) (measure size).wf

/-- Each call ends, by induction on its size: its body fits it, and so enters smaller calls only. -/
theorem exists_finishes (call : Call) :
    ∃ outcome, (call.rule.body call.tokens).Finishes outcome := by
  induction call using wellFounded_enters.induction with
  | _ call ih => exact Plan.exists_finishes _ ih

/-- Calls within calls are smaller, and further on. -/
theorem transGen_enters {call inner : Call} (within : Relation.TransGen Enters call inner) :
    Reaches call.tokens inner.tokens ∧ inner.size < call.size := by
  induction within with
  | single enters => exact enters.fits (Rule.fits_body ..)
  | tail _ enters ih =>
      obtain ⟨reaches, smaller⟩ := enters.fits (Rule.fits_body ..)
      exact ⟨ih.1.trans reaches, Nat.lt_trans smaller ih.2⟩

end Call

/-- A rule ends, and comes to what it is defined to be. -/
theorem Rule.finishes_iff (rule : Rule) (tokens : List Token)
    (outcome : Except Refusal (rule.Value × List Token)) :
    (rule.body tokens).Finishes outcome ↔ outcome = rule.result tokens := by
  obtain ⟨last, finishes⟩ := Call.exists_finishes ⟨rule, tokens⟩
  have known := finishes.eq_outcome.trans (rule.outcome_body tokens)
  constructor
  · intro other
    exact other.eq_outcome.trans (rule.outcome_body tokens)
  · intro same
    rw [same, ← known]
    exact finishes

/-- What a rule is defined to be is something that its call allows. -/
theorem Rule.allows_result (rule : Rule) (tokens : List Token) :
    Call.Allows ⟨rule, tokens⟩ tokens (rule.result tokens) :=
  ((rule.finishes_iff tokens _).2 rfl).allows (rule.fits_body tokens)

/-- A whole program has been read when the first end is reached. -/
theorem result_of_program {tokens : List Token} {expressions : List Expr}
    (parsed : (program tokens).outcome = .ok expressions) :
    Parse.result (sequence .eof tokens) =
      .ok (expressions, tokens.drop (visible tokens).length) := by
  rw [outcome_program] at parsed
  cases outcome : Parse.result (sequence .eof tokens) with
  | error refusal => simp [outcome, Except.map] at parsed
  | ok pair =>
      obtain ⟨trees, unread⟩ := pair
      have reads := sequence_reads .eof tokens
      have allowed := Rule.allows_result (.sequence .eof) tokens
      simp only [Rule.result, outcome] at reads allowed parsed
      obtain ⟨read, _, _, closed⟩ := reads
      have ends : nextKind unread = .eof := by simpa [closes_iff] using closed
      cases parsed
      rw [← show unread = _ from allowed.reaches.eq_drop ends]

/-- Wherever the descent stands in front of the first end, each of its rules ends, and leaves it at
no earlier place in front of that end, whether it has a value or is refused. With a value, a rule
that is no loop leaves it at a later place. On the way it stands at no earlier place either, at an
expression within a primary at a later place than at the primary. A whole program is read up to the
first end. -/
theorem finishes_in_front_of_end {tokens : List Token} {place : Nat}
    (inside : place ≤ (visible tokens).length) :
    (∀ rule : Rule,
      (∀ outcome, (rule.body (tokens.drop place)).Finishes outcome ↔
        outcome = rule.result (tokens.drop place)) ∧
      ∃ stop, behind (rule.result (tokens.drop place)) = tokens.drop stop ∧ place ≤ stop ∧
        stop ≤ (visible tokens).length ∧
        (rule.isLoop = false → ∀ value unread,
          rule.result (tokens.drop place) = .ok (value, unread) → place < stop)) ∧
    (∀ rule inner, Relation.TransGen Call.Enters ⟨rule, tokens.drop place⟩ inner →
      ∃ later, inner.tokens = tokens.drop later ∧ place ≤ later ∧ later ≤ (visible tokens).length ∧
        (rule = .primary → inner.rule = .expression → place < later)) ∧
    (∀ expressions, (program tokens).outcome = .ok expressions →
      Parse.result (sequence .eof tokens) =
        .ok (expressions, tokens.drop (visible tokens).length)) := by
  refine ⟨fun rule => ⟨rule.finishes_iff _, ?_⟩, ?_, fun expressions => result_of_program⟩
  · have allowed := rule.allows_result (tokens.drop place)
    obtain ⟨stop, same, before, within⟩ := allowed.reaches.exists_drop inside
    refine ⟨stop, same, before, within, fun noLoop value unread read => ?_⟩
    have shorter := allowed.shorter value unread read
    rw [read] at same
    have left : unread = tokens.drop stop := same
    simp only [left, Call.bound, noLoop, List.length_drop, Bool.toNat_false] at shorter
    omega
  · intro rule inner within
    obtain ⟨reaches, smaller⟩ := Call.transGen_enters within
    obtain ⟨later, same, before, stops⟩ := reaches.exists_drop inside
    refine ⟨later, same, before, stops, ?_⟩
    rintro rfl isExpression
    simp only [Call.size, same, isExpression, Rule.rank, List.length_drop] at smaller
    omega

/-- A group is closed only behind the end. -/
theorem finishes_in_front_of_end_unclosed :
    let tokens : List Token := [⟨.leftParen, "(", ⟨1, 1⟩⟩, ⟨.identifier, "x", ⟨1, 2⟩⟩,
      ⟨.eof, "", ⟨1, 3⟩⟩, ⟨.rightParen, ")", ⟨1, 3⟩⟩]
    1 ≤ (visible tokens).length ∧
      (Rule.body .expression (tokens.drop 1)).Finishes (.ok (.literal "x", tokens.drop 2)) ∧
      (Rule.body .primary tokens).Finishes (.error
        ⟨⟨.expected (.rightParen "expression"), some ⟨.eof, "", ⟨1, 3⟩⟩⟩, tokens.drop 2⟩) := by
  intro tokens
  refine ⟨by decide, ?_, ?_⟩
  · have inside : 1 ≤ (visible tokens).length := by decide
    have known : Rule.result .expression (tokens.drop 1) = .ok (.literal "x", tokens.drop 2) := by
      cbv
    exact (((finishes_in_front_of_end inside).1 .expression).1 _).2 known.symm
  · have start : 0 ≤ (visible tokens).length := Nat.zero_le _
    have known : Rule.result .primary (tokens.drop 0) = .error
        ⟨⟨.expected (.rightParen "expression"), some ⟨.eof, "", ⟨1, 3⟩⟩⟩, tokens.drop 2⟩ := by
      cbv
    exact (((finishes_in_front_of_end start).1 .primary).1 _).2 known.symm

end Parse

end FrontEnd
