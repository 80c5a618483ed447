import FrontEnd.Proofs.Descent.Result
import FrontEnd.Proofs.Grammar.TrailingComma

namespace FrontEnd

open Token

namespace Event

/-- The descent takes note of primaries and of functions. -/
def IsStep : Event → Prop
  | primary _ => True
  | function _ _ => True
  | _ => False

/-- The token at which a primary is tried. -/
def visited? : Event → Option Token
  | primary token => some token
  | _ => none

end Event

/-- The entry of a log about a primary that begins with a token of this kind and this lexeme. -/
def primaryEntry (kind : Kind) (lexeme : String) : String :=
  "TRACE parser: primary at " ++ kind.name ++ " '" ++ lexeme ++ "'"

/-- The kind of the token that a literal was. -/
def literalKind (text : String) : Kind :=
  if text.toList.all Char.isDigit then .number else .identifier

namespace Expr

mutual

/-- The entries of a log about an expression. A function is noted when its body is complete. -/
def trace : Expr → List String
  | literal text => [primaryEntry (literalKind text) text]
  | group inner => primaryEntry .leftParen "(" :: inner.trace
  | binary left _ right => left.trace ++ right.trace
  | function name parameters body =>
      primaryEntry (.keyword .funWord) "fun" ::
        (traceAll body ++ [(Event.function name parameters.length).text])

def traceAll : List Expr → List String
  | [] => []
  | first :: rest => first.trace ++ traceAll rest

end

end Expr

/-- A number is spelled with digits only. -/
theorem Spells.isDigit_of_number {text : List Char} (spells : Spells text .number) :
    ∀ digit ∈ text, digit.isDigit = true := by
  cases spells with
  | lone sign => simp [Kind.loneSigns] at sign
  | alone sign => simp [Kind.joinableSigns] at sign
  | joined sign => simp [Kind.joinableSigns] at sign
  | number _ digits => exact digits

/-- The text of a literal tells whether it was a number or an identifier. -/
theorem literalKind_of_spells {text : String} {kind : Kind} (spells : Spells text.toList kind)
    (isLiteral : kind = .number ∨ kind = .identifier) : literalKind text = kind := by
  by_cases digits : text.toList.all Char.isDigit = true
  · have number := Spells.number spells.ne_nil (List.all_eq_true.1 digits)
    rw [literalKind, if_pos digits, number.unique spells]
  · have noNumber : kind ≠ .number := by
      rintro rfl
      exact digits (List.all_eq_true.2 spells.isDigit_of_number)
    rw [literalKind, if_neg digits, isLiteral.resolve_left noNumber]

section

variable {token : Token} (spells : Spells token.lexeme.toList token.kind)

include spells

/-- The text of a literal tells which of the two kinds its token had. -/
theorem primaryEntry_of_literal (isLiteral : token.kind = .number ∨ token.kind = .identifier) :
    [primaryEntry token.kind token.lexeme] = (Expr.literal token.lexeme).trace := by
  rw [Expr.trace, literalKind_of_spells spells isLiteral]

/-- A parenthesis is noted with its only spelling. -/
theorem primaryEntry_of_leftParen (opens : token.kind = .leftParen) :
    primaryEntry token.kind token.lexeme = primaryEntry .leftParen "(" := by
  rw [lexeme_of_lone spells opens (by decide : ('(', .leftParen) ∈ Kind.loneSigns), opens]

/-- The word for functions is noted with its only spelling. -/
theorem primaryEntry_of_funWord (isFunction : token.kind = .keyword .funWord) :
    primaryEntry token.kind token.lexeme = primaryEntry (.keyword .funWord) "fun" := by
  rw [isFunction] at spells ⊢
  rw [String.toList_inj.1 spells.eq_of_keyword, Keyword.spelling]

end

namespace Parse

open Attempt

/-- The tokens of the primaries in a log. -/
def visits (log : List Event) : List Token := log.filterMap Event.visited?

/-- A log of steps whose primaries begin at tokens that follow one another among those that have
been read. If these tokens have the kinds that their lexemes dictate, the value and the entries of
the log satisfy `good`. After a refusal the primaries begin at any of the tokens. -/
structure Traces {α : Type} (tokens : List Token) (attempt : Attempt (α × List Token))
    (good : α → List String → Prop) : Prop where
  steps : ∀ event ∈ attempt.log, event.IsStep
  read : ∀ value unread, attempt.outcome = .ok (value, unread) →
    ∃ read, tokens = read ++ unread ∧ (visits attempt.log).Sublist read ∧
      (AllSpelled read → good value (attempt.log.map Event.text))
  refused : ∀ refusal, attempt.outcome = .error refusal →
    (visits attempt.log).Sublist tokens

section

variable {α β : Type} {tokens : List Token}

/-- A reading of nothing leaves no entries. -/
theorem traces_pure {good : α → List String → Prop} {value : α} (fine : good value []) :
    Traces tokens (pure (value, tokens)) good where
  steps := nofun
  read := by
    intro _ _ same
    cases same
    exact ⟨[], rfl, List.Sublist.refl _, fun _ => fine⟩
  refused := nofun

/-- The end of a function leaves one entry, which is about no primary. -/
theorem traces_function {good : α → List String → Prop} {value : α} {name : Token} {count : Nat}
    (fine : good value [(Event.function name count).text]) :
    Traces tokens (note (.function name count) >>= fun _ => pure (value, tokens)) good where
  steps := List.forall_mem_singleton.2 trivial
  read := by
    intro _ _ same
    cases same
    exact ⟨[], rfl, List.Sublist.refl _, fun _ => fine⟩
  refused := nofun

theorem traces_refuse {good : α → List String → Prop} (error : ParseError) (unread : List Token) :
    Traces tokens (refuse error unread) good where
  steps := nofun
  read := nofun
  refused _ _ := List.nil_sublist _

theorem Traces.mono {attempt : Attempt (α × List Token)} {good good' : α → List String → Prop}
    (traces : Traces tokens attempt good) (fine : ∀ value entries, good value entries →
      good' value entries) : Traces tokens attempt good' where
  steps := traces.steps
  read value unread same := by
    obtain ⟨read, split, sublist, holds⟩ := traces.read value unread same
    exact ⟨read, split, sublist, fun spelled => fine _ _ (holds spelled)⟩
  refused := traces.refused

/-- Whatever comes of a reading, no token is tried as a primary twice. -/
theorem Traces.visits_sublist {attempt : Attempt (α × List Token)} {good : α → List String → Prop}
    (traces : Traces tokens attempt good) : (visits attempt.log).Sublist tokens := by
  cases outcome : attempt.outcome with
  | error refusal => exact traces.refused refusal outcome
  | ok pair =>
      obtain ⟨read, split, sublist, _⟩ := traces.read pair.1 pair.2 outcome
      rw [split]
      exact sublist.trans (List.sublist_append_left ..)

/-- A token may be read without a note. -/
theorem Traces.skip {token : Token} {attempt : Attempt (α × List Token)}
    {good : α → List String → Prop} (traces : Traces tokens attempt good) :
    Traces (token :: tokens) attempt good where
  steps := traces.steps
  read value unread same := by
    obtain ⟨read, rfl, sublist, holds⟩ := traces.read value unread same
    exact ⟨token :: read, rfl, sublist.cons token, fun spelled =>
      holds ((allSpelled_cons token read).1 spelled).2⟩
  refused refusal same := (traces.refused refusal same).cons token

/-- A primary is noted with the token at which it begins. -/
theorem Traces.visit {token : Token} {attempt : Attempt (α × List Token)}
    {good : α → List String → Prop}
    (traces : Traces tokens attempt fun value entries => Spells token.lexeme.toList token.kind →
      good value (primaryEntry token.kind token.lexeme :: entries)) :
    Traces (token :: tokens) (note (.primary token) >>= fun _ => attempt) good where
  steps := by
    simp only [log_bind, log_note, outcome_note, List.singleton_append]
    exact List.forall_mem_cons.2 ⟨trivial, traces.steps⟩
  read value unread same := by
    obtain ⟨read, rfl, sublist, holds⟩ := traces.read value unread same
    refine ⟨token :: read, rfl, sublist.cons_cons token, fun spelled => ?_⟩
    rw [allSpelled_cons] at spelled
    exact holds spelled.2 spelled.1
  refused refusal same := (traces.refused refusal same).cons_cons token

/-- Of two readings in a row the second one goes on with the log of the first one. -/
theorem Traces.bind {first : Attempt (α × List Token)}
    {next : α × List Token → Attempt (β × List Token)} {good : α → List String → Prop}
    {good' : β → List String → Prop} (traces : Traces tokens first good)
    (later : ∀ value unread, first.outcome = .ok (value, unread) →
      Traces unread (next (value, unread)) fun result more =>
        ∀ entries, good value entries → good' result (entries ++ more)) :
    Traces tokens (first >>= next) good' := by
  obtain ⟨log, outcome⟩ := first
  cases outcome with
  | error refusal => exact ⟨traces.steps, nofun, fun _ _ => traces.refused refusal rfl⟩
  | ok pair =>
      obtain ⟨value, unread⟩ := pair
      obtain ⟨read, rfl, sublist, holds⟩ := traces.read value unread rfl
      have second := later value unread rfl
      refine ⟨List.forall_mem_append.2 ⟨traces.steps, second.steps⟩, ?_, ?_⟩
      · intro result rest same
        obtain ⟨more, rfl, sublistLater, holdsLater⟩ := second.read result rest same
        refine ⟨read ++ more, (List.append_assoc ..).symm, ?_, fun spelled => ?_⟩
        · rw [visits, log_bind, List.filterMap_append]
          exact sublist.append sublistLater
        · rw [allSpelled_append] at spelled
          rw [log_bind, List.map_append]
          exact holdsLater spelled.2 _ (holds spelled.1)
      · intro refusal same
        rw [visits, log_bind, List.filterMap_append]
        exact sublist.append (second.refused refusal same)

/-- A change of the value does not show in the log. -/
theorem Traces.map {f : α → β} {attempt : Attempt (α × List Token)}
    {good : β → List String → Prop}
    (traces : Traces tokens attempt fun value => good (f value)) :
    Traces tokens ((fun pair => (f pair.1, pair.2)) <$> attempt) good := by
  obtain ⟨log, outcome⟩ := attempt
  cases outcome with
  | error refusal => exact ⟨traces.steps, nofun, fun _ _ => traces.refused refusal rfl⟩
  | ok pair =>
      refine ⟨traces.steps, ?_, nofun⟩
      intro value unread same
      cases same
      exact traces.read pair.1 pair.2 rfl

/-- A reading without entries leaves the log as it is. -/
theorem Traces.bind_silent {first : Attempt (α × List Token)}
    {next : α × List Token → Attempt (β × List Token)} {good : β → List String → Prop}
    (traces : Traces tokens first fun _ entries => entries = [])
    (later : ∀ value unread, first.outcome = .ok (value, unread) →
      Traces unread (next (value, unread)) good) : Traces tokens (first >>= next) good := by
  apply traces.bind
  intro value unread outcome
  apply (later value unread outcome).mono
  rintro result more holds _ rfl
  exact holds

end

/-- An expectation leaves no entries. -/
theorem expect_traces (what : Expectation) (tokens : List Token) :
    Traces tokens (unbound (expect what tokens)) fun _ entries => entries = [] := by
  cases tokens with
  | nil => exact traces_refuse _ _
  | cons token rest =>
      rw [unbound_expect_cons]
      split
      · apply Traces.skip
        exact traces_pure rfl
      · exact traces_refuse _ _

/-- Parameters leave no entries, since they are not tried as primaries. -/
theorem parameters_traces (tokens : List Token) :
    Traces tokens (unbound (parameters tokens)) fun _ entries => entries = [] := by
  rw [unbound_parameters]
  split
  · exact traces_pure rfl
  apply (expect_traces .parameterName tokens).bind_silent
  intro name unread outcome
  have shorter := length_of_unbound outcome
  cases unread with
  | nil => exact traces_pure rfl
  | cons comma rest =>
      have behind : rest.length < tokens.length := Nat.lt_of_succ_lt shorter
      dsimp only
      split
      · exact (parameters_traces rest).map.skip
      · exact traces_pure rfl
  termination_by tokens.length

theorem signature_traces (tokens : List Token) :
    Traces tokens (unbound (signature tokens)) fun _ entries => entries = [] := by
  rw [unbound_signature]
  apply (expect_traces _ tokens).bind_silent
  intro name unread _
  apply (expect_traces _ unread).bind_silent
  intro opening unread _
  apply (parameters_traces unread).bind_silent
  intro names unread _
  apply (expect_traces _ unread).bind_silent
  intro closing unread _
  apply (expect_traces _ unread).bind_silent
  intro brace unread _
  exact traces_pure rfl

mutual

/-- Reading an expression leaves the entries of its tree. -/
theorem expression_traces (tokens : List Token) :
    Traces tokens (unbound (expression tokens)) fun tree entries => entries = tree.trace := by
  rw [unbound_expression]
  apply (chain_traces Level.all tokens).bind
  intro value unread outcome
  have shorter := length_of_unbound outcome
  cases unread with
  | nil =>
      apply traces_pure
      rintro _ rfl
      exact List.append_nil _
  | cons sign rest =>
      have behind : rest.length < tokens.length := Nat.lt_of_succ_lt shorter
      dsimp only
      split
      · apply Traces.skip
        apply (expression_traces rest).bind
        intro other unread _
        exact traces_refuse _ _
      · apply traces_pure
        rintro _ rfl
        exact List.append_nil _
  termination_by 16 * tokens.length + 8
  decreasing_by
    · simp only [Level.length_all]
      omega
    · omega

/-- The entries of a chain are those of its operands from left to right. -/
theorem chain_traces (levels : List Level) (tokens : List Token) :
    Traces tokens (unbound (chain levels tokens)) fun tree entries => entries = tree.trace := by
  cases levels with
  | nil =>
      rw [unbound_chain_nil]
      exact primary_traces tokens
  | cons level tighter =>
      rw [unbound_chain_cons]
      apply (chain_traces tighter tokens).bind
      intro left unread outcome
      have shorter := length_of_unbound outcome
      apply (chainFrom_traces left level tighter unread).mono
      rintro tree more same _ rfl
      exact same
  termination_by 16 * tokens.length + levels.length + 1
  decreasing_by
    · omega
    · simp only [List.length_cons]
      omega
    · simp only [List.length_cons]
      omega

/-- The entries about the left part of a chain are in the log when the rest of it is read. -/
theorem chainFrom_traces (left : Expr) (level : Level) (tighter : List Level)
    (tokens : List Token) :
    Traces tokens (unbound (chainFrom left level tighter tokens)) fun tree entries =>
      left.trace ++ entries = tree.trace := by
  cases tokens with
  | nil =>
      rw [unbound_chainFrom_nil]
      exact traces_pure (List.append_nil _)
  | cons operator rest =>
      rw [unbound_chainFrom_cons]
      split
      · apply Traces.skip
        apply (chain_traces tighter rest).bind
        intro right unread outcome
        have shorter := length_of_unbound outcome
        apply (chainFrom_traces (.binary left operator right) level tighter unread).mono
        rintro tree more same _ rfl
        rw [← same, Expr.trace, List.append_assoc]
      · exact traces_pure (List.append_nil _)
  termination_by 16 * tokens.length + tighter.length + 1
  decreasing_by
    all_goals subst_vars
    all_goals simp only [List.length_cons]
    all_goals omega

/-- A primary is noted before anything inside of it. -/
theorem primary_traces (tokens : List Token) :
    Traces tokens (unbound (primary tokens)) fun tree entries => entries = tree.trace := by
  cases tokens with
  | nil =>
      rw [unbound_primary_nil]
      exact traces_refuse _ _
  | cons token rest =>
      rw [unbound_primary_cons]
      apply Traces.visit
      split
      · next isNumber =>
          exact traces_pure fun spells => primaryEntry_of_literal spells (.inl isNumber)
      · next isIdentifier =>
          exact traces_pure fun spells => primaryEntry_of_literal spells (.inr isIdentifier)
      · next opens =>
          apply (expression_traces rest).bind
          intro inner unread _
          apply (expect_traces _ unread).bind_silent
          intro closing unread _
          apply traces_pure
          rintro _ rfl spells
          rw [primaryEntry_of_leftParen spells opens, List.append_nil, Expr.trace]
      · next isFunction =>
          apply (function_traces rest).mono
          intro tree entries same spells
          rw [primaryEntry_of_funWord spells isFunction, same]
      · exact traces_refuse _ _
  termination_by 16 * tokens.length
  decreasing_by
    all_goals subst_vars
    all_goals simp only [List.length_cons]
    all_goals omega

/-- The entries of a function are those of its body and its own, behind the word that has been
noted. -/
theorem function_traces (tokens : List Token) :
    Traces tokens (unbound (function tokens)) fun tree entries =>
      primaryEntry (.keyword .funWord) "fun" :: entries = tree.trace := by
  rw [unbound_function]
  apply (signature_traces tokens).bind_silent
  intro head unread outcome
  obtain ⟨name, names⟩ := head
  have shorter := length_of_unbound outcome
  apply (block_traces unread).bind
  intro body unread _
  apply traces_function
  rintro _ rfl
  rw [Expr.trace]
  termination_by 16 * tokens.length
  decreasing_by
    omega

/-- A body leaves the entries of its expressions. -/
theorem block_traces (tokens : List Token) :
    Traces tokens (unbound (block tokens)) fun body entries => entries = Expr.traceAll body := by
  rw [unbound_block]
  apply (sequence_traces .rightBrace tokens).bind
  intro body unread _
  apply (expect_traces _ unread).bind_silent
  intro closing unread _
  apply traces_pure
  rintro _ rfl
  exact List.append_nil _
  termination_by 16 * tokens.length + 10

/-- A sequence leaves the entries of all of its trees in their order. -/
theorem sequence_traces (closer : Kind) (tokens : List Token) :
    Traces tokens (unbound (sequence closer tokens)) fun trees entries =>
      entries = Expr.traceAll trees := by
  rw [unbound_sequence]
  split
  · exact traces_pure rfl
  apply (expression_traces tokens).bind
  intro first unread outcome
  have shorter := length_of_unbound outcome
  apply Traces.map
  apply (sequence_traces closer unread).mono
  rintro trees more rfl _ rfl
  rw [Expr.traceAll]
  termination_by 16 * tokens.length + 9
  decreasing_by
    all_goals omega

end

end Parse

end FrontEnd
