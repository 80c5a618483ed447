import FrontEnd.Proofs.Descent.Prompt
import FrontEnd.Proofs.Grammar.Viability

namespace FrontEnd

open Parse Token Grammar

/-- The message about assignments tells of no expectation. -/
theorem Expectation.message_ne (what : Expectation) :
    what.message ≠ "Invalid assignment target." := by
  have begins : what.message.toList.head? = some 'E' := by
    unfold message
    cases what <;> simp
  intro same
  simp [same] at begins

/-- No other message is the one about assignments. -/
theorem ParseFault.message_eq_iff (fault : ParseFault) :
    fault.message = "Invalid assignment target." ↔ fault = .invalidTarget := by
  cases fault with
  | invalidTarget => simp [message]
  | expected what => simp [message, what.message_ne]

namespace Grammar

/-- A beginning of what a sentence may begin with is such a beginning, too. -/
theorem Viable.of_prefix {first second : List Token} (viable : Viable second)
    (initial : first <+: second) : Viable first := by
  obtain ⟨rest, rfl⟩ := initial
  obtain ⟨more, sentence⟩ := viable
  exact ⟨rest ++ more, by rwa [List.append_assoc] at sentence⟩

/-- Nothing is viable beyond the end. -/
theorem Viable.solid {tokens : List Token} (viable : Viable tokens) :
    ∀ token ∈ tokens, token.kind ≠ .eof := by
  obtain ⟨more, trees, program⟩ := viable
  intro token member
  exact program.solid token (List.mem_append_left more member)

/-- At an index of a list of tokens stands an equals sign. The tokens up to a place form its value,
which has no equals sign itself and does not go on at the place, and a sentence may begin with all
the tokens in front of the place. -/
structure CompleteAssignment (tokens : List Token) (index place : Nat) : Prop where
  order : index < place
  within : place ≤ (visible tokens).length
  sign : ∃ token, tokens[index]? = some token ∧ token.kind = .equal
  viable : Viable (tokens.take place)
  value : ∃ tree, Chain .plain Level.all ((tokens.take place).drop (index + 1)) tree
  ends : place = (visible tokens).length ∨
    ∃ token, tokens[place]? = some token ∧ token.kind.level? = none ∧ token.kind ≠ .equal

/-- No operator follows where an expression ends. -/
theorem Ends.level?_eq_none {tokens : List Token} (ends : Ends tokens) :
    (nextKind tokens).level? = none := by
  rw [Option.eq_none_iff_forall_ne_some]
  intro level found
  have among : level ∈ Level.all := by cases level <;> decide
  exact ends.1 level among ((Kind.level?_eq_some_iff ..).1 found)

/-- The next kind behind some tokens is the kind at their number, or the end. -/
theorem nextKind_drop (tokens : List Token) (place : Nat) :
    nextKind (tokens.drop place) = (tokens[place]?.map Token.kind).getD .eof := by
  rw [← List.head?_drop]
  cases tokens.drop place <;> rfl

/-- The end is what follows the visible tokens. -/
theorem nextKind_drop_visible (tokens : List Token) :
    nextKind (tokens.drop (visible tokens).length) = .eof := by
  obtain ⟨unread, same, ends⟩ := exists_visible_append tokens
  have behind : tokens.drop (visible tokens).length = unread := by
    conv_lhs => rw [same]
    exact List.drop_left' (by rw [← same])
  rwa [behind]

/-- If no end has been read, all visible tokens have been read or there is a next token. -/
theorem length_visible_of_read {read unread : List Token}
    (solid : ∀ token ∈ read, token.kind ≠ .eof) :
    read.length = (visible (read ++ unread)).length ∨
      ∃ token, unread.head? = some token ∧ nextKind unread = token.kind := by
  cases unread with
  | nil => exact .inl (by rw [visible_append solid nextKind_nil])
  | cons token rest => exact .inr ⟨token, rfl, rfl⟩

namespace CompleteAssignment

variable {tokens : List Token} {index place : Nat}

theorem place_le_length (complete : CompleteAssignment tokens index place) :
    place ≤ tokens.length :=
  complete.within.trans (List.takeWhile_prefix _).length_le

/-- A value is not empty. -/
theorem succ_lt (complete : CompleteAssignment tokens index place) : index + 1 < place := by
  obtain ⟨tree, chain⟩ := complete.value
  obtain ⟨token, rest, same, _⟩ := chain.starts
  have nonempty := congrArg List.length same
  rw [List.length_drop, List.length_take, List.length_cons] at nonempty
  omega

/-- Nothing goes on with the value of a complete assignment. -/
theorem ends_drop (complete : CompleteAssignment tokens index place) :
    Ends (tokens.drop place) := by
  obtain rfl | ⟨token, found, apart, noSign⟩ := complete.ends
  · exact ends_of_nextKind (nextKind_drop_visible tokens) rfl (by decide)
  · have next : nextKind (tokens.drop place) = token.kind := by
      rw [nextKind_drop, found]
      rfl
    exact ends_of_nextKind next apart noSign

/-- The tokens fall into those in front of the sign, the sign, its value and those behind it. -/
theorem assigns (complete : CompleteAssignment tokens index place) :
    ∃ sign, Assigns tokens (tokens.take index) sign ((tokens.take place).drop (index + 1))
      (tokens.drop place) := by
  obtain ⟨sign, found, isSign⟩ := complete.sign
  refine ⟨sign, ?_, isSign, complete.value, complete.ends_drop⟩
  obtain ⟨inside, rfl⟩ := List.getElem?_eq_some_iff.1 found
  have long : index + 1 ≤ (tokens.take place).length := by
    have order := complete.order
    rw [List.length_take]
    omega
  rw [← List.drop_append_of_le_length long, List.take_append_drop, List.cons_getElem_drop_succ,
    List.take_append_drop]

/-- Viable tokens that end with the value of an assignment complete it. -/
theorem of_read {before value unread : List Token} {sign : Token} (isSign : sign.kind = .equal)
    (viable : Viable (before ++ sign :: value)) (complete : ∃ tree, Chain .plain Level.all value tree)
    (ends : Ends unread) :
    CompleteAssignment (before ++ sign :: value ++ unread) before.length
      (before ++ sign :: value).length where
  order := by simp
  within := by
    rw [visible_append_of_solid viable.solid]
    exact (List.sublist_append_left _ _).length_le
  sign := ⟨sign, by simp, isSign⟩
  viable := by rwa [List.take_left]
  value := by
    rw [List.take_left]
    simpa using complete
  ends := by
    obtain same | ⟨token, found, kind⟩ := length_visible_of_read viable.solid
    · exact .inl same
    · refine .inr ⟨token, ?_, kind ▸ ends.level?_eq_none, kind ▸ ends.2⟩
      rw [List.getElem?_append_right (Nat.le_refl _), Nat.sub_self, ← List.head?_eq_getElem?, found]

/-- No equals sign stands between the sign and the place. -/
theorem kind_ne_equal (complete : CompleteAssignment tokens index place) {other : Nat}
    {token : Token} (behind : index < other) (before : other < place)
    (found : tokens[other]? = some token) : token.kind ≠ .equal := by
  obtain ⟨tree, chain⟩ := complete.value
  have member : token ∈ (tokens.take place).drop (index + 1) := by
    refine List.mem_of_getElem? (i := other - (index + 1)) ?_
    rw [List.getElem?_drop, Nat.add_sub_of_le behind, List.getElem?_take_of_lt before, found]
  exact (chain.allows token member).2 rfl

/-- Only one assignment is complete at a place, since a value without assignments reaches back to
its sign. -/
theorem index_unique (complete : CompleteAssignment tokens index place) {other : Nat}
    (also : CompleteAssignment tokens other place) : index = other := by
  obtain ⟨first, foundFirst, isSign⟩ := complete.sign
  obtain ⟨second, foundSecond, alsoSign⟩ := also.sign
  rcases Nat.lt_trichotomy index other with before | same | behind
  · exact absurd alsoSign (complete.kind_ne_equal before also.order foundSecond)
  · exact same
  · exact absurd isSign (also.kind_ne_equal behind complete.order foundFirst)

/-- A refused assignment is the first complete one. -/
theorem exists_of_refused {refusal : Refusal}
    (refused : result (Parse.sequence .eof tokens) = .error refusal)
    (fault : refusal.error.fault = .invalidTarget) :
    ∃ index place, CompleteAssignment tokens index place ∧
      refusal.error.token = tokens[index]? ∧
      ∀ i p, CompleteAssignment tokens i p → place ≤ p := by
  have reads := sequence_reads .eof tokens
  have prompt := kept_prompt.sequence .eof tokens
  rw [refused] at reads prompt
  obtain ⟨read, rfl, explains⟩ := reads
  obtain ⟨before, sign, value, tree, more, rfl, isSign, token, chain, ends, trees, program⟩ :=
    explains.assigned fault
  refine ⟨before.length, (before ++ sign :: value).length,
    of_read isSign ⟨more, trees, program⟩ ⟨tree, chain .plain⟩ ends, ?_, ?_⟩
  · rw [token]
    simp
  · intro index place complete
    obtain ⟨other, assigns⟩ := complete.assigns
    have shorter := (prompt _ _ _ _ assigns).1
    rw [List.length_drop, List.length_append] at shorter
    omega

/-- No list with a complete assignment is a program. -/
theorem ofTokens_ne_ok (complete : CompleteAssignment tokens index place) (trees : List Expr) :
    Expr.ofTokens tokens ≠ .ok trees := by
  intro parsed
  obtain ⟨sign, found, isSign⟩ := complete.sign
  have inside : index < (visible tokens).length :=
    Nat.lt_of_lt_of_le complete.order complete.within
  have member : sign ∈ visible tokens := by
    obtain ⟨unread, same, _⟩ := exists_visible_append tokens
    rw [same, List.getElem?_append_left inside] at found
    exact List.mem_of_getElem? found
  exact ((program_of_ofTokens parsed .plain).allows sign member).2 rfl isSign

/-- An expectation that is unmet in front of the place contradicts that a sentence may begin there,
and behind the place it comes too late. -/
theorem fault_eq (complete : CompleteAssignment tokens index place) {refusal : Refusal}
    (refused : result (Parse.sequence .eof tokens) = .error refusal) :
    refusal.error.fault = .invalidTarget := by
  obtain ⟨sign, assigns⟩ := complete.assigns
  have reads := sequence_reads .eof tokens
  have prompt := kept_prompt.sequence .eof tokens
  rw [refused] at reads prompt
  obtain ⟨⟨fault, token⟩, unread⟩ := refusal
  obtain ⟨read, same, explains⟩ := reads
  cases fault with
  | invalidTarget => rfl
  | expected what =>
      obtain ⟨found, _⟩ := explains.expected what rfl
      dsimp only at same found
      subst same found
      obtain ⟨shorter, last⟩ := prompt _ _ _ _ assigns
      have early : read.length < place := by
        have noLast : ((read ++ unread).drop place).length ≠ unread.length :=
          fun same => ParseFault.noConfusion (last same)
        rw [List.length_drop, List.length_append] at shorter noLast
        dsimp only at shorter
        omega
      cases unread with
      | nil =>
          have within := complete.place_le_length
          rw [List.append_nil] at within
          exact absurd within (Nat.not_le_of_gt early)
      | cons token rest =>
          have initial : read ++ [token] <+: (read ++ token :: rest).take place := by
            rw [List.prefix_take_iff]
            exact ⟨by simp, by simpa using early⟩
          exact absurd (complete.viable.of_prefix initial) (not_viable_of_expected refused)

/-- An assignment is refused wherever one is complete. -/
theorem exists_refusal (complete : CompleteAssignment tokens index place) :
    ∃ refusal, result (Parse.sequence .eof tokens) = .error refusal ∧
      refusal.error.fault = .invalidTarget ∧
      Expr.ofTokens tokens = .error refusal.error.diagnostic := by
  cases parsed : Expr.ofTokens tokens with
  | ok trees => exact absurd parsed (complete.ofTokens_ne_ok trees)
  | error diagnostic =>
      obtain ⟨refusal, refused, rfl⟩ := (Expr.ofTokens_eq_error_iff _ _).1 parsed
      exact ⟨refusal, refused, complete.fault_eq refused, rfl⟩

end CompleteAssignment

/-- Parsing fails because of an assignment if and only if some assignment is complete. It fails at
the sign of the first one that is complete, which is the last sign in front of its place. -/
theorem ofTokens_invalidTarget_iff (tokens : List Token) :
    ((∃ diagnostic, Expr.ofTokens tokens = .error diagnostic ∧
        diagnostic.message = "Invalid assignment target.") ↔
      ∃ index place, CompleteAssignment tokens index place) ∧
    ∀ index place, CompleteAssignment tokens index place →
      (∀ i p, CompleteAssignment tokens i p → place ≤ p) →
      (∃ sign, tokens[index]? = some sign ∧ Expr.ofTokens tokens =
        .error ⟨.error, "Invalid assignment target.", some sign.position.line,
          some sign.position.column⟩) ∧
      ∀ other token, index < other → other < place → tokens[other]? = some token →
        token.kind ≠ .equal := by
  constructor
  · constructor
    · intro failed
      obtain ⟨diagnostic, parsed, message⟩ := failed
      obtain ⟨refusal, refused, rfl⟩ := (Expr.ofTokens_eq_error_iff _ _).1 parsed
      rw [ParseError.diagnostic_eq] at message
      have fault := (ParseFault.message_eq_iff _).1 message
      obtain ⟨index, place, complete, _⟩ := CompleteAssignment.exists_of_refused refused fault
      exact ⟨index, place, complete⟩
    · intro exists_complete
      obtain ⟨index, place, complete⟩ := exists_complete
      obtain ⟨refusal, _, fault, failed⟩ := complete.exists_refusal
      refine ⟨_, failed, ?_⟩
      rw [ParseError.diagnostic_eq]
      exact (ParseFault.message_eq_iff _).2 fault
  · intro index place complete least
    obtain ⟨refusal, refused, fault, failed⟩ := complete.exists_refusal
    obtain ⟨first, firstPlace, isFirst, token, before⟩ :=
      CompleteAssignment.exists_of_refused refused fault
    obtain rfl : place = firstPlace :=
      Nat.le_antisymm (least first firstPlace isFirst) (before index place complete)
    obtain rfl : index = first := complete.index_unique isFirst
    obtain ⟨sign, found, _⟩ := complete.sign
    refine ⟨⟨sign, found, ?_⟩, fun other token behind front => complete.kind_ne_equal behind front⟩
    rw [failed, ParseError.diagnostic_eq, fault, token, found]
    rfl

/-- Of two signs in a row the second one is refused. -/
theorem ofTokens_invalidTarget_iff_row :
    let tokens : List Token := [⟨.identifier, "a", ⟨1, 1⟩⟩, ⟨.equal, "=", ⟨1, 3⟩⟩,
      ⟨.identifier, "b", ⟨1, 5⟩⟩, ⟨.equal, "=", ⟨1, 7⟩⟩, ⟨.identifier, "c", ⟨1, 9⟩⟩,
      ⟨.eof, "", ⟨1, 10⟩⟩]
    CompleteAssignment tokens 3 5 ∧ (∀ i p, CompleteAssignment tokens i p → 5 ≤ p) ∧
      Expr.ofTokens tokens =
        .error ⟨.error, "Invalid assignment target.", some 1, some 7⟩ := by
  intro tokens
  have variable_chain (dialect : Dialect) (lexeme : String) (position : Position) :
      Chain dialect Level.all [⟨.identifier, lexeme, position⟩] (.literal lexeme) :=
    .operand (.operand (.operand (.operand (.primary (.literal (.inr rfl))))))
  have sentence : Sentence (tokens.take 5) :=
    ⟨_, .next (.assignment rfl (variable_chain _ "a" _) rfl
      (.assignment rfl (variable_chain _ "b" _) rfl (.equality (variable_chain _ "c" _)))) .empty⟩
  have complete : CompleteAssignment tokens 3 5 :=
    { order := by decide
      within := by decide
      sign := ⟨_, rfl, rfl⟩
      viable := ⟨[], by simpa using sentence⟩
      value := ⟨_, variable_chain _ "c" _⟩
      ends := .inl rfl }
  have least (i p : Nat) (other : CompleteAssignment tokens i p) : 5 ≤ p := by
    by_contra early
    have order := other.succ_lt
    obtain ⟨sign, found, isSign⟩ := other.sign
    obtain rfl : i = 1 := by
      have small : i < 3 := by omega
      interval_cases i <;> cases found <;> cases isSign
      rfl
    obtain rfl | rfl : p = 3 ∨ p = 4 := by omega
    · obtain last | ⟨next, found, _, noSign⟩ := other.ends
      · exact absurd last (by decide)
      · cases found
        exact noSign rfl
    · have second : 3 < 4 := by decide
      exact other.kind_ne_equal (by decide) second rfl rfl
  obtain ⟨⟨sign, found, failed⟩, _⟩ := (ofTokens_invalidTarget_iff tokens).2 3 5 complete least
  cases found
  exact ⟨complete, least, failed⟩

end Grammar

end FrontEnd
