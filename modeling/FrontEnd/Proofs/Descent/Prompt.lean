import FrontEnd.Proofs.Descent.Completeness
import FrontEnd.Proofs.Descent.Kept

namespace FrontEnd.Parse

open Token Grammar

/-- An equals sign in a list of tokens has a complete value without assignments in front of `rest`.
-/
structure Assigns (tokens before : List Token) (sign : Token) (value rest : List Token) : Prop where
  split : tokens = before ++ sign :: (value ++ rest)
  isSign : sign.kind = .equal
  complete : ∃ tree, Chain .plain Level.all value tree
  ends : Ends rest

namespace Assigns

variable {read tokens before value rest : List Token} {first sign : Token}

/-- The sign is the first token or stands behind it. -/
theorem of_cons (assigns : Assigns (first :: tokens) before sign value rest) :
    first.kind = .equal ∧ tokens = value ++ rest ∨ ∃ front, Assigns tokens front sign value rest := by
  obtain ⟨split, isSign, complete, ends⟩ := assigns
  cases before with
  | nil =>
      obtain ⟨rfl, behind⟩ := List.cons.inj split
      exact .inl ⟨isSign, behind⟩
  | cons _ front => exact .inr ⟨front, (List.cons.inj split).2, isSign, complete, ends⟩

/-- An assignment behind tokens without signs is one of the tokens that are left. -/
theorem of_append (assigns : Assigns (read ++ tokens) before sign value rest)
    (noSign : ∀ token ∈ read, token.kind ≠ .equal) :
    ∃ front, Assigns tokens front sign value rest := by
  induction read generalizing before with
  | nil => exact ⟨before, assigns⟩
  | cons token read ih =>
      rw [List.forall_mem_cons] at noSign
      obtain ⟨isSign, _⟩ | ⟨front, behind⟩ := assigns.of_cons
      · exact absurd isSign noSign.1
      · exact ih behind noSign.2

/-- There is at least the sign in front of what an assignment leaves. -/
theorem length_lt (assigns : Assigns tokens before sign value rest) :
    rest.length < tokens.length := by
  rw [assigns.split, List.length_append, List.length_cons, List.length_append]
  omega

/-- A complete value is read as a whole. -/
theorem result_expression (assigns : Assigns tokens before sign value rest) :
    ∃ tree, result (expression (value ++ rest)) = .ok (tree, rest) := by
  obtain ⟨tree, chain⟩ := assigns.complete
  have comes := Expression.comes (.equality chain) assigns.ends
  exact ⟨tree, (comes_plain_iff ..).1 comes⟩

end Assigns

/-- No equals sign is read by a reading that has a value. One that is refused has not read past the
end of a complete value, and at the end of such a value it is refused because of the assignment. -/
def Prompt {α : Type} (tokens : List Token) : Except Refusal (α × List Token) → Prop
  | .ok (_, unread) => ∃ read, tokens = read ++ unread ∧ ∀ token ∈ read, token.kind ≠ .equal
  | .error refusal => ∀ before sign value rest, Assigns tokens before sign value rest →
      rest.length ≤ refusal.unread.length ∧
        (rest.length = refusal.unread.length → refusal.error.fault = .invalidTarget)

/-- A refusal at the first token is in front of all assignments. -/
theorem prompt_unmet {α : Type} (what : Expectation) (tokens : List Token) :
    Prompt (α := α) tokens (unmet what tokens) := by
  intro before sign value rest assigns
  have shorter := assigns.length_lt
  exact ⟨Nat.le_of_lt shorter, fun same => absurd same (Nat.ne_of_lt shorter)⟩

/-- What is read first has no equals sign, so every sign stands in what is read next. -/
theorem Prompt.append {α : Type} {read tokens : List Token}
    {outcome : Except Refusal (α × List Token)} (noSign : ∀ token ∈ read, token.kind ≠ .equal)
    (prompt : Prompt tokens outcome) : Prompt (read ++ tokens) outcome := by
  cases outcome with
  | ok pair =>
      obtain ⟨more, rfl, noMore⟩ := prompt
      exact ⟨read ++ more, (List.append_assoc ..).symm, List.forall_mem_append.2 ⟨noSign, noMore⟩⟩
  | error refusal =>
      intro before sign value rest assigns
      obtain ⟨front, behind⟩ := assigns.of_append noSign
      exact prompt front sign value rest behind

/-- Readings in a row are prompt if each of them is: the first one has passed no sign when the next
one begins. -/
theorem Prompt.bind {α β : Type} {tokens : List Token}
    {first : Except Refusal (α × List Token)}
    {next : α × List Token → Except Refusal (β × List Token)} (prompt : Prompt tokens first)
    (later : ∀ value unread, first = .ok (value, unread) → Prompt unread (next (value, unread))) :
    Prompt tokens (first.bind next) := by
  cases first with
  | error refusal => exact prompt
  | ok pair =>
      obtain ⟨read, rfl, noSign⟩ := prompt
      exact (later pair.1 pair.2 rfl).append noSign

/-- A complete value behind the sign is read as a whole, and then the assignment is refused. -/
theorem prompt_assignment {sign : Token} (tokens : List Token)
    (prompt : Prompt tokens (result (expression tokens))) :
    Prompt (α := Expr) (sign :: tokens) ((result (expression tokens)).bind fun later =>
      .error ⟨⟨.invalidTarget, some sign⟩, later.2⟩) := by
  cases outcome : result (expression tokens) with
  | error refusal =>
      rw [outcome] at prompt
      intro before other value rest assigns
      obtain ⟨_, rfl⟩ | ⟨front, behind⟩ := assigns.of_cons
      · obtain ⟨tree, read⟩ := assigns.result_expression
        rw [outcome] at read
        cases read
      · exact prompt front other value rest behind
  | ok pair =>
      rw [outcome] at prompt
      obtain ⟨read, same, noSign⟩ := prompt
      intro before other value rest assigns
      refine ⟨?_, fun _ => rfl⟩
      show rest.length ≤ pair.2.length
      obtain ⟨_, rfl⟩ | ⟨front, behind⟩ := assigns.of_cons
      · obtain ⟨tree, read⟩ := assigns.result_expression
        rw [outcome] at read
        cases read
        exact Nat.le_refl _
      · rw [same] at behind
        obtain ⟨front, unread⟩ := behind.of_append noSign
        exact Nat.le_of_lt unread.length_lt

/-- The rules of the descent keep promptness. -/
theorem kept_prompt : Kept Prompt where
  value _ _ := ⟨[], rfl, nofun⟩
  unmet := prompt_unmet
  pass _ noSign prompt := prompt.append (List.forall_mem_singleton.2 noSign)
  assignment tokens _ := prompt_assignment tokens
  bind := Prompt.bind

end FrontEnd.Parse
