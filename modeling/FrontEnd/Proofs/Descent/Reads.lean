import FrontEnd.Proofs.Descent.Result
import FrontEnd.Proofs.Grammar.Words

namespace FrontEnd.Parse

open Token Grammar

/-- What a refusal tells about the tokens in front of it when a word is read: which token would go
on with a word, or which assignment is complete. -/
structure Explains (word : List Token → Prop) (refusal : Refusal) (read : List Token) : Prop where
  expected : ∀ what, refusal.error.fault = .expected what →
    refusal.error.token = refusal.unread.head? ∧
      ∀ token, token.kind = what.kind → ∃ more, word (read ++ token :: more)
  assigned : refusal.error.fault = .invalidTarget →
    ∃ before sign value tree more, read = before ++ sign :: value ∧ sign.kind = .equal ∧
      refusal.error.token = some sign ∧
      (∀ dialect, Chain dialect Level.all value tree) ∧ Ends refusal.unread ∧ word (read ++ more)

/-- What a refusal tells about a part of a word it also tells about the whole word. -/
theorem Explains.within {part word : List Token → Prop} {refusal : Refusal}
    {read : List Token} (explains : Explains part refusal read) (before : List Token)
    (grows : ∀ tokens, part tokens → ∃ more, word (before ++ (tokens ++ more))) :
    Explains word refusal (before ++ read) := by
  constructor
  · intro what fault
    obtain ⟨place, goesOn⟩ := explains.expected what fault
    refine ⟨place, ?_⟩
    intro token kind
    obtain ⟨more, belongs⟩ := goesOn token kind
    obtain ⟨rest, whole⟩ := grows _ belongs
    exact ⟨more ++ rest, by simpa using whole⟩
  · intro fault
    obtain ⟨front, sign, value, tree, more, rfl, equal, place, chain, ends, belongs⟩ :=
      explains.assigned fault
    obtain ⟨rest, whole⟩ := grows _ belongs
    exact ⟨before ++ front, sign, value, tree, more ++ rest, by simp, equal, place, chain, ends,
      by simpa using whole⟩

/-- What has been read stands in front of what is unread. It satisfies `good` if the reading has a
value, and it explains the refusal if there is one. -/
def Reads {α : Type} (tokens : List Token) (outcome : Except Refusal (α × List Token))
    (good : α → List Token → List Token → Prop) (word : List Token → Prop) : Prop :=
  match outcome with
  | .ok (value, unread) => ∃ read, tokens = read ++ unread ∧ good value read unread
  | .error refusal => ∃ read, tokens = read ++ refusal.unread ∧ Explains word refusal read

section

variable {α β : Type} {tokens : List Token} {word : List Token → Prop}

theorem reads_ok {value : α} {good : α → List Token → List Token → Prop}
    (fine : good value [] tokens) : Reads tokens (.ok (value, tokens)) good word :=
  ⟨[], rfl, fine⟩

/-- A missing token is the only one that its word consists of. -/
theorem reads_unmet {good : α → List Token → List Token → Prop} (what : Expectation)
    (goesOn : ∀ token : Token, token.kind = what.kind → ∃ more, word (token :: more)) :
    Reads tokens (unmet what tokens) good word := by
  refine ⟨[], rfl, ?_, ?_⟩
  · intro other same
    cases same
    exact ⟨rfl, goesOn⟩
  · intro other
    cases other

/-- The second of two readings begins where the first one has ended. -/
theorem Reads.bind {first : Except Refusal (α × List Token)}
    {next : α × List Token → Except Refusal (β × List Token)}
    {good : α → List Token → List Token → Prop} {good' : β → List Token → List Token → Prop}
    {part : List Token → Prop} (reads : Reads tokens first good part)
    (grows : ∀ tokens, part tokens → ∃ more, word (tokens ++ more))
    (later : ∀ value read unread, first = .ok (value, unread) → good value read unread →
      Reads unread (next (value, unread)) (fun result more => good' result (read ++ more))
        (fun tokens => word (read ++ tokens))) :
    Reads tokens (first.bind next) good' word := by
  cases first with
  | error refusal =>
      obtain ⟨read, rfl, explains⟩ := reads
      exact ⟨read, rfl, explains.within [] grows⟩
  | ok pair =>
      obtain ⟨value, unread⟩ := pair
      obtain ⟨read, rfl, fine⟩ := reads
      have second := later value read unread rfl fine
      change Reads _ (next (value, unread)) _ _
      cases outcome : next (value, unread) with
      | error refusal =>
          rw [outcome] at second
          obtain ⟨more, rfl, explains⟩ := second
          refine ⟨read ++ more, (List.append_assoc ..).symm, explains.within read ?_⟩
          intro tokens belongs
          exact ⟨[], by simpa using belongs⟩
      | ok result =>
          rw [outcome] at second
          obtain ⟨more, same, fine⟩ := second
          exact ⟨read ++ more, by rw [same, List.append_assoc], fine⟩

/-- A reading of a part is a reading of the words that the part belongs to. -/
theorem Reads.mono {outcome : Except Refusal (α × List Token)}
    {good good' : α → List Token → List Token → Prop} {part : List Token → Prop}
    (reads : Reads tokens outcome good part)
    (grows : ∀ tokens, part tokens → ∃ more, word (tokens ++ more))
    (fine : ∀ value read unread, good value read unread → good' value read unread) :
    Reads tokens outcome good' word := by
  cases outcome with
  | error refusal =>
      obtain ⟨read, same, explains⟩ := reads
      exact ⟨read, same, explains.within [] grows⟩
  | ok pair =>
      obtain ⟨read, same, holds⟩ := reads
      exact ⟨read, same, fine _ _ _ holds⟩

/-- A value may be replaced by another one after the reading. -/
theorem Reads.map {outcome : Except Refusal (α × List Token)} {f : α → β}
    {good : β → List Token → List Token → Prop}
    (reads : Reads tokens outcome (fun value => good (f value)) word) :
    Reads tokens (outcome.map fun pair => (f pair.1, pair.2)) good word := by
  cases outcome with
  | error refusal => exact reads
  | ok pair => exact reads

/-- A first token that is passed over has been read, too. -/
theorem Reads.cons {token : Token} {outcome : Except Refusal (α × List Token)}
    {good : α → List Token → List Token → Prop}
    (reads : Reads tokens outcome (fun value read => good value (token :: read))
      (fun tokens => word (token :: tokens))) :
    Reads (token :: tokens) outcome good word := by
  cases outcome with
  | error refusal =>
      obtain ⟨read, same, explains⟩ := reads
      refine ⟨token :: read, by rw [same]; rfl, explains.within [token] ?_⟩
      intro tokens belongs
      exact ⟨[], by simpa using belongs⟩
  | ok pair =>
      obtain ⟨read, same, holds⟩ := reads
      exact ⟨token :: read, by rw [same]; rfl, holds⟩

/-- An assignment is refused when its value has been read. -/
theorem Reads.refuse {sign : Token} {outcome : Except Refusal (α × List Token)}
    {good : α → List Token → List Token → Prop} {good' : β → List Token → List Token → Prop}
    {part : List Token → Prop} (reads : Reads tokens outcome good part)
    (grows : ∀ tokens, part tokens → ∃ more, word (sign :: (tokens ++ more)))
    (fault : ∀ value read unread, good value read unread →
      Explains word ⟨⟨.invalidTarget, some sign⟩, unread⟩ (sign :: read)) :
    Reads (sign :: tokens)
      (outcome.bind fun later => .error ⟨⟨.invalidTarget, some sign⟩, later.2⟩) good' word := by
  cases outcome with
  | error refusal =>
      obtain ⟨read, same, explains⟩ := reads
      exact ⟨sign :: read, by rw [same]; rfl, explains.within [sign] grows⟩
  | ok pair =>
      obtain ⟨read, same, holds⟩ := reads
      exact ⟨sign :: read, by rw [same]; rfl, fault _ _ _ holds⟩

end

end FrontEnd.Parse
