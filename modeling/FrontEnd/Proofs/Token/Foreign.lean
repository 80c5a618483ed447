import FrontEnd.Proofs.Output.RunLaw
import FrontEnd.Proofs.Token.Places

namespace FrontEnd

open Token Text Kind

/-- The supported characters that are neither letters nor digits. -/
def supportedSigns : List Char :=
  ['_', '(', ')', '\x7b', '\x7d', ',', '.', '-', '+', ';', '*', '!', '=', '<', '>', ' ', '\t', '\r',
    '\n']

/-- Letters and digits are those of ASCII. -/
def isSupported (character : Char) : Bool :=
  character.isAlpha || character.isDigit || supportedSigns.contains character

/-- The warning about a single character. -/
def foreignWarning (character : Char) (position : Position) : Diagnostic :=
  (Diagnostic.warning ("Unexpected character \"" ++ String.singleton character ++ "\"")).placed
    position

/-- One warning for each character of a text that is not supported. Each character stands where
`place` says that the text in front of it ends. -/
def foreignWarnings (place : List Char → Position) (text : List Char) : Diagnostics :=
  (text.zipIdx.filter fun entry => !isSupported entry.1).map fun entry =>
    foreignWarning entry.1 (place (text.take entry.2))

theorem isSupported_iff (character : Char) :
    isSupported character = true ↔
      isBlank character = true ∨ isWordPart character = true ∨
        character ∈ loneSigns.map Prod.fst ∨ character ∈ joinableSigns.map Prod.fst := by
  simp only [isSupported, supportedSigns, isBlank, isWordPart, isWordStart, loneSigns,
    joinableSigns, List.map_cons, List.map_nil, List.contains_eq_mem, List.mem_cons,
    List.not_mem_nil, or_false, Bool.or_eq_true, decide_eq_true_eq, beq_iff_eq]
  grind

/-- A text that has a kind has supported characters only. -/
theorem Spells.supported {text : List Char} {kind : Kind} (spells : Spells text kind)
    (known : kind ≠ .unknown) : ∀ character ∈ text, isSupported character = true := by
  intro character member
  rw [isSupported_iff]
  rcases spells.class_of_mem character member with part | lone | joinable | ⟨_, unknown⟩
  · exact .inr (.inl part)
  · exact .inr (.inr (.inl lone))
  · exact .inr (.inr (.inr joinable))
  · exact absurd unknown known

/-- A text that fits no rule is a single character, and this one is not supported. -/
theorem Spells.exists_foreign {text : List Char} (spells : Spells text .unknown) :
    ∃ character, text = [character] ∧ isSupported character = false := by
  cases spells with
  | lone sign =>
      have all : ∀ entry ∈ loneSigns, entry.2 ≠ .unknown := by decide
      exact absurd rfl (all _ sign)
  | alone sign =>
      have all : ∀ entry ∈ joinableSigns, entry.2.1 ≠ .unknown := by decide
      exact absurd rfl (all _ sign)
  | joined sign =>
      have all : ∀ entry ∈ joinableSigns, entry.2.2 ≠ .unknown := by decide
      exact absurd rfl (all _ sign)
  | @unknown character solid noDigit noStart noLone noJoinable =>
      refine ⟨character, rfl, Bool.eq_false_iff.2 fun supported => ?_⟩
      have noPart : isWordPart character = false := by simp [isWordPart, noStart, noDigit]
      rw [isSupported_iff, solid, noPart] at supported
      simp [noLone, noJoinable] at supported

@[simp] theorem foreignWarnings_nil (place : List Char → Position) :
    foreignWarnings place [] = [] := rfl

/-- The first character is warned about unless it is supported, and all others count from behind it.
-/
theorem foreignWarnings_cons (place : List Char → Position) (first : Char) (rest : List Char) :
    foreignWarnings place (first :: rest) =
      (if isSupported first then [] else [foreignWarning first (place [])]) ++
        foreignWarnings (fun text => place (first :: text)) rest := by
  have later : rest.zipIdx 1 = rest.zipIdx.map fun entry => (entry.1, entry.2 + 1) := by
    rw [List.zipIdx_succ]
  unfold foreignWarnings
  rw [List.zipIdx_cons, later, List.filter_cons, List.filter_map]
  cases isSupported first <;> simp [Function.comp_def]

/-- Supported characters in front of a text move the places behind them. -/
theorem foreignWarnings_append {front : List Char}
    (supported : ∀ character ∈ front, isSupported character = true)
    (place : List Char → Position) (rest : List Char) :
    foreignWarnings place (front ++ rest) =
      foreignWarnings (fun text => place (front ++ text)) rest := by
  induction front generalizing place with
  | nil => rfl
  | cons first front ih =>
      rw [List.forall_mem_cons] at supported
      rw [List.cons_append, foreignWarnings_cons, if_pos supported.1, ih supported.2]
      rfl

namespace Token

/-- The first token is warned about if it is unknown. -/
theorem unknownCharacters_cons (token : Token) (rest : List Token) :
    unknownCharacters (token :: rest) =
      (if token.kind = .unknown then [token.unknownWarning] else []) ++ unknownCharacters rest := by
  unfold unknownCharacters
  rw [List.filter_cons]
  by_cases unknown : token.kind = .unknown <;> simp [unknown]

/-- There is nothing to warn about if no token is unknown. -/
theorem unknownCharacters_eq_nil_iff (tokens : List Token) :
    unknownCharacters tokens = [] ↔ ∀ token ∈ tokens, token.kind ≠ .unknown := by
  simp [unknownCharacters]

/-- An unknown token is warned about as its only character is. -/
theorem unknownWarning_lexed (position : Position) (character : Char) :
    (lexed position character []).unknownWarning = foreignWarning character position := by
  rw [foreignWarning, String.singleton_eq_ofList]
  rfl

/-- The first token of a text is warned about as the characters are that it takes. -/
theorem foreignWarnings_continuation (position : Position) {first : Char}
    (solid : isBlank first = false) (rest : List Char) :
    foreignWarnings position.advance (first :: rest) =
      (if (lexed position first (continuation first rest)).kind = .unknown then
          [(lexed position first (continuation first rest)).unknownWarning] else []) ++
        foreignWarnings (position.advance (first :: continuation first rest)).advance
          (rest.drop (continuation first rest).length) := by
  obtain ⟨kind, spells, _⟩ := exists_spells_continuation solid rest
  have whole := continuation_append_drop first rest
  generalize continuation first rest = more at *
  have isKind : (lexed position first more).kind = kind := spells.ofLexeme_eq first more rfl
  by_cases unknown : kind = .unknown
  · subst unknown
    obtain ⟨character, same, foreign⟩ := spells.exists_foreign
    obtain ⟨rfl, rfl⟩ := List.cons.inj same
    rw [foreignWarnings_cons, foreign, if_neg Bool.false_ne_true, if_pos isKind,
      unknownWarning_lexed]
    rfl
  · have behind : (fun text => position.advance (first :: more ++ text)) =
        (position.advance (first :: more)).advance := by
      funext text
      exact position.advance_append (first :: more) text
    have parts : first :: rest = first :: more ++ rest.drop more.length :=
      congrArg (List.cons first) whole.symm
    rw [parts, foreignWarnings_append (spells.supported unknown), behind, if_neg (isKind ▸ unknown),
      List.nil_append]

/-- The warnings about tokens are those about characters, from any position on. -/
theorem unknownCharacters_scanFrom (position : Position) (text : List Char) :
    unknownCharacters (scanFrom position text) = foreignWarnings position.advance text := by
  induction position, text using Scan.ofText.induct with
  | case1 position => rw [scanFrom_nil, foreignWarnings_nil]; rfl
  | case2 position first rest blank ih =>
      have supported : isSupported first = true := (isSupported_iff first).2 (.inl blank)
      rw [scanFrom_blank _ _ _ blank, ih, foreignWarnings_cons, if_pos supported]
      rfl
  | case3 position first rest noBlank more ih =>
      have solid : isBlank first = false := by simpa using noBlank
      rw [scanFrom_token _ _ _ solid, unknownCharacters_cons, ih,
        foreignWarnings_continuation position solid rest]

end Token

namespace Run

/-- A run fails because of unknown characters if and only if there are any. -/
theorem result_ofSource_eq_unknown_iff (source : String) (listing : Bool) (sink : Sink)
    (warnings : Diagnostics) :
    (ofSource source listing sink).result = .error (.unknownCharacters warnings) ↔
      warnings ≠ [] ∧ unknownCharacters (scan source) = warnings := by
  cases found : unknownCharacters (scan source) with
  | cons first rest =>
      rw [(ofSource_of_unknown found listing sink).1]
      constructor
      · intro same
        cases same
        exact ⟨List.cons_ne_nil _ _, rfl⟩
      · rintro ⟨_, rfl⟩
        rfl
  | nil =>
      have known : verdict source = (Expr.ofTokens (scan source)).mapError .parse := by
        rw [verdict, found]
      rw [(ofSource_puts source listing sink).1, known]
      constructor
      · intro failed
        generalize (sink.put (output source listing)).1 = fault at failed
        generalize Expr.ofTokens (scan source) = parsed at failed
        cases fault with
        | some fault => cases failed
        | none => cases parsed <;> cases failed
      · rintro ⟨nonempty, rfl⟩
        exact absurd rfl nonempty

/-- There is one warning for each character that is not supported, at the place of the character. A
run fails with these warnings if there are any, and never fails with others. -/
theorem unknownCharacters_eq_foreignWarnings (source : String) :
    unknownCharacters (scan source) = foreignWarnings finish source.toList ∧
      ∀ listing sink warnings,
        (ofSource source listing sink).result = .error (.unknownCharacters warnings) ↔
          warnings ≠ [] ∧ warnings = foreignWarnings finish source.toList := by
  have same : unknownCharacters (scan source) = foreignWarnings finish source.toList := by
    have places : Position.start.advance = finish := by
      funext text
      exact Position.advance_start text
    rw [scan, unknownCharacters_scanFrom, places]
  refine ⟨same, ?_⟩
  intro listing sink warnings
  rw [result_ofSource_eq_unknown_iff, same, eq_comm (a := warnings)]

example : foreignWarnings finish "é\n1_$".toList =
    [foreignWarning 'é' ⟨1, 1⟩, foreignWarning '$' ⟨2, 3⟩] := by
  cbv

end Run

end FrontEnd
