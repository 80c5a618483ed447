import FrontEnd.Proofs.Output.SinkLaw
import FrontEnd.Run

namespace FrontEnd.Run

open Token

/-- The listing of tokens, if it is asked for. -/
def listed (listing : Bool) (tokens : List Token) : String :=
  if listing then String.join (tokens.map fun token => token.listing ++ "\n") else ""

/-- The lines of expressions. There are none if parsing has failed. -/
def lined : Except Diagnostic (List Expr) → String
  | .ok expressions => String.join (expressions.map fun expression => expression.text ++ "\n")
  | .error _ => ""

/-- What a run has to write. -/
def output (source : String) (listing : Bool) : String :=
  match unknownCharacters (scan source) with
  | [] => listed listing (scan source) ++ lined (Expr.ofTokens (scan source))
  | _ :: _ => ""

/-- What a run comes to if all that it has to write is written. -/
def verdict (source : String) : Except RunError (List Expr) :=
  match unknownCharacters (scan source) with
  | [] => (Expr.ofTokens (scan source)).mapError .parse
  | warnings => .error (.unknownCharacters warnings)

/-- A text that was refused takes the place of every other result. -/
def settle {α : Type} (fault : Option WriteFault) (result : Except RunError α) :
    Except RunError α :=
  match fault with
  | none => result
  | some fault => .error (.write fault)

/-- The result and the sink of a run are those of putting a text. -/
def Puts (run : Run) (sink : Sink) (text : String) (result : Except RunError (List Expr)) : Prop :=
  run.result = settle (sink.put text).1 result ∧ run.sink = (sink.put text).2

/-- Parsing and writing puts the lines of all trees, or nothing if parsing fails. -/
theorem parseAndWrite_puts (tokens : List Token) (sink : Sink) :
    (parseAndWrite tokens sink).Puts sink (lined (Expr.ofTokens tokens))
      ((Expr.ofTokens tokens).mapError .parse) := by
  dsimp only [parseAndWrite, Expr.ofTokens, Puts]
  cases (Parse.program tokens).outcome with
  | error refusal =>
      dsimp only [Except.mapError, lined]
      rw [Sink.put_empty]
      exact ⟨rfl, rfl⟩
  | ok expressions =>
      have pieces : sink.putAll (lines (expressions.map Expr.text)) =
          sink.put (lined (.ok expressions)) := by
        rw [Sink.putAll_eq_put_join, join_lines, List.map_map]
        rfl
      dsimp only [Except.mapError]
      rw [pieces]
      obtain ⟨fault, next⟩ := sink.put (lined (.ok expressions))
      cases fault <;> exact ⟨rfl, rfl⟩

/-- A listing that is put piece by piece is put as one text. -/
theorem putAll_listing (listing : Bool) (tokens : List Token) (sink : Sink) :
    sink.putAll (if listing then lines (tokens.map Token.listing) else []) =
      sink.put (listed listing tokens) := by
  rw [Sink.putAll_eq_put_join]
  cases listing with
  | false => rfl
  | true =>
      rw [if_pos rfl, join_lines, List.map_map]
      rfl

/-- The lines follow the listing if there is room for it. -/
theorem listAndParse_puts (listing : Bool) (tokens : List Token) (sink : Sink) :
    (listAndParse listing tokens sink).Puts sink
      (listed listing tokens ++ lined (Expr.ofTokens tokens))
      ((Expr.ofTokens tokens).mapError .parse) := by
  unfold listAndParse Puts
  rw [putAll_listing, Sink.put_append]
  obtain ⟨fault, next⟩ := sink.put (listed listing tokens)
  cases fault with
  | none => exact parseAndWrite_puts tokens next
  | some fault => exact ⟨rfl, rfl⟩

/-- A source without unknown characters is listed and parsed. -/
theorem ofSource_of_known {source : String} (known : unknownCharacters (scan source) = [])
    (listing : Bool) (sink : Sink) :
    (ofSource source listing sink).result = (listAndParse listing (scan source) sink).result ∧
      (ofSource source listing sink).sink = (listAndParse listing (scan source) sink).sink := by
  dsimp only [ofSource, Scan.tokens_ofString]
  rw [known]
  exact ⟨rfl, rfl⟩

/-- Unknown characters end a run before it writes anything. -/
theorem ofSource_of_unknown {source : String} {warning : Diagnostic} {warnings : Diagnostics}
    (unknown : unknownCharacters (scan source) = warning :: warnings) (listing : Bool)
    (sink : Sink) :
    (ofSource source listing sink).result = .error (.unknownCharacters (warning :: warnings)) ∧
      (ofSource source listing sink).sink = sink := by
  dsimp only [ofSource, Scan.tokens_ofString]
  rw [unknown]
  exact ⟨rfl, rfl⟩

/-- A run depends on its sink only in what the sink does with the output. -/
theorem ofSource_puts (source : String) (listing : Bool) (sink : Sink) :
    (ofSource source listing sink).Puts sink (output source listing) (verdict source) := by
  unfold output verdict Puts
  cases found : unknownCharacters (scan source) with
  | nil =>
      have same := ofSource_of_known found listing sink
      rw [same.1, same.2]
      exact listAndParse_puts listing (scan source) sink
  | cons warning warnings =>
      have same := ofSource_of_unknown found listing sink
      rw [same.1, same.2, Sink.put_empty]
      exact ⟨rfl, rfl⟩

/-- With room for everything all of the output is written. -/
theorem written_ofSource_unlimited (source : String) (listing : Bool) :
    (ofSource source listing .unlimited).sink.written = (output source listing).toUTF8 := by
  rw [(ofSource_puts source listing _).2, Sink.put_unlimited]

/-- With room for everything only the source decides about the result. -/
theorem result_ofSource_unlimited (source : String) (listing : Bool) :
    (ofSource source listing .unlimited).result = verdict source := by
  rw [(ofSource_puts source listing _).1, Sink.put_unlimited]
  rfl

section

variable {source : String}

/-- There is no output if there are unknown characters. -/
theorem output_of_unknown {warning : Diagnostic} {warnings : Diagnostics}
    (unknown : unknownCharacters (scan source) = warning :: warnings) (listing : Bool) :
    output source listing = "" := by
  rw [output, unknown]

/-- Otherwise the output is the listing and the lines of the trees. -/
theorem output_of_known (known : unknownCharacters (scan source) = []) (listing : Bool) :
    output source listing =
      listed listing (scan source) ++ lined (Expr.ofTokens (scan source)) := by
  rw [output, known]

/-- A parse error leaves the listing and nothing else. -/
theorem output_of_error {error : Diagnostic} (known : unknownCharacters (scan source) = [])
    (failed : Expr.ofTokens (scan source) = .error error) (listing : Bool) :
    output source listing = listed listing (scan source) := by
  rw [output_of_known known, failed, lined, String.append_empty]

/-- Unknown characters are the first reason to fail. -/
theorem verdict_of_unknown {warning : Diagnostic} {warnings : Diagnostics}
    (unknown : unknownCharacters (scan source) = warning :: warnings) :
    verdict source = .error (.unknownCharacters (warning :: warnings)) := by
  rw [verdict, unknown]

/-- A parse error is the second one. -/
theorem verdict_of_error {error : Diagnostic} (known : unknownCharacters (scan source) = [])
    (failed : Expr.ofTokens (scan source) = .error error) :
    verdict source = .error (.parse error) := by
  rw [verdict, known, failed]
  rfl

end

/-- A source is accepted if there is no reason to fail. -/
theorem verdict_eq_ok_iff (source : String) (expressions : List Expr) :
    verdict source = .ok expressions ↔
      unknownCharacters (scan source) = [] ∧ Expr.ofTokens (scan source) = .ok expressions := by
  unfold verdict
  cases unknownCharacters (scan source) with
  | nil => cases Expr.ofTokens (scan source) <;> simp [Except.mapError]
  | cons warning warnings => simp

end FrontEnd.Run
