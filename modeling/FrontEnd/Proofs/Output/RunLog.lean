import FrontEnd.Proofs.Descent.Traces
import FrontEnd.Proofs.Grammar.Acceptance
import FrontEnd.Proofs.Token.Foreign

namespace FrontEnd

open Token Parse Attempt

namespace Parse

/-- The end of a program is noted if there are no errors. -/
theorem log_program (tokens : List Token) :
    (program tokens).log = (unbound (sequence .eof tokens)).log ++
      match Expr.ofTokens tokens with
      | .ok trees => [.parsedAll trees.length tokens.length]
      | .error _ => [] := by
  rw [Expr.ofTokens, outcome_program, result, program, log_bind, unbound, log_map, outcome_map]
  cases (sequence .eof tokens).outcome with
  | error refusal => rfl
  | ok reading => rfl

/-- No token of a program is tried as a primary twice. -/
theorem visits_log_program (tokens : List Token) :
    (visits (program tokens).log).Sublist tokens := by
  have same : visits (program tokens).log = visits (unbound (sequence .eof tokens)).log := by
    rw [log_program, visits, List.filterMap_append]
    cases Expr.ofTokens tokens with
    | error _ => exact List.append_nil _
    | ok _ => exact List.append_nil _
  rw [same]
  exact (sequence_traces .eof tokens).visits_sublist

/-- A descent that fails notes steps, and never that it has parsed anything. -/
theorem isStep_of_mem_log_program {tokens : List Token} {error : Diagnostic}
    (failed : Expr.ofTokens tokens = .error error) :
    ∀ event ∈ (program tokens).log, event.IsStep := by
  rw [log_program, failed, List.append_nil]
  exact (sequence_traces .eof tokens).steps

/-- The trees of a source stand for the entries that reading them leaves in the log. -/
theorem text_log_program {source : String} {trees : List Expr}
    (parsed : Expr.ofTokens (scan source) = .ok trees) :
    (program (scan source)).log.map Event.text = Expr.traceAll trees ++
      [(Event.parsedAll trees.length (scan source).length).text] := by
  obtain ⟨unread, outcome⟩ := (Expr.ofTokens_eq_ok_iff ..).1 parsed
  obtain ⟨read, split, _, holds⟩ := (sequence_traces .eof (scan source)).read trees unread outcome
  have solid : ∀ token ∈ read, token.kind ≠ .eof := by
    have reads := sequence_reads .eof (scan source)
    rw [outcome] at reads
    obtain ⟨again, alsoSplit, program, _⟩ := reads
    obtain rfl : read = again := List.append_cancel_right (split.symm.trans alsoSplit)
    exact (program .plain).solid
  have spelled : AllSpelled read := by
    intro token member
    have inside : token ∈ scan source := by
      rw [split]
      exact List.mem_append_left unread member
    exact spells_of_mem_scan inside (solid token member)
  rw [log_program, parsed, List.map_append, holds spelled, List.map_singleton]

end Parse

namespace Scan

/-- The tokens of a text are noted one by one in their order, all but the end. -/
theorem log_ofText (position : Position) (text : List Char) :
    (ofText position text).log = (scanFrom position text).dropLast.map .scanned := by
  induction position, text using ofText.induct with
  | case1 position =>
      rw [scanFrom_nil, ofText]
      rfl
  | case2 position first rest blank ih =>
      rw [ofText_blank _ _ _ blank, scanFrom_blank _ _ _ blank, ih]
  | case3 position first rest solid more ih =>
      have solid : isBlank first = false := by simpa using solid
      rw [ofText_token _ _ _ solid, scanFrom_token _ _ _ solid,
        List.dropLast_cons_of_ne_nil (scanFrom_ne_nil _ _), List.map_cons, ← ih, add]

/-- The same holds of a source text. -/
theorem log_ofString (source : String) :
    (ofString source).log = (scan source).dropLast.map .scanned :=
  log_ofText .start source.toList

end Scan

namespace Run

/-- Writing leaves nothing in the log. -/
theorem log_parseAndWrite (tokens : List Token) (sink : Sink) :
    (parseAndWrite tokens sink).log = (program tokens).log := by
  dsimp only [parseAndWrite]
  cases (program tokens).outcome with
  | error refusal => rfl
  | ok expressions =>
      dsimp only
      obtain ⟨fault, next⟩ := sink.putAll (lines (expressions.map Expr.text))
      cases fault <;> rfl

/-- Nothing is parsed if the listing of the tokens is refused. -/
theorem log_listAndParse (listing : Bool) (tokens : List Token) (sink : Sink) :
    (listAndParse listing tokens sink).log =
      match (sink.put (listed listing tokens)).1 with
      | none => (program tokens).log
      | some _ => [] := by
  rw [listAndParse, putAll_listing]
  obtain ⟨fault, next⟩ := sink.put (listed listing tokens)
  cases fault with
  | none => exact log_parseAndWrite tokens next
  | some fault => rfl

/-- Nothing is parsed either if there are unknown characters. -/
theorem log_ofSource_eq (source : String) (listing : Bool) (sink : Sink) :
    (ofSource source listing sink).log =
      (Scan.ofString source).log ++ [.scannedAll (scan source).length] ++
      match unknownCharacters (scan source) with
      | [] => (listAndParse listing (scan source) sink).log
      | _ :: _ => [] := by
  dsimp only [ofSource, Scan.tokens_ofString]
  cases unknownCharacters (scan source) with
  | nil => rfl
  | cons warning warnings => exact (List.append_nil _).symm

/-- What stands in the log of a run behind the tokens of its source. Nothing does if a token is
unknown or if the listing of the tokens is refused. Otherwise the trees of the source determine it,
or, if there is an error, it has nothing but steps of the descent. No token is tried as a primary
twice. -/
structure Follows (source : String) (listing : Bool) (sink : Sink) (later : List Event) : Prop where
  once : (visits later).Sublist (scan source)
  unknown : (∃ token ∈ scan source, token.kind = .unknown) → later = []
  refused : (sink.put (listed listing (scan source))).1 ≠ none → later = []
  parsed : (∀ token ∈ scan source, token.kind ≠ .unknown) →
    (sink.put (listed listing (scan source))).1 = none →
    ∀ trees, Expr.ofTokens (scan source) = .ok trees →
      later.map Event.text = Expr.traceAll trees ++
        [(Event.parsedAll trees.length (scan source).length).text]
  failed : (∀ token ∈ scan source, token.kind ≠ .unknown) →
    ∀ error, Expr.ofTokens (scan source) = .error error → ∀ event ∈ later, event.IsStep

/-- Nothing follows the tokens of a run that stops before it parses. -/
theorem follows_nil {source : String} {listing : Bool} {sink : Sink}
    (stops : (∃ token ∈ scan source, token.kind = .unknown) ∨
      (sink.put (listed listing (scan source))).1 ≠ none) : Follows source listing sink [] where
  once := List.nil_sublist _
  unknown _ := rfl
  refused _ := rfl
  parsed known taken := by
    obtain ⟨token, member, unknown⟩ | refused := stops
    · exact absurd unknown (known token member)
    · exact absurd taken refused
  failed _ _ _ := List.forall_mem_nil _

/-- The log of the descent follows the tokens of a run that parses. -/
theorem follows_program {source : String} {listing : Bool} {sink : Sink}
    (known : ∀ token ∈ scan source, token.kind ≠ .unknown)
    (taken : (sink.put (listed listing (scan source))).1 = none) :
    Follows source listing sink (program (scan source)).log where
  once := visits_log_program _
  unknown found := by
    obtain ⟨token, member, unknown⟩ := found
    exact absurd unknown (known token member)
  refused refused := absurd taken refused
  parsed _ _ _ := text_log_program
  failed _ _ := isStep_of_mem_log_program

/-- The log of a run begins with the tokens of its source, all but the end, and with their number.
-/
theorem log_ofSource (source : String) (listing : Bool) (sink : Sink) :
    ∃ tokens place later, scan source = tokens ++ [⟨.eof, "", place⟩] ∧
      (∀ token ∈ tokens, token.kind ≠ .eof) ∧
      (ofSource source listing sink).log =
        tokens.map .scanned ++ .scannedAll (tokens.length + 1) :: later ∧
      Follows source listing sink later := by
  obtain ⟨tokens, place, scanned, solid⟩ := exists_scan_eq_append source
  have log := log_ofSource_eq source listing sink
  have count : (scan source).length = tokens.length + 1 := by
    rw [scanned, List.length_append, List.length_singleton]
  have noted : (scan source).dropLast = tokens := by rw [scanned, List.dropLast_concat]
  rw [Scan.log_ofString, noted, count, List.append_assoc, List.singleton_append] at log
  refine ⟨tokens, place, _, scanned, solid, log, ?_⟩
  cases found : unknownCharacters (scan source) with
  | cons warning warnings =>
      refine follows_nil (.inl (by_contra fun none => ?_))
      have known := (unknownCharacters_eq_nil_iff (scan source)).2
        fun token member unknown => none ⟨token, member, unknown⟩
      rw [found] at known
      cases known
  | nil =>
      have known := (unknownCharacters_eq_nil_iff _).1 found
      dsimp only
      rw [log_listAndParse]
      cases taken : (sink.put (listed listing (scan source))).1 with
      | none => exact follows_program known taken
      | some fault => exact follows_nil (.inr (by simp [taken]))

/-- A function is noted after its body. -/
theorem log_ofSource_function :
    ∃ (tokens : List Token) (later : List Event),
      (ofSource "fun f(a) \x7b a \x7d" true .unlimited).log =
        tokens.map .scanned ++ .scannedAll 9 :: later ∧
      later.map Event.text = ["TRACE parser: primary at Fun 'fun'",
        "TRACE parser: primary at Identifier 'a'", "TRACE parser: function f with 1 parameters",
        "DEBUG parser: Parsed 1 top-level expressions from 9 tokens"] := by
  obtain ⟨tokens, place, later, scanned, _, log, follows⟩ :=
    log_ofSource "fun f(a) \x7b a \x7d" true .unlimited
  have count : (scan "fun f(a) \x7b a \x7d").length = 9 := by decide +kernel
  have known : ∀ token ∈ scan "fun f(a) \x7b a \x7d", token.kind ≠ .unknown := by decide +kernel
  have parsed : Expr.ofTokens (scan "fun f(a) \x7b a \x7d") =
      .ok [.function ⟨.identifier, "f", ⟨1, 5⟩⟩ [⟨.identifier, "a", ⟨1, 7⟩⟩] [.literal "a"]] := by
    cbv
  have front : tokens.length + 1 = 9 := by
    rw [← count, scanned, List.length_append, List.length_singleton]
  rw [front] at log
  refine ⟨tokens, later, log, ?_⟩
  rw [follows.parsed known (by rw [Sink.put_unlimited]) _ parsed, count]
  decide

end Run

end FrontEnd
