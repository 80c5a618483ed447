import FrontEnd.Proofs.Diagnostic.Findings
import FrontEnd.Proofs.Diagnostic.Report

namespace FrontEnd

namespace RunError

/-- The text of an error is that of its diagnostics. -/
theorem text_diagnostics (error : RunError) : error.diagnostics.text = error.text := by
  cases error with
  | unknownCharacters warnings => rfl
  | parse diagnostic => simp [diagnostics, Diagnostics.text, text]
  | write fault =>
      have message : (Diagnostic.error fault.text).text = "Error: " ++ fault.text := by
        simp [Diagnostic.text, Diagnostic.error, Diagnostic.placeText, Severity.name]
      simp [diagnostics, Diagnostics.text, text, message]

/-- A plain report puts the text and a line feed, in however many pieces. -/
theorem putAll_report_plain {error : RunError} (nonempty : error.diagnostics ≠ [])
    (out : Sink) : out.putAll (error.report .plain) = out.put (error.text ++ "\n") := by
  have texts : error.diagnostics.map (·.framed .plain) = error.diagnostics.map Diagnostic.text := rfl
  rw [Sink.putAll_eq_put_join, report, Diagnostics.join_report, Diagnostics.rendering,
    if_neg nonempty, texts, ← Diagnostics.text, text_diagnostics]

end RunError

namespace Run

open Token

/-- What the diagnostics of an error say. They are warnings if they are about unknown characters.
Those of a faulty source stand at tokens of it, and those of a faulty sink stand nowhere. -/
structure Finds (source : String) (error : RunError) : Prop where
  nonempty : error.diagnostics ≠ []
  mild : error.diagnostics.hasErrors = false ↔ ∃ warnings, error = .unknownCharacters warnings
  placed : (∀ fault, error ≠ .write fault) →
    ∀ diagnostic ∈ error.diagnostics, ∃ token ∈ scan source, diagnostic.Blames token
  unplaced : ∀ fault, error = .write fault →
    ∀ diagnostic ∈ error.diagnostics, diagnostic.line = none ∧ diagnostic.column = none

/-- A fault of writing is an error without a place. -/
theorem finds_write (source : String) (fault : WriteFault) : Finds source (.write fault) where
  nonempty := List.cons_ne_nil _ _
  mild := ⟨nofun, nofun⟩
  placed noFault := absurd rfl (noFault fault)
  unplaced _ _ := List.forall_mem_singleton.2 ⟨rfl, rfl⟩

/-- Unknown characters are warnings, and nothing else is. -/
theorem finds_unknownCharacters {source : String} (unknown : unknownCharacters (scan source) ≠ []) :
    Finds source (.unknownCharacters (unknownCharacters (scan source))) where
  nonempty := unknown
  mild := by
    have warnings : (unknownCharacters (scan source)).hasErrors = false := by
      rw [Diagnostics.hasErrors, List.any_eq_false]
      intro warning member
      simp [Diagnostic.isError, (blames_of_mem_unknownCharacters member).1]
    exact ⟨fun _ => ⟨_, rfl⟩, fun _ => warnings⟩
  placed _ _ member := (blames_of_mem_unknownCharacters member).2.2
  unplaced := nofun

/-- A parse error is one diagnostic, which blames a token of the source. -/
theorem finds_parse {source : String} {error : Diagnostic}
    (failed : Expr.ofTokens (scan source) = .error error) : Finds source (.parse error) where
  nonempty := List.cons_ne_nil _ _
  mild := by
    have severe : Diagnostics.hasErrors [error] = true := by
      simp [Diagnostics.hasErrors, Diagnostic.isError, (Expr.blames_of_ofTokens_scan failed).1]
    exact ⟨fun mild => absurd (severe.symm.trans mild) nofun, nofun⟩
  placed _ := List.forall_mem_singleton.2 (Expr.blames_of_ofTokens_scan failed).2
  unplaced := nofun

/-- A run fails for one of these three reasons, and each of them finds something. -/
theorem finds_of_error {source : String} {listing : Bool} {sink : Sink} {error : RunError}
    (failed : (ofSource source listing sink).result = .error error) : Finds source error := by
  obtain ⟨fault, rfl⟩ | ⟨warnings, rfl, nonempty, rfl⟩ | ⟨diagnostic, rfl, refused⟩ :=
    error_cases failed
  · exact finds_write source fault
  · exact finds_unknownCharacters nonempty
  · exact finds_parse refused

/-- An error reads the same as a text and as a report. A report puts the text and a line feed into
any sink, and a sink without limits takes them. -/
theorem report_of_error {source : String} {listing : Bool} {sink : Sink} {error : RunError}
    (failed : (ofSource source listing sink).result = .error error) :
    Finds source error ∧
    (∀ out : Sink, out.putAll (error.report .plain) = out.put (error.text ++ "\n")) ∧
    Sink.unlimited.putAll (error.report .plain) =
      (none, ⟨(error.text ++ "\n").toUTF8, none, none⟩) := by
  have finds := finds_of_error failed
  have reads := RunError.putAll_report_plain finds.nonempty
  refine ⟨finds, reads, ?_⟩
  rw [reads, Sink.put_unlimited]

/-- An operand is missing at the end of the source, which has a place, too. -/
theorem report_of_error_operand :
    let run := ofSource "a\n + " true .unlimited
    ∃ error, run.result = .error error ∧
      error.text = "Error: Expect expression. at line 2, column 4" ∧
      Sink.unlimited.putAll (error.report .plain) =
        (none, ⟨"Error: Expect expression. at line 2, column 4\n".toUTF8, none, none⟩) ∧
      error.diagnostics.hasErrors = true ∧
      ∀ diagnostic ∈ error.diagnostics, ∃ token ∈ scan "a\n + ", diagnostic.Blames token := by
  have scanned : scan "a\n + " =
      [⟨.identifier, "a", ⟨1, 1⟩⟩, ⟨.plus, "+", ⟨2, 2⟩⟩, ⟨.eof, "", ⟨2, 4⟩⟩] := by cbv
  have refused : Parse.result (Parse.sequence .eof
      [⟨.identifier, "a", ⟨1, 1⟩⟩, ⟨.plus, "+", ⟨2, 2⟩⟩, ⟨.eof, "", ⟨2, 4⟩⟩]) =
      .error ⟨⟨.expected .expression, some ⟨.eof, "", ⟨2, 4⟩⟩⟩, [⟨.eof, "", ⟨2, 4⟩⟩]⟩ := by
    cbv
  have wrong : Expr.ofTokens (scan "a\n + ") =
      .error ⟨.error, "Expect expression.", some 2, some 4⟩ := by
    rw [scanned]
    exact (Expr.ofTokens_eq_error_iff _ _).2 ⟨_, refused, rfl⟩
  have known : unknownCharacters (scan "a\n + ") = [] := by decide +kernel
  have failed : (ofSource "a\n + " true .unlimited).result =
      .error (.parse ⟨.error, "Expect expression.", some 2, some 4⟩) := by
    rw [result_ofSource_unlimited, verdict_of_error known wrong]
  have noFault (fault : WriteFault) :
      RunError.parse ⟨.error, "Expect expression.", some 2, some 4⟩ ≠ .write fault := by simp
  obtain ⟨finds, _, report⟩ := report_of_error failed
  exact ⟨_, failed, by decide, report, by decide, finds.placed noFault⟩

end Run

end FrontEnd
