import FrontEnd.Proofs.Output.RunLaw

namespace FrontEnd.Run

open Token

section

variable (source : String) (listing : Bool) (room : Nat) (complaint : Option String)

/-- A limited run writes the first bytes of what an unlimited one writes. -/
theorem written_ofSource_limited :
    (ofSource source listing (.limited room complaint)).sink.written =
      (output source listing).toUTF8.extract 0 room := by
  rw [(ofSource_puts source listing _).2, Sink.written_put_limited]

/-- It comes to the same result if all of the output fits. -/
theorem result_ofSource_limited :
    (ofSource source listing (.limited room complaint)).result =
      if (output source listing).toUTF8.size ≤ room then verdict source
      else .error (.write (Sink.limited room complaint).fault) := by
  rw [(ofSource_puts source listing _).1, Sink.fst_put_limited]
  split <;> rfl

end

/-- On a sink with room for some bytes a run writes as many bytes of what it would write without a
limit. If they are all of them, its result is the same, and otherwise it is the fault of the sink.
Nothing is written if there are unknown characters, which no fault conceals, and no more than the
listing if the source is not parsed, which a fault conceals if the listing does not fit. -/
theorem ofSource_limited_truncates (source : String) (listing : Bool) (room : Nat)
    (complaint : Option String) :
    let whole := ofSource source listing .unlimited
    let cut := ofSource source listing (.limited room complaint)
    let listed := listed listing (scan source)
    (whole.sink.written.size ≤ room →
      cut.result = whole.result ∧ cut.sink.written = whole.sink.written) ∧
    (room < whole.sink.written.size →
      cut.sink.written = whole.sink.written.extract 0 room ∧ ∃ fault,
        cut.result = .error (.write fault) ∧
          fault.text = complaint.getD "failed to write whole buffer") ∧
    (∀ warning warnings, unknownCharacters (scan source) = warning :: warnings →
      whole.sink.written = .empty ∧
        cut.result = .error (.unknownCharacters (warning :: warnings))) ∧
    (unknownCharacters (scan source) = [] →
      (∀ trees, Expr.ofTokens (scan source) = .ok trees →
        whole.result = .ok trees ∧ whole.sink.written = (listed ++ lined (.ok trees)).toUTF8) ∧
      ∀ error, Expr.ofTokens (scan source) = .error error →
        whole.result = .error (.parse error) ∧ whole.sink.written = listed.toUTF8 ∧
          (cut.result = .error (.parse error) ↔ listed.toUTF8.size ≤ room)) := by
  intro whole cut
  rw [written_ofSource_unlimited, result_ofSource_unlimited, written_ofSource_limited,
    result_ofSource_limited]
  refine ⟨?_, ?_, ?_, ?_⟩
  · intro fits
    rw [if_pos fits, ← Nat.max_eq_left fits, ByteArray.extract_zero_max_size]
    exact ⟨rfl, rfl⟩
  · intro exceeds
    rw [if_neg (Nat.not_le_of_gt exceeds)]
    exact ⟨rfl, _, rfl, Sink.text_fault_limited room complaint⟩
  · intro warning warnings unknown
    rw [output_of_unknown unknown, verdict_of_unknown unknown]
    exact ⟨rfl, if_pos (Nat.zero_le room)⟩
  · intro known
    constructor
    · intro trees parsed
      rw [output_of_known known, parsed]
      exact ⟨(verdict_eq_ok_iff source trees).2 ⟨known, parsed⟩, rfl⟩
    · intro error failed
      rw [output_of_error known failed, verdict_of_error known failed]
      refine ⟨rfl, rfl, ?_⟩
      by_cases fits : (Run.listed listing (scan source)).toUTF8.size ≤ room
      · rw [if_pos fits]
        exact ⟨fun _ => fits, fun _ => rfl⟩
      · rw [if_neg fits]
        exact ⟨nofun, fun within => absurd within fits⟩

/-- A sink with room for four bytes is full in the middle of a line. -/
theorem ofSource_limited_truncates_sum :
    let whole := ofSource "a + b" false .unlimited
    let cut := ofSource "a + b" false (.limited 4 none)
    whole.sink.written = "(+ a b)\n".toUTF8 ∧ cut.sink.written = "(+ a".toUTF8 ∧
      ∃ fault, cut.result = .error (.write fault) ∧
        fault.text = "failed to write whole buffer" := by
  intro whole cut
  have written : whole.sink.written = "(+ a b)\n".toUTF8 := by
    rw [written_ofSource_unlimited]
    cbv
  have exceeds : 4 < whole.sink.written.size := by
    rw [written]
    decide
  obtain ⟨_, truncated, _⟩ := ofSource_limited_truncates "a + b" false 4 none
  obtain ⟨beginning, refused⟩ := truncated exceeds
  refine ⟨written, ?_, refused⟩
  rw [beginning, written]
  decide

end FrontEnd.Run
