import FrontEnd.Proofs.Diagnostic.Findings
import FrontEnd.Proofs.Text.Pieces

namespace FrontEnd

open Token

/-- The two severities have different names. -/
theorem Severity.name_injective : Function.Injective Severity.name := by
  intro first second same
  cases first <;> cases second <;> simp_all [name]

/-- The first colon of a text stands behind the severity. -/
theorem Severity.colon_not_mem_name (severity : Severity) : ':' ∉ severity.name.toList := by
  cases severity <;> decide

namespace Diagnostic

/-- The text begins with the severity, whatever stands behind it. -/
theorem toList_text_append (diagnostic : Diagnostic) (rest : List Char) :
    diagnostic.text.toList ++ rest =
      diagnostic.severity.name.toList ++ ':' :: (' ' :: (diagnostic.message.toList ++
        (diagnostic.placeText.toList ++ rest))) := by
  simp [text]

/-- Texts that begin in the same way have the same severity. -/
theorem severity_eq_of_text_append {first second : Diagnostic} {rest rest' : List Char}
    (same : first.text.toList ++ rest = second.text.toList ++ rest') :
    first.severity = second.severity := by
  rw [toList_text_append, toList_text_append] at same
  have names := (append_mark_inj first.severity.colon_not_mem_name
    second.severity.colon_not_mem_name same).1
  exact Severity.name_injective (String.toList_inj.1 names)

/-- The text ends with the place. A message may have anything in it, so the place is read from
behind. -/
theorem toList_text_of_blames {diagnostic : Diagnostic} {token : Token}
    (blames : diagnostic.Blames token) :
    diagnostic.text.toList =
      ((diagnostic.severity.name ++ ": " ++ diagnostic.message ++ " at line").toList ++
        ' ' :: (toString token.position.line).toList) ++ ", column".toList ++
          ' ' :: (toString token.position.column).toList := by
  rw [text, placeText, blames.1, blames.2]
  simp

/-- A diagnostic that blames a token can be read back from its text. -/
theorem text_inj {first second : Diagnostic} {token other : Token}
    (blames : first.Blames token) (alsoBlames : second.Blames other)
    (same : first.text = second.text) : first = second := by
  have severities : first.severity = second.severity :=
    severity_eq_of_text_append (congrArg (String.toList · ++ []) same)
  have texts := congrArg String.toList same
  rw [toList_text_of_blames blames, toList_text_of_blames alsoBlames] at texts
  -- The message is what is left between the severity in front and the place behind.
  obtain ⟨texts, columns⟩ := append_number_inj (by decide) texts
  obtain ⟨texts, lines⟩ := append_number_inj (by decide) (List.append_cancel_right texts)
  have messages : first.message.toList = second.message.toList := by
    simpa [severities] using texts
  calc first = ⟨first.severity, first.message, some token.position.line,
        some token.position.column⟩ := by rw [← blames.1, ← blames.2]
    _ = ⟨second.severity, second.message, some other.position.line,
        some other.position.column⟩ := by
      rw [severities, String.toList_inj.1 messages, lines, columns]
    _ = second := by rw [← alsoBlames.1, ← alsoBlames.2]

/-- A message on one line makes a text on one line. -/
theorem lineFeed_not_mem_text {diagnostic : Diagnostic} {token : Token}
    (blames : diagnostic.Blames token) (noFeed : '\n' ∉ diagnostic.message.toList) :
    '\n' ∉ diagnostic.text.toList := by
  have digits (number : Nat) : '\n' ∉ Nat.toDigits 10 number := by
    simpa using not_mem_toString number (by decide : '\n'.isDigit = false)
  have name : '\n' ∉ diagnostic.severity.name.toList := by
    cases diagnostic.severity <;> decide
  rw [toList_text_of_blames blames]
  simp [digits, name, noFeed]

end Diagnostic

namespace Diagnostics

/-- The characters of several texts are theirs with a line feed in between. -/
theorem toList_text (diagnostics : Diagnostics) :
    diagnostics.text.toList =
      ['\n'].intercalate (diagnostics.map fun diagnostic => diagnostic.text.toList) := by
  rw [text, String.toList_intercalate, List.map_map]
  rfl

/-- The lines of a collection are the texts of its diagnostics if none of them has several lines. -/
theorem splitOn_text {diagnostics : Diagnostics} (nonempty : diagnostics ≠ [])
    (single : ∀ diagnostic ∈ diagnostics, '\n' ∉ diagnostic.text.toList) :
    diagnostics.text.toList.splitOn '\n' =
      diagnostics.map fun diagnostic => diagnostic.text.toList := by
  rw [toList_text]
  apply List.splitOn_intercalate
  · simpa using single
  · simpa using nonempty

/-- Diagnostics that can be read back one by one can be read back in a row. -/
theorem eq_of_map_text_eq {first second : Diagnostics}
    (legible : ∀ diagnostic ∈ first, ∀ other ∈ second, diagnostic.text = other.text →
      diagnostic = other)
    (same : first.map Diagnostic.text = second.map Diagnostic.text) : first = second := by
  induction first generalizing second with
  | nil => exact (List.map_eq_nil_iff.1 same.symm).symm
  | cons diagnostic rest ih =>
      cases second with
      | nil => cases same
      | cons other others =>
          obtain ⟨heads, tails⟩ := List.cons.inj same
          have begins := legible diagnostic List.mem_cons_self other List.mem_cons_self heads
          have ends := ih (fun diagnostic member other among =>
            legible diagnostic (List.mem_cons_of_mem _ member) other
              (List.mem_cons_of_mem _ among)) tails
          rw [begins, ends]

/-- The text of a collection determines it if the texts of its diagnostics are single lines that
determine them. -/
theorem text_inj {first second : Diagnostics} (nonempty : first ≠ []) (alsoNonempty : second ≠ [])
    (single : ∀ diagnostic ∈ first, '\n' ∉ diagnostic.text.toList)
    (alsoSingle : ∀ diagnostic ∈ second, '\n' ∉ diagnostic.text.toList)
    (legible : ∀ diagnostic ∈ first, ∀ other ∈ second, diagnostic.text = other.text →
      diagnostic = other)
    (same : first.text = second.text) : first = second := by
  apply eq_of_map_text_eq legible
  have pieces : (first.map Diagnostic.text).map String.toList =
      (second.map Diagnostic.text).map String.toList := by
    rw [List.map_map, List.map_map]
    exact (splitOn_text nonempty single).symm.trans
      ((congrArg (·.toList.splitOn '\n') same).trans (splitOn_text alsoNonempty alsoSingle))
  exact (List.map_inj_right fun _ _ => String.toList_inj.1).1 pieces

/-- The text of a collection begins with that of its first diagnostic. -/
theorem exists_toList_text_cons (first : Diagnostic) (rest : Diagnostics) :
    ∃ more, (text (first :: rest)).toList = first.text.toList ++ more := by
  rw [toList_text, List.map_cons]
  cases rest with
  | nil => exact ⟨[], by simp⟩
  | cons second rest => exact ⟨_, List.intercalate_cons_cons.trans (List.append_assoc ..)⟩

end Diagnostics

namespace Token

/-- Warnings do not read like an error. -/
theorem text_unknownCharacters_ne {source other : String} {error : Diagnostic}
    (nonempty : unknownCharacters (scan source) ≠ [])
    (failed : Expr.ofTokens (scan other) = .error error) :
    (unknownCharacters (scan source)).text ≠ error.text := by
  intro same
  obtain ⟨warning, rest, found⟩ := List.exists_cons_of_ne_nil nonempty
  have member : warning ∈ unknownCharacters (scan source) := by
    rw [found]
    exact List.mem_cons_self
  obtain ⟨more, begins⟩ := Diagnostics.exists_toList_text_cons warning rest
  have texts : warning.text.toList ++ more = error.text.toList ++ [] := by
    rw [← begins, ← found, same, List.append_nil]
  have severities := Diagnostic.severity_eq_of_text_append texts
  rw [(blames_of_mem_unknownCharacters member).1,
    (Expr.blames_of_ofTokens_scan failed).1] at severities
  cases severities

/-- The warnings of a source can be read back from their text, since each of them is a line of it.
-/
theorem unknownCharacters_inj {first second : String}
    (nonempty : unknownCharacters (scan first) ≠ [])
    (alsoNonempty : unknownCharacters (scan second) ≠ [])
    (same : (unknownCharacters (scan first)).text = (unknownCharacters (scan second)).text) :
    unknownCharacters (scan first) = unknownCharacters (scan second) := by
  have single (source : String) :
      ∀ warning ∈ unknownCharacters (scan source), '\n' ∉ warning.text.toList := by
    intro warning member
    obtain ⟨_, noFeed, token, _, blames⟩ := blames_of_mem_unknownCharacters member
    exact Diagnostic.lineFeed_not_mem_text blames noFeed
  refine Diagnostics.text_inj nonempty alsoNonempty (single first) (single second) ?_ same
  intro warning member other among texts
  obtain ⟨_, _, token, _, blames⟩ := blames_of_mem_unknownCharacters member
  obtain ⟨_, _, token', _, alsoBlames⟩ := blames_of_mem_unknownCharacters among
  exact Diagnostic.text_inj blames alsoBlames texts

end Token

namespace Run

/-- Two runs, of any sources, fail with the same error if they fail because of their sources and the
errors have the same text. -/
theorem error_eq_of_text_eq {first second : String} {listing listing' : Bool} {sink sink' : Sink}
    {error error' : RunError} (failed : (ofSource first listing sink).result = .error error)
    (alsoFailed : (ofSource second listing' sink').result = .error error')
    (noFault : ∀ fault, error ≠ .write fault) (alsoNoFault : ∀ fault, error' ≠ .write fault)
    (same : error.text = error'.text) : error = error' := by
  obtain ⟨fault, rfl⟩ | ⟨_, rfl, nonempty, rfl⟩ | ⟨diagnostic, rfl, refused⟩ := error_cases failed
  · exact absurd rfl (noFault fault)
  · obtain ⟨fault, rfl⟩ | ⟨_, rfl, alsoNonempty, rfl⟩ | ⟨other, rfl, alsoRefused⟩ :=
      error_cases alsoFailed
    · exact absurd rfl (alsoNoFault fault)
    · exact congrArg RunError.unknownCharacters (unknownCharacters_inj nonempty alsoNonempty same)
    · exact absurd same (text_unknownCharacters_ne nonempty alsoRefused)
  · obtain ⟨fault, rfl⟩ | ⟨_, rfl, alsoNonempty, rfl⟩ | ⟨other, rfl, alsoRefused⟩ :=
      error_cases alsoFailed
    · exact absurd rfl (alsoNoFault fault)
    · exact absurd same.symm (text_unknownCharacters_ne alsoNonempty refused)
    · obtain ⟨_, token, _, blames⟩ := Expr.blames_of_ofTokens_scan refused
      obtain ⟨_, token', _, alsoBlames⟩ := Expr.blames_of_ofTokens_scan alsoRefused
      rw [Diagnostic.text_inj blames alsoBlames same]

/-- An unknown quotation mark in different sources. The sink of the second run has no room, but it
is not written to. -/
theorem error_eq_of_text_eq_quotationMark :
    let first := ofSource "a \"b" true .unlimited
    let second := ofSource "1 \"+" false (.limited 0 none)
    ∃ error error', first.result = .error error ∧ second.result = .error error' ∧
      error.text = "Warning: Unexpected character \"\"\" at line 1, column 3" ∧
      error'.text = "Warning: Unexpected character \"\"\" at line 1, column 3" ∧
      error = error' := by
  intro first second
  have found : unknownCharacters (scan "a \"b") =
      [⟨.warning, "Unexpected character \"\"\"", some 1, some 3⟩] := by decide +kernel
  have alsoFound : unknownCharacters (scan "1 \"+") =
      [⟨.warning, "Unexpected character \"\"\"", some 1, some 3⟩] := by decide +kernel
  have failed := (ofSource_of_unknown found true .unlimited).1
  have alsoFailed := (ofSource_of_unknown alsoFound false (.limited 0 none)).1
  exact ⟨_, _, failed, alsoFailed, by decide, by decide,
    error_eq_of_text_eq failed alsoFailed nofun nofun rfl⟩

end Run

end FrontEnd
