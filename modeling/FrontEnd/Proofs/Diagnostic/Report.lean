import FrontEnd.Diagnostic.Report
import FrontEnd.Proofs.Output.SinkLaw

namespace FrontEnd

/-- A text with a line feed behind each of its lines has one between them and one at the end. -/
theorem join_map_append_lineFeed {texts : List String} (nonempty : texts ≠ []) :
    String.join (texts.map (· ++ "\n")) = "\n".intercalate texts ++ "\n" := by
  induction texts with
  | nil => exact absurd rfl nonempty
  | cons first rest ih =>
      rw [List.map_cons, String.join_cons]
      cases rest with
      | nil => simp
      | cons second rest =>
          rw [ih (List.cons_ne_nil _ _), String.intercalate_cons_cons]
          simp only [String.append_assoc]

namespace Diagnostic

/-- The text of a diagnostic. In colours it stands between two resets, in red if it is about an
error and in yellow if it is about a warning. -/
def framed (style : Style) (diagnostic : Diagnostic) : String :=
  match style with
  | .plain => diagnostic.text
  | .ansi =>
      "\x1b[0m" ++ (if diagnostic.isError then "\x1b[31m" else "\x1b[33m") ++ diagnostic.text ++
        "\x1b[0m"

/-- The pieces of a report are its frame and its text in one. -/
theorem join_report (style : Style) (diagnostic : Diagnostic) :
    String.join (diagnostic.report style) = diagnostic.framed style := by
  cases style with
  | plain => simp [report, framed]
  | ansi =>
      have paint : (if diagnostic.isError then "\x1b[31m" else "\x1b[33m") =
          diagnostic.severity.paint := by
        unfold isError
        cases diagnostic.severity <;> rfl
      rw [framed, paint]
      simp only [report, clearPaint, String.join_cons, String.join_nil, String.append_empty,
        String.append_assoc]

end Diagnostic

namespace Diagnostics

/-- The framed texts in lines, with a line feed at the end. There is nothing if there are none. -/
def rendering (style : Style) (diagnostics : Diagnostics) : String :=
  if diagnostics = [] then "" else "\n".intercalate (diagnostics.map (·.framed style)) ++ "\n"

/-- The pieces of all reports make lines, with a line feed behind the last one. -/
theorem join_report (style : Style) (diagnostics : Diagnostics) :
    String.join (report style diagnostics) = rendering style diagnostics := by
  have lined : String.join (report style diagnostics) =
      String.join ((diagnostics.map (·.framed style)).map (· ++ "\n")) := by
    induction diagnostics with
    | nil => rfl
    | cons first rest ih =>
        rw [report, List.flatMap_cons, String.join_append, ← report, ih, String.join_append,
          Diagnostic.join_report]
        simp
  rw [lined, rendering]
  split
  · next empty =>
    rw [empty]
    rfl
  · next nonempty => exact join_map_append_lineFeed (by simpa using nonempty)

/-- A plain report is the text of the diagnostics, with a line feed at the end. A coloured one has
each of their texts in a frame. A sink with less room takes as much of a report as it has room for,
and it is an error that there is more. -/
theorem putAll_report (diagnostics : Diagnostics) :
    (Sink.unlimited.putAll (report .plain diagnostics) =
      (none, ⟨(if diagnostics = [] then "" else diagnostics.text ++ "\n").toUTF8, none, none⟩)) ∧
    (Sink.unlimited.putAll (report .ansi diagnostics) =
      (none, ⟨(if diagnostics = [] then "" else
        "\n".intercalate (diagnostics.map (·.framed .ansi)) ++ "\n").toUTF8, none, none⟩)) ∧
    ∀ style room complaint,
      let whole := (Sink.unlimited.putAll (report style diagnostics)).2.written
      let cut := (Sink.limited room complaint).putAll (report style diagnostics)
      cut.2.written = whole.extract 0 room ∧ cut.2.written.size = min room whole.size ∧
        (cut.1.map WriteFault.text = if room < whole.size
          then some (complaint.getD "failed to write whole buffer") else none) := by
  have whole (style : Style) : Sink.unlimited.putAll (report style diagnostics) =
      (none, ⟨(rendering style diagnostics).toUTF8, none, none⟩) := by
    rw [Sink.putAll_eq_put_join, join_report, Sink.put_unlimited]
  refine ⟨whole .plain, whole .ansi, ?_⟩
  intro style room complaint
  have bytes : (Sink.unlimited.putAll (report style diagnostics)).2.written =
      (rendering style diagnostics).toUTF8 := by rw [whole]
  dsimp only
  rw [bytes, Sink.putAll_eq_put_join, join_report, Sink.written_put_limited,
    Sink.fst_put_limited]
  refine ⟨rfl, ?_, ?_⟩
  · rw [ByteArray.size_extract, Nat.sub_zero]
  · split
    · next fits => rw [if_neg (Nat.not_lt.2 fits), Option.map_none]
    · next exceeds =>
      rw [if_pos (Nat.lt_of_not_le exceeds), Option.map_some, Sink.text_fault_limited]

/-- The limit may cut the code of a colour. -/
example : ((Sink.limited 6 none).putAll (report .ansi [.error "a"])).2.written =
    "\x1b[0m\x1b[".toUTF8 := by
  decide

end Diagnostics

end FrontEnd
