import FrontEnd.Proofs.Token.Places

namespace FrontEnd.Token

open Text

/-- The token at the same place of a text in front of which another one, which ends at `front`, has
been put. -/
def shift (front : Position) (token : Token) : Token :=
  { token with position := front.shift token.position }

/-- Scanning from another place on moves the tokens and changes nothing else. -/
theorem scanFrom_shift (front : Position) {position : Position} (counted : 1 ≤ position.line)
    (text : List Char) :
    scanFrom (front.shift position) text = (scanFrom position text).map (shift front) := by
  induction position, text using Scan.ofText.induct with
  | case1 position =>
      rw [scanFrom_nil, scanFrom_nil]
      rfl
  | case2 position first rest blank ih =>
      have later := Nat.le_trans counted (position.before_next first).line_le
      rw [scanFrom_blank _ _ _ blank, scanFrom_blank _ _ _ blank, ← ih later,
        Position.shift_next front counted]
  | case3 position first rest solid more ih =>
      have solid : isBlank first = false := by simpa using solid
      have later := Nat.le_trans counted (position.before_advance first more).line_le
      rw [scanFrom_token _ _ _ solid, scanFrom_token _ _ _ solid, List.map_cons, ← ih later,
        Position.shift_advance front counted]
      rfl

/-- The tokens of a text that begins at the end of another one. -/
theorem scanFrom_finish (front text : List Char) :
    scanFrom (finish front) text = (scanFrom .start text).map (shift (finish front)) := by
  have line : 1 ≤ (finish front).line := List.length_pos_of_ne_nil (rows_ne_nil front)
  have column : 1 ≤ (finish front).column := Nat.le_add_left 1 _
  conv_lhs => rw [← Position.shift_start line column]
  exact scanFrom_shift _ (Nat.le_refl 1) text

/-- The first text does not end with a token that goes on in the second one. -/
def Closed (position : Position) (first second : List Char) : Prop :=
  ∀ last ∈ first.getLast?, isBlank last = false →
    ∀ token ∈ (scanFrom position first).dropLast.getLast?,
      ∀ next ∈ second.head?, ¬ token.kind.Extends next

namespace Closed

variable {position : Position} {character : Char} {rest second : List Char}

/-- A text stays closed behind its first blank. -/
theorem behind_blank (closed : Closed position (character :: rest) second)
    (blank : isBlank character = true) : Closed (position.next character) rest second := by
  intro last ends
  rw [Closed, scanFrom_blank _ _ _ blank] at closed
  apply closed last
  rw [List.getLast?_cons, ends]
  rfl

/-- It stays closed behind its first token. -/
theorem behind_token (closed : Closed position (character :: rest) second)
    (solid : isBlank character = false) :
    Closed (position.advance (character :: continuation character rest))
      (rest.drop (continuation character rest).length) second := by
  intro last ends lastSolid token lastToken
  rw [Closed, scanFrom_token _ _ _ solid,
    List.dropLast_cons_of_ne_nil (scanFrom_ne_nil _ _)] at closed
  apply closed last
  · have whole := continuation_append_drop character rest
    rw [← whole, ← List.cons_append, List.getLast?_append, ends]
    rfl
  · exact lastSolid
  · rw [List.getLast?_cons, lastToken]
    rfl

/-- What stands in the second text makes no token of the first one longer. -/
theorem continuation_append (closed : Closed position (character :: rest) second)
    (solid : isBlank character = false) :
    continuation character (rest ++ second) = continuation character rest := by
  obtain ⟨kind, spells, ends⟩ := exists_spells_continuation solid rest
  have whole := continuation_append_drop character rest
  have boundary : ∀ next ∈ (rest.drop (continuation character rest).length ++ second).head?,
      ¬ kind.Extends next := by
    cases behind : rest.drop (continuation character rest).length with
    | cons next later => simpa [behind] using ends
    | nil =>
        -- The token is the last one of the first text.
        rw [behind, List.append_nil] at whole
        obtain ⟨last, final⟩ := Option.isSome_iff_exists.1
          (List.getLast?_isSome.2 (List.cons_ne_nil character rest))
        have lastSolid : isBlank last = false := by
          apply spells.not_isBlank
          rw [whole]
          exact List.mem_of_getLast? final
        have kinds : (lexed position character (continuation character rest)).kind = kind :=
          spells.ofLexeme_eq _ _ rfl
        rw [← kinds]
        apply closed last final lastSolid
        rw [scanFrom_token _ _ _ solid, behind, scanFrom_nil]
        rfl
  obtain ⟨_, _, same, _, drawn⟩ := spells.continuation_eq boundary
  cases same
  rwa [← List.append_assoc, whole] at drawn

end Closed

/-- A closed text is scanned as if it stood alone, and scanning goes on behind it. -/
theorem scanFrom_append (position : Position) {first second : List Char}
    (closed : Closed position first second) :
    scanFrom position (first ++ second) =
      (scanFrom position first).dropLast ++ scanFrom (position.advance first) second := by
  induction position, first using Scan.ofText.induct with
  | case1 position =>
      rw [scanFrom_nil]
      rfl
  | case2 position character rest blank ih =>
      rw [List.cons_append, scanFrom_blank _ _ _ blank, scanFrom_blank _ _ _ blank]
      exact ih (closed.behind_blank blank)
  | case3 position character rest solid more ih =>
      have solid : isBlank character = false := by simpa using solid
      have whole : more ++ rest.drop more.length = rest := continuation_append_drop character rest
      have within : more.length ≤ rest.length := by
        rw [← whole, List.length_append]
        exact Nat.le_add_right _ _
      rw [List.cons_append, scanFrom_token _ _ _ solid, closed.continuation_append solid,
        List.drop_append_of_le_length within, ih (closed.behind_token solid),
        advance_drop_continuation, scanFrom_token _ _ _ solid,
        List.dropLast_cons_of_ne_nil (scanFrom_ne_nil _ _)]
      rfl

/-- One of two texts is empty, or the first one ends with a blank, or the second one does not begin
with a character that goes on with the last token of the first one. -/
def Apart (first second : String) : Prop :=
  second = "" ∨ first = "" ∨ (∃ last ∈ first.toList.getLast?, isBlank last = true) ∨
    ∀ token ∈ (scan first).dropLast.getLast?, ∀ next ∈ second.toList.head?,
      ¬ token.kind.Extends next

/-- Texts that are apart leave the first one closed. -/
theorem Apart.closed {first second : String} (apart : Apart first second) :
    Closed .start first.toList second.toList := by
  intro last ends solid token final next begins
  rcases apart with rfl | rfl | ⟨other, otherEnds, blank⟩ | apart
  · cases begins
  · cases ends
  · cases Option.mem_unique ends otherEnds
    simp [solid] at blank
  · exact apart token final next begins

/-- The second text is scanned as if it stood alone, from the end of the first one on. -/
theorem scan_of_apart {first second : String} (apart : Apart first second) :
    scan (first ++ second) =
      (scan first).dropLast ++ (scan second).map (shift (finish first.toList)) := by
  rw [scan, String.toList_append, scanFrom_append _ apart.closed, Position.advance_start,
    scanFrom_finish]
  rfl

/-- Kinds and lexemes do not depend on where a text stands. -/
theorem contents_of_apart {first second : String} (apart : Apart first second) :
    (scan (first ++ second)).map content =
      (scan first).dropLast.map content ++ (scan second).map content := by
  have unmoved : content ∘ shift (finish first.toList) = content := rfl
  rw [scan_of_apart apart, List.map_append, List.map_map, unmoved]

/-- A blank in front of the second text keeps both apart. -/
theorem apart_of_blank_behind (first : String) {second : String}
    (blank : ∀ next ∈ second.toList.head?, isBlank next = true) : Apart first second :=
  .inr (.inr (.inr fun token _ next begins =>
    token.kind.not_extends_of_isBlank (blank next begins)))

theorem apart_of_blanks {gap : String}
    (blank : ∀ character ∈ gap.toList, isBlank character = true) (second : String) :
    Apart gap second := by
  cases ends : gap.toList.getLast? with
  | none => exact .inr (.inl (by simpa using ends))
  | some last => exact .inr (.inr (.inl ⟨last, ends, blank last (List.mem_of_getLast? ends)⟩))

/-- Blanks alone have no tokens. -/
theorem dropLast_scan_of_blanks {gap : String}
    (blank : ∀ character ∈ gap.toList, isBlank character = true) :
    (scan gap).dropLast = [] := by
  have scanned := scanFrom_append_of_blanks blank .start []
  rw [List.append_nil, scanFrom_nil] at scanned
  rw [scan, scanned]
  rfl

/-- Two texts that are apart have the tokens of the first one and then those of the second one.
Blanks keep any two texts apart. -/
theorem scan_append :
    (∀ first second : String, Apart first second →
      scan (first ++ second) =
        (scan first).dropLast ++ (scan second).map (shift (finish first.toList))) ∧
    ∀ first gap second : String, gap ≠ "" →
      (∀ character ∈ gap.toList, isBlank character = true) →
      (scan (first ++ gap ++ second)).map content =
        (scan first).dropLast.map content ++ (scan second).map content := by
  refine ⟨fun first second => scan_of_apart, ?_⟩
  intro first gap second nonempty blank
  have begins : ∀ next ∈ (gap ++ second).toList.head?, isBlank next = true := by
    obtain ⟨head, more, same⟩ :=
      List.exists_cons_of_ne_nil (String.toList_eq_nil_iff.not.2 nonempty)
    rw [String.toList_append, same]
    rw [same, List.forall_mem_cons] at blank
    simpa using blank.1
  have before := apart_of_blank_behind first begins
  have behind := apart_of_blanks blank second
  rw [String.append_assoc, contents_of_apart before, contents_of_apart behind,
    dropLast_scan_of_blanks blank]
  rfl

/-- No character of an operator goes on with a name, and a blank keeps two names apart. -/
theorem scan_append_operator :
    let first := "a1\n b"
    let second := "== c\nd"
    Apart first second ∧
      scan (first ++ second) =
        (scan first).dropLast ++ (scan second).map (shift (finish first.toList)) ∧
      (scan second).map (shift (finish first.toList)) =
        [⟨.equalEqual, "==", ⟨2, 3⟩⟩, ⟨.identifier, "c", ⟨2, 6⟩⟩, ⟨.identifier, "d", ⟨3, 1⟩⟩,
          ⟨.eof, "", ⟨3, 2⟩⟩] ∧
      (∀ character ∈ " \t".toList, isBlank character = true) ∧
      (scan (first ++ " \t" ++ first)).map content =
        (scan first).dropLast.map content ++ (scan first).map content := by
  intro first second
  have scanned : scan first =
      [⟨.identifier, "a1", ⟨1, 1⟩⟩, ⟨.identifier, "b", ⟨2, 2⟩⟩, ⟨.eof, "", ⟨2, 3⟩⟩] := by cbv
  have apart : Apart first second := by
    refine .inr (.inr (.inr ?_))
    intro token final next begins
    obtain rfl : ⟨.identifier, "b", ⟨2, 2⟩⟩ = token := by simpa [scanned] using final
    obtain rfl : '=' = next := by simpa [second] using begins
    show ¬ isWordPart '=' = true
    decide
  have blank : ∀ character ∈ " \t".toList, isBlank character = true := by
    simp [isBlank]
  exact ⟨apart, scan_append.1 first second apart, by cbv, blank,
    scan_append.2 first " \t" first (by decide) blank⟩

end FrontEnd.Token
