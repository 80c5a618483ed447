import FrontEnd.Proofs.Text.Rows
import FrontEnd.Proofs.Token.MaximalMunch

namespace FrontEnd

open Token Text Kind

/-- The characters of a text belong to words or to signs, unless the text fits no rule. -/
theorem Spells.class_of_mem {text : List Char} {kind : Kind} (spells : Spells text kind) :
    ∀ character ∈ text, isWordPart character = true ∨
      character ∈ loneSigns.map Prod.fst ∨ character ∈ joinableSigns.map Prod.fst ∨
        isBlank character = false ∧ kind = .unknown := by
  have word {first : Char} {more : List Char} (start : isWordStart first = true)
      (parts : ∀ part ∈ more, isWordPart part = true) :
      ∀ character ∈ first :: more, isWordPart character = true :=
    List.forall_mem_cons.2 ⟨by simp [isWordPart, start], parts⟩
  cases spells with
  | lone sign =>
      exact List.forall_mem_singleton.2 (.inr (.inl (List.mem_map_of_mem (f := Prod.fst) sign)))
  | alone sign =>
      have joinable := List.mem_map_of_mem (f := Prod.fst) sign
      exact List.forall_mem_singleton.2 (.inr (.inr (.inl joinable)))
  | joined sign =>
      have joinable := List.mem_map_of_mem (f := Prod.fst) sign
      have equals : '=' ∈ joinableSigns.map Prod.fst := by decide
      exact List.forall_mem_cons.2 ⟨.inr (.inr (.inl joinable)),
        List.forall_mem_singleton.2 (.inr (.inr (.inl equals)))⟩
  | number _ digits => exact fun digit member => .inl (by simp [isWordPart, digits digit member])
  | keyword keyword =>
      obtain ⟨first, more, spelled, start, parts⟩ := keyword.spelling_parts
      rw [spelled]
      exact fun character member => .inl (word start parts character member)
  | identifier start parts _ =>
      exact fun character member => .inl (word start parts character member)
  | unknown solid _ _ _ _ => exact List.forall_mem_singleton.2 (.inr (.inr (.inr ⟨solid, rfl⟩)))

/-- Blanks stand in no lexeme. -/
theorem Spells.not_isBlank {text : List Char} {kind : Kind} (spells : Spells text kind) :
    ∀ character ∈ text, isBlank character = false := by
  intro character member
  rcases spells.class_of_mem character member with part | lone | joinable | ⟨solid, _⟩
  · exact not_isBlank_of_isWordPart part
  · exact (apart_of_lone lone).1
  · exact (apart_of_joinable joinable).1
  · exact solid

/-- No token goes beyond its line. -/
theorem Spells.not_mem_lineFeed {text : List Char} {kind : Kind} (spells : Spells text kind) :
    '\n' ∉ text := by
  intro feed
  have solid := spells.not_isBlank _ feed
  exact absurd solid (by decide)

namespace Token

/-- Behind the first token of a text and the rest of it is the place behind the whole text. -/
theorem advance_drop_continuation (position : Position) (first : Char) (rest : List Char) :
    (position.advance (first :: continuation first rest)).advance
        (rest.drop (continuation first rest).length) = position.advance (first :: rest) := by
  rw [← Position.advance_append, List.cons_append, continuation_append_drop]

/-- A token is placed behind the characters that come before its lexeme. -/
theorem exists_before_of_mem_scanFrom {position : Position} {text : List Char} {token : Token}
    (member : token ∈ scanFrom position text) :
    ∃ before behind, text = before ++ (token.lexeme.toList ++ behind) ∧
      token.position = position.advance before := by
  induction position, text using Scan.ofText.induct with
  | case1 position =>
      rw [scanFrom_nil, List.mem_singleton] at member
      subst member
      exact ⟨[], [], rfl, rfl⟩
  | case2 position first rest blank ih =>
      rw [scanFrom_blank _ _ _ blank] at member
      obtain ⟨before, behind, same, place⟩ := ih member
      exact ⟨first :: before, behind, congrArg (List.cons first) same, place⟩
  | case3 position first rest solid more ih =>
      rw [scanFrom_token _ _ _ (by simpa using solid), List.mem_cons] at member
      have whole : more ++ rest.drop more.length = rest := continuation_append_drop first rest
      rcases member with rfl | later
      · exact ⟨[], rest.drop more.length, by simpa [lexed] using whole.symm, rfl⟩
      · obtain ⟨before, behind, same, place⟩ := ih later
        refine ⟨first :: more ++ before, behind, ?_, ?_⟩
        · rw [List.append_assoc, ← same, List.cons_append, whole]
        · rw [Position.advance_append]
          exact place

/-- Every token takes at least one character, so the next one stands further behind. -/
theorem pairwise_scanFrom (position : Position) (text : List Char) :
    (scanFrom position text).Pairwise fun first second =>
      first.position.Before second.position := by
  induction position, text using Scan.ofText.induct with
  | case1 position =>
      rw [scanFrom_nil]
      exact List.pairwise_singleton _ _
  | case2 position first rest blank ih =>
      rw [scanFrom_blank _ _ _ blank]
      exact ih
  | case3 position first rest solid more ih =>
      rw [scanFrom_token _ _ _ (by simpa using solid), List.pairwise_cons]
      refine ⟨?_, ih⟩
      intro token later
      obtain ⟨before, _, _, place⟩ := exists_before_of_mem_scanFrom later
      rw [place, ← Position.advance_append]
      exact position.before_advance first (more ++ before)

/-- The last token is the end, at the end of the text. -/
theorem getLast?_scanFrom (position : Position) (text : List Char) :
    (scanFrom position text).getLast? = some ⟨.eof, "", position.advance text⟩ := by
  induction position, text using Scan.ofText.induct with
  | case1 position => rw [scanFrom_nil]; rfl
  | case2 position first rest blank ih => rw [scanFrom_blank _ _ _ blank, ih]; rfl
  | case3 position first rest solid more ih =>
      rw [scanFrom_token _ _ _ (by simpa using solid), List.getLast?_cons, ih,
        advance_drop_continuation]
      rfl

theorem scanFrom_ne_nil (position : Position) (text : List Char) :
    scanFrom position text ≠ [] := by
  intro none
  have last := getLast?_scanFrom position text
  rw [none] at last
  cases last

/-- A token that is not the end has a lexeme with its kind. -/
theorem spells_of_mem_scan {source : String} {token : Token} (member : token ∈ scan source)
    (solid : token.kind ≠ .eof) : Spells token.lexeme.toList token.kind := by
  obtain ⟨place, scanned⟩ := (scan_of_cut (cut_visible_scan source)).1
  rw [scanned, List.mem_append, List.mem_singleton] at member
  rcases member with seen | rfl
  · exact spells_of_mem_visible_scan seen
  · exact absurd rfl solid

/-- Each token in front of the end stands at its place in the rows of the source, the places of the
tokens increase, and the end is placed one column behind the last row. -/
theorem scan_placed (source : String) :
    (∀ token ∈ scan source, token.kind ≠ .eof →
      ∃ row before behind, token.position = ⟨row + 1, before.length + 1⟩ ∧
        (rows source.toList)[row]? = some (before ++ (token.lexeme.toList ++ behind))) ∧
    ((scan source).Pairwise fun first second => first.position.Before second.position) ∧
    (scan source).getLast? = some ⟨.eof, "", finish source.toList⟩ := by
  refine ⟨?_, pairwise_scanFrom _ _, ?_⟩
  · intro token member solid
    obtain ⟨before, rest, same, place⟩ := exists_before_of_mem_scanFrom member
    have inside := (spells_of_mem_scan member solid).not_mem_lineFeed
    rw [place, same]
    exact Position.exists_row before rest inside
  · rw [scan, getLast?_scanFrom, Position.advance_start]

/-- A carriage return and a tab take one column each, and a letter beyond ASCII takes one, too. -/
theorem scan_placed_second_line :
    let source := "12\r\n\té ab\n"
    let word : Token := ⟨.identifier, "ab", ⟨2, 4⟩⟩
    word ∈ scan source ∧ word.kind ≠ .eof ∧
      (∃ row before behind, word.position = ⟨row + 1, before.length + 1⟩ ∧
        (rows source.toList)[row]? = some (before ++ (word.lexeme.toList ++ behind))) ∧
      (scan source).getLast? = some ⟨.eof, "", ⟨3, 1⟩⟩ := by
  intro source word
  have scanned : scan source = [⟨.number, "12", ⟨1, 1⟩⟩, ⟨.unknown, "é", ⟨2, 2⟩⟩, word,
      ⟨.eof, "", ⟨3, 1⟩⟩] := by cbv
  have member : word ∈ scan source := by simp [scanned]
  have solid : word.kind ≠ .eof := by decide
  exact ⟨member, solid, (scan_placed source).1 word member solid, by rw [scanned]; rfl⟩

end Token

end FrontEnd
