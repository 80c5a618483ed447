import FrontEnd.Proofs.Text.Pieces
import FrontEnd.Proofs.Token.Spelling
import FrontEnd.Proofs.Token.Visible

namespace FrontEnd

open Token Kind

/-- A text consists of lexemes with blanks between, before and behind them. Each lexeme has the kind
that it dictates, and what stands behind it does not make it longer. -/
inductive Cut : List Char → List (Kind × String) → Prop
  | blanks {gap : List Char} : (∀ character ∈ gap, isBlank character = true) → Cut gap []
  | lexeme {gap text rest : List Char} {kind : Kind} {lexed : List (Kind × String)} :
      (∀ character ∈ gap, isBlank character = true) → Spells text kind →
      (∀ character ∈ rest.head?, ¬ kind.Extends character) → Cut rest lexed →
      Cut (gap ++ (text ++ rest)) ((kind, String.ofList text) :: lexed)

/-- More blanks may stand in front of a text. -/
theorem Cut.append_of_blanks {gap text : List Char} {lexed : List (Kind × String)}
    (cut : Cut text lexed) (blank : ∀ character ∈ gap, isBlank character = true) :
    Cut (gap ++ text) lexed := by
  cases cut with
  | blanks more => exact .blanks (List.forall_mem_append.2 ⟨blank, more⟩)
  | lexeme more spells ends rest =>
      rw [← List.append_assoc]
      exact .lexeme (List.forall_mem_append.2 ⟨blank, more⟩) spells ends rest

/-- Each lexeme of a cut dictates its kind. -/
theorem Cut.spells {text : List Char} {lexed : List (Kind × String)} (cut : Cut text lexed) :
    ∀ entry ∈ lexed, Spells entry.2.toList entry.1 := by
  induction cut with
  | blanks _ => simp
  | lexeme _ spells _ _ ih =>
      rw [List.forall_mem_cons]
      exact ⟨by simpa using spells, ih⟩

/-- A token without its place. -/
def Token.content (token : Token) : Kind × String := (token.kind, token.lexeme)

/-- A keyword is spelled as a word. -/
theorem Keyword.spelling_parts (word : Keyword) :
    ∃ first more, word.spelling.toList = first :: more ∧ isWordStart first = true ∧
      ∀ part ∈ more, isWordPart part = true := by
  cases word <;> exact ⟨_, _, rfl, by decide, List.all_eq_true.1 (by decide)⟩

/-- Parts of words are no blanks. -/
theorem not_isBlank_of_isWordPart {character : Char} (part : isWordPart character = true) :
    isBlank character = false := by
  rw [Bool.eq_false_iff]
  intro blank
  simp only [isBlank, Bool.or_eq_true, beq_iff_eq] at blank
  rcases blank with ((rfl | rfl) | rfl) | rfl <;> exact absurd part (by decide)

theorem not_isBlank_of_isWordStart {character : Char} (start : isWordStart character = true) :
    isBlank character = false :=
  not_isBlank_of_isWordPart (by simp [isWordPart, start])

theorem not_isBlank_of_isDigit {character : Char} (digit : character.isDigit = true) :
    isBlank character = false :=
  not_isBlank_of_isWordPart (by simp [isWordPart, digit])

/-- A blank makes no lexeme longer. -/
theorem Kind.not_extends_of_isBlank (kind : Kind) {character : Char}
    (blank : isBlank character = true) : ¬ kind.Extends character := by
  intro longer
  have noPart : isWordPart character ≠ true := fun part => by
    simp [not_isBlank_of_isWordPart part] at blank
  have noSign : character ≠ '=' := by
    intro same
    subst same
    exact absurd blank (by decide)
  cases kind <;> simp_all [Kind.Extends, isWordPart]

/-- A digit draws in all digits behind it. -/
theorem continuation_of_isDigit {first : Char} (digit : first.isDigit = true) (rest : List Char) :
    continuation first rest = rest.takeWhile Char.isDigit := by
  rw [continuation, if_pos digit]

/-- The start of a word draws in all of its parts. -/
theorem continuation_of_isWordStart {first : Char} (start : isWordStart first = true)
    (rest : List Char) : continuation first rest = rest.takeWhile isWordPart := by
  rw [continuation, if_neg (by simp [not_isDigit_of_isWordStart start]), if_pos start]

/-- A sign that can be joined draws in one equals sign. -/
theorem continuation_of_mem_joinable {first : Char}
    (sign : first ∈ joinableSigns.map Prod.fst) (rest : List Char) :
    continuation first rest = (rest.take 1).takeWhile (· == '=') := by
  obtain ⟨_, noDigit, noStart, takes⟩ := apart_of_joinable sign
  rw [continuation, if_neg (by simp [noDigit]), if_neg (by simp [noStart]), if_pos takes]

/-- Any other character is a token by itself. -/
theorem continuation_of_apart {first : Char} (noDigit : first.isDigit = false)
    (noStart : isWordStart first = false) (takesNot : takesEqual first = false)
    (rest : List Char) : continuation first rest = [] := by
  rw [continuation, if_neg (by simp [noDigit]), if_neg (by simp [noStart]),
    if_neg (by simp [takesNot])]

/-- Only an equals sign goes on with a sign that stands alone. -/
theorem extends_alone_iff {character : Char} {single joined : Kind}
    (sign : (character, single, joined) ∈ joinableSigns) (next : Char) :
    single.Extends next ↔ next = '=' := by
  have all : ∀ entry ∈ joinableSigns, ∀ next, entry.2.1.Extends next ↔ next = '=' := by
    simp [joinableSigns, Kind.Extends]
  exact all _ sign next

/-- A text with a kind is drawn together if nothing behind it makes it longer. -/
theorem Spells.continuation_eq {text rest : List Char} {kind : Kind} (spells : Spells text kind)
    (ends : ∀ character ∈ rest.head?, ¬ kind.Extends character) :
    ∃ first more, text = first :: more ∧ isBlank first = false ∧
      continuation first (more ++ rest) = more := by
  cases spells with
  | @lone character kind sign =>
      obtain ⟨solid, noDigit, noStart, takesNot⟩ := apart_of_lone (List.mem_map_of_mem sign)
      exact ⟨character, [], rfl, solid, continuation_of_apart noDigit noStart takesNot _⟩
  | @alone character single joined sign =>
      have among := List.mem_map_of_mem (f := Prod.fst) sign
      have drawn : continuation character rest = [] := by
        rw [continuation_of_mem_joinable among]
        cases rest with
        | nil => rfl
        | cons next rest =>
            have differs : next ≠ '=' := fun same =>
              ends next rfl ((extends_alone_iff sign next).2 same)
            simp [differs]
      exact ⟨character, [], rfl, (apart_of_joinable among).1, drawn⟩
  | @joined character single joined sign =>
      have among := List.mem_map_of_mem (f := Prod.fst) sign
      have drawn : continuation character ('=' :: rest) = ['='] := by
        rw [continuation_of_mem_joinable among]
        rfl
      exact ⟨character, ['='], rfl, (apart_of_joinable among).1, drawn⟩
  | number nonempty digits =>
      obtain ⟨first, more, rfl⟩ := List.exists_cons_of_ne_nil nonempty
      have digit := digits first List.mem_cons_self
      have later : ∀ part ∈ more, part.isDigit = true :=
        fun part member => digits part (List.mem_cons_of_mem _ member)
      have drawn : continuation first (more ++ rest) = more := by
        rw [continuation_of_isDigit digit]
        exact takeWhile_append_of_boundary later ends
      exact ⟨first, more, rfl, not_isBlank_of_isDigit digit, drawn⟩
  | keyword word =>
      obtain ⟨first, more, spelled, start, parts⟩ := word.spelling_parts
      have drawn : continuation first (more ++ rest) = more := by
        rw [continuation_of_isWordStart start]
        exact takeWhile_append_of_boundary parts ends
      exact ⟨first, more, spelled, not_isBlank_of_isWordStart start, drawn⟩
  | @identifier first more start parts _ =>
      have drawn : continuation first (more ++ rest) = more := by
        rw [continuation_of_isWordStart start]
        exact takeWhile_append_of_boundary parts ends
      exact ⟨first, more, rfl, not_isBlank_of_isWordStart start, drawn⟩
  | @unknown character solid noDigit noStart _ noJoinable =>
      have takesNot : takesEqual character = false :=
        Bool.eq_false_iff.2 fun takes => noJoinable (mem_joinable_of_takesEqual takes)
      exact ⟨character, [], rfl, solid, continuation_of_apart noDigit noStart takesNot _⟩

/-- Every word is an identifier or a keyword. -/
theorem exists_spells_word {first : Char} {more : List Char} (start : isWordStart first = true)
    (parts : ∀ part ∈ more, isWordPart part = true) :
    ∃ kind, Spells (first :: more) kind ∧
      ∀ character, kind.Extends character → isWordPart character = true := by
  by_cases reserved : ∃ word : Keyword, word.spelling.toList = first :: more
  · obtain ⟨word, same⟩ := reserved
    exact ⟨.keyword word, same ▸ .keyword word, fun _ part => part⟩
  · have free (word : Keyword) : word.spelling.toList ≠ first :: more := by
      intro same
      exact reserved ⟨word, same⟩
    exact ⟨.identifier, .identifier start parts free, fun _ part => part⟩

/-- A sign that can be joined is spelled with all that goes on with it. -/
theorem exists_spells_joinable {character : Char}
    (joinable : character ∈ joinableSigns.map Prod.fst) (rest : List Char) :
    ∃ kind, Spells (character :: (rest.take 1).takeWhile (· == '=')) kind ∧
      ∀ next ∈ (rest.drop ((rest.take 1).takeWhile (· == '=')).length).head?,
        ¬ kind.Extends next := by
  obtain ⟨⟨_, single, joined⟩, sign, rfl⟩ := List.mem_map.1 joinable
  have never : ∀ entry ∈ joinableSigns, ∀ next, ¬ entry.2.2.Extends next := by
    simp [joinableSigns, Kind.Extends]
  cases rest with
  | nil => exact ⟨single, .alone sign, by simp⟩
  | cons next rest =>
      by_cases equals : next = '='
      · subst equals
        exact ⟨joined, .joined sign, fun next _ => never _ sign next⟩
      · refine ⟨single, by simpa [equals] using .alone sign, ?_⟩
        simp [equals, extends_alone_iff sign]

/-- What a character draws together is a text with a kind, and nothing behind it makes it longer. -/
theorem exists_spells_continuation {first : Char} (solid : isBlank first = false)
    (rest : List Char) :
    ∃ kind, Spells (first :: continuation first rest) kind ∧
      ∀ character ∈ (rest.drop (continuation first rest).length).head?,
        ¬ kind.Extends character := by
  by_cases digit : first.isDigit = true
  · rw [continuation_of_isDigit digit]
    refine ⟨.number, .number (List.cons_ne_nil _ _) ?_, takeWhile_boundary Char.isDigit rest⟩
    simpa [digit] using fun part => List.mem_takeWhile_imp
  by_cases start : isWordStart first = true
  · rw [continuation_of_isWordStart start]
    have parts : ∀ part ∈ rest.takeWhile isWordPart, isWordPart part = true :=
      fun part => List.mem_takeWhile_imp
    obtain ⟨kind, spells, extendsBy⟩ := exists_spells_word start parts
    have boundary := takeWhile_boundary isWordPart rest
    exact ⟨kind, spells, fun character next longer =>
      boundary character next (extendsBy character longer)⟩
  by_cases joinable : first ∈ joinableSigns.map Prod.fst
  · rw [continuation_of_mem_joinable joinable]
    exact exists_spells_joinable joinable rest
  rw [Bool.not_eq_true] at digit start
  have takesNot : takesEqual first = false :=
    Bool.eq_false_iff.2 fun takes => joinable (mem_joinable_of_takesEqual takes)
  rw [continuation_of_apart digit start takesNot]
  by_cases lone : first ∈ loneSigns.map Prod.fst
  · obtain ⟨⟨_, kind⟩, sign, rfl⟩ := List.mem_map.1 lone
    have never : ∀ entry ∈ loneSigns, ∀ next, ¬ entry.2.Extends next := by
      simp [loneSigns, Kind.Extends]
    exact ⟨kind, .lone sign, fun next _ => never _ sign next⟩
  · exact ⟨.unknown, .unknown solid digit start lone joinable, fun _ _ => id⟩

namespace Token

/-- Blanks in front of a text only move its position. -/
theorem scanFrom_append_of_blanks {gap : List Char}
    (blank : ∀ character ∈ gap, isBlank character = true) (position : Position)
    (rest : List Char) :
    scanFrom position (gap ++ rest) = scanFrom (position.advance gap) rest := by
  induction gap generalizing position with
  | nil => rfl
  | cons first gap ih =>
      rw [List.forall_mem_cons] at blank
      rw [List.cons_append, scanFrom_blank _ _ _ blank.1, ih blank.2, Position.advance_cons]

/-- The lexemes of a cut are scanned one after the other, and behind the last one is the end. -/
theorem scanFrom_of_cut {text : List Char} {lexed : List (Kind × String)} (cut : Cut text lexed) :
    ∀ position, ∃ tokens place, scanFrom position text = tokens ++ [⟨.eof, "", place⟩] ∧
      tokens.map content = lexed ∧ ∀ token ∈ tokens, token.kind ≠ .eof := by
  induction cut with
  | @blanks gap blank =>
      intro position
      refine ⟨[], position.advance gap, ?_, rfl, by simp⟩
      have scanned := scanFrom_append_of_blanks blank position []
      rwa [List.append_nil, scanFrom_nil] at scanned
  | @lexeme gap text rest kind lexed blank spells ends _ ih =>
      intro position
      obtain ⟨first, more, rfl, solid, drawn⟩ := spells.continuation_eq ends
      obtain ⟨tokens, place, scanned, same, noEnd⟩ :=
        ih ((position.advance gap).advance (first :: more))
      refine ⟨Token.lexed (position.advance gap) first more :: tokens, place, ?_, ?_, ?_⟩
      · rw [scanFrom_append_of_blanks blank, List.cons_append, scanFrom_token _ _ _ solid, drawn,
          List.drop_left, scanned, List.cons_append]
      · simp [content, Token.lexed, spells.ofLexeme_eq first more rfl, same]
      · rw [List.forall_mem_cons]
        refine ⟨?_, noEnd⟩
        simpa [Token.lexed, spells.ofLexeme_eq first more rfl] using spells.ne_eof

/-- Every text can be cut into lexemes. -/
theorem exists_cut (text : List Char) : ∃ lexed, Cut text lexed := by
  match text with
  | [] => exact ⟨[], .blanks (by simp)⟩
  | first :: rest =>
      by_cases blank : isBlank first = true
      · obtain ⟨lexed, cut⟩ := exists_cut rest
        have before : ∀ character ∈ [first], isBlank character = true := by simpa using blank
        exact ⟨lexed, cut.append_of_blanks before⟩
      · have solid : isBlank first = false := by simpa using blank
        obtain ⟨kind, spells, ends⟩ := exists_spells_continuation solid rest
        have shorter : (rest.drop (continuation first rest).length).length <
            (first :: rest).length := by
          simp only [List.length_drop, List.length_cons]
          omega
        obtain ⟨lexed, cut⟩ := exists_cut (rest.drop (continuation first rest).length)
        have noGap : ∀ character ∈ ([] : List Char), isBlank character = true := by simp
        have whole := Cut.lexeme noGap spells ends cut
        rw [List.nil_append, List.cons_append, continuation_append_drop] at whole
        exact ⟨_, whole⟩
  termination_by text.length

/-- A text is scanned into the lexemes of any cut of it. -/
theorem scan_of_cut {source : String} {lexed : List (Kind × String)}
    (cut : Cut source.toList lexed) :
    (∃ place, scan source = visible (scan source) ++ [⟨.eof, "", place⟩]) ∧
      (visible (scan source)).map content = lexed := by
  obtain ⟨tokens, place, scanned, contents, noEnd⟩ := scanFrom_of_cut cut .start
  have seen : visible (scan source) = tokens := by
    rw [scan, scanned]
    exact visible_append noEnd rfl
  rw [seen]
  exact ⟨⟨place, scanned⟩, contents⟩

/-- What is scanned is a cut of the text. -/
theorem cut_visible_scan (source : String) :
    Cut source.toList ((visible (scan source)).map content) := by
  obtain ⟨lexed, cut⟩ := exists_cut source.toList
  rw [(scan_of_cut cut).2]
  exact cut

/-- Scanning gives a single end, behind all other tokens. -/
theorem exists_scan_eq_append (source : String) :
    ∃ tokens place, scan source = tokens ++ [⟨.eof, "", place⟩] ∧
      ∀ token ∈ tokens, token.kind ≠ .eof := by
  obtain ⟨place, scanned⟩ := (scan_of_cut (cut_visible_scan source)).1
  refine ⟨visible (scan source), place, scanned, ?_⟩
  intro token member
  simpa using List.mem_takeWhile_imp member

/-- Each token of a source has the kind that its lexeme dictates. -/
theorem spells_of_mem_visible_scan {source : String} {token : Token}
    (member : token ∈ visible (scan source)) : Spells token.lexeme.toList token.kind :=
  (cut_visible_scan source).spells token.content (List.mem_map_of_mem member)

/-- Scanning gives the lexemes of the one cut of the source, and then the end. -/
theorem scan_eq_cut (source : String) :
    (∃ place, scan source = visible (scan source) ++ [⟨.eof, "", place⟩]) ∧
      ∀ lexed, Cut source.toList lexed ↔ lexed = (visible (scan source)).map content := by
  have cut := cut_visible_scan source
  refine ⟨(scan_of_cut cut).1, ?_⟩
  intro lexed
  constructor
  · intro other
    exact (scan_of_cut other).2.symm
  · intro same
    rw [same]
    exact cut

end Token

end FrontEnd
