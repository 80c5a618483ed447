import FrontEnd.Token.Scan
import Mathlib

namespace FrontEnd

namespace Kind

/-- The signs of one character that no equals sign joins. -/
def loneSigns : List (Char × Kind) :=
  [('(', leftParen), (')', rightParen), ('\x7b', leftBrace), ('\x7d', rightBrace), (',', comma),
    ('.', dot), ('-', minus), ('+', plus), (';', semicolon), ('*', star)]

/-- The signs that an equals sign joins. Each of them has a kind alone and a kind when joined. -/
def joinableSigns : List (Char × Kind × Kind) :=
  [('!', bang, bangEqual), ('=', equal, equalEqual), ('<', less, lessEqual),
    ('>', greater, greaterEqual)]

/-- With these characters a text of the kind would go on. -/
def Extends (kind : Kind) (character : Char) : Prop :=
  match kind with
  | number => character.isDigit = true
  | identifier | keyword _ => isWordPart character = true
  | bang | equal | less | greater => character = '='
  | _ => False

end Kind

/-- The kind that a text dictates. -/
inductive Spells : List Char → Kind → Prop
  | lone {character : Char} {kind : Kind} : (character, kind) ∈ Kind.loneSigns →
      Spells [character] kind
  | alone {character : Char} {single joined : Kind} :
      (character, single, joined) ∈ Kind.joinableSigns → Spells [character] single
  | joined {character : Char} {single joined : Kind} :
      (character, single, joined) ∈ Kind.joinableSigns → Spells [character, '='] joined
  | number {digits : List Char} : digits ≠ [] → (∀ digit ∈ digits, digit.isDigit = true) →
      Spells digits .number
  | keyword (word : Keyword) : Spells word.spelling.toList (.keyword word)
  | identifier {first : Char} {more : List Char} : isWordStart first = true →
      (∀ part ∈ more, isWordPart part = true) →
      (∀ word : Keyword, word.spelling.toList ≠ first :: more) →
      Spells (first :: more) .identifier
  | unknown {character : Char} : isBlank character = false → character.isDigit = false →
      isWordStart character = false → character ∉ Kind.loneSigns.map Prod.fst →
      character ∉ Kind.joinableSigns.map Prod.fst → Spells [character] .unknown

namespace Token

open Kind

/-- Words do not begin with digits. -/
theorem not_isDigit_of_isWordStart {character : Char} (start : isWordStart character = true) :
    character.isDigit = false := by
  simp only [isWordStart, Char.isAlpha, Char.isUpper, Char.isLower, Bool.or_eq_true, beq_iff_eq,
    Bool.and_eq_true, decide_eq_true_eq, ge_iff_le, UInt32.le_iff_toNat_le] at start
  simp only [Char.isDigit, Bool.and_eq_false_iff, decide_eq_false_iff_not, ge_iff_le,
    UInt32.le_iff_toNat_le]
  rcases start with (⟨low, _⟩ | ⟨low, _⟩) | rfl
  · simp only [Char.reduceVal, UInt32.reduceToNat] at *
    omega
  · simp only [Char.reduceVal, UInt32.reduceToNat] at *
    omega
  · decide

/-- The characters with which signs begin belong to no other class. -/
theorem apart_of_lone {character : Char} (sign : character ∈ loneSigns.map Prod.fst) :
    isBlank character = false ∧ character.isDigit = false ∧ isWordStart character = false ∧
      takesEqual character = false := by
  have all : ∀ entry ∈ loneSigns, isBlank entry.1 = false ∧ entry.1.isDigit = false ∧
      isWordStart entry.1 = false ∧ takesEqual entry.1 = false := by decide
  obtain ⟨entry, member, rfl⟩ := List.mem_map.1 sign
  exact all entry member

/-- Signs that can be joined are no blanks, digits or letters. -/
theorem apart_of_joinable {character : Char} (sign : character ∈ joinableSigns.map Prod.fst) :
    isBlank character = false ∧ character.isDigit = false ∧ isWordStart character = false ∧
      takesEqual character = true := by
  have all : ∀ entry ∈ joinableSigns, isBlank entry.1 = false ∧ entry.1.isDigit = false ∧
      isWordStart entry.1 = false ∧ takesEqual entry.1 = true := by decide
  obtain ⟨entry, member, rfl⟩ := List.mem_map.1 sign
  exact all entry member

/-- A character that takes an equals sign is one of these signs. -/
theorem mem_joinable_of_takesEqual {character : Char} (takes : takesEqual character = true) :
    character ∈ joinableSigns.map Prod.fst := by
  simpa [takesEqual, joinableSigns, or_assoc] using takes

/-- A lexeme that begins with none of the signs is no sign. -/
theorem lookup_signs_eq_none {first : Char} (lone : first ∉ loneSigns.map Prod.fst)
    (joinable : first ∉ joinableSigns.map Prod.fst) (more : List Char) :
    signs.lookup (String.ofList (first :: more)) = none := by
  have heads : ∀ entry ∈ signs, ∃ head tail, entry.1.toList = head :: tail ∧
      (head ∈ loneSigns.map Prod.fst ∨ head ∈ joinableSigns.map Prod.fst) := by
    simp [signs, loneSigns, joinableSigns]
  rw [List.lookup_eq_none_iff]
  intro entry member
  obtain ⟨head, tail, spelled, sign⟩ := heads entry member
  rw [bne_iff_ne]
  intro same
  rw [← same, String.toList_ofList] at spelled
  cases spelled
  exact sign.elim lone joinable

theorem lookup_signs_of_isDigit {first : Char} (digit : first.isDigit = true) (more : List Char) :
    signs.lookup (String.ofList (first :: more)) = none := by
  apply lookup_signs_eq_none
  · intro sign
    simp [(apart_of_lone sign).2.1] at digit
  · intro sign
    simp [(apart_of_joinable sign).2.1] at digit

theorem lookup_signs_of_isWordStart {first : Char} (start : isWordStart first = true)
    (more : List Char) : signs.lookup (String.ofList (first :: more)) = none := by
  apply lookup_signs_eq_none
  · intro sign
    simp [(apart_of_lone sign).2.2.1] at start
  · intro sign
    simp [(apart_of_joinable sign).2.2.1] at start

end Token

open Token Kind

theorem Spells.ne_nil {text : List Char} {kind : Kind} (spells : Spells text kind) : text ≠ [] := by
  cases spells with
  | number nonempty _ => exact nonempty
  | keyword word => cases word <;> decide
  | _ => exact List.cons_ne_nil _ _

/-- Scanning finds the kind that a text dictates. -/
theorem Spells.ofLexeme_eq {text : List Char} {kind : Kind} (spells : Spells text kind) :
    ∀ first more, text = first :: more → Kind.ofLexeme first more = kind := by
  intro first more same
  cases spells with
  | @lone character kind sign =>
      cases same
      have all : ∀ entry ∈ loneSigns, Kind.ofLexeme entry.1 [] = entry.2 := by decide
      exact all _ sign
  | @alone character single joined sign =>
      cases same
      have all : ∀ entry ∈ joinableSigns, Kind.ofLexeme entry.1 [] = entry.2.1 := by decide
      exact all _ sign
  | @joined character single joined sign =>
      cases same
      have all : ∀ entry ∈ joinableSigns, Kind.ofLexeme entry.1 ['='] = entry.2.2 := by decide
      exact all _ sign
  | number _ digits =>
      have digit : first.isDigit = true := digits first (by simp [same])
      rw [Kind.ofLexeme, lookup_signs_of_isDigit digit]
      exact if_pos digit
  | keyword word =>
      cases word <;> cases same <;> decide
  | identifier start parts noKeyword =>
      cases same
      rw [Kind.ofLexeme, lookup_signs_of_isWordStart start]
      have noWord : Keyword.ofSpelling? (String.ofList (first :: more)) = none := by
        rw [Option.eq_none_iff_forall_ne_some]
        intro word found
        apply noKeyword word
        rw [Keyword.spelling_of_ofSpelling? found, String.toList_ofList]
      simp only [not_isDigit_of_isWordStart start, start, noWord, Bool.false_eq_true, if_false,
        if_true]
  | unknown _ noDigit noStart noLone noJoinable =>
      cases same
      rw [Kind.ofLexeme, lookup_signs_eq_none noLone noJoinable]
      simp [noDigit, noStart]

/-- A text dictates one kind. -/
theorem Spells.unique {text : List Char} {first second : Kind} (one : Spells text first)
    (other : Spells text second) : first = second := by
  obtain ⟨head, tail, rfl⟩ := List.exists_cons_of_ne_nil one.ne_nil
  exact (one.ofLexeme_eq head tail rfl).symm.trans (other.ofLexeme_eq head tail rfl)

/-- No text dictates the end. -/
theorem Spells.ne_eof {text : List Char} {kind : Kind} (spells : Spells text kind) :
    kind ≠ .eof := by
  cases spells with
  | lone sign =>
      have all : ∀ entry ∈ loneSigns, entry.2 ≠ .eof := by decide
      exact all _ sign
  | alone sign =>
      have all : ∀ entry ∈ joinableSigns, entry.2.1 ≠ .eof := by decide
      exact all _ sign
  | joined sign =>
      have all : ∀ entry ∈ joinableSigns, entry.2.2 ≠ .eof := by decide
      exact all _ sign
  | _ => exact nofun

end FrontEnd
