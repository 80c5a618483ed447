import FrontEnd.Proofs.Grammar.Words
import FrontEnd.Proofs.Infix.ReadBack

namespace FrontEnd

namespace Token

/-- A comma is left out if a closing bracket comes next. -/
def withoutTrailingCommas : List Token → List Token
  | [] => []
  | token :: rest =>
      if token.kind = .comma ∧ nextKind rest = .rightParen then withoutTrailingCommas rest
      else token :: withoutTrailingCommas rest

/-- Only commas are left out. -/
theorem withoutTrailingCommas_of_ne {token : Token} (noComma : token.kind ≠ .comma)
    (rest : List Token) :
    withoutTrailingCommas (token :: rest) = token :: withoutTrailingCommas rest :=
  if_neg fun trailing => noComma trailing.1

/-- The tokens that remain keep their order. -/
theorem withoutTrailingCommas_sublist (tokens : List Token) :
    (withoutTrailingCommas tokens).Sublist tokens := by
  induction tokens with
  | nil => exact List.Sublist.refl _
  | cons token rest ih =>
      rw [withoutTrailingCommas]
      split
      · exact ih.cons _
      · exact ih.cons_cons _

/-- What stands in front of an end is left out without regard to the end. -/
theorem withoutTrailingCommas_append_eof {last : Token} (isEnd : last.kind = .eof)
    (tokens : List Token) :
    withoutTrailingCommas (tokens ++ [last]) = withoutTrailingCommas tokens ++ [last] := by
  induction tokens with
  | nil => exact withoutTrailingCommas_of_ne (by simp [isEnd]) []
  | cons token rest ih =>
      have next : nextKind (rest ++ [last]) = .rightParen ↔ nextKind rest = .rightParen := by
        cases rest <;> simp [isEnd]
      rw [List.cons_append, withoutTrailingCommas, withoutTrailingCommas, ih]
      simp only [next]
      split <;> rfl

/-- The lexemes that remain when trailing commas are left out. -/
def remainingLexemes (tokens : List Token) : List String :=
  (withoutTrailingCommas tokens).map lexeme

/-- The lexeme of a token that is no comma remains. -/
theorem remainingLexemes_of_ne {token : Token} (noComma : token.kind ≠ .comma)
    (rest : List Token) :
    remainingLexemes (token :: rest) = token.lexeme :: remainingLexemes rest :=
  congrArg (List.map lexeme) (withoutTrailingCommas_of_ne noComma rest)

theorem remainingLexemes_of_open (comma : Token) {rest : List Token}
    (isOpen : nextKind rest ≠ .rightParen) :
    remainingLexemes (comma :: rest) = comma.lexeme :: remainingLexemes rest :=
  congrArg (List.map lexeme) (if_neg fun trailing => isOpen trailing.2)

/-- A comma in front of a closing parenthesis is left out. -/
theorem remainingLexemes_of_trailing {comma : Token} {rest : List Token}
    (isComma : comma.kind = .comma) (closed : nextKind rest = .rightParen) :
    remainingLexemes (comma :: rest) = remainingLexemes rest :=
  congrArg (List.map lexeme) (if_pos ⟨isComma, closed⟩)

end Token

/-- A sign that no equals sign joins has one spelling. -/
theorem Spells.eq_of_lone {text : List Char} {kind : Kind} (spells : Spells text kind)
    {character : Char} (sign : (character, kind) ∈ Kind.loneSigns) : text = [character] := by
  have kinds : ∀ entry ∈ Kind.loneSigns, entry.2 ≠ .number ∧ entry.2 ≠ .identifier ∧
      entry.2 ≠ .unknown ∧ (∀ word, entry.2 ≠ .keyword word) ∧
      (∀ joinable ∈ Kind.joinableSigns, entry.2 ≠ joinable.2.1 ∧ entry.2 ≠ joinable.2.2) ∧
      ∀ other ∈ Kind.loneSigns, entry.2 = other.2 → entry.1 = other.1 := by
    simp [Kind.loneSigns, Kind.joinableSigns]
  obtain ⟨noNumber, noIdentifier, noUnknown, noKeyword, notJoinable, unique⟩ := kinds _ sign
  cases spells with
  | lone other => exact congrArg (fun sign => [sign]) (unique _ other rfl).symm
  | alone other => exact absurd rfl (notJoinable _ other).1
  | joined other => exact absurd rfl (notJoinable _ other).2
  | number _ _ => exact absurd rfl noNumber
  | keyword word => exact absurd rfl (noKeyword word)
  | identifier _ _ _ => exact absurd rfl noIdentifier
  | unknown _ _ _ _ _ => exact absurd rfl noUnknown

/-- A reserved word has one spelling. -/
theorem Spells.eq_of_keyword {text : List Char} {word : Keyword}
    (spells : Spells text (.keyword word)) : text = word.spelling.toList := by
  have noLone : ∀ entry ∈ Kind.loneSigns, ∀ word, entry.2 ≠ .keyword word := by
    simp [Kind.loneSigns]
  have noJoinable : ∀ entry ∈ Kind.joinableSigns,
      ∀ word, entry.2.1 ≠ .keyword word ∧ entry.2.2 ≠ .keyword word := by
    simp [Kind.joinableSigns]
  cases spells with
  | keyword => rfl
  | lone sign => exact absurd rfl (noLone _ sign word)
  | alone sign => exact absurd rfl (noJoinable _ sign word).1
  | joined sign => exact absurd rfl (noJoinable _ sign word).2

/-- A kind with one sign only has one spelling only. -/
theorem Token.lexeme_of_lone {token : Token} (spelled : Spells token.lexeme.toList token.kind)
    {sign : Char} {kind : Kind} (same : token.kind = kind)
    (lone : (sign, kind) ∈ Kind.loneSigns) : token.lexeme = String.ofList [sign] := by
  rw [same] at spelled
  rw [← spelled.eq_of_lone lone, String.ofList_toList]

namespace Grammar

open Token

/-- Parameters begin with a name unless there are none. -/
theorem Parameters.starts {between names : List Token} (parameters : Parameters between names) :
    between = [] ∧ names = [] ∨ ∃ name tokens others, between = name :: tokens ∧
      names = name :: others ∧ name.kind = .identifier := by
  cases parameters with
  | none => exact .inl ⟨rfl, rfl⟩
  | last identifier => exact .inr ⟨_, _, _, rfl, rfl, identifier⟩
  | more identifier _ _ => exact .inr ⟨_, _, _, rfl, rfl, identifier⟩

/-- Commas remain between parameters only. -/
theorem Parameters.remainingLexemes_append {between names : List Token}
    (parameters : Parameters between names) (spelled : AllSpelled between) {rest : List Token}
    (closed : nextKind rest = .rightParen) :
    remainingLexemes (between ++ rest) =
      (names.map lexeme).intersperse "," ++ remainingLexemes rest := by
  induction parameters with
  | none => rfl
  | @last name identifier =>
      rw [List.singleton_append, remainingLexemes_of_ne (by simp [identifier])]
      rfl
  | @more name comma between names identifier isComma inner ih =>
      simp only [allSpelled_cons] at spelled
      have later := ih spelled.2.2
      have separator : comma.lexeme = "," :=
        lexeme_of_lone spelled.2.1 isComma (show (',', _) ∈ _ by decide)
      rw [List.cons_append, List.cons_append, remainingLexemes_of_ne (by simp [identifier])]
      obtain ⟨rfl, rfl⟩ | ⟨second, tokens, others, rfl, rfl, also⟩ := inner.starts
      · rw [List.nil_append, remainingLexemes_of_trailing isComma closed]
        rfl
      · have isOpen : nextKind (second :: tokens ++ rest) ≠ .rightParen := by simp [also]
        rw [remainingLexemes_of_open comma isOpen, later, separator]
        rfl

/-- A signature is written without its trailing comma. -/
theorem Signature.remainingLexemes_append {head names : List Token} {name : Token}
    (signature : Signature head name names) (spelled : AllSpelled head) (rest : List Token) :
    remainingLexemes (head ++ rest) = name.lexeme :: "(" ::
      ((names.map lexeme).intersperse "," ++ ")" :: "\x7b" :: remainingLexemes rest) := by
  cases signature with
  | @intro _ opening closing brace between _ identifier opens parameters closes begins =>
      simp only [allSpelled_append, allSpelled_cons] at spelled
      obtain ⟨_, spelledOpening, spelledBetween, spelledClosing, spelledBrace, _⟩ := spelled
      have openingLexeme : opening.lexeme = "(" :=
        lexeme_of_lone spelledOpening opens (show ('(', _) ∈ _ by decide)
      have closingLexeme : closing.lexeme = ")" :=
        lexeme_of_lone spelledClosing closes (show (')', _) ∈ _ by decide)
      have braceLexeme : brace.lexeme = "\x7b" :=
        lexeme_of_lone spelledBrace begins (show ('\x7b', _) ∈ _ by decide)
      have closed : nextKind (closing :: brace :: rest) = .rightParen := closes
      have same : name :: opening :: (between ++ [closing, brace]) ++ rest =
          name :: opening :: (between ++ closing :: brace :: rest) := by simp
      rw [same, remainingLexemes_of_ne (by simp [identifier]),
        remainingLexemes_of_ne (by simp [opens]),
        parameters.remainingLexemes_append spelledBetween closed,
        remainingLexemes_of_ne (by simp [closes]), remainingLexemes_of_ne (by simp [begins]),
        openingLexeme, closingLexeme, braceLexeme]

mutual

/-- The lexemes of an expression remain in its tree, all but trailing commas. -/
theorem Expression.remainingLexemes_append : ∀ {tokens : List Token} {tree : Expr},
    Expression .plain tokens tree → AllSpelled tokens → ∀ rest : List Token,
      remainingLexemes (tokens ++ rest) = tree.lexemes ++ remainingLexemes rest
  | _, _, .equality chain, spelled, rest => chain.remainingLexemes_append spelled rest

/-- A chain writes the lexemes of its operands around that of its operator. -/
theorem Chain.remainingLexemes_append : ∀ {levels : List Level} {tokens : List Token}
    {tree : Expr}, Chain .plain levels tokens tree → AllSpelled tokens → ∀ rest : List Token,
      remainingLexemes (tokens ++ rest) = tree.lexemes ++ remainingLexemes rest
  | _, _, _, .primary inner, spelled, rest => inner.remainingLexemes_append spelled rest
  | _, _, _, .operand inner, spelled, rest => inner.remainingLexemes_append spelled rest
  | _, _, _, @Chain.operator _ level _ before behind operator left right isLeft member isRight,
      spelled, rest => by
      simp only [allSpelled_append, allSpelled_cons] at spelled
      have noComma : operator.kind ≠ .comma := by
        intro comma
        rw [comma] at member
        cases level <;> simp [Level.operators] at member
      rw [List.append_assoc, List.cons_append, isLeft.remainingLexemes_append spelled.1,
        remainingLexemes_of_ne noComma, isRight.remainingLexemes_append spelled.2.2, Expr.lexemes]
      simp

/-- A primary writes its parentheses and braces again. -/
theorem Primary.remainingLexemes_append : ∀ {tokens : List Token} {tree : Expr},
    Primary .plain tokens tree → AllSpelled tokens → ∀ rest : List Token,
      remainingLexemes (tokens ++ rest) = tree.lexemes ++ remainingLexemes rest
  | _, _, .literal kind, _, rest => by
      rw [List.singleton_append, remainingLexemes_of_ne]
      · rfl
      · rcases kind with kind | kind <;> simp [kind]
  | _, _, @Primary.group _ opening closing tokens tree opens inner closes, spelled, rest => by
      simp only [allSpelled_append, allSpelled_cons] at spelled
      have openingLexeme : opening.lexeme = "(" :=
        lexeme_of_lone spelled.1 opens (show ('(', _) ∈ _ by decide)
      have closingLexeme : closing.lexeme = ")" :=
        lexeme_of_lone spelled.2.2.1 closes (show (')', _) ∈ _ by decide)
      rw [List.cons_append, List.append_assoc, List.singleton_append,
        remainingLexemes_of_ne (by simp [opens]), inner.remainingLexemes_append spelled.2.1,
        remainingLexemes_of_ne (by simp [closes]), openingLexeme, closingLexeme, Expr.lexemes]
      simp
  | _, _, @Primary.function _ word name closing head names tokens body isFunction signature program
      closes, spelled, rest => by
      simp only [allSpelled_append, allSpelled_cons] at spelled
      obtain ⟨spelledWord, spelledHead, spelledBody, spelledClosing, _⟩ := spelled
      have wordLexeme : word.lexeme = "fun" := by
        rw [isFunction] at spelledWord
        exact String.toList_inj.1 spelledWord.eq_of_keyword
      have closingLexeme : closing.lexeme = "\x7d" :=
        lexeme_of_lone spelledClosing closes (show ('\x7d', _) ∈ _ by decide)
      have same : word :: (head ++ (tokens ++ [closing])) ++ rest =
          word :: (head ++ (tokens ++ closing :: rest)) := by simp
      rw [same, remainingLexemes_of_ne (by simp [isFunction]),
        signature.remainingLexemes_append spelledHead, program.remainingLexemes_append spelledBody,
        remainingLexemes_of_ne (by simp [closes]), wordLexeme, closingLexeme, Expr.lexemes]
      simp

/-- A program writes its expressions one after the other. -/
theorem Program.remainingLexemes_append : ∀ {tokens : List Token} {trees : List Expr},
    Program .plain tokens trees → AllSpelled tokens → ∀ rest : List Token,
      remainingLexemes (tokens ++ rest) = Expr.lexemesAll trees ++ remainingLexemes rest
  | _, _, .empty, _, _ => rfl
  | _, _, .next first later, spelled, rest => by
      rw [allSpelled_append] at spelled
      rw [List.append_assoc, first.remainingLexemes_append spelled.1,
        later.remainingLexemes_append spelled.2, Expr.lexemesAll, List.append_assoc]

end

end Grammar

end FrontEnd
