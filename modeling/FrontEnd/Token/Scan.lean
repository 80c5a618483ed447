/-
This file cuts a source text into tokens. Each token takes as many characters as it can.
-/

import FrontEnd.Log

namespace FrontEnd

/-- Blanks separate tokens and belong to none. -/
def isBlank (character : Char) : Bool :=
  character == ' ' || character == '\t' || character == '\r' || character == '\n'

/-- Only the letters of ASCII count. -/
def isWordStart (character : Char) : Bool :=
  character.isAlpha || character == '_'

def isWordPart (character : Char) : Bool :=
  isWordStart character || character.isDigit

/-- These characters form one token with an equals sign that follows. -/
def takesEqual (character : Char) : Bool :=
  character == '!' || character == '=' || character == '<' || character == '>'

namespace Kind

/-- The kinds that are spelled with signs, and their spellings. A slash is no sign of the text. -/
def signs : List (String × Kind) :=
  [("(", leftParen), (")", rightParen), ("\x7b", leftBrace), ("\x7d", rightBrace),
    (",", comma), (".", dot), ("-", minus), ("+", plus), (";", semicolon), ("*", star),
    ("!", bang), ("!=", bangEqual), ("=", equal), ("==", equalEqual),
    (">", greater), (">=", greaterEqual), ("<", less), ("<=", lessEqual)]

/-- A lexeme that is no sign is a number, a word or unknown, as its first character tells. -/
def ofLexeme (first : Char) (more : List Char) : Kind :=
  let lexeme := String.ofList (first :: more)
  match signs.lookup lexeme with
  | some kind => kind
  | none =>
      if first.isDigit then number
      else if isWordStart first then
        match Keyword.ofSpelling? lexeme with
        | some word => keyword word
        | none => identifier
      else unknown

end Kind

namespace Token

/-- The characters that `first` draws into its token from those behind it. -/
def continuation (first : Char) (rest : List Char) : List Char :=
  if first.isDigit then rest.takeWhile Char.isDigit
  else if isWordStart first then rest.takeWhile isWordPart
  else if takesEqual first then (rest.take 1).takeWhile (· == '=')
  else []

/-- The token that begins with `first` and goes on with `more`. -/
def lexed (position : Position) (first : Char) (more : List Char) : Token :=
  ⟨Kind.ofLexeme first more, String.ofList (first :: more), position⟩

/-- What a token draws in stands right behind its first character. -/
theorem continuation_append_drop (first : Char) (rest : List Char) :
    continuation first rest ++ rest.drop (continuation first rest).length = rest := by
  have initial : continuation first rest <+: rest := by
    unfold continuation
    split
    · exact List.takeWhile_prefix _
    · split
      · exact List.takeWhile_prefix _
      · split
        · exact (List.takeWhile_prefix _).trans (List.take_prefix _ _)
        · exact List.nil_prefix
  exact List.prefix_iff_eq_append.1 initial

end Token

/-- What a scan leaves behind: its tokens, and the events of adding them. -/
structure Scan where
  tokens : List Token
  log : List Event

namespace Scan

/-- A token is noted when it is added. -/
def add (token : Token) (later : Scan) : Scan :=
  ⟨token :: later.tokens, .scanned token :: later.log⟩

/-- The end of the text is the last token. It is not noted. -/
def finish (position : Position) : Scan :=
  ⟨[⟨.eof, "", position⟩], []⟩

/-- The scan of a text that begins at `position`. -/
def ofText (position : Position) : List Char → Scan
  | [] => finish position
  | first :: rest =>
      if isBlank first then ofText (position.next first) rest
      else
        let more := Token.continuation first rest
        add (Token.lexed position first more)
          (ofText (position.advance (first :: more)) (rest.drop more.length))
  termination_by text => text.length

/-- The scan of a source text. -/
def ofString (source : String) : Scan :=
  ofText .start source.toList

/-- A blank adds nothing. -/
theorem ofText_blank (position : Position) (first : Char) (rest : List Char)
    (blank : isBlank first = true) :
    ofText position (first :: rest) = ofText (position.next first) rest := by
  rw [ofText, if_pos blank]

/-- Any other character begins a token that is added, and scanning goes on behind it. -/
theorem ofText_token (position : Position) (first : Char) (rest : List Char)
    (solid : isBlank first = false) :
    ofText position (first :: rest) =
      add (Token.lexed position first (Token.continuation first rest))
        (ofText (position.advance (first :: Token.continuation first rest))
          (rest.drop (Token.continuation first rest).length)) := by
  rw [ofText, if_neg (by simp [solid])]

end Scan

namespace Token

/-- The tokens of a text that begins at `position`. -/
def scanFrom (position : Position) (text : List Char) : List Token :=
  (Scan.ofText position text).tokens

/-- The tokens of a source text. -/
def scan (source : String) : List Token :=
  scanFrom .start source.toList

/-- Nothing but the end is left to scan behind a text. -/
@[simp] theorem scanFrom_nil (position : Position) :
    scanFrom position [] = [⟨.eof, "", position⟩] := by
  rw [scanFrom, Scan.ofText, Scan.finish]

/-- A blank only moves the position. -/
theorem scanFrom_blank (position : Position) (first : Char) (rest : List Char)
    (blank : isBlank first = true) :
    scanFrom position (first :: rest) = scanFrom (position.next first) rest := by
  rw [scanFrom, Scan.ofText_blank _ _ _ blank, scanFrom]

/-- Any other character begins a token, and scanning goes on behind it. -/
theorem scanFrom_token (position : Position) (first : Char) (rest : List Char)
    (solid : isBlank first = false) :
    scanFrom position (first :: rest) =
      lexed position first (continuation first rest) ::
        scanFrom (position.advance (first :: continuation first rest))
          (rest.drop (continuation first rest).length) := by
  rw [scanFrom, Scan.ofText_token _ _ _ solid, Scan.add, scanFrom]

end Token

@[simp] theorem Scan.tokens_ofString (source : String) :
    (ofString source).tokens = Token.scan source := rfl

end FrontEnd
