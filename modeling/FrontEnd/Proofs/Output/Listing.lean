import FrontEnd.Proofs.Text.Pieces
import FrontEnd.Proofs.Token.Foreign

namespace FrontEnd

open Token

/-- The name of a kind ends at the first space. -/
theorem Kind.space_not_mem_name (kind : Kind) : ' ' ∉ kind.name.toList := by
  have every : ∀ kind ∈ Kind.all, ' ' ∉ kind.name.toList := by decide
  exact every kind kind.mem_all

namespace Token

/-- The lexeme of the token does not have the mark that a listing puts behind lexemes. -/
def Quotable (token : Token) : Prop := '\x27' ∉ token.lexeme.toList

/-- A lexeme without unknown characters has no quotation mark in it. -/
theorem quotable_of_mem_scan {source : String} (known : unknownCharacters (scan source) = [])
    {token : Token} (member : token ∈ scan source) (solid : token.kind ≠ .eof) :
    token.Quotable := by
  have spells := spells_of_mem_scan member solid
  intro mark
  have supported := spells.supported ((unknownCharacters_eq_nil_iff _).1 known token member) _ mark
  exact absurd supported (by decide)

/-- A listed token is a line with its kind, its lexeme in quotation marks and its place. -/
theorem toList_listing_append (token : Token) (rest : List Char) :
    (token.listing ++ "\n").toList ++ rest =
      token.kind.name.toList ++ ' ' :: '\x27' :: (token.lexeme.toList ++ '\x27' :: ' ' ::
        ((toString token.position.line).toList ++ ':' ::
          ((toString token.position.column).toList ++ '\n' :: rest))) := by
  simp [listing, Position.text]

/-- A line of a listing determines its token, whatever stands behind the line. -/
theorem listing_append_inj {token other : Token} (quotable : token.Quotable)
    (alsoQuotable : other.Quotable) {rest rest' : List Char}
    (same : (token.listing ++ "\n").toList ++ rest = (other.listing ++ "\n").toList ++ rest') :
    token = other ∧ rest = rest' := by
  rw [toList_listing_append, toList_listing_append] at same
  obtain ⟨names, same⟩ := append_mark_inj token.kind.space_not_mem_name
    other.kind.space_not_mem_name same
  obtain ⟨lexemes, same⟩ := append_mark_inj quotable alsoQuotable (List.cons.inj same).2
  obtain ⟨lines, same⟩ := number_append_inj (by decide) (List.cons.inj same).2
  obtain ⟨columns, behind⟩ := number_append_inj (by decide) same
  obtain ⟨kind, lexeme, line, column⟩ := token
  obtain ⟨kind', lexeme', line', column'⟩ := other
  obtain rfl : kind = kind' := Kind.name_injective (String.toList_inj.1 names)
  obtain rfl : lexeme = lexeme' := String.toList_inj.1 lexemes
  obtain rfl : line = line' := lines
  obtain rfl : column = column' := columns
  exact ⟨rfl, behind⟩

end Token

namespace Run

/-- The first token of a listing can be read back, and the listing goes on behind it. -/
theorem listed_cons_append_inj {token other : Token} (quotable : token.Quotable)
    (alsoQuotable : other.Quotable) {tokens others : List Token} {rest rest' : List Char}
    (same : (listed true (token :: tokens)).toList ++ rest =
      (listed true (other :: others)).toList ++ rest') :
    token = other ∧
      (listed true tokens).toList ++ rest = (listed true others).toList ++ rest' := by
  have text (token : Token) (tokens : List Token) (rest : List Char) :
      (listed true (token :: tokens)).toList ++ rest =
        (token.listing ++ "\n").toList ++ ((listed true tokens).toList ++ rest) := by
    simp [listed]
  rw [text, text] at same
  exact listing_append_inj quotable alsoQuotable same

/-- A listing ends at the only end of the text that it shows. -/
theorem listed_append_inj {tokens others : List Token} {last last' : Token}
    (quotable : ∀ token ∈ tokens, token.kind ≠ .eof ∧ token.Quotable)
    (alsoQuotable : ∀ other ∈ others, other.kind ≠ .eof ∧ other.Quotable)
    (isEnd : last.kind = .eof ∧ last.Quotable) (alsoEnd : last'.kind = .eof ∧ last'.Quotable)
    {rest rest' : List Char}
    (same : (listed true (tokens ++ [last])).toList ++ rest =
      (listed true (others ++ [last'])).toList ++ rest') :
    tokens ++ [last] = others ++ [last'] ∧ rest = rest' := by
  -- Where one list is at its end and the other one is not, the two lines show different kinds.
  induction tokens generalizing others with
  | nil =>
      cases others with
      | nil =>
          obtain ⟨rfl, behind⟩ := listed_cons_append_inj isEnd.2 alsoEnd.2 same
          exact ⟨rfl, behind⟩
      | cons other others =>
          have begins := alsoQuotable other List.mem_cons_self
          obtain ⟨rfl, _⟩ := listed_cons_append_inj isEnd.2 begins.2 same
          exact absurd isEnd.1 begins.1
  | cons token tokens ih =>
      rw [List.forall_mem_cons] at quotable
      cases others with
      | nil =>
          obtain ⟨rfl, _⟩ := listed_cons_append_inj quotable.1.2 alsoEnd.2 same
          exact absurd alsoEnd.1 quotable.1.1
      | cons other others =>
          rw [List.forall_mem_cons] at alsoQuotable
          obtain ⟨rfl, later⟩ := listed_cons_append_inj quotable.1.2 alsoQuotable.1.2 same
          obtain ⟨tails, behind⟩ := ih quotable.2 alsoQuotable.2 later
          exact ⟨congrArg (token :: ·) tails, behind⟩

/-- The tokens of a source are quotable up to the end, and this one has no lexeme. -/
theorem exists_quotable_scan {source : String} (known : unknownCharacters (scan source) = []) :
    ∃ tokens last, scan source = tokens ++ [last] ∧
      (∀ token ∈ tokens, token.kind ≠ .eof ∧ token.Quotable) ∧
      last.kind = .eof ∧ last.Quotable := by
  obtain ⟨tokens, place, scanned, solid⟩ := exists_scan_eq_append source
  refine ⟨tokens, _, scanned, ?_, rfl, List.not_mem_nil⟩
  intro token member
  have inside : token ∈ scan source := by
    rw [scanned]
    exact List.mem_append_left _ member
  exact ⟨solid token member, quotable_of_mem_scan known inside (solid token member)⟩

/-- Two sources without unknown characters have the same output with a listing if and only if they
have the same tokens at the same places. -/
theorem written_listing_eq_iff_scan_eq {first second : String}
    (known : unknownCharacters (scan first) = [])
    (alsoKnown : unknownCharacters (scan second) = []) :
    (ofSource first true .unlimited).sink.written =
        (ofSource second true .unlimited).sink.written ↔
      scan first = scan second := by
  rw [written_ofSource_unlimited, written_ofSource_unlimited]
  constructor
  · intro same
    have texts := congrArg String.toList (String.toByteArray_inj.1 same)
    rw [output_of_known known, output_of_known alsoKnown, String.toList_append,
      String.toList_append] at texts
    obtain ⟨tokens, last, scanned, quotable, isEnd⟩ := exists_quotable_scan known
    obtain ⟨others, last', alsoScanned, alsoQuotable, alsoEnd⟩ := exists_quotable_scan alsoKnown
    conv at texts in listed true (scan first) => rw [scanned]
    conv at texts in listed true (scan second) => rw [alsoScanned]
    rw [scanned, alsoScanned]
    exact (listed_append_inj quotable alsoQuotable isEnd alsoEnd texts).1
  · intro same
    unfold output
    rw [same]

/-- A tab in place of a space leaves no trace in the listing, and a second space does. None of the
three sources is complete. -/
theorem written_listing_eq_iff_scan_eq_unfinished :
    let written := fun source => (ofSource source true .unlimited).sink.written
    written "a\t+" = written "a +" ∧ written "a +" ≠ written "a  +" := by
  intro written
  have tab : unknownCharacters (scan "a\t+") = [] := by decide +kernel
  have space : unknownCharacters (scan "a +") = [] := by decide +kernel
  have wide : unknownCharacters (scan "a  +") = [] := by decide +kernel
  constructor
  · exact (written_listing_eq_iff_scan_eq tab space).2 (by decide +kernel)
  · intro same
    exact absurd ((written_listing_eq_iff_scan_eq space wide).1 same) (by decide +kernel)

end Run

end FrontEnd
