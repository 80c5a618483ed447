import FrontEnd.Proofs.Grammar.TrailingComma
import FrontEnd.Proofs.Grammar.Viability
import FrontEnd.Proofs.Infix.RoundTrip
import FrontEnd.Proofs.Output.Legible
import FrontEnd.Proofs.Output.RunLaw

namespace FrontEnd

open Grammar Token

namespace Expr

section

variable (places : Position → Position)

mutual

/-- A text shows no places. -/
theorem text_relabel : ∀ tree : Expr, (tree.relabel id places).text = tree.text
  | literal _ => rfl
  | group inner => by simp only [relabel, text, text_relabel inner]
  | binary left operator right => by
      simp only [relabel, text, text_relabel left, text_relabel right]
      rfl
  | function name parameters body => by
      simp only [relabel, text, bodyText_relabelAll body, List.map_map]
      rfl

theorem bodyText_relabelAll : ∀ body : List Expr,
    bodyText (relabelAll id places body) = bodyText body
  | [] => rfl
  | first :: rest => by
      simp only [relabelAll, bodyText, text_relabel first, bodyText_relabelAll rest]

end

mutual

/-- The lexemes of a tree do not depend on its places. -/
theorem lexemes_relabel : ∀ tree : Expr, (tree.relabel id places).lexemes = tree.lexemes
  | literal _ => rfl
  | group inner => by simp only [relabel, lexemes, lexemes_relabel inner]
  | binary left operator right => by
      simp only [relabel, lexemes, lexemes_relabel left, lexemes_relabel right]
      rfl
  | function name parameters body => by
      simp only [relabel, lexemes, lexemesAll_relabelAll body, List.map_map]
      rfl

theorem lexemesAll_relabelAll : ∀ body : List Expr,
    lexemesAll (relabelAll id places body) = lexemesAll body
  | [] => rfl
  | first :: rest => by
      simp only [relabelAll, lexemesAll, lexemes_relabel first, lexemesAll_relabelAll rest]

end

end

theorem lexemesAll_unplaced (trees : List Expr) :
    lexemesAll (trees.map unplaced) = lexemesAll trees := by
  rw [← lexemesAll_relabelAll (fun _ => .start) trees, relabelAll_eq_map]
  rfl

/-- Each tree is written on a line of its own. -/
theorem toList_lined (trees : List Expr) :
    (Run.lined (.ok trees)).toList = trees.flatMap fun tree => tree.text.toList ++ ['\n'] := by
  rw [Run.lined]
  induction trees with
  | nil => rfl
  | cons tree trees ih => simp [ih]

/-- The lines of normal trees show the trees up to their places. -/
theorem lined_eq_iff {trees others : List Expr}
    (fine : ∀ tree ∈ trees, tree.Normal ∧ tree.Spelled)
    (alsoFine : ∀ other ∈ others, other.Normal ∧ other.Spelled) :
    Run.lined (.ok trees) = Run.lined (.ok others) ↔
      trees.map unplaced = others.map unplaced := by
  constructor
  · intro same
    have texts := congrArg String.toList same
    rw [toList_lined, toList_lined] at texts
    exact lines_inj fine alsoFine texts
  · intro same
    have unplacedLined (trees : List Expr) :
        Run.lined (.ok (trees.map unplaced)) = Run.lined (.ok trees) := by
      rw [Run.lined, Run.lined, List.map_map]
      congr 1
      apply List.map_congr_left
      intro tree _
      exact congrArg (· ++ "\n") (text_relabel _ tree)
    rw [← unplacedLined trees, same, unplacedLined]

/-- Normal trees with the same lexemes differ in places only. -/
theorem unplaced_eq_iff_lexemesAll_eq {trees others : List Expr}
    (fine : ∀ tree ∈ trees, tree.Normal ∧ tree.Spelled)
    (alsoFine : ∀ other ∈ others, other.Normal ∧ other.Spelled) {tokens : List Token}
    (spelled : AllSpelled tokens) (read : tokens.map Token.lexeme = lexemesAll trees) :
    trees.map unplaced = others.map unplaced ↔ lexemesAll trees = lexemesAll others := by
  constructor
  · intro same
    rw [← lexemesAll_unplaced trees, same, lexemesAll_unplaced]
  · intro same
    have readsBack {trees : List Expr} (fine : ∀ tree ∈ trees, tree.Normal ∧ tree.Spelled)
        (read : tokens.map Token.lexeme = lexemesAll trees) :
        ∃ found, ofTokens tokens = .ok found ∧ found.map unplaced = trees.map unplaced := by
      obtain ⟨found, program, unplacedSame⟩ := exists_program
        (fun tree member => (fine tree member).1.readsBack (fine tree member).2) tokens spelled read
      refine ⟨found, ofTokens_of_program ?_, unplacedSame⟩
      rwa [program.visible_eq]
    obtain ⟨first, parsed, unplacedFirst⟩ := readsBack fine read
    obtain ⟨second, alsoParsed, unplacedSecond⟩ := readsBack alsoFine (read.trans same)
    rw [parsed] at alsoParsed
    cases alsoParsed
    exact unplacedFirst.symm.trans unplacedSecond

end Expr

namespace Token

/-- Lexemes dictate the kinds of tokens. -/
theorem map_content_eq_iff {tokens others : List Token} (spelled : AllSpelled tokens)
    (alsoSpelled : AllSpelled others) :
    tokens.map content = others.map content ↔ tokens.map lexeme = others.map lexeme := by
  constructor
  · intro same
    have lexemes := congrArg (List.map Prod.snd) same
    rwa [List.map_map, List.map_map] at lexemes
  · intro same
    induction tokens generalizing others with
    | nil =>
        rw [List.map_nil, eq_comm, List.map_eq_nil_iff] at same
        rw [same]
    | cons token tokens ih =>
        cases others with
        | nil => cases same
        | cons other others =>
            rw [allSpelled_cons] at spelled alsoSpelled
            obtain ⟨first, rest⟩ := List.cons.inj same
            have kinds := kind_eq_of_lexeme_eq spelled.1 first alsoSpelled.1
            rw [List.map_cons, List.map_cons, ih spelled.2 alsoSpelled.2 rest, content, content,
              kinds, first]

end Token

namespace Run

section

variable {source : String} {trees : List Expr}

/-- A run that succeeds has written all of its trees. -/
theorem written_of_succeeds (succeeds : (ofSource source false .unlimited).result = .ok trees) :
    (ofSource source false .unlimited).sink.written = (lined (.ok trees)).toUTF8 := by
  rw [result_ofSource_unlimited, verdict_eq_ok_iff] at succeeds
  obtain ⟨known, parsed⟩ := succeeds
  rw [written_ofSource_unlimited, output, known, parsed]
  exact congrArg String.toUTF8 String.empty_append

/-- Its source is a program of the grammar. -/
theorem program_of_succeeds (succeeds : (ofSource source false .unlimited).result = .ok trees) :
    Program .plain (visible (scan source)) trees := by
  rw [result_ofSource_unlimited, verdict_eq_ok_iff] at succeeds
  exact program_of_ofTokens succeeds.2 .plain

/-- No lexemes but those of trailing commas are missing from the trees. -/
theorem lexemes_of_succeeds (succeeds : (ofSource source false .unlimited).result = .ok trees) :
    (withoutTrailingCommas (visible (scan source))).map Token.lexeme = Expr.lexemesAll trees := by
  have lexemes := (program_of_succeeds succeeds).remainingLexemes_append
    (allSpelled_visible_scan source) []
  rwa [List.append_nil, show remainingLexemes [] = [] from rfl, List.append_nil] at lexemes

end

/-- The end is the last token of a source. -/
theorem content_scan (source : String) :
    (withoutTrailingCommas (scan source)).map content =
      (withoutTrailingCommas (visible (scan source))).map content ++ [(.eof, "")] := by
  obtain ⟨place, scanned⟩ := (scan_of_cut (cut_visible_scan source)).1
  conv_lhs => rw [scanned]
  rw [withoutTrailingCommas_append_eof rfl, List.map_append]
  rfl

/-- What remains without trailing commas is spelled as it was. -/
theorem allSpelled_remaining (source : String) :
    AllSpelled (withoutTrailingCommas (visible (scan source))) :=
  fun token member =>
    allSpelled_visible_scan source token ((withoutTrailingCommas_sublist _).subset member)

/-- Two sources that are run with success have the same lines if and only if their tokens have the
same kinds and lexemes when each comma in front of a closing bracket is left out. -/
theorem written_eq_iff_content_eq (first second : String) (trees others : List Expr)
    (succeeds : (ofSource first false .unlimited).result = .ok trees)
    (alsoSucceeds : (ofSource second false .unlimited).result = .ok others) :
    (ofSource first false .unlimited).sink.written =
        (ofSource second false .unlimited).sink.written ↔
      (withoutTrailingCommas (scan first)).map content =
        (withoutTrailingCommas (scan second)).map content := by
  have spelled := allSpelled_remaining first
  have alsoSpelled := allSpelled_remaining second
  have fine := (program_of_succeeds succeeds).normal (allSpelled_visible_scan first)
  have alsoFine := (program_of_succeeds alsoSucceeds).normal (allSpelled_visible_scan second)
  have lexemes := lexemes_of_succeeds succeeds
  rw [written_of_succeeds succeeds, written_of_succeeds alsoSucceeds, content_scan, content_scan,
    List.append_left_inj]
  calc (lined (.ok trees)).toUTF8 = (lined (.ok others)).toUTF8
      ↔ lined (.ok trees) = lined (.ok others) := String.toByteArray_inj
    _ ↔ trees.map Expr.unplaced = others.map Expr.unplaced := Expr.lined_eq_iff fine alsoFine
    _ ↔ Expr.lexemesAll trees = Expr.lexemesAll others :=
      Expr.unplaced_eq_iff_lexemesAll_eq fine alsoFine spelled lexemes
    _ ↔ _ := by
      rw [map_content_eq_iff spelled alsoSpelled, lexemes, lexemes_of_succeeds alsoSucceeds]

/-- A comma behind the last parameter and a line feed leave no trace in the lines. -/
theorem written_eq_iff_content_eq_function :
    let first := "fun f(a, b,) \x7ba\x7d"
    let second := "fun f (a,b)\n\x7b a \x7d"
    (∃ trees, (ofSource first false .unlimited).result = .ok trees) ∧
      (∃ others, (ofSource second false .unlimited).result = .ok others) ∧
      scan first ≠ scan second ∧
      (ofSource first false .unlimited).sink.written =
        (ofSource second false .unlimited).sink.written := by
  intro first second
  have succeeds : (ofSource first false .unlimited).result =
      .ok [.function ⟨.identifier, "f", ⟨1, 5⟩⟩
        [⟨.identifier, "a", ⟨1, 7⟩⟩, ⟨.identifier, "b", ⟨1, 10⟩⟩] [.literal "a"]] := by
    rw [result_ofSource_unlimited]
    cbv
  have alsoSucceeds : (ofSource second false .unlimited).result =
      .ok [.function ⟨.identifier, "f", ⟨1, 5⟩⟩
        [⟨.identifier, "a", ⟨1, 8⟩⟩, ⟨.identifier, "b", ⟨1, 10⟩⟩] [.literal "a"]] := by
    rw [result_ofSource_unlimited]
    cbv
  have contents : (withoutTrailingCommas (scan first)).map content =
      (withoutTrailingCommas (scan second)).map content := by
    decide +kernel
  have differ : scan first ≠ scan second := by
    decide +kernel
  exact ⟨⟨_, succeeds⟩, ⟨_, alsoSucceeds⟩, differ,
    (written_eq_iff_content_eq first second _ _ succeeds alsoSucceeds).2 contents⟩

end Run

end FrontEnd
