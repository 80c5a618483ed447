import FrontEnd.Proofs.Infix.ReadBack
import FrontEnd.Proofs.Token.MaximalMunch

namespace FrontEnd

/-- These characters stand behind the words of a text. -/
def isDelimiter (character : Char) : Bool :=
  character == ' ' || character == ')' || character == '\n'

/-- The text begins behind a word. -/
def Delimited (text : List Char) : Prop := ∀ character ∈ text.head?, isDelimiter character = true

/-- A word has no delimiters. -/
def Solid (word : List Char) : Prop := ∀ character ∈ word, isDelimiter character = false

theorem delimited_cons {character : Char} (delimiter : isDelimiter character = true)
    (rest : List Char) : Delimited (character :: rest) := by
  intro first same
  cases same
  exact delimiter

/-- A word ends where the first delimiter stands. -/
theorem Solid.append_inj {first second rest rest' : List Char} (solid : Solid first)
    (solid' : Solid second) (delimited : Delimited rest) (delimited' : Delimited rest')
    (same : first ++ rest = second ++ rest') : first = second ∧ rest = rest' := by
  have inside {word : List Char} (solid : Solid word) :
      ∀ character ∈ word, (!isDelimiter character) = true := by
    intro character member
    rw [solid character member, Bool.not_false]
  have stop {behind : List Char} (delimited : Delimited behind) :
      ∀ character ∈ behind.head?, ¬ (!isDelimiter character) = true := by
    intro character next
    simp [delimited character next]
  exact append_inj_of_boundary (inside solid) (inside solid') (stop delimited) (stop delimited')
    same

/-- No part of a word is a delimiter. -/
theorem not_isDelimiter_of_isWordPart {character : Char} (part : isWordPart character = true) :
    isDelimiter character = false := by
  rw [Bool.eq_false_iff]
  intro delimiter
  simp only [isDelimiter, Bool.or_eq_true, beq_iff_eq] at delimiter
  rcases delimiter with (rfl | rfl) | rfl <;> exact absurd part (by decide)

/-- Numbers and identifiers consist of letters, digits and underscores. -/
theorem Spells.exists_wordParts {text : List Char} {kind : Kind} (spells : Spells text kind)
    (isWord : kind = .number ∨ kind = .identifier) :
    (∃ first more, text = first :: more) ∧ ∀ character ∈ text, isWordPart character = true := by
  cases spells with
  | number nonempty digits =>
      exact ⟨List.exists_cons_of_ne_nil nonempty,
        fun character member => by simp [isWordPart, digits character member]⟩
  | @identifier first more start parts _ =>
      exact ⟨⟨first, more, rfl⟩,
        List.forall_mem_cons.2 ⟨by simp [isWordPart, start], parts⟩⟩
  | lone sign =>
      have all : ∀ entry ∈ Kind.loneSigns, ¬ (entry.2 = .number ∨ entry.2 = .identifier) := by
        decide
      exact absurd isWord (all _ sign)
  | alone sign =>
      have all : ∀ entry ∈ Kind.joinableSigns,
          ¬ (entry.2.1 = .number ∨ entry.2.1 = .identifier) := by decide
      exact absurd isWord (all _ sign)
  | joined sign =>
      have all : ∀ entry ∈ Kind.joinableSigns,
          ¬ (entry.2.2 = .number ∨ entry.2.2 = .identifier) := by decide
      exact absurd isWord (all _ sign)
  | keyword word => simp at isWord
  | unknown _ _ _ _ _ => simp at isWord

/-- Numbers and identifiers have no delimiters in them. -/
theorem Spells.solid_of_word {text : List Char} {kind : Kind} (spells : Spells text kind)
    (isWord : kind = .number ∨ kind = .identifier) : Solid text :=
  fun character member =>
    not_isDelimiter_of_isWordPart ((spells.exists_wordParts isWord).2 character member)

/-- Operators consist of other characters than words and delimiters. -/
theorem Spells.exists_operator {text : List Char} {kind : Kind} (spells : Spells text kind)
    {level : Level} (member : kind ∈ level.operators) :
    (∃ first more, text = first :: more) ∧
      ∀ character ∈ text, isWordPart character = false ∧ isDelimiter character = false := by
  cases spells with
  | @lone character kind sign =>
      have all : ∀ entry ∈ Kind.loneSigns, entry.2 ∈ level.operators →
          isWordPart entry.1 = false ∧ isDelimiter entry.1 = false := by
        cases level <;> decide
      exact ⟨⟨_, _, rfl⟩, List.forall_mem_singleton.2 (all _ sign member)⟩
  | alone sign =>
      have all : ∀ entry ∈ Kind.joinableSigns,
          isWordPart entry.1 = false ∧ isDelimiter entry.1 = false := by decide
      exact ⟨⟨_, _, rfl⟩, List.forall_mem_singleton.2 (all _ sign)⟩
  | joined sign =>
      have all : ∀ entry ∈ Kind.joinableSigns,
          isWordPart entry.1 = false ∧ isDelimiter entry.1 = false := by decide
      exact ⟨⟨_, _, rfl⟩, List.forall_mem_cons.2
        ⟨all _ sign, List.forall_mem_singleton.2 (by decide)⟩⟩
  | number _ _ => cases level <;> simp [Level.operators] at member
  | keyword word => cases level <;> simp [Level.operators] at member
  | identifier _ _ _ => cases level <;> simp [Level.operators] at member
  | unknown _ _ _ _ _ => cases level <;> simp [Level.operators] at member

theorem Spells.solid_of_operator {text : List Char} {kind : Kind} (spells : Spells text kind)
    {level : Level} (member : kind ∈ level.operators) : Solid text :=
  fun character among => ((spells.exists_operator member).2 character among).2

/-- Each of the items stands behind a space. -/
def behindSpaces {α : Type} (view : α → List Char) (items : List α) : List Char :=
  items.flatMap fun item => ' ' :: view item

@[simp] theorem behindSpaces_nil {α : Type} (view : α → List Char) :
    behindSpaces view [] = [] := rfl

@[simp] theorem behindSpaces_cons {α : Type} (view : α → List Char) (item : α) (items : List α) :
    behindSpaces view (item :: items) = ' ' :: (view item ++ behindSpaces view items) := rfl

/-- Items behind spaces are delimited, and so is the parenthesis behind all of them. -/
theorem delimited_behindSpaces {α : Type} (view : α → List Char) (items : List α)
    (rest : List Char) : Delimited (behindSpaces view items ++ ')' :: rest) := by
  cases items with
  | nil => exact delimited_cons (by decide) rest
  | cons item items => exact delimited_cons (by decide) _

/-- Items in a row are told apart if each of them is told apart from what stands behind it. -/
theorem behindSpaces_inj {α β : Type} {view : α → List Char} (key : α → β) {items others : List α}
    (legible : ∀ item ∈ items, ∀ other ∈ others, ∀ rest rest' : List Char, Delimited rest →
      Delimited rest' → view item ++ rest = view other ++ rest' →
        key item = key other ∧ rest = rest')
    {rest rest' : List Char}
    (same : behindSpaces view items ++ ')' :: rest = behindSpaces view others ++ ')' :: rest') :
    items.map key = others.map key ∧ rest = rest' := by
  induction items generalizing others with
  | nil =>
      cases others with
      | nil => exact ⟨rfl, (List.cons.inj same).2⟩
      | cons other others => exact absurd (List.cons.inj same).1 (by decide)
  | cons item items ih =>
      cases others with
      | nil => exact absurd (List.cons.inj same).1 (by decide)
      | cons other others =>
          rw [behindSpaces_cons, behindSpaces_cons, List.cons_append, List.cons_append,
            List.append_assoc, List.append_assoc] at same
          obtain ⟨first, later⟩ := legible item List.mem_cons_self other List.mem_cons_self _ _
            (delimited_behindSpaces view items rest) (delimited_behindSpaces view others rest')
            (List.cons.inj same).2
          obtain ⟨keys, behind⟩ := ih (fun item among other amongOthers =>
            legible item (List.mem_cons_of_mem _ among) other
              (List.mem_cons_of_mem _ amongOthers)) later
          exact ⟨by rw [List.map_cons, List.map_cons, first, keys], behind⟩

/-- Items with spaces between them are the first one and the others behind spaces. -/
theorem toList_intercalate_cons (first : String) (rest : List String) :
    (" ".intercalate (first :: rest)).toList =
      first.toList ++ behindSpaces String.toList rest := by
  induction rest generalizing first with
  | nil => simp
  | cons second rest ih =>
      rw [String.intercalate_cons_cons, String.toList_append, String.toList_append, ih]
      simp

/-- A token that can be the name of a function or of a parameter. -/
def Token.IsName (token : Token) : Prop :=
  token.kind = .identifier ∧ Spells token.lexeme.toList .identifier

namespace Token.IsName

variable {token other : Token} {rest rest' : List Char}

theorem solid (isName : token.IsName) : Solid token.lexeme.toList :=
  isName.2.solid_of_word (.inr rfl)

/-- A name can be told from what stands behind it. -/
theorem append_inj (isName : token.IsName) (alsoName : other.IsName) (delimited : Delimited rest)
    (delimited' : Delimited rest')
    (same : token.lexeme.toList ++ rest = other.lexeme.toList ++ rest') :
    token.unplaced = other.unplaced ∧ rest = rest' := by
  obtain ⟨lexemes, behind⟩ := isName.solid.append_inj alsoName.solid delimited delimited' same
  exact ⟨unplaced_eq (isName.1.trans alsoName.1.symm) (String.toList_inj.1 lexemes), behind⟩

/-- A list of names goes on unless a parenthesis closes it. -/
theorem append_ne (isName : token.IsName) (behind : List Char) :
    ')' :: rest ≠ token.lexeme.toList ++ behind := by
  obtain ⟨⟨first, more, begins⟩, parts⟩ := isName.2.exists_wordParts (.inr rfl)
  have part : isWordPart first = true := parts first (by simp [begins])
  rw [begins]
  intro same
  obtain ⟨rfl, _⟩ := List.cons.inj same
  exact absurd part (by decide)

end Token.IsName

/-- The text of parameters in front of a closing bracket determines them. -/
theorem parameters_inj {names others : List Token} (areNames : ∀ name ∈ names, name.IsName)
    (alsoNames : ∀ other ∈ others, other.IsName) {rest rest' : List Char}
    (same : (" ".intercalate (names.map Token.lexeme)).toList ++ ')' :: rest =
      (" ".intercalate (others.map Token.lexeme)).toList ++ ')' :: rest') :
    names.map Token.unplaced = others.map Token.unplaced ∧ rest = rest' := by
  have text (name : Token) (names : List Token) (rest : List Char) :
      (" ".intercalate ((name :: names).map Token.lexeme)).toList ++ ')' :: rest =
        name.lexeme.toList ++ (behindSpaces (fun name : Token => name.lexeme.toList) names ++
          ')' :: rest) := by
    rw [List.map_cons, toList_intercalate_cons, List.append_assoc]
    simp [behindSpaces, List.flatMap_map]
  cases names with
  | nil =>
      cases others with
      | nil => exact ⟨rfl, by simpa using same⟩
      | cons other others =>
          rw [text] at same
          exact absurd same ((alsoNames other List.mem_cons_self).append_ne _)
  | cons name names =>
      rw [text] at same
      rw [List.forall_mem_cons] at areNames
      cases others with
      | nil => exact absurd same.symm (areNames.1.append_ne _)
      | cons other others =>
          rw [text] at same
          rw [List.forall_mem_cons] at alsoNames
          obtain ⟨first, later⟩ := areNames.1.append_inj alsoNames.1
            (delimited_behindSpaces _ names rest) (delimited_behindSpaces _ others rest') same
          obtain ⟨keys, behind⟩ := behindSpaces_inj Token.unplaced
            (fun name member other amongOthers _ _ delimited delimited' =>
              (areNames.2 name member).append_inj (alsoNames.2 other amongOthers) delimited
                delimited') later
          exact ⟨by rw [List.map_cons, List.map_cons, first, keys], behind⟩

namespace Expr

/-- The text of a body has each of its expressions behind a space. -/
theorem toList_bodyText (body : List Expr) :
    (bodyText body).toList = behindSpaces (fun tree => tree.text.toList) body := by
  induction body with
  | nil => rfl
  | cons first rest ih => simp [bodyText, ih]

section

variable (rest : List Char)

/-- A group is written as a word and its inner expression, in parentheses. -/
theorem text_group_append (inner : Expr) :
    (group inner).text.toList ++ rest =
      "(group ".toList ++ (inner.text.toList ++ ')' :: rest) := by
  simp [text]

/-- An operator is written in front of its operands. -/
theorem text_binary_append (left : Expr) (operator : Token) (right : Expr) :
    (binary left operator right).text.toList ++ rest =
      '(' :: (operator.lexeme.toList ++ ' ' :: (left.text.toList ++ ' ' ::
        (right.text.toList ++ ')' :: rest))) := by
  simp [text]

/-- A function is written as its name, its parameters in parentheses and its body. -/
theorem text_function_append (name : Token) (parameters : List Token) (body : List Expr) :
    (function name parameters body).text.toList ++ rest =
      "(fun ".toList ++ (name.lexeme.toList ++ ' ' :: '(' ::
        ((" ".intercalate (parameters.map Token.lexeme)).toList ++ ')' ::
          (behindSpaces (fun tree => tree.text.toList) body ++ ')' :: rest))) := by
  simp [text, toList_bodyText]

end

theorem unplaced_function (name : Token) (parameters : List Token) (body : List Expr) :
    (function name parameters body).unplaced =
      function name.unplaced (parameters.map Token.unplaced) (body.map unplaced) := by
  rw [unplaced, relabel, relabelAll_eq_map]
  rfl

theorem group_parts {inner : Expr} (normal : (group inner).Normal)
    (spelled : (group inner).Spelled) : inner.Normal ∧ inner.Spelled := by
  cases normal with
  | group innerNormal =>
      cases spelled with
      | group innerSpelled => exact ⟨innerNormal, innerSpelled⟩

/-- The operator of a normal tree is one of a level. -/
theorem binary_parts {left right : Expr} {operator : Token}
    (normal : (binary left operator right).Normal)
    (spelled : (binary left operator right).Spelled) :
    (Spells operator.lexeme.toList operator.kind ∧ ∃ level : Level,
      operator.kind ∈ level.operators) ∧
      (left.Normal ∧ left.Spelled) ∧ right.Normal ∧ right.Spelled := by
  cases normal with
  | binary member _ _ normalLeft normalRight =>
      cases spelled with
      | binary dictates spelledLeft spelledRight =>
          exact ⟨⟨dictates, _, member⟩, ⟨normalLeft, spelledLeft⟩, normalRight, spelledRight⟩

/-- The parts of a normal function are names and normal expressions. -/
theorem function_parts {name : Token} {parameters : List Token} {body : List Expr}
    (normal : (function name parameters body).Normal)
    (spelled : (function name parameters body).Spelled) :
    name.IsName ∧ (∀ parameter ∈ parameters, parameter.IsName) ∧
      ∀ tree ∈ body, tree.Normal ∧ tree.Spelled := by
  cases normal with
  | function isName areNames bodyNormal =>
      cases spelled with
      | function nameSpelled parametersSpelled bodySpelled =>
          exact ⟨⟨isName, nameSpelled⟩,
            fun parameter member => ⟨areNames parameter member, parametersSpelled parameter member⟩,
            fun tree member => ⟨bodyNormal tree member, bodySpelled tree member⟩⟩

/-- The constructor of a tree. -/
inductive Shape where
  | literal
  | group
  | binary
  | function
  deriving DecidableEq, Repr

def shape : Expr → Shape
  | literal _ => .literal
  | group _ => .group
  | binary .. => .binary
  | function .. => .function

/-- Two characters tell with which constructor a text begins. -/
def Shape.ofText : List Char → Shape
  | '(' :: second :: _ => if second = 'g' then .group else if second = 'f' then .function else .binary
  | _ => .literal

/-- The beginning of a text tells the constructor of its tree. -/
theorem Shape.ofText_text {tree : Expr} (normal : tree.Normal) (spelled : tree.Spelled)
    (rest : List Char) : Shape.ofText (tree.text.toList ++ rest) = tree.shape := by
  cases spelled with
  | @literal word dictates =>
      obtain ⟨⟨first, more, begins⟩, parts⟩ := dictates.elim
        (fun number => number.exists_wordParts (.inl rfl))
        (fun identifier => identifier.exists_wordParts (.inr rfl))
      have part : isWordPart first = true := parts first (by simp [begins])
      have noBracket : first ≠ '(' := by
        rintro rfl
        exact absurd part (by decide)
      rw [Expr.text, begins, List.cons_append, shape]
      unfold Shape.ofText
      split
      · rename_i same
        exact absurd (List.cons.inj same).1 noBracket
      · rfl
  | group _ =>
      rw [text_group_append]
      rfl
  | @binary left right operator dictates spelledLeft spelledRight =>
      obtain ⟨⟨_, level, member⟩, _⟩ :=
        binary_parts normal (.binary dictates spelledLeft spelledRight)
      obtain ⟨⟨first, more, begins⟩, apart⟩ := dictates.exists_operator member
      have noPart : isWordPart first = false := (apart first (by simp [begins])).1
      have noGroup : first ≠ 'g' := by
        rintro rfl
        exact absurd noPart (by decide)
      have noFunction : first ≠ 'f' := by
        rintro rfl
        exact absurd noPart (by decide)
      rw [text_binary_append, begins, List.cons_append, shape, Shape.ofText, if_neg noGroup,
        if_neg noFunction]
  | function _ _ _ =>
      rw [text_function_append]
      rfl

/-- A tree is told apart from what stands behind its text. -/
def Legible (tree : Expr) : Prop :=
  ∀ other : Expr, other.Normal → other.Spelled → ∀ rest rest' : List Char, Delimited rest →
    Delimited rest' → tree.text.toList ++ rest = other.text.toList ++ rest' →
      tree.unplaced = other.unplaced ∧ rest = rest'

/-- Trees whose texts agree have the same constructor. -/
theorem shape_eq {tree other : Expr} (normal : tree.Normal) (spelled : tree.Spelled)
    (normal' : other.Normal) (spelled' : other.Spelled) {rest rest' : List Char}
    (same : tree.text.toList ++ rest = other.text.toList ++ rest') : tree.shape = other.shape := by
  rw [← Shape.ofText_text normal spelled rest, same, Shape.ofText_text normal' spelled']

theorem solid_of_dictates {word : String}
    (dictates : Spells word.toList .number ∨ Spells word.toList .identifier) :
    Solid word.toList :=
  dictates.elim (·.solid_of_word (.inl rfl)) (·.solid_of_word (.inr rfl))

/-- A literal can be read back from its text. -/
theorem legible_literal {word : String}
    (dictates : Spells word.toList .number ∨ Spells word.toList .identifier) :
    Legible (literal word) := by
  intro other normal spelled rest rest' delimited delimited' same
  have shapes := shape_eq (.literal word) (.literal dictates) normal spelled same
  cases spelled with
  | literal alsoDictates =>
      obtain ⟨words, behind⟩ := (solid_of_dictates dictates).append_inj
        (solid_of_dictates alsoDictates) delimited delimited' same
      exact ⟨congrArg (fun word => (literal word).unplaced) (String.toList_inj.1 words), behind⟩
  | group _ => cases shapes
  | binary _ _ _ => cases shapes
  | function _ _ _ => cases shapes

/-- A group can be read back if its inner expression can. -/
theorem Legible.group {inner : Expr} (normal : (group inner).Normal)
    (spelled : (group inner).Spelled) (legible : Legible inner) : Legible (group inner) := by
  intro other normal' spelled' rest rest' _ _ same
  have shapes := shape_eq normal spelled normal' spelled' same
  cases other with
  | group inner' =>
      obtain ⟨innerNormal, innerSpelled⟩ := group_parts normal' spelled'
      rw [text_group_append, text_group_append] at same
      obtain ⟨inners, behind⟩ := legible inner' innerNormal innerSpelled _ _
        (delimited_cons (by decide) rest) (delimited_cons (by decide) rest')
        (List.append_cancel_left same)
      exact ⟨congrArg Expr.group inners, (List.cons.inj behind).2⟩
  | literal _ => cases shapes
  | binary _ _ _ => cases shapes
  | function _ _ _ => cases shapes

/-- Since the operator comes first, both operands can be read back one after the other. -/
theorem Legible.binary {left right : Expr} {operator : Token}
    (normal : (binary left operator right).Normal)
    (spelled : (binary left operator right).Spelled) (legibleLeft : Legible left)
    (legibleRight : Legible right) : Legible (binary left operator right) := by
  intro other normal' spelled' rest rest' _ _ same
  have shapes := shape_eq normal spelled normal' spelled' same
  cases other with
  | binary left' operator' right' =>
      obtain ⟨⟨dictates, _, member⟩, _, _⟩ := binary_parts normal spelled
      obtain ⟨⟨dictates', _, member'⟩, ⟨normalLeft, spelledLeft⟩, normalRight, spelledRight⟩ :=
        binary_parts normal' spelled'
      have space {rest : List Char} : Delimited (' ' :: rest) := delimited_cons (by decide) rest
      rw [text_binary_append, text_binary_append] at same
      obtain ⟨lexemes, same⟩ := (dictates.solid_of_operator member).append_inj
        (dictates'.solid_of_operator member') space space (List.cons.inj same).2
      have kinds := kind_eq_of_lexeme_eq dictates (String.toList_inj.1 lexemes) dictates'
      obtain ⟨lefts, same⟩ := legibleLeft left' normalLeft spelledLeft _ _ space space
        (List.cons.inj same).2
      obtain ⟨rights, same⟩ := legibleRight right' normalRight spelledRight _ _
        (delimited_cons (by decide) rest) (delimited_cons (by decide) rest')
        (List.cons.inj same).2
      refine ⟨?_, (List.cons.inj same).2⟩
      show Expr.binary left.unplaced operator.unplaced right.unplaced =
        Expr.binary left'.unplaced operator'.unplaced right'.unplaced
      rw [lefts, unplaced_eq kinds (String.toList_inj.1 lexemes), rights]
  | literal _ => cases shapes
  | group _ => cases shapes
  | function _ _ _ => cases shapes

/-- A function can be read back if each expression of its body can. -/
theorem legible_function {name : Token} {parameters : List Token} {body : List Expr}
    (normal : (function name parameters body).Normal)
    (spelled : (function name parameters body).Spelled) (legible : ∀ tree ∈ body, Legible tree) :
    Legible (function name parameters body) := by
  intro other normal' spelled' rest rest' _ _ same
  have shapes := shape_eq normal spelled normal' spelled' same
  cases other with
  | function name' parameters' body' =>
      obtain ⟨isName, areNames, _⟩ := function_parts normal spelled
      obtain ⟨isName', areNames', bodyFine⟩ := function_parts normal' spelled'
      rw [text_function_append, text_function_append] at same
      obtain ⟨names, same⟩ := isName.append_inj isName' (delimited_cons (by decide) _)
        (delimited_cons (by decide) _) (List.append_cancel_left same)
      obtain ⟨parametersSame, same⟩ :=
        parameters_inj areNames areNames' (List.cons.inj (List.cons.inj same).2).2
      obtain ⟨bodies, same⟩ := behindSpaces_inj unplaced
        (fun tree member other among =>
          legible tree member other (bodyFine other among).1 (bodyFine other among).2) same
      rw [unplaced_function, unplaced_function, names, parametersSame, bodies]
      exact ⟨rfl, same⟩
  | literal _ => cases shapes
  | group _ => cases shapes
  | binary _ _ _ => cases shapes

/-- Every normal tree is told apart from what stands behind its text. -/
theorem Normal.legible {tree : Expr} (normal : tree.Normal) (spelled : tree.Spelled) :
    Legible tree := by
  induction normal with
  | literal text =>
      cases spelled with
      | literal dictates => exact legible_literal dictates
  | group normal ih =>
      have inner := (group_parts (.group normal) spelled).2
      exact (ih inner).group (.group normal) spelled
  | binary member leftLevel rightLevel normalLeft normalRight ihLeft ihRight =>
      have whole := Normal.binary member leftLevel rightLevel normalLeft normalRight
      obtain ⟨_, left, right⟩ := binary_parts whole spelled
      exact (ihLeft left.2).binary whole spelled (ihRight right.2)
  | function isName areParameters normal ih =>
      have whole := Normal.function isName areParameters normal
      obtain ⟨_, _, body⟩ := function_parts whole spelled
      exact legible_function whole spelled fun tree member => ih tree member (body tree member).2

/-- Lines determine the trees that they show. -/
theorem lines_inj {trees others : List Expr}
    (fine : ∀ tree ∈ trees, tree.Normal ∧ tree.Spelled)
    (alsoFine : ∀ other ∈ others, other.Normal ∧ other.Spelled)
    (same : (trees.flatMap fun tree => tree.text.toList ++ ['\n']) =
      others.flatMap fun tree => tree.text.toList ++ ['\n']) :
    trees.map unplaced = others.map unplaced := by
  induction trees generalizing others with
  | nil =>
      cases others with
      | nil => rfl
      | cons other others => simp at same
  | cons tree trees ih =>
      cases others with
      | nil => simp at same
      | cons other others =>
          rw [List.forall_mem_cons] at fine alsoFine
          simp only [List.flatMap_cons, List.append_assoc, List.singleton_append] at same
          obtain ⟨first, later⟩ := fine.1.1.legible fine.1.2 other alsoFine.1.1 alsoFine.1.2 _ _
            (delimited_cons (by decide) _) (delimited_cons (by decide) _) same
          rw [List.map_cons, List.map_cons, first, ih fine.2 alsoFine.2 (List.cons.inj later).2]

end Expr

end FrontEnd
