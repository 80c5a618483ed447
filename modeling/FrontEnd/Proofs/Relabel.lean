import FrontEnd.Expr.Basic

namespace FrontEnd

def Token.relabel (lexemes : String → String) (places : Position → Position) (token : Token) :
    Token :=
  ⟨token.kind, lexemes token.lexeme, places token.position⟩

@[simp] theorem Token.kind_relabel (lexemes : String → String) (places : Position → Position)
    (token : Token) : (token.relabel lexemes places).kind = token.kind := rfl

namespace Expr

mutual

def relabel (lexemes : String → String) (places : Position → Position) : Expr → Expr
  | literal text => literal (lexemes text)
  | group inner => group (inner.relabel lexemes places)
  | binary left operator right =>
      binary (left.relabel lexemes places) (operator.relabel lexemes places)
        (right.relabel lexemes places)
  | function name parameters body =>
      function (name.relabel lexemes places) (parameters.map (Token.relabel lexemes places))
        (relabelAll lexemes places body)

def relabelAll (lexemes : String → String) (places : Position → Position) :
    List Expr → List Expr
  | [] => []
  | first :: rest => first.relabel lexemes places :: relabelAll lexemes places rest

end

theorem relabelAll_eq_map (lexemes : String → String) (places : Position → Position)
    (trees : List Expr) :
    relabelAll lexemes places trees = trees.map (relabel lexemes places) := by
  induction trees with
  | nil => rfl
  | cons first rest ih => rw [relabelAll, ih, List.map_cons]

mutual

theorem relabel_id : ∀ tree : Expr, tree.relabel id id = tree
  | literal _ => rfl
  | group inner => by rw [relabel, relabel_id inner]
  | binary left operator right => by
      rw [relabel, relabel_id left, relabel_id right]
      rfl
  | function name parameters body => by
      have same : parameters.map (Token.relabel id id) = parameters := List.map_id parameters
      rw [relabel, relabelAll_id body, same]
      rfl

theorem relabelAll_id : ∀ trees : List Expr, relabelAll id id trees = trees
  | [] => rfl
  | first :: rest => by rw [relabelAll, relabel_id first, relabelAll_id rest]

end

end Expr

/-- A token with its place forgotten. -/
def Token.unplaced (token : Token) : Token := token.relabel id fun _ => .start

/-- A tree with the places of its tokens forgotten. -/
def Expr.unplaced (tree : Expr) : Expr := tree.relabel id fun _ => .start

end FrontEnd
