import FrontEnd.Diagnostic.Basic

namespace FrontEnd.Diagnostics

/-- A change of a collection. Indices count from zero. -/
inductive Edit where
  | push (diagnostic : Diagnostic)
  | insert (index : Nat) (diagnostic : Diagnostic)
  | extend (diagnostics : Diagnostics)
  | replace (diagnostics : Diagnostics)
  | reverse
  | retainErrors
  | pop
  | remove (index : Nat)
  | place (index : Nat) (position : Position)
  | reissue (index : Nat) (severity : Severity)
  deriving DecidableEq, Repr

/-- The collection after an edit and the diagnostic that a removal takes out. -/
structure Edited where
  diagnostics : Diagnostics
  removed : Option Diagnostic := none
  deriving DecidableEq, Repr

/-- A diagnostic that is issued anew keeps its message and loses its place. -/
def reissued (severity : Severity) (diagnostic : Diagnostic) : Diagnostic :=
  ⟨severity, diagnostic.message, none, none⟩

/-- An edit at an index outside the collection has no result. -/
def edit (diagnostics : Diagnostics) : Edit → Option Edited
  | .push diagnostic => some ⟨diagnostics ++ [diagnostic], none⟩
  | .insert index diagnostic =>
      if index ≤ diagnostics.length then some ⟨diagnostics.insertIdx index diagnostic, none⟩
      else none
  | .extend others => some ⟨diagnostics ++ others, none⟩
  | .replace others => some ⟨others, none⟩
  | .reverse => some ⟨diagnostics.reverse, none⟩
  | .retainErrors => some ⟨diagnostics.filter Diagnostic.isError, none⟩
  | .pop => some ⟨diagnostics.dropLast, diagnostics.getLast?⟩
  | .remove index => diagnostics[index]?.map fun found => ⟨diagnostics.eraseIdx index, some found⟩
  | .place index position =>
      diagnostics[index]?.map fun found =>
        ⟨diagnostics.set index (found.placed position), none⟩
  | .reissue index severity =>
      diagnostics[index]?.map fun found =>
        ⟨diagnostics.set index (reissued severity found), none⟩

end FrontEnd.Diagnostics
