namespace FrontEnd

/-- When diagnostics are to be coloured. -/
inductive ColorChoice where
  | auto
  | always
  | never
  deriving DecidableEq, Repr

/-- The case of a choice matters. -/
def ColorChoice.ofName? (name : String) : Option ColorChoice :=
  if name = "auto" then some .auto
  else if name = "always" then some .always
  else if name = "never" then some .never
  else none

/-- What the arguments have settled. A choice of colours that was not made is `none`. -/
structure Settings where
  file : Option String := none
  listing : Bool := false
  color : Option ColorChoice := none
  deriving DecidableEq, Repr

namespace Settings

/-- There is one file at most, and its name is not empty. -/
def withFile? (settings : Settings) (name : String) : Option Settings :=
  if settings.file.isSome || name.isEmpty then none else some { settings with file := some name }

/-- The listing of tokens is asked for once at most. -/
def withListing? (settings : Settings) : Option Settings :=
  if settings.listing then none else some { settings with listing := true }

/-- Colours are chosen once at most. -/
def withColor? (settings : Settings) (name : String) : Option Settings :=
  match settings.color, ColorChoice.ofName? name with
  | none, some choice => some { settings with color := some choice }
  | _, _ => none

end Settings

/-- What one argument is, up to the argument that ends all options. -/
inductive Argument where
  | optionsEnd
  | help
  | listing
  | color
  | colorNamed (name : String)
  | file (name : String)
  | unknown
  deriving DecidableEq, Repr

namespace Argument

/-- A short option for help may have other letters behind it. A single hyphen is a file name. -/
def ofString (argument : String) : Argument :=
  match argument.toList with
  | ['-'] => .file argument
  | ['-', '-'] => .optionsEnd
  | '-' :: 'h' :: _ => .help
  | '-' :: '-' :: long =>
      if long = "help".toList then .help
      else if long = "tokens".toList then .listing
      else if long = "color".toList then .color
      else if "color=".toList.isPrefixOf long then
        .colorNamed (String.ofList (long.drop "color=".length))
      else .unknown
  | '-' :: _ => .unknown
  | _ => .file argument

end Argument

/-- What a whole command line asks for. -/
inductive Request where
  | help
  | invalid
  | run (settings : Settings)
  deriving DecidableEq, Repr

namespace Request

/-- Behind the end of options every argument is a file name. -/
def files (settings : Settings) : List String → Request
  | [] => .run settings
  | name :: rest =>
      match settings.withFile? name with
      | some settings => files settings rest
      | none => .invalid

/-- Arguments are read from left to right, and the first one that asks for help or is not allowed
decides. -/
def extend (settings : Settings) : List String → Request
  | [] => .run settings
  | argument :: rest =>
      match Argument.ofString argument with
      | .optionsEnd => files settings rest
      | .help => .help
      | .listing =>
          match settings.withListing? with
          | some settings => extend settings rest
          | none => .invalid
      | .color =>
          match rest with
          | [] => .invalid
          | name :: rest =>
              match settings.withColor? name with
              | some settings => extend settings rest
              | none => .invalid
      | .colorNamed name =>
          match settings.withColor? name with
          | some settings => extend settings rest
          | none => .invalid
      | .file name =>
          match settings.withFile? name with
          | some settings => extend settings rest
          | none => .invalid
      | .unknown => .invalid

def ofArguments (arguments : List String) : Request :=
  extend {} arguments

end Request

end FrontEnd
