import StubLayers.Source.Location

/-!
Declarations: what a stub declares, with signatures and places. Equality of signatures is
structural.
-/

namespace StubLayers

inductive DeclarationKind where
  | typeScope
  | method
  | attr
  | other
deriving DecidableEq, Inhabited

inductive ParameterKind where
  | positionalOnly
  | positional
  | varPositional
  | keywordOnly
  | varKeyword
deriving DecidableEq, Inhabited

/-- One parameter of a signature. -/
structure Parameter where
  name : String
  type : Option String
  kind : ParameterKind
  hasDefault : Bool
deriving DecidableEq, Inhabited

namespace ParameterKind

/-- The stars in front of a parameter's name. -/
def stars : ParameterKind → String
  | varPositional => "*"
  | varKeyword => "**"
  | _ => ""

end ParameterKind

namespace Parameter

def render (p : Parameter) : String :=
  p.kind.stars ++ p.name ++
    match p.type with
    | some type => ": " ++ type ++ if p.hasDefault then " = ..." else ""
    | none => if p.hasDefault then "=..." else ""

end Parameter

/-- The parameters and the return type of a callable, or the type of a value. -/
structure Signature where
  parameters : List Parameter
  returns : Option String
deriving DecidableEq, Inhabited

namespace Signature

def render (s : Signature) : String :=
  "(" ++ String.intercalate ", " (s.parameters.map Parameter.render) ++ ")" ++
    match s.returns with
    | some type => " -> " ++ type
    | none => ""

end Signature

/-- One declared symbol. Only a type scope has children. -/
structure Declaration where
  kind : DeclarationKind
  name : String
  location : Location
  signatures : List Signature
  children : List Declaration
deriving Inhabited

namespace Declaration

mutual

/-- A declaration and all that is nested in it, in document order. -/
def walk : Declaration → List Declaration
  | ⟨kind, name, location, signatures, children⟩ =>
    ⟨kind, name, location, signatures, children⟩ :: walkAll children

/-- Declarations and all that is nested in them, in document order. -/
def walkAll : List Declaration → List Declaration
  | [] => []
  | d :: rest => walk d ++ walkAll rest

end

theorem walkAll_cons (d : Declaration) (ds : List Declaration) :
    walkAll (d :: ds) = d :: (walkAll d.children ++ walkAll ds) := by
  cases d
  rw [walkAll, walk, List.cons_append]

theorem walkAll_append (ds es : List Declaration) :
    walkAll (ds ++ es) = walkAll ds ++ walkAll es := by
  induction ds with
  | nil => rfl
  | cons d rest ih => rw [List.cons_append, walkAll, walkAll, ih, List.append_assoc]

end Declaration

/-- What one stub file declares. -/
structure DeclarationTree where
  file : String
  module : String
  nodes : List Declaration
deriving Inhabited

/-- All declarations of a file, in document order. -/
def DeclarationTree.walk (t : DeclarationTree) : List Declaration := Declaration.walkAll t.nodes

/-- A stub file that could not be taken in. -/
structure Warning where
  message : String
  place : Location
deriving DecidableEq, Inhabited

def Warning.render (w : Warning) : String := w.message ++ " (" ++ w.place.render ++ ")"

end StubLayers
