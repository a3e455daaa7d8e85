import StubLayers.Source.Location

/-!
Why a stub is refused. Each cause has one wording.
-/

namespace StubLayers

inductive Refusal where
  /-- The text is not in the grammar; the snippet starts its broken part. -/
  | near (snippet : String)
  | statement (label : String)
  | expression (label : String)
  | target (label : String)
  | typeAlias
  /-- The file could not be read. -/
  | unreadable (reason : String)
deriving DecidableEq, Inhabited

def Refusal.message : Refusal → String
  | near snippet => "Syntax error near `" ++ snippet ++ "`"
  | statement label => "Unsupported statement `" ++ label ++ "`"
  | expression label => "Unsupported expression `" ++ label ++ "`"
  | target label => "Unsupported assignment target `" ++ label ++ "`"
  | typeAlias => "Unsupported type alias"
  | unreadable reason => "Unable to read stub file: " ++ reason

/-- A refusal and the part of the text that it is about. -/
structure Refused where
  cause : Refusal
  span : Span
deriving DecidableEq, Inhabited

/-- A refusal and the place it speaks of. -/
structure ParseError where
  cause : Refusal
  place : Location
deriving DecidableEq, Inhabited

end StubLayers
