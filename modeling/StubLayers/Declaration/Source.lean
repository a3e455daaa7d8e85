import StubLayers.Declaration.Body
import StubLayers.Stub.Diagnosis

/-!
The declarations of a stub text.
-/

namespace StubLayers

/-- The declarations of the statements of a module. -/
def declarationsOf (file module : String) (stmts : List Stmt) : Except ParseError DeclarationTree :=
  match bodyDeclarations ⟨file, module, false⟩ none stmts with
  | .ok nodes => .ok ⟨file, module, nodes⟩
  | .error refused => .error ⟨refused.cause, Location.ofSpan file refused.span⟩

/-- The refusal of a text outside the grammar: it names the broken part. -/
def syntaxError (text file : String) : ParseError :=
  let (span, part) := Stub.brokenPart text
  ⟨.near (Stub.snippet part), Location.ofSpan file span⟩

/-- The declarations of a stub text. A text outside the grammar is refused as a whole. -/
def parseSource (text file module : String) : Except ParseError DeclarationTree :=
  match Stub.parse? text with
  | some stmts => declarationsOf file module stmts
  | none => .error (syntaxError text file)

end StubLayers
