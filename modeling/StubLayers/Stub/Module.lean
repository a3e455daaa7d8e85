import StubLayers.Stub.Grammar.Statement

/-!
The grammar tied together, and the reading of a whole stub text.
-/

namespace StubLayers.Stub

/-- The rules, calling each other at most so deep. -/
def grammar : Nat → Grammar
  | 0 =>
    { expression := fun _ _ _ => failure
      arithmetic := fun _ _ _ => failure
      operand := fun _ _ => failure
      type := fun _ _ _ => failure
      assigned := fun _ => failure
      casePattern := fun _ _ => failure
      suite := failure
      statement := fun _ => failure }
  | depth + 1 =>
    { expression := fun least start f r =>
        expressionRule (grammar depth) (lambdaRule (grammar depth)) least start f r
      arithmetic := fun least start f r => arithmeticRule (grammar depth) least start f r
      operand := fun start f r => operandRule (grammar depth) start f r
      type := fun bounded start f r => typeRule (grammar depth) bounded start f r
      assigned := fun start r => assignedRule (grammar depth) start r
      casePattern := fun start f r => casePatternRule (grammar depth) start f r
      suite := fun r => suiteRule (grammar depth) r
      statement := fun outer r => statementRule (grammar depth) outer r }

/-- Each call between rules is followed by a token read within three further calls, so four times
the length of the text is deep enough. -/
def depth (r : Reader) : Nat := 4 * r.left + 8

/-- The statements of a stub, if the text matches the grammar. -/
def parse? (text : String) : Option (List Stmt) :=
  let r := Reader.ofText text
  (moduleRest (grammar (depth r)) [] (r.left + 1) r).map (·.1)

end StubLayers.Stub
