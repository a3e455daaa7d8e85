import StubLayers.Stub.Grammar.Expression

/-!
Types and parameters. A type is an expression, a starred name, or a name with type arguments; the
latter two go on only with an attribute, an alternative or a bound.
-/

namespace StubLayers.Stub

open Rule

/-- Whether the word is a plain name in a type, which takes type arguments in brackets. -/
def isTypeName (word : String) : Bool := isName word && !(["print", "exec", "match"].contains word)

/-- Whether a starred name goes on as an ordinary expression. -/
def continuesExpression : Token → Bool
  | .operator text =>
    ["[", "(", "&", "^", "<<", ">>", "+", "-", "*", "/", "%", "//", "@", "**",
     "<", "<=", "==", "!=", ">=", ">", "<>"].contains text
  | .word text => ["and", "or", "if", "in", "is", "not", "as"].contains text
  | _ => false

/-- Types in brackets. -/
def typeParameters (g : Grammar) (p : Peek) : Rule Expr := do
  take p
  let first ← led .operand (g.type true .operand .bracket)
  let more ← moreElements (fun start => g.type true start .bracket) "]"
  let close ← operator .closing "]"
  return .ofChildren .typeParameters (p.leaf :: first ++ more ++ close)

/-- The start of a type, and whether it goes on only as a type. -/
def typeHead (g : Grammar) (start : Expect) (f : Follow) : Rule (List Expr × Bool) := do
  let p ← peek start
  let plain : Rule (List Expr × Bool) := do return ([← g.expression 0 start f], false)
  match p.token with
  | .word text =>
    let q := p.after.peek f.expect
    if isTypeName text && q.isOperator "[" then
      let arguments ← typeParameters g q
      return (nameLeaf p :: q.extras ++ [arguments], true)
    else plain
  | .operator "**" =>
    take p
    let (pieces, _) ← name .inner
    return (p.leaf :: pieces, true)
  | .operator "*" =>
    let q := p.after.peek .operand
    match q.token with
    | .word text =>
      if isTypeName text && !continuesExpression (q.after.peek f.expect).token then
        take q
        return (p.leaf :: q.extras ++ [nameLeaf q], true)
      else plain
    | _ => plain
  | _ => plain

/-- What follows the start of a type: attributes, alternatives and bounds. -/
def typeRest (g : Grammar) (bounded : Bool) (f : Follow) (pieces : List Expr) (closed : Bool) :
    Nat → Rule Expr
  | 0 => failure
  | fuel + 1 => do
    let p ← peek f.expect
    if closed && p.isOperator "." then
      take p
      let (part, _) ← name .inner
      typeRest g bounded f (pieces ++ p.pieces ++ part) true fuel
    else if closed && p.isOperator "|" then
      take p
      let other ← led .operand (g.type false .operand f)
      typeRest g bounded f (pieces ++ p.pieces ++ other) true fuel
    else if bounded && p.isOperator ":" then
      take p
      let bound ← led .operand (g.type true .operand f)
      return .ofChildren .type (pieces ++ p.pieces ++ bound)
    else return .ofChildren .type pieces

def typeRule (g : Grammar) (bounded : Bool) (start : Expect) (f : Follow) : Rule Expr := do
  let (pieces, closed) ← typeHead g start f
  typeRest g bounded f pieces closed ((← get).left + 1)

/-! ### Parameters -/

/-- What a comment or a line join is in a parameter list. -/
def extraItem : Expr → List ParamItem
  | .leaf .comment _ _ => [.comment]
  | .leaf .lineJoin _ text => [.lineJoin text]
  | _ => []

/-- A default value behind its equals sign. -/
def defaultValue (g : Grammar) (f : Follow) (p : Peek) : Rule (List Expr) := do
  take p
  let value ← led .operand (g.expression 0 .operand f)
  return p.pieces ++ value

/-- A type behind its colon: the type and the pieces read. -/
def typeBehind (g : Grammar) (f : Follow) (p : Peek) : Rule (Expr × List Expr) := do
  take p
  let extras ← lead .operand
  let type ← g.type true .operand f
  return (type, p.pieces ++ extras ++ [type])

/-- A starred parameter behind its star. -/
def starredParam (g : Grammar) (typed : Bool) (f : Follow) (target : ParamTarget) (p : Peek) :
    Rule (ParamItem × List Expr) := do
  let extras ← lead f.expectOperand
  let place ← g.operand f.expectOperand f
  if isPlace place then
    let text := p.text ++ p.after.textTo (← get)
    let pieces := p.leaf :: extras ++ [place]
    let q ← peek f.expect
    if typed && q.isOperator ":" then
      let (type, more) ← typeBehind g f q
      return (.param target text (some type) false, pieces ++ more)
    else return (.param target text none false, pieces)
  else failure

/-- A parameter or a separator of parameters. -/
def paramItem (g : Grammar) (typed : Bool) (start : Expect) (f : Follow) :
    Rule (ParamItem × List Expr) := do
  let p ← peek start
  match p.token with
  | .operator "/" =>
    take p
    return (.positionalMark, [p.leaf])
  | .operator "*" =>
    take p
    let q ← peek f.expectOperand
    if startsOperand q.token then starredParam g typed f .star p
    else return (.keywordMark, [p.leaf])
  | .operator "**" =>
    take p
    starredParam g typed f .doubleStar p
  | .operator "(" =>
    let tuple ← parentheses g p
    match pattern? tuple with
    | some (.form .tuplePattern _ _) =>
      let text := p.text ++ p.after.textTo (← get)
      let q ← peek f.expect
      if q.isOperator "=" then
        let value ← defaultValue g f q
        return (.param .plain text none true, tuple :: value)
      else return (.param .plain text none false, [tuple])
    | _ => failure
  | .word text =>
    if isName text then
      take p
      let q ← peek f.expect
      if typed && q.isOperator ":" then
        let (type, pieces) ← typeBehind g f q
        let q ← peek f.expect
        if q.isOperator "=" then
          let value ← defaultValue g f q
          return (.param .plain text (some type) true, nameLeaf p :: pieces ++ value)
        else return (.param .plain text (some type) false, nameLeaf p :: pieces)
      else if q.isOperator "=" then
        let value ← defaultValue g f q
        return (.param .plain text none true, nameLeaf p :: value)
      else return (.param .plain text none false, [nameLeaf p])
    else failure
  | _ => failure

/-- Parameters divided by commas in front of a closing token, with the pieces read. -/
def paramItems (g : Grammar) (typed : Bool) (f : Follow) (closer : String) :
    Rule (List ParamItem × List Expr) := do
  let entry : Rule (List ParamItem × List Expr) := do
    let extras ← lead f.expect
    let (item, pieces) ← paramItem g typed f.expect f
    return (extras.flatMap extraItem ++ [item], extras ++ pieces)
  let p ← peek f.expect
  if p.isOperator closer then return ([], [])
  else
    let first ← entry
    let more ← many do
      let p ← peek f.expect
      if p.isOperator "," then
        take p
        let comma := (p.extras.flatMap extraItem, p.pieces)
        let q ← peek f.expect
        if q.isOperator closer then return some comma
        else
          let next ← entry
          return some (comma.1 ++ next.1, comma.2 ++ next.2)
      else return none
    return ((first :: more).flatMap (·.1), (first :: more).flatMap (·.2))

/-- The parameters of a function, in parentheses. -/
def parameters (g : Grammar) : Rule (List ParamItem) := do
  let _ ← operator .inner "("
  let (items, _) ← paramItems g true .bracket ")"
  let close ← operator .closing ")"
  return items ++ close.flatMap extraItem

/-- A lambda. Its parameters have no types. -/
def lambdaRule (g : Grammar) (start : Expect) (f : Follow) : Rule Expr := do
  let word ← keyword start "lambda"
  let (_, pieces) ← paramItems g false .inner ":"
  let colon ← operator .inner ":"
  let body ← led .operand (g.expression 0 .operand f)
  return .ofChildren .lambda (word ++ pieces ++ colon ++ body)

end StubLayers.Stub
