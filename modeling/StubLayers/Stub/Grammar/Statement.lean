import StubLayers.Stub.Grammar.Type

/-!
Statements: the simple ones, which share a line divided by semicolons, and the compound ones, whose
bodies stand on the same line or in an indented block.
-/

namespace StubLayers.Stub

open Rule

/-! ### Assignments -/

def augmentedOperators : List String :=
  ["+=", "-=", "*=", "/=", "@=", "//=", "%=", "**=", ">>=", "<<=", "&=", "^=", "|="]

/-- An assignment to `left` of what stands on its right side. -/
def Assigned.assign (left : Expr) (type : Option Expr) : Assigned → Assignment
  | .expression _ whole => .value left type whole
  | .assignment body => .chain left type body
  | .augmented => .value left type (.form .augmented default [])

/-- The right side of an assignment. -/
def rightSide (g : Grammar) : Rule Assigned := do
  let _ ← lead .operand
  g.assigned .operand

/-- An expression, an assignment or an augmented assignment. -/
def assignedRule (g : Grammar) (start : Expect) : Rule Assigned := do
  let p ← peek start
  if p.isWord "yield" then
    let value ← yieldRule g start .line
    return .expression value value
  else
    let (first, whole) ← expressions g start .line
    let q ← peek .lineEnd
    match q.token with
    | .operator "=" =>
      take q
      let left ← target? whole
      return .assignment (Assigned.assign left none (← rightSide g))
    | .operator ":" =>
      take q
      let left ← target? whole
      let _ ← lead .operand
      let type ← g.type true .operand .line
      let q ← peek .lineEnd
      if q.isOperator "=" then
        take q
        return .assignment (Assigned.assign left (some type) (← rightSide g))
      else return .assignment (.declare left type)
    | .operator text =>
      if augmentedOperators.contains text then
        take q
        let _ ← target? whole
        let _ ← rightSide g
        return .augmented
      else return .expression first whole
    | _ => return .expression first whole

/-! ### Imports -/

/-- A name with dots. -/
def dottedName (start : Expect) (f : Follow) : Rule Unit := do
  let _ ← name start
  let _ ← many do
    let p ← peek f.expect
    if p.isOperator "." then
      take p
      let _ ← name .inner
      return some ()
    else return none

/-- Imported names with their new names, divided by commas; there may be one more at the end. -/
def importList (f : Follow) : Rule Unit := do
  let item (start : Expect) : Rule Unit := do
    dottedName start f
    let p ← peek f.expect
    if p.isWord "as" then
      take p
      let _ ← name .inner
  item .inner
  let _ ← many do
    let p ← peek f.expect
    if p.isOperator "," then
      take p
      let q ← peek f.expect
      match q.token with
      | .word _ => item f.expect
      | .operator "," => failure
      | _ => pure ()
      return some ()
    else return none

/-- The names of an import, perhaps in parentheses. -/
def importNames : Rule Unit := do
  let p ← peek .inner
  if p.isOperator "(" then
    take p
    importList .bracket
    let _ ← operator .closing ")"
  else importList .line

/-- The language features imported from the future. -/
def futureImport : Rule Unit := do
  let _ ← keyword .inner "__future__"
  let _ ← keyword .inner "import"
  importNames

/-- A module, and the names imported from it. -/
def importFrom : Rule Unit := do
  let dots ← many do
    let p ← peek .inner
    if p.isOperator "." || p.isOperator "..." then
      take p
      return some ()
    else return none
  let p ← peek .inner
  if dots.isEmpty || !p.isWord "import" then dottedName .inner .inner
  let _ ← keyword .inner "import"
  let p ← peek .inner
  if p.isOperator "*" then take p else importNames

/-! ### Simple statements -/

/-- The rule, where a semicolon or the end of the line follows. -/
def terminated {α : Type} (rule : Rule α) : Rule α := do
  let result ← rule
  let p ← peek .lineEnd
  if p.isOperator ";" || p.isMark .newline then return result else failure

/-- Expressions divided by commas; a last comma is allowed if `trailing`. -/
def commaExpressions (g : Grammar) (trailing : Bool) : Rule Unit := do
  let _ ← many do
    let p ← peek .lineEnd
    if p.isOperator "," then
      take p
      let e := if trailing then Expect.operandOrNewline else Expect.operand
      let q ← peek e
      if trailing && !startsExpression q.token then
        if q.isOperator "," then failure else return some ()
      else
        let _ ← led e (g.expression 0 e .line)
        return some ()
    else return none

def expressionStatement (g : Grammar) (start : Expect) (p : Peek) : Rule Stmt := do
  let body ← assignedRule g start
  let span : Span := ⟨p.span.start, ← position⟩
  match body with
  | .expression first _ => return .expression span first
  | .assignment body => return .assignment span body
  | .augmented => return .augmented span

/-- A statement of which nothing but the kind counts, behind its keyword. -/
def plainStatement (kind : StmtKind) (p : Peek) (rest : Rule Unit) : Rule Stmt := do
  take p
  rest
  return .plain kind ⟨p.span.start, ← position⟩

/-- Expressions that may be left out. -/
def optionalExpressions (g : Grammar) : Rule Unit := do
  let p ← peek .operandOrNewline
  if startsExpression p.token then
    let _ ← lead .operandOrNewline
    let _ ← expressions g .operandOrNewline .line

/-- `print` in the old style: to a file, or a list of expressions. -/
def printStatement (g : Grammar) (p : Peek) : Rule Stmt :=
  plainStatement .printStmt p do
    let q ← peek .operandOrNewline
    if q.isOperator ">>" then take q
    let _ ← led .operand (g.expression 0 .operand .line)
    commaExpressions g true

/-- `exec` in the old style. -/
def execStatement (g : Grammar) (p : Peek) : Rule Stmt :=
  plainStatement .execStmt p do
    let q ← peek .operandOrNewline
    match q.token with
    | .quote quote =>
      let _ ← stringLiteral g q quote
    | .word text => if isName text then take q else failure
    | _ => failure
    let q ← peek .lineEnd
    if q.isWord "in" then
      take q
      let _ ← led .operand (g.expression 0 .operand .line)
      commaExpressions g false

/-- A type alias. -/
def aliasStatement (g : Grammar) (p : Peek) : Rule Stmt := do
  take p
  let _ ← lead .operand
  let left ← g.type true .operand .inner
  let _ ← operator .inner "="
  let _ ← lead .operand
  let _ ← g.type true .operand .line
  return .typeAlias ⟨p.span.start, ← position⟩ left

/-- Names divided by commas. -/
def names : Rule Unit := do
  let _ ← name .inner
  let _ ← many do
    let p ← peek .lineEnd
    if p.isOperator "," then
      take p
      let _ ← name .inner
      return some ()
    else return none

def simpleStatement (g : Grammar) (start : Expect) : Rule Stmt := do
  let p ← peek start
  match p.token with
  | .word "import" => plainStatement .importStmt p (importList .line)
  | .word "from" =>
    if (p.after.peek .inner).isWord "__future__" then
      plainStatement .futureImportStmt p futureImport
    else plainStatement .importFromStmt p importFrom
  | .word "pass" => plainStatement .passStmt p (pure ())
  | .word "break" => plainStatement .breakStmt p (pure ())
  | .word "continue" => plainStatement .continueStmt p (pure ())
  | .word "return" => plainStatement .returnStmt p (optionalExpressions g)
  | .word "del" => plainStatement .deleteStmt p do
    let _ ← lead .operand
    let _ ← expressions g .operand .line
  | .word "raise" => plainStatement .raiseStmt p do
    optionalExpressions g
    let q ← peek .lineEnd
    if q.isWord "from" then
      take q
      let _ ← led .operand (g.expression 0 .operand .line)
  | .word "global" => plainStatement .globalStmt p names
  | .word "nonlocal" => plainStatement .nonlocalStmt p names
  | .word "assert" => plainStatement .assertStmt p do
    let _ ← led .operand (g.expression 0 .operand .line)
    commaExpressions g false
  | .word "print" =>
    if (p.after.peek .operandOrNewline).isOperator ">>" then printStatement g p
    else either (terminated (expressionStatement g start p)) (printStatement g p)
  | .word "exec" => either (terminated (expressionStatement g start p)) (execStatement g p)
  | .word "type" => either (terminated (aliasStatement g p)) (expressionStatement g start p)
  | _ => expressionStatement g start p

/-- A comment or a line join that stands between statements. -/
def extraStmt : Expr → List Stmt
  | .leaf .comment span _ => [.plain .comment span]
  | .leaf .lineJoin span _ => [.plain .lineJoin span]
  | _ => []

/-- The rest of a line of simple statements behind the first one. The semicolons are kept. -/
def simpleRest (g : Grammar) (stmts : List Stmt) : Nat → Rule (List Stmt)
  | 0 => failure
  | fuel + 1 => do
    let p ← peek .lineEnd
    let stmts := stmts ++ p.extras.flatMap extraStmt
    if p.isMark .newline then
      take p
      return stmts
    else if p.isOperator ";" then
      take p
      let stmts := stmts ++ [.plain .semicolon p.span]
      let q ← peek .operandOrNewline
      let stmts := stmts ++ q.extras.flatMap extraStmt
      if q.isMark .newline then
        take q
        return stmts
      else
        let _ ← lead .operandOrNewline
        let next ← simpleStatement g .operandOrNewline
        simpleRest g (stmts ++ [next]) fuel
    else failure

/-- A line of simple statements. -/
def simpleStatements (g : Grammar) (start : Expect) : Rule (List Stmt) := do
  let first ← simpleStatement g start
  simpleRest g [first] ((← get).left + 1)

/-! ### Bodies -/

/-- The statements of a block up to its end. Comments in front of the first statement are not part
of the block. What has been read is held in reverse. -/
def blockRest (g : Grammar) (read : List Stmt) : Nat → Rule (List Stmt)
  | 0 => failure
  | fuel + 1 => do
    let p ← peek .blockStatement
    let read := if read.isEmpty then [] else (p.extras.flatMap extraStmt).reverse ++ read
    if p.isMark .dedent then
      take p
      return read.reverse
    else
      set p.before
      let next ← g.statement .blockStatement
      blockRest g (next.reverse ++ read) fuel

/-- What follows the colon of a compound statement: statements on the same line, an indented block,
or nothing at all. -/
def suiteRule (g : Grammar) : Rule (List Stmt) := do
  let p ← peek .suite
  match p.token with
  | .mark .indent =>
    take p
    blockRest g [] ((← get).left + 1)
  | .mark .newline =>
    take p
    return []
  | _ =>
    set p.before
    simpleStatements g .suite

/-- A colon with the body behind it. -/
def body (g : Grammar) : Rule (List Stmt) := do
  let _ ← operator .inner ":"
  g.suite

/-- A condition with its body. -/
def guarded (g : Grammar) : Rule (List Stmt) := do
  let _ ← led .operand (g.expression 0 .operand .inner)
  body g

/-- An optional clause with a body, such as `else`. -/
def optionalClause (g : Grammar) (outer : Expect) (word : String) : Rule (List (List Stmt)) := do
  let p ← peek outer
  if p.isWord word then
    take p
    return [← body g]
  else return []

/-! ### Definitions -/

/-- Type parameters that may be left out. -/
def optionalTypeParameters (g : Grammar) : Rule Unit := do
  let p ← peek .inner
  if p.isOperator "[" then
    let _ ← typeParameters g p

/-- The return type and the body of a function. -/
def returnsAndBody (g : Grammar) (bounded : Bool) : Rule (Option Expr) := do
  let p ← peek .inner
  if p.isOperator "->" then
    take p
    let _ ← lead .operand
    let type ← g.type bounded .operand .inner
    let _ ← body g
    return some type
  else
    let _ ← body g
    return none

def functionStatement (g : Grammar) (decorators : List Expr) (p : Peek) : Rule Stmt := do
  take p
  if p.isWord "async" then
    let _ ← keyword .inner "def"
  let (_, name) ← name .inner
  optionalTypeParameters g
  let params ← parameters g
  let returns ← either (returnsAndBody g false) (returnsAndBody g true)
  return .function decorators ⟨⟨p.span.start, ← position⟩, name, params, returns⟩

def classStatement (g : Grammar) (decorators : List Expr) (p : Peek) : Rule Stmt := do
  take p
  let (_, name) ← name .inner
  optionalTypeParameters g
  let q ← peek .inner
  if q.isOperator "(" then
    let _ ← arguments g false q
  let stmts ← body g
  return .classDef decorators ⟨p.span.start, ← position⟩ name stmts

/-- One decorator with its line end: the first thing behind its sign. -/
def decorator (g : Grammar) (p : Peek) : Rule Expr := do
  take p
  let pieces ← led .operand (g.expression 0 .operand .line)
  let q ← peek .lineEnd
  if q.isMark .newline then
    take q
    return pieces.headD default
  else failure

def decoratedStatement (g : Grammar) (p : Peek) : Rule Stmt := do
  let first ← decorator g p
  let more ← many do
    let q ← peek .inner
    if q.isOperator "@" then return some (← decorator g q) else return none
  let q ← peek .inner
  if q.isWord "class" then classStatement g (first :: more) q
  else if q.isWord "def" || q.isWord "async" then functionStatement g (first :: more) q
  else failure

/-! ### Other compound statements -/

def conditionalStatement (g : Grammar) (outer : Expect) (p : Peek) : Rule Stmt := do
  take p
  let first ← guarded g
  let others ← many do
    let q ← peek outer
    if q.isWord "elif" then
      take q
      return some (← guarded g)
    else return none
  let last ← optionalClause g outer "else"
  return .conditional ⟨p.span.start, ← position⟩ (first :: others ++ last)

def whileStatement (g : Grammar) (outer : Expect) (p : Peek) : Rule Stmt :=
  plainStatement .whileStmt p do
    let _ ← guarded g
    let _ ← optionalClause g outer "else"

/-- A loop behind its `for`. -/
def forRest (g : Grammar) (outer : Expect) : Rule Unit := do
  let _ ← loopTargets g
  let _ ← keyword .inner "in"
  let _ ← lead .operand
  let _ ← expressions g .operand .inner
  let _ ← body g
  let _ ← optionalClause g outer "else"

def exceptClause (g : Grammar) : Rule Unit := do
  let p ← peek .operand
  if p.isOperator "*" then take p
  let p ← peek .operand
  if !p.isOperator ":" then
    let _ ← lead .operand
    let _ ← expressions g .operand .inner
  let _ ← body g

/-- `try` with its clauses, all of which may be left out. -/
def tryStatement (g : Grammar) (outer : Expect) (p : Peek) : Rule Stmt :=
  plainStatement .tryStmt p do
    let _ ← body g
    let _ ← many do
      let q ← peek outer
      if q.isWord "except" then
        take q
        exceptClause g
        return some ()
      else return none
    let _ ← optionalClause g outer "else"
    let _ ← optionalClause g outer "finally"

/-- The resources of a `with`, and its body. -/
def withRest (g : Grammar) : Rule Unit := do
  let _ ← lead .operand
  let _ ← expressions g .operand .inner
  let _ ← body g

/-! ### Matching -/

/-- Patterns divided by commas in front of a closing bracket. -/
def bracketedPatterns (item : Expect → Rule Unit) (closer : String) : Rule Unit := do
  let _ ← many do
    let p ← peek .operandOrCloser
    if p.isOperator closer then return none
    else
      let _ ← lead .operandOrCloser
      item .operandOrCloser
      let q ← peek .closing
      if q.isOperator "," then take q
      else if !q.isOperator closer then failure
      return some ()
  let _ ← operator .closing closer

/-- A number, perhaps negative. -/
def numberPattern (start : Expect) : Rule Unit := do
  let p ← peek start
  if p.isOperator "-" then take p
  let p ← peek (if p.isOperator "-" then .inner else start)
  match p.token with
  | .number _ _ => take p
  | _ => failure

/-- A pattern without alternatives. -/
def basePattern (g : Grammar) (simple : Expect → Follow → Rule Unit) (start : Expect)
    (f : Follow) : Rule Unit := do
  let p ← peek start
  match p.token with
  | .quote q =>
    let _ ← strings g f p q
  | .word text =>
    if ["True", "False", "None", "_"].contains text then take p
    else
      dottedName start f
      let q ← peek f.expect
      if q.isOperator "(" then
        take q
        bracketedPatterns (fun e => g.casePattern e .bracket) ")"
  | .operator "*" | .operator "**" =>
    take p
    let _ ← name .inner
  | .operator "[" =>
    take p
    bracketedPatterns (fun e => g.casePattern e .bracket) "]"
  | .operator "(" =>
    take p
    bracketedPatterns (fun e => g.casePattern e .bracket) ")"
  | .operator "\x7b" =>
    take p
    bracketedPatterns (fun e => do
      let q ← peek e
      if q.isOperator "*" || q.isOperator "**" then simple e .bracket
      else
        simple e .inner
        let _ ← operator .inner ":"
        let _ ← lead .operand
        g.casePattern .operand .bracket) "\x7d"
  | _ =>
    numberPattern start
    let q ← peek f.expect
    if q.isOperator "+" || q.isOperator "-" then
      take q
      let p ← peek .inner
      match p.token with
      | .number _ _ => take p
      | _ => failure

/-- A pattern with its alternatives; the depth bounds the keys of mappings. -/
def simplePattern (g : Grammar) : Nat → Expect → Follow → Rule Unit
  | 0, _, _ => failure
  | depth + 1, start, f => do
    basePattern g (simplePattern g depth) start f
    let _ ← many do
      let p ← peek f.expect
      if p.isOperator "|" then
        take p
        let _ ← lead .operand
        basePattern g (simplePattern g depth) .operand f
        return some ()
      else return none

def casePatternRule (g : Grammar) (start : Expect) (f : Follow) : Rule Unit := do
  let p ← peek start
  let depth := (← get).left + 1
  match p.token with
  | .word text =>
    let q := p.after.peek f.expect
    if isName text && q.isOperator "=" then
      take q
      let _ ← lead .operand
      simplePattern g depth .operand f
    else simplePattern g depth start f
  | _ => simplePattern g depth start f
  let _ ← many do
    let p ← peek f.expect
    if p.isWord "as" then
      take p
      let _ ← name .inner
      return some ()
    else return none

/-- A case with its patterns, its guard and its body. -/
def caseClause (g : Grammar) : Rule Unit := do
  let _ ← lead .operand
  g.casePattern .operand .inner
  let _ ← many do
    let p ← peek .inner
    if p.isOperator "," then
      take p
      let q ← peek .operand
      if q.isOperator ":" || q.isWord "if" then return some ()
      else
        let _ ← lead .operand
        g.casePattern .operand .inner
        return some ()
    else return none
  let p ← peek .inner
  if p.isWord "if" then
    take p
    let _ ← led .operand (g.expression 0 .operand .inner)
  let _ ← body g

/-- The cases of a match, in a block. -/
def cases (g : Grammar) : Rule Unit := do
  let p ← peek ⟨true, true, false, false, false⟩
  match p.token with
  | .mark .newline => take p
  | .mark .indent =>
    take p
    let _ ← many do
      let q ← peek ⟨false, false, true, false, false⟩
      if q.isWord "case" then
        take q
        caseClause g
        return some ()
      else return none
    let q ← peek ⟨false, false, true, false, false⟩
    if q.isMark .dedent then take q else failure
  | _ => failure

def matchStatement (g : Grammar) (p : Peek) : Rule Stmt :=
  plainStatement .matchStmt p do
    let _ ← lead .operand
    let _ ← expressions g .operand .inner
    let _ ← operator .inner ":"
    cases g

/-! ### Statements -/

/-- `async` in front of a definition, a loop or a `with`. -/
def asyncStatement (g : Grammar) (outer : Expect) (p : Peek) : Option (Rule Stmt) :=
  let q := p.after.peek .operandOrNewline
  if q.isWord "def" then some (functionStatement g [] p)
  else if q.isWord "for" then
    some (plainStatement .forStmt { p with after := q.after } (forRest g outer))
  else if q.isWord "with" then
    some (plainStatement .withStmt { p with after := q.after } (withRest g))
  else none

/-- A compound statement, if one starts with the token. -/
def compoundStatement (g : Grammar) (outer : Expect) (p : Peek) : Option (Rule Stmt) :=
  match p.token with
  | .word "if" => some (conditionalStatement g outer p)
  | .word "while" => some (whileStatement g outer p)
  | .word "for" => some (plainStatement .forStmt p (forRest g outer))
  | .word "try" => some (tryStatement g outer p)
  | .word "with" => some (plainStatement .withStmt p (withRest g))
  | .word "class" => some (classStatement g [] p)
  | .word "def" => some (functionStatement g [] p)
  | .word "async" => asyncStatement g outer p
  | .operator "@" => some (decoratedStatement g p)
  | _ => none

/-- A compound statement or a line of simple statements. -/
def statementRule (g : Grammar) (outer : Expect) : Rule (List Stmt) := do
  let p ← peek outer
  match compoundStatement g outer p with
  | some rule => return [← rule]
  | none =>
    if p.isWord "match" then
      either (simpleStatements g outer) (do return [← matchStatement g p])
    else simpleStatements g outer

/-- The statements of a module up to the end of the text; what has been read is held in reverse. -/
def moduleRest (g : Grammar) (read : List Stmt) : Nat → Rule (List Stmt)
  | 0 => failure
  | fuel + 1 => do
    let p ← peek .statement
    let read := (p.extras.flatMap extraStmt).reverse ++ read
    if p.token = .eof then return read.reverse
    else
      set p.before
      let next ← g.statement .statement
      moduleRest g (next.reverse ++ read) fuel

end StubLayers.Stub
