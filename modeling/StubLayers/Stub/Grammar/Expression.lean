import StubLayers.Stub.Grammar.Target

/-!
Expressions: literals, brackets, comprehensions, calls and subscripts, and the operators by how
tightly they bind.
-/

namespace StubLayers.Stub

open Rule

/-- Whether an operand of an arithmetic operator may start with the token. -/
def startsOperand : Token → Bool
  | .word text => isName text || ["True", "False", "None", "async", "await"].contains text
  | .number _ _ => true
  | .quote _ => true
  | .operator text => ["(", "[", "\x7b", "-", "+", "~", "*", "..."].contains text
  | _ => false

/-- Whether an expression may start with the token. -/
def startsExpression (token : Token) : Bool :=
  startsOperand token || token = .word "not" || token = .word "lambda"

/-- Whether a name may be written here as a word of an expression. -/
def isNameWord (word : String) : Bool := isName word || nameWords.contains word

/-- Expressions divided by commas, the last one perhaps with a comma behind it: the pieces, and
whether there was a comma. The first one has been read. -/
def moreExpressions (g : Grammar) (f : Follow) (pieces : List Expr) (comma : Bool) :
    Nat → Rule (List Expr × Bool)
  | 0 => failure
  | fuel + 1 => do
    let p ← peek f.expect
    if p.isOperator "," then
      take p
      let q ← peek f.expectOperand
      if startsExpression q.token then
        let next ← led f.expectOperand (g.expression 0 f.expectOperand f)
        moreExpressions g f (pieces ++ p.pieces ++ next) true fuel
      else return (pieces ++ p.pieces, true)
    else return (pieces, comma)

/-- One expression or a list of them: the first one and the whole. -/
def expressions (g : Grammar) (start : Expect) (f : Follow) : Rule (Expr × Expr) := do
  let first ← g.expression 0 start f
  let (pieces, comma) ← moreExpressions g f [first] false ((← get).left + 1)
  return (first, if comma then .ofChildren .expressionList pieces else first)

/-- `yield`, with what is yielded. -/
def yieldRule (g : Grammar) (start : Expect) (f : Follow) : Rule Expr := do
  let word ← keyword start "yield"
  let p ← peek f.expectOperand
  if p.isWord "from" then
    take p
    let value ← led .operand (g.expression 0 .operand f)
    return .ofChildren .yield (word ++ p.pieces ++ value)
  else if startsExpression p.token then
    let extras ← lead f.expectOperand
    let (_, whole) ← expressions g f.expectOperand f
    return .ofChildren .yield (word ++ extras ++ [whole])
  else return .ofChildren .yield word

/-! ### Strings -/

/-- The text of a format behind the colon of an interpolation, up to its closing brace. -/
def formatText (interpolation : Rule (List Expr)) (parts : List Expr) : Nat → Rule (List Expr)
  | 0 => failure
  | fuel + 1 => do
    let r ← get
    match r.rest with
    | [] => failure
    | c :: _ =>
      if c = '\x7d' then return parts
      else if c = '\x7b' then
        let inner ← interpolation
        formatText interpolation (parts ++ inner) fuel
      else
        set r.step
        formatText interpolation parts fuel

/-- An interpolation: an expression in braces, perhaps with `=`, a conversion and a format. The
depth bounds how far formats nest. -/
def interpolation (g : Grammar) : Nat → Rule (List Expr)
  | 0 => failure
  | depth + 1 => do
    set (← get).step
    let p ← peek .operand
    let value ←
      if p.isWord "yield" then yieldRule g .operand .bracket
      else do
        let _ ← lead .operand
        let (_, whole) ← expressions g .operand .bracket
        pure whole
    let p ← peek .closing
    if p.isOperator "=" then take p
    let p ← peek .closing
    match p.token with
    | .conversion _ => take p
    | _ => pure ()
    let p ← peek .closing
    let inner ←
      if p.isOperator ":" then do
        take p
        formatText (interpolation g depth) [] ((← get).left + 1)
      else pure []
    let _ ← operator .closing "\x7d"
    return value :: inner

/-- Where no plain text stands in a string: an escape, an interpolation, or a comment or line join
that the line end has cut out of the text. -/
def stringSpecial (g : Grammar) : Rule (List Expr) := do
  let r ← get
  match r.rest with
  | '\\' :: _ =>
    set (r.advance (Quote.escapeRun r.rest))
    return []
  | _ =>
    let start := r.skipWhile isBlank
    match extraAt start with
    | some (_, s) =>
      set s
      return []
    | none =>
      set start
      match start.rest with
      | '\x7b' :: _ => interpolation g (start.left + 1)
      | _ => failure

/-- The text of a string up to its closing quote, as the expressions interpolated in it. -/
def stringBody (g : Grammar) (q : Quote) (parts : List Expr) : Nat → Rule (List Expr)
  | 0 => failure
  | fuel + 1 => do
    let r ← get
    let brace := q.interpolated && (r.rest.head? = some '\x7b' || r.rest.head? = some '\x7d')
    if brace then
      if r.rest.head? = (r.rest.drop 1).head? then
        set (r.advance 2)
        stringBody g q parts fuel
      else if r.rest.head? = some '\x7b' then
        let inner ← interpolation g (r.left + 1)
        stringBody g q (parts ++ inner) fuel
      else failure
    else
      match Quote.stretch q false 0 0 r.rest with
      | .text n =>
        set (r.advance n)
        stringBody g q parts fuel
      | .close n =>
        set { r.advance n with interpolating := false }
        return parts
      | .nothing =>
        let inner ← stringSpecial g
        stringBody g q (parts ++ inner) fuel

/-- A string literal whose opening has been looked at. -/
def stringLiteral (g : Grammar) (p : Peek) (q : Quote) : Rule Expr := do
  take p
  let parts ← stringBody g q [] (p.after.left + 1)
  let r ← get
  return .literal ⟨p.span.start, r.pos⟩ (p.text ++ p.after.textTo r) parts

/-- One string literal, or several next to each other. -/
def strings (g : Grammar) (f : Follow) (p : Peek) (q : Quote) : Rule Expr := do
  let first ← stringLiteral g p q
  let expect := { f.expect with string := true }
  let more ← many do
    let p ← peek expect
    match p.token with
    | .quote q =>
      let next ← stringLiteral g p q
      return some (p.extras ++ [next])
    | _ => return none
  match more with
  | [] => return first
  | _ => return .ofChildren .strings (first :: more.flatten)

/-! ### Comprehensions -/

/-- What has been read of an operand: itself, or the forms that follow it. -/
def applyTrailers (first : Expr) (trailers : List (Form × List Expr)) : Expr :=
  trailers.foldl (fun left trailer => .ofChildren trailer.1 (left :: trailer.2)) first

/-- A target of a loop: a pattern that may start with a star. -/
def loopTarget (g : Grammar) (start : Expect) : Rule Expr := do
  let p ← peek start
  if p.isOperator "*" then
    take p
    let extras ← lead .operand
    let place ← g.operand .operand .inner
    if isPlace place then return .ofChildren .listSplatPattern (p.leaf :: extras ++ [place])
    else failure
  else
    let expr ← g.operand start .inner
    match pattern? expr with
    | some pattern => return pattern
    | none => failure

/-- The targets of a loop, divided by commas, in front of `in`. -/
def loopTargets (g : Grammar) : Rule (List Expr) := do
  let first ← led .operand (loopTarget g .operand)
  let more ← many do
    let p ← peek .inner
    if p.isOperator "," then
      take p
      let q ← peek .operand
      if q.isWord "in" then return some p.pieces
      else return some (p.pieces ++ (← led .operand (loopTarget g .operand)))
    else return none
  return first ++ more.flatten

/-- The values of a loop in a comprehension, divided by commas; there may be one more at the end. -/
def clauseValues (g : Grammar) : Rule (List Expr) := do
  let first ← led .operand (g.expression 0 .operand .clause)
  let more ← many do
    let p ← peek .closing
    if p.isOperator "," then
      take p
      let q ← peek .operandOrCloser
      if startsExpression q.token && !q.isWord "async" then
        return some (p.pieces ++ (← led .operandOrCloser (g.expression 0 .operandOrCloser .clause)))
      else if q.isOperator "," then failure
      else return some p.pieces
    else return none
  return first ++ more.flatten

/-- `for` with targets and values, behind an optional `async`. -/
def forClause (g : Grammar) (opening : List Expr) : Rule Expr := do
  let word ← keyword .inner "for"
  let targets ← loopTargets g
  let inWord ← keyword .inner "in"
  let values ← clauseValues g
  return .ofChildren .forClause (opening ++ word ++ targets ++ inWord ++ values)

/-- Whether a comprehension goes on with the token. -/
def startsClause (p : Peek) : Bool := p.isWord "for" || p.isWord "async"

/-- The clauses of a comprehension; the first one is a `for`. -/
def clauses (g : Grammar) : Rule (List Expr) := do
  let pieces ← many do
    let p ← peek .closing
    if p.isWord "for" then
      let extras ← lead .closing
      return some (extras ++ [← forClause g []])
    else if p.isWord "async" then
      take p
      return some (p.extras ++ [← forClause g [p.leaf]])
    else if p.isWord "if" then
      take p
      let condition ← led .operand (g.expression 0 .operand .clause)
      return some (p.extras ++ [.ofChildren .ifClause (p.leaf :: condition)])
    else return none
  return pieces.flatten

/-! ### Brackets -/

/-- An element of a list, a set or a tuple. -/
def element (g : Grammar) (start : Expect) : Rule Expr := do
  let p ← peek start
  if p.isOperator "*" then
    take p
    let value ← led .operand (g.expression 0 .operand .bracket)
    return .ofChildren .listSplat (p.leaf :: value)
  else if p.isWord "yield" then yieldRule g start .bracket
  else g.expression 0 start .bracket

/-- Further elements behind the first one, up to the closing bracket. -/
def moreElements (item : Expect → Rule Expr) (closer : String) : Rule (List Expr) := do
  let pieces ← many do
    let p ← peek .closing
    if p.isOperator "," then
      take p
      let q ← peek .operandOrCloser
      if q.isOperator closer then return some p.pieces
      else return some (p.pieces ++ (← led .operandOrCloser (item .operandOrCloser)))
    else return none
  return pieces.flatten

/-- Whether an element can be the body of a comprehension. -/
def isBody : Expr → Bool
  | .form .yield _ _ => false
  | .form .listSplat _ children => (children.getLast?.map isPlace).getD false
  | _ => true

/-- A tuple, an expression in parentheses, or a generator. -/
def parentheses (g : Grammar) (p : Peek) : Rule Expr := do
  take p
  let q ← peek .operandOrCloser
  if q.isOperator ")" then
    take q
    return .ofChildren .tuple (p.leaf :: q.pieces)
  else
    let first ← led .operandOrCloser (element g .operandOrCloser)
    let q ← peek .closing
    if startsClause q && (first.getLast?.map isBody).getD false then
      let body ← clauses g
      let close ← operator .closing ")"
      return .ofChildren .generator (p.leaf :: first ++ body ++ close)
    else if q.isOperator ")" then
      take q
      let single := match first.getLast? with
        | some (.form .listSplat _ _) => Form.tuple
        | _ => Form.parenthesized
      return .ofChildren single (p.leaf :: first ++ q.pieces)
    else
      let more ← moreElements (element g) ")"
      let close ← operator .closing ")"
      return .ofChildren .tuple (p.leaf :: first ++ more ++ close)

/-- A list or a list comprehension. -/
def squareBrackets (g : Grammar) (p : Peek) : Rule Expr := do
  take p
  let q ← peek .operandOrCloser
  if q.isOperator "]" then
    take q
    return .ofChildren .list (p.leaf :: q.pieces)
  else
    let first ← led .operandOrCloser (element g .operandOrCloser)
    let q ← peek .closing
    if startsClause q && (first.getLast?.map isBody).getD false then
      let body ← clauses g
      let close ← operator .closing "]"
      return .ofChildren .listComprehension (p.leaf :: first ++ body ++ close)
    else
      let more ← moreElements (element g) "]"
      let close ← operator .closing "]"
      return .ofChildren .list (p.leaf :: first ++ more ++ close)

/-- `**` with an expression, in a dictionary or in arguments. -/
def doubleSplat (g : Grammar) (p : Peek) : Rule Expr := do
  take p
  let value ← led .operand (g.expression 0 .operand .bracket)
  return .ofChildren .dictionarySplat (p.leaf :: value)

/-- An entry of a dictionary behind the first one. -/
def dictionaryEntry (g : Grammar) (start : Expect) : Rule Expr := do
  let p ← peek start
  if p.isOperator "**" then doubleSplat g p
  else
    let key ← g.expression 0 start .inner
    let colon ← operator .inner ":"
    let value ← led .operand (g.expression 0 .operand .bracket)
    return .ofChildren .pair (key :: colon ++ value)

/-- The rest of a dictionary behind its first entry. -/
def dictionaryRest (g : Grammar) (opening : List Expr) : Rule Expr := do
  let more ← moreElements (dictionaryEntry g) "\x7d"
  let close ← operator .closing "\x7d"
  return .ofChildren .dictionary (opening ++ more ++ close)

/-- A set, a dictionary, or a comprehension of one. -/
def braces (g : Grammar) (p : Peek) : Rule Expr := do
  take p
  let q ← peek .operandOrCloser
  if q.isOperator "\x7d" then
    take q
    return .ofChildren .dictionary (p.leaf :: q.pieces)
  else if q.isOperator "," then
    take q
    let close ← operator .closing "\x7d"
    return .ofChildren .dictionary (p.leaf :: q.pieces ++ close)
  else if q.isOperator "**" then
    let extras ← lead .operandOrCloser
    let entry ← doubleSplat g q
    dictionaryRest g (p.leaf :: extras ++ [entry])
  else
    let first ← led .operandOrCloser (element g .operandOrCloser)
    let plain := (first.getLast?.map isBody).getD false
    let q ← peek .closing
    if q.isOperator ":" && plain then
      take q
      let value ← led .operand (g.expression 0 .operand .bracket)
      let extras := first.dropLast
      let pair := Expr.ofChildren .pair (first.drop extras.length ++ q.pieces ++ value)
      let q ← peek .closing
      if startsClause q then
        let body ← clauses g
        let close ← operator .closing "\x7d"
        return .ofChildren .dictionaryComprehension (p.leaf :: extras ++ [pair] ++ body ++ close)
      else dictionaryRest g (p.leaf :: extras ++ [pair])
    else if startsClause q && plain then
      let body ← clauses g
      let close ← operator .closing "\x7d"
      return .ofChildren .setComprehension (p.leaf :: first ++ body ++ close)
    else
      let more ← moreElements (element g) "\x7d"
      let close ← operator .closing "\x7d"
      return .ofChildren .set (p.leaf :: first ++ more ++ close)

/-! ### Calls, subscripts and attributes -/

/-- An argument of a call. -/
def argument (g : Grammar) (start : Expect) : Rule Expr := do
  let p ← peek start
  match p.token with
  | .operator "*" =>
    take p
    let value ← led .operand (g.expression 0 .operand .bracket)
    return .ofChildren .listSplat (p.leaf :: value)
  | .operator "**" => doubleSplat g p
  | .word text =>
    let q := p.after.peek .closing
    if isNameWord text && q.isOperator "=" then
      take q
      let value ← led .operand (g.expression 0 .operand .bracket)
      return .ofChildren .keywordArgument (nameLeaf p :: q.pieces ++ value)
    else g.expression 0 start .bracket
  | _ => g.expression 0 start .bracket

/-- Arguments behind an opening parenthesis, or the body of a generator where one is allowed. -/
def arguments (g : Grammar) (generator : Bool) (p : Peek) : Rule Expr := do
  take p
  let q ← peek .operandOrCloser
  if q.isOperator ")" then
    take q
    return .ofChildren .arguments (p.leaf :: q.pieces)
  else if q.isOperator "," then
    take q
    let close ← operator .closing ")"
    return .ofChildren .arguments (p.leaf :: q.pieces ++ close)
  else
    let first ← led .operandOrCloser (argument g .operandOrCloser)
    let q ← peek .closing
    if generator && startsClause q then
      match first.getLast? with
      | some (.form .keywordArgument _ _) | some (.form .dictionarySplat _ _) => failure
      | some body =>
        if isBody body then
          let body ← clauses g
          let close ← operator .closing ")"
          return .ofChildren .generator (p.leaf :: first ++ body ++ close)
        else failure
      | none => failure
    else
      let more ← moreElements (argument g) ")"
      let close ← operator .closing ")"
      return .ofChildren .arguments (p.leaf :: first ++ more ++ close)

/-- A bound of a slice that may be left out. -/
def sliceBound (g : Grammar) : Rule (List Expr) := do
  let p ← peek .operandOrCloser
  if startsExpression p.token then led .operandOrCloser (g.expression 0 .operandOrCloser .bracket)
  else return []

/-- The rest of a slice behind its first bound. -/
def sliceRest (g : Grammar) (opening : List Expr) (colon : Peek) : Rule Expr := do
  take colon
  let upper ← sliceBound g
  let p ← peek .closing
  if p.isOperator ":" then
    take p
    let step ← sliceBound g
    return .ofChildren .slice (opening ++ colon.pieces ++ upper ++ p.pieces ++ step)
  else return .ofChildren .slice (opening ++ colon.pieces ++ upper)

/-- An item of a subscript: an expression or a slice. -/
def subscriptItem (g : Grammar) (start : Expect) : Rule Expr := do
  let p ← peek start
  if p.isOperator ":" then sliceRest g [] { p with extras := [] }
  else
    let first ← g.expression 0 start .bracket
    let q ← peek .closing
    if q.isOperator ":" then sliceRest g [first] q
    else return first

/-- The items of a subscript behind its opening bracket. -/
def subscriptItems (g : Grammar) : Rule (List Expr) := do
  let first ← led .operand (subscriptItem g .operand)
  let more ← moreElements (subscriptItem g) "]"
  let close ← operator .closing "]"
  return first ++ more ++ close

/-- What may follow an operand: an attribute, a subscript or a call. -/
def trailer (g : Grammar) (f : Follow) : Rule (Option (Form × List Expr)) := do
  let p ← peek f.expect
  match p.token with
  | .operator "." =>
    take p
    let (pieces, _) ← name .inner
    return some (.member, p.pieces ++ pieces)
  | .operator "[" =>
    take p
    let items ← subscriptItems g
    return some (.subscript, p.pieces ++ items)
  | .operator "(" =>
    let args ← arguments g true p
    return some (.call, p.extras ++ [args])
  | _ => return none

/-- A single operand without anything behind it. -/
def atom (g : Grammar) (start : Expect) (f : Follow) : Rule Expr := do
  let p ← peek start
  match p.token with
  | .word "True" => take p; return .leaf .truth p.span p.text
  | .word "False" => take p; return .leaf .falsity p.span p.text
  | .word "None" => take p; return .leaf .absence p.span p.text
  | .word text => if isNameWord text then take p; return nameLeaf p else failure
  | .number fraction text =>
    take p
    return .leaf (if fraction then .float else .integer) p.span text
  | .quote q => strings g f p q
  | .operator "..." => take p; return .leaf .ellipsis p.span p.text
  | .operator "(" => parentheses g p
  | .operator "[" => squareBrackets g p
  | .operator "\x7b" => braces g p
  | _ => failure

/-- All that follows an operand. -/
def trailers (g : Grammar) (f : Follow) : Rule (List (Form × List Expr)) := many (trailer g f)

def operandRule (g : Grammar) (start : Expect) (f : Follow) : Rule Expr := do
  let first ← atom g start f
  return applyTrailers first (← trailers g f)

/-! ### Arithmetic -/

/-- How tightly an operator binds, and whether it groups to the right. -/
def strength : String → Option (Nat × Bool)
  | "|" => some (14, false)
  | "&" => some (15, false)
  | "^" => some (16, false)
  | "<<" | ">>" => some (17, false)
  | "+" | "-" => some (18, false)
  | "*" | "/" | "%" | "//" | "@" => some (19, false)
  | "**" => some (21, true)
  | _ => none

/-- The strength of signs and of `await`. -/
def unaryStrength : Nat := 20

/-- A starred operand: the star takes all that follows up to the last attribute or subscript. -/
def starredOperand (g : Grammar) (f : Follow) (p : Peek) : Rule Expr := do
  take p
  let extras ← lead .operand
  let first ← atom g .operand f
  let trailers ← trailers g f
  let calls := (trailers.reverse.takeWhile fun trailer => trailer.1 = .call).length
  let place := applyTrailers first (trailers.take (trailers.length - calls))
  if isPlace place then
    let starred := Expr.ofChildren .listSplat (p.leaf :: extras ++ [place])
    return applyTrailers starred (trailers.drop (trailers.length - calls))
  else failure

/-- An operand with its signs. -/
def signedOperand (g : Grammar) (start : Expect) (f : Follow) : Rule Expr := do
  let p ← peek start
  match p.token with
  | .operator "+" | .operator "-" | .operator "~" =>
    take p
    let value ← led .operand (g.arithmetic (unaryStrength + 1) .operand f)
    return .ofChildren .unary (p.leaf :: value)
  | .operator "*" => starredOperand g f p
  | .word "await" =>
    if startsOperand (p.after.peek f.expectOperand).token then
      take p
      let value ← led f.expectOperand (g.arithmetic (unaryStrength + 1) f.expectOperand f)
      return .ofChildren .await (p.leaf :: value)
    else operandRule g start f
  | _ => operandRule g start f

/-- Operators that bind at least as tightly as `least`, behind an operand. -/
def arithmeticRest (g : Grammar) (least : Nat) (f : Follow) (left : Expr) : Nat → Rule Expr
  | 0 => failure
  | fuel + 1 => do
    let p ← peek f.expect
    match p.token with
    | .operator text =>
      match strength text with
      | some (level, right) =>
        if least ≤ level then
          take p
          let value ← led .operand (g.arithmetic (if right then level else level + 1) .operand f)
          arithmeticRest g least f (.ofChildren .binary (left :: p.pieces ++ value)) fuel
        else return left
      | none => return left
    | _ => return left

def arithmeticRule (g : Grammar) (least : Nat) (start : Expect) (f : Follow) : Rule Expr := do
  let first ← signedOperand g start f
  arithmeticRest g least f first ((← get).left + 1)

/-! ### Comparisons and words -/

/-- The strength of the weakest arithmetic operator. -/
def operandStrength : Nat := 14

/-- The comparison operator ahead, in one or two words. -/
def comparisonOperator (f : Follow) : Rule (Option (List Expr)) := do
  let p ← peek f.expect
  match p.token with
  | .operator text =>
    if ["<", "<=", "==", "!=", ">=", ">", "<>"].contains text then
      take p
      return some p.pieces
    else return none
  | .word "in" =>
    take p
    return some p.pieces
  | .word "is" =>
    take p
    let q ← peek .operand
    if q.isWord "not" then
      take q
      return some (p.pieces ++ q.pieces)
    else return some p.pieces
  | .word "not" =>
    take p
    let word ← keyword .inner "in"
    return some (p.pieces ++ word)
  | _ => return none

def comparison (g : Grammar) (start : Expect) (f : Follow) : Rule Expr := do
  let first ← arithmeticRule g operandStrength start f
  let more ← many do
    match ← comparisonOperator f with
    | some pieces => return some (pieces ++ (← led .operand (g.arithmetic operandStrength .operand f)))
    | none => return none
  match more with
  | [] => return first
  | _ => return .ofChildren .comparison (first :: more.flatten)

/-- The levels of the operators that are words, weakest first. -/
def conditionalLevel : Nat := 0
def asLevel : Nat := 1
def orLevel : Nat := 2
def andLevel : Nat := 3
def notLevel : Nat := 4

/-- `not`, a lambda, a named value, or a comparison. -/
def expressionHead (g : Grammar) (lambda : Expect → Follow → Rule Expr) (start : Expect)
    (f : Follow) : Rule Expr := do
  let p ← peek start
  match p.token with
  | .word "not" =>
    take p
    let value ← led .operand (g.expression notLevel .operand f)
    return .ofChildren .negation (p.leaf :: value)
  | .word "lambda" => lambda start f
  | .word text =>
    let q := p.after.peek f.expect
    if isNameWord text && q.isOperator ":=" then
      take q
      let value ← led .operand (g.expression asLevel .operand f)
      return .ofChildren .named (nameLeaf p :: q.pieces ++ value)
    else comparison g start f
  | _ => comparison g start f

/-- Words that join expressions and bind at least as tightly as `least`. -/
def expressionRest (g : Grammar) (least : Nat) (f : Follow) (left : Expr) : Nat → Rule Expr
  | 0 => failure
  | fuel + 1 => do
    let p ← peek f.expect
    let join (form : Form) (level : Nat) : Rule Expr := do
      take p
      let value ← led .operand (g.expression level .operand f)
      expressionRest g least f (.ofChildren form (left :: p.pieces ++ value)) fuel
    match p.token with
    | .word "and" => if least ≤ andLevel then join .boolean notLevel else return left
    | .word "or" => if least ≤ orLevel then join .boolean andLevel else return left
    | .word "as" => if least ≤ asLevel then join .asPattern orLevel else return left
    | .word "if" =>
      if least ≤ conditionalLevel && f.conditional then
        take p
        let condition ← led .operand (g.expression 0 .operand .inner)
        let word ← keyword .inner "else"
        let value ← led .operand (g.expression 0 .operand f)
        let pieces := left :: p.pieces ++ condition ++ word ++ value
        expressionRest g least f (.ofChildren .conditional pieces) fuel
      else return left
    | _ => return left

def expressionRule (g : Grammar) (lambda : Expect → Follow → Rule Expr) (least : Nat)
    (start : Expect) (f : Follow) : Rule Expr := do
  let first ← expressionHead g lambda start f
  expressionRest g least f first ((← get).left + 1)

end StubLayers.Stub
