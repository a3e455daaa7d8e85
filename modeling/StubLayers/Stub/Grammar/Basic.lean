import StubLayers.Stub.Token

/-!
The frame of the grammar. A rule is a function from a reader to a result and the reader behind it.
Rules that call each other do so through a record of rules, so that each can be written on its own;
the record is tied together at a given depth at the end.
-/

namespace StubLayers

/-- A rule: what it reads, or nothing if the text does not match it. -/
abbrev Rule (α : Type) := StateT Reader Option α

/-- What may follow an expression, as far as layout depends on it. -/
structure Follow where
  newline : Bool
  closer : Bool
  /-- An `if` that follows starts a conditional expression. -/
  conditional : Bool
deriving DecidableEq, Inhabited

namespace Follow

/-- Inside brackets. -/
def bracket : Follow := ⟨false, true, true⟩

/-- At the end of a statement. -/
def line : Follow := ⟨true, false, true⟩

/-- In front of a keyword or a colon. -/
def inner : Follow := ⟨false, false, true⟩

/-- In a clause of a comprehension. -/
def clause : Follow := ⟨false, true, false⟩

/-- What is expected behind an operand. -/
def expect (f : Follow) : Expect := ⟨f.newline, false, false, false, f.closer⟩

/-- What is expected where an operand may start and the surrounding rule may also end. -/
def expectOperand (f : Follow) : Expect := ⟨f.newline, false, false, true, f.closer⟩

end Follow

/-- An expression statement or the right side of an assignment. -/
inductive Assigned where
  /-- An expression; `first` is the first one of the list `whole`. -/
  | expression (first whole : Expr)
  | assignment (body : Assignment)
  | augmented
deriving Inhabited

/-- The rules that call each other. -/
structure Grammar where
  /-- An expression whose operators bind at least so tightly. -/
  expression : Nat → Expect → Follow → Rule Expr
  /-- Operands joined by arithmetic operators that bind at least so tightly. -/
  arithmetic : Nat → Expect → Follow → Rule Expr
  /-- An operand with the attributes, subscripts and calls behind it. -/
  operand : Expect → Follow → Rule Expr
  /-- A type; the flag allows a bound behind a colon. -/
  type : Bool → Expect → Follow → Rule Expr
  assigned : Expect → Rule Assigned
  casePattern : Expect → Follow → Rule Unit
  /-- What follows the colon of a compound statement. -/
  suite : Rule (List Stmt)
  /-- A statement where the given marks are expected. -/
  statement : Expect → Rule (List Stmt)

namespace Rule

/-- The next token. -/
def peek (e : Expect) : Rule Peek := fun r => some (r.peek e, r)

/-- Go behind a token that was looked at. -/
def take (p : Peek) : Rule Unit := set p.after

/-- The comments and line joins in front of the next token, passed over. -/
def lead (e : Expect) : Rule (List Expr) := fun r =>
  let p := r.peek e
  some (p.extras, p.before)

/-- What a rule reads, with the comments and line joins in front of it. -/
def led (e : Expect) (rule : Rule Expr) : Rule (List Expr) := do
  let extras ← lead e
  let expr ← rule
  return extras ++ [expr]

/-- An operator that has to stand here. -/
def operator (e : Expect) (text : String) : Rule (List Expr) := do
  let p ← peek e
  if p.isOperator text then
    take p
    return p.pieces
  else failure

/-- A keyword that has to stand here. -/
def keyword (e : Expect) (text : String) : Rule (List Expr) := do
  let p ← peek e
  if p.isWord text then
    take p
    return p.pieces
  else failure

/-- The token as a name. -/
def nameLeaf (p : Peek) : Expr := .leaf .name p.span p.text

/-- A name that has to stand here; it may not be a reserved word. -/
def name (e : Expect) : Rule (List Expr × String) := do
  let p ← peek e
  match p.token with
  | .word text =>
    if Stub.isName text then
      take p
      return (p.extras ++ [nameLeaf p], text)
    else failure
  | _ => failure

/-- Where the reader stands. -/
def position : Rule Position := do return (← get).pos

/-- Collect what a step reads until it reads nothing. -/
def collect {α : Type} (step : Rule (Option α)) (items : List α) : Nat → Rule (List α)
  | 0 => failure
  | fuel + 1 => do
    match ← step with
    | some item => collect step (item :: items) fuel
    | none => return items.reverse

/-- Collect what a step reads until it reads nothing; every step has to move on. -/
def many {α : Type} (step : Rule (Option α)) : Rule (List α) := fun r =>
  collect step [] (r.left + 1) r

/-- The first of two rules that matches. -/
def either {α : Type} (first second : Rule α) : Rule α := fun r =>
  match first r with
  | some result => some result
  | none => second r

end Rule

end StubLayers
