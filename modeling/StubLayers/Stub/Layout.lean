import StubLayers.Stub.Reader

/-!
Layout: line ends and indentation as marks between tokens. What a gap between two tokens means
depends on what the grammar allows at that point, so every look ahead says what it expects.
-/

namespace StubLayers

/-- A mark of layout. It has no width and stands right behind the token before it. -/
inductive Mark where
  | newline
  | indent
  | dedent
deriving DecidableEq, Inhabited

/-- What the grammar allows at a point, as far as layout and strings depend on it. -/
structure Expect where
  newline : Bool
  indent : Bool
  dedent : Bool
  /-- A string may start here. -/
  string : Bool
  /-- A closing bracket may stand here. -/
  closer : Bool
deriving DecidableEq, Inhabited

namespace Expect

/-- Neither layout, nor a string, nor a closing bracket. -/
def inner : Expect := ⟨false, false, false, false, false⟩

/-- The start of an operand. -/
def operand : Expect := ⟨false, false, false, true, false⟩

/-- The start of an operand where a closing bracket may stand as well. -/
def operandOrCloser : Expect := ⟨false, false, false, true, true⟩

/-- The start of an operand where the line may end as well. -/
def operandOrNewline : Expect := ⟨true, false, false, true, false⟩

def closing : Expect := ⟨false, false, false, false, true⟩

def lineEnd : Expect := ⟨true, false, false, false, false⟩

/-- The start of a statement of a module. -/
def statement : Expect := ⟨false, false, false, true, false⟩

/-- The start of a statement of a block. -/
def blockStatement : Expect := ⟨false, false, true, true, false⟩

/-- Behind the colon of a suite. -/
def suite : Expect := ⟨true, true, false, true, false⟩

/-- Comment lines are looked through where a layout mark is expected. -/
def layout (e : Expect) : Bool := e.newline || e.indent || e.dedent

end Expect

/-- Where the scan of a gap stands. -/
inductive GapState where
  | plain
  | comment
  | backslash
  | backslashReturn
deriving DecidableEq, Inhabited

/-- What was found between a token and the next one. -/
structure Gap where
  /-- A line ends in the gap. -/
  broken : Bool
  /-- The indentation of the last line. -/
  indent : Nat
  /-- The indentation of the first comment line that was looked through. -/
  comment : Option Nat
  /-- How many characters the gap has. -/
  size : Nat
  /-- What follows the gap. -/
  rest : List Char
deriving Inhabited

/-- Scan a gap: a blank indents by one, a tab by eight, a form feed or a carriage return takes the
indentation back. Nothing is known of a gap with a stray backslash, or with a comment before the
first line end. -/
def scanGap (layout : Bool) (state : GapState) (gap : Gap) : List Char → Option Gap
  | [] =>
    match state with
    | .comment | .plain | .backslash | .backslashReturn =>
      some { gap with broken := true, indent := 0, rest := [] }
  | c :: rest =>
    let gap := { gap with size := gap.size + 1 }
    match state with
    | .plain =>
      if c = '\n' then scanGap layout .plain { gap with broken := true, indent := 0 } rest
      else if c = ' ' then scanGap layout .plain { gap with indent := gap.indent + 1 } rest
      else if c = '\r' ∨ c = '\x0c' then scanGap layout .plain { gap with indent := 0 } rest
      else if c = '\t' then scanGap layout .plain { gap with indent := gap.indent + 8 } rest
      else if c = '#' ∧ layout then
        if gap.broken then
          scanGap layout .comment { gap with comment := gap.comment <|> some gap.indent } rest
        else none
      else if c = '\\' then scanGap layout .backslash gap rest
      else some { gap with size := gap.size - 1, rest := c :: rest }
    | .comment =>
      if c = '\n' ∨ c = '\x00' then scanGap layout .plain { gap with indent := 0 } rest
      else scanGap layout .comment gap rest
    | .backslash =>
      if c = '\n' then scanGap layout .plain gap rest
      else if c = '\r' then scanGap layout .backslashReturn gap rest
      else none
    | .backslashReturn => if c = '\n' then scanGap layout .plain gap rest else none

namespace Reader

/-- The gap in front of the reader. -/
def gap (e : Expect) (r : Reader) : Option Gap :=
  scanGap e.layout .plain ⟨false, 0, none, 0, r.rest⟩ r.rest

/-- A line that starts with a quote goes on with the string expected there. -/
def opensQuote (cs : List Char) : Bool :=
  match cs with
  | c :: _ => c = '"' || c = '\'' || c = '`'
  | [] => false

/-- The layout mark that a gap stands for, if any. A deeper line opens a block where one is
expected. A line less deep than the block closes it, unless a comment of the block comes first; it
does so also where the statement cannot end, save inside brackets and in front of a string. -/
def mark (e : Expect) (r : Reader) (gap : Gap) : Option (Mark × Reader) :=
  if gap.broken then
    if e.indent && r.indent < gap.indent then
      some (.indent, { r with indents := gap.indent :: r.indents })
    else if (e.dedent || (!e.newline && !(e.string && opensQuote gap.rest) && !e.closer))
        && gap.indent < r.indent && !r.interpolating
        && gap.comment.all (· < r.indent) then
      some (.dedent, { r with indents := r.indents.tail })
    else if e.newline then some (.newline, r)
    else none
  else none

end Reader

end StubLayers
