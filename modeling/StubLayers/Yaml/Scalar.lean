import StubLayers.Text.Integer
import StubLayers.Yaml.Cursor

/-!
The texts of scalars: plain ones, quoted ones and blocks. Lines are folded as each style asks for.
-/

namespace StubLayers.Yaml

/-- A scalar's text and the cursor after it. -/
abbrev Scanned := Except Fault (List Char × Cursor)

/-- A line break and the empty lines after it, folded: one break alone is a space. -/
def folded (first : Char) (breaks : List Char) : List Char :=
  if first ≠ '\n' then first :: breaks else if breaks.isEmpty then [' '] else breaks

/-! ### Plain scalars -/

/-- A run of characters without white space that a plain scalar may hold. -/
def plainRun (inFlow : Bool) : List Char → List Char
  | [] => []
  | c :: cs =>
    let atValue := c = ':' &&
      (endsWord cs.head? || inFlow && (cs.head?.any fun next => ",[]\x7b\x7d".toList.contains next))
    if endsWord (some c) || atValue || inFlow && ",?[]\x7b\x7d".toList.contains c then []
    else c :: plainRun inFlow cs

/-- Empty lines and indentation within a plain scalar; no breaks if a document ends there. -/
def plainBreaks (c : Cursor) : Nat → Option (List Char) × Cursor
  | 0 => (some [], c)
  | fuel + 1 =>
    if c.peek = some ' ' then plainBreaks c.advance fuel
    else
      match c.lineBreak? with
      | none => (some [], c)
      | some (ch, next) =>
        if next.atDocumentMark then (none, next)
        else
          let (breaks, last) := plainBreaks next fuel
          (breaks.map (ch :: ·), last)

/-- What lies between two runs of a plain scalar, and whether a line ended there. -/
def plainSpaces (c : Cursor) : List Char × Cursor × Bool :=
  let (spaces, next) := c.span (· = ' ')
  match next.lineBreak? with
  | none => (spaces, next, false)
  | some (ch, next) =>
    if next.atDocumentMark then ([], next, true)
    else
      match plainBreaks next (next.rest.length + 1) with
      | (some breaks, last) => (folded ch breaks, last, true)
      | (none, last) => ([], last, true)

/-- The runs of a plain scalar from the cursor on, after the spaces before them. The last answer is
whether the scalar's trailing spaces end a line. -/
def plainRuns (inFlow : Bool) (indent : Int) (spaces : List Char) (ended : Bool) (c : Cursor) :
    Nat → List Char × Cursor × Bool
  | 0 => ([], c, ended)
  | fuel + 1 =>
    let run := if c.peek = some '#' then [] else plainRun inFlow c.rest
    if run.isEmpty then ([], c, ended)
    else
      let (next, after, ended) := plainSpaces (c.advanceBy run.length)
      if next.isEmpty || after.peek = some '#' || !inFlow && (after.column : Int) < indent then
        (spaces ++ run, after, ended)
      else
        let (text, last, ended) := plainRuns inFlow indent next ended after fuel
        (spaces ++ run ++ text, last, ended)

/-- A plain scalar: its text, the cursor after it, and whether that is on a later line. -/
def scanPlain (inFlow : Bool) (indent : Int) (c : Cursor) : List Char × Cursor × Bool :=
  plainRuns inFlow indent [] false c (c.rest.length + 1)

/-! ### Quoted scalars -/

/-- What a backslash and a character stand for. -/
def escapes : List (Char × Char) :=
  [('0', '\u0000'), ('a', '\u0007'), ('b', '\u0008'), ('t', '\t'), ('\t', '\t'), ('n', '\n'),
    ('v', '\u000b'), ('f', '\u000c'), ('r', '\r'), ('e', '\u001b'), (' ', ' '), ('"', '"'),
    ('\\', '\\'), ('/', '/'), ('N', '\u0085'), ('_', '\u00a0'), ('L', '\u2028'), ('P', '\u2029')]

/-- How many digits the code of a character has after such an escape. -/
def escapeWidth? : Char → Option Nat
  | 'x' => some 2
  | 'u' => some 4
  | 'U' => some 8
  | _ => none

def isHexDigit (c : Char) : Bool :=
  c.isDigit || 'a' ≤ c && c ≤ 'f' || 'A' ≤ c && c ≤ 'F'

/-- The value of hexadecimal digits. -/
def hexValue (cs : List Char) : Nat := Text.ofDigits 16 (cs.filterMap Text.digitValue?)

/-- The character of a code. -/
def charOfCode (code : Nat) : Except Fault Char :=
  if code < 0x110000 then .ok (if code.isValidChar then Char.ofNat code else '\ufffd')
  else if code < 0x80000000 then .error .character
  else .error .overflow

/-- The empty lines within a quoted scalar. No document may end in it. -/
def quotedBreaks (c : Cursor) : Nat → Except Fault (List Char × Cursor)
  | 0 => .ok ([], c)
  | fuel + 1 =>
    if c.atDocumentMark then .error .malformed
    else
      let next := (c.span fun ch => ch = ' ' || ch = '\t').2
      match next.lineBreak? with
      | none => .ok ([], next)
      | some (ch, next) => do
        let (breaks, last) ← quotedBreaks next fuel
        return (ch :: breaks, last)

/-- An escape, from after the backslash on. -/
def scanEscape (c : Cursor) : Scanned :=
  match c.peek with
  | none => .error .malformed
  | some ch =>
    match escapes.lookup ch, escapeWidth? ch with
    | some meant, _ => .ok ([meant], c.advance)
    | none, some width =>
      let code := c.advance.rest.take width
      if code.length = width && code.all isHexDigit then do
        return ([← charOfCode (hexValue code)], c.advance.advanceBy width)
      else .error .malformed
    | none, none =>
      match c.lineBreak? with
      | some (_, next) => quotedBreaks next (next.rest.length + 1)
      | none => .error .malformed

/-- White space within a quoted scalar: folded if a line ends there. -/
def quotedSpaces (c : Cursor) : Scanned :=
  let (spaces, next) := c.span fun ch => ch = ' ' || ch = '\t'
  match next.lineBreak? with
  | some (ch, next) => do
    let (breaks, last) ← quotedBreaks next (next.rest.length + 1)
    return (folded ch breaks, last)
  | none => if next.peek.isNone then .error .malformed else .ok (spaces, next)

/-- A quoted scalar from after its opening quote on, to after the closing one. -/
def scanQuotedRest (double : Bool) (c : Cursor) : Nat → Scanned
  | 0 => .error .malformed
  | fuel + 1 =>
    let continueWith (step : Scanned) : Scanned := do
      let (text, next) ← step
      let (more, last) ← scanQuotedRest double next fuel
      return (text ++ more, last)
    match c.rest with
    | [] => .error .malformed
    | ch :: rest =>
      if ch = '\'' && !double then
        if rest.head? = some '\'' then continueWith (.ok (['\''], c.advanceBy 2))
        else .ok ([], c.advance)
      else if ch = '"' && double then .ok ([], c.advance)
      else if ch = '\\' && double then continueWith (scanEscape c.advance)
      else if ch = ' ' || ch = '\t' || isBreak ch then continueWith (quotedSpaces c)
      else continueWith (.ok ([ch], c.advance))

/-- A quoted scalar that starts at its quote. -/
def scanQuoted (double : Bool) (c : Cursor) : Scanned :=
  scanQuotedRest double c.advance (c.rest.length + 1)

/-! ### Blocks -/

/-- What becomes of the line breaks at the end of a block. -/
inductive Chomping where
  | strip
  | clip
  | keep
deriving DecidableEq

def chomping? : Option Char → Option Chomping
  | some '+' => some .keep
  | some '-' => some .strip
  | _ => none

/-- An indentation given in digits; zero is none. -/
def increment? : Option Char → Option Nat
  | some c => if c.isDigit then some (c.toNat - '0'.toNat) else none
  | none => none

/-- The indicators of a block, in either order. -/
def blockIndicators (c : Cursor) : Except Fault (Chomping × Option Nat × Cursor) := do
  let (chomping, increment, next) :=
    match chomping? c.peek, increment? c.peek with
    | some chomping, _ =>
      match increment? c.advance.peek with
      | some n => (chomping, some n, c.advanceBy 2)
      | none => (chomping, none, c.advance)
    | none, some n =>
      match chomping? c.advance.peek with
      | some chomping => (chomping, some n, c.advanceBy 2)
      | none => (.clip, some n, c.advance)
    | none, none => (.clip, none, c)
  if increment = some 0 || !endsEntry next.peek then .error .malformed
  else return (chomping, increment, next)

/-- To the next line, over spaces and a comment. -/
def skipRestOfLine (c : Cursor) : Except Fault Cursor :=
  let next := c.skipSpaces.skipComment
  match next.lineBreak? with
  | some (_, last) => .ok last
  | none => if next.peek.isNone then .ok next else .error .malformed

/-- Over indentation, up to a column. -/
def skipIndent (indent : Int) (c : Cursor) : Cursor :=
  let spaces := (c.rest.takeWhile (· = ' ')).length
  c.advanceBy (min spaces (indent - c.column).toNat)

/-- The empty lines before a block's first line, and the deepest indentation among them. -/
def blockStart (deepest : Nat) (c : Cursor) : Nat → List Char × Nat × Cursor
  | 0 => ([], deepest, c)
  | fuel + 1 =>
    if c.peek = some ' ' then blockStart (max deepest c.advance.column) c.advance fuel
    else
      match c.lineBreak? with
      | none => ([], deepest, c)
      | some (ch, next) =>
        let (breaks, deepest, last) := blockStart deepest next fuel
        (ch :: breaks, deepest, last)

/-- The empty lines before a further line of a block. -/
def blockBreaks (indent : Int) (c : Cursor) : Nat → List Char × Cursor
  | 0 => ([], c)
  | fuel + 1 =>
    let c := skipIndent indent c
    match c.lineBreak? with
    | none => ([], c)
    | some (ch, next) =>
      let (breaks, last) := blockBreaks indent next fuel
      (ch :: breaks, last)

/-- Whether a further line of a block starts here. -/
def inBlock (indent : Int) (c : Cursor) : Bool := (c.column : Int) = indent && c.peek.isSome

def isInset (c : Cursor) : Bool := c.peek = some ' ' || c.peek = some '\t'

/-- The lines of a block, after empty lines: the text, the line break that ends it, the empty lines
after it, and the cursor. -/
def blockLines (fold : Bool) (indent : Int) (breaks : List Char) (c : Cursor) :
    Nat → List Char × List Char × List Char × Cursor
  | 0 => ([], [], breaks, c)
  | fuel + 1 =>
    if !inBlock indent c then ([], [], breaks, c)
    else
      let (line, next) := c.span (!isBreak ·)
      let (ending, next) :=
        match next.lineBreak? with
        | some (ch, next) => ([ch], next)
        | none => ([], next)
      let (between, next) := blockBreaks indent next (next.rest.length + 1)
      if inBlock indent next then
        let joint :=
          if fold && ending == ['\n'] && !isInset c && !isInset next then
            if between.isEmpty then [' '] else []
          else ending
        let (text, ending, after, last) := blockLines fold indent between next fuel
        (breaks ++ line ++ joint ++ text, ending, after, last)
      else (breaks ++ line, ending, between, next)

/-- A block scalar that starts at its indicator, within a block of the given indentation. -/
def scanBlock (fold : Bool) (outer : Int) (c : Cursor) : Scanned := do
  let (chomping, increment, next) ← blockIndicators c.advance
  let next ← skipRestOfLine next
  let least := max 1 (outer + 1)
  let (breaks, indent, next) :=
    match increment with
    | some n =>
      let indent := least + n - 1
      let (breaks, next) := blockBreaks indent next (next.rest.length + 1)
      (breaks, indent, next)
    | none =>
      let (breaks, deepest, next) := blockStart 0 next (next.rest.length + 1)
      (breaks, max least (deepest : Int), next)
  let (text, ending, after, last) := blockLines fold indent breaks next (next.rest.length + 1)
  match chomping with
  | .strip => return (text, last)
  | .clip => return (text ++ ending, last)
  | .keep => return (text ++ ending ++ after, last)

end StubLayers.Yaml
