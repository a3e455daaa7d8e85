/-!
A cursor in a document: what is left to read, and where in the text that is.
-/

namespace StubLayers.Yaml

/-- Why a document gives no value. -/
inductive Fault where
  /-- The text is no single well-formed document of known types. -/
  | malformed
  /-- A number or a date that does not exist. -/
  | number
  /-- A number without any digit to look at. -/
  | emptyNumber
  /-- A text, in lower case, that is neither true nor false. -/
  | truth (text : String)
  /-- A text that is no point in time. -/
  | timestamp
  /-- A collection where a point in time is read. -/
  | timestampKind
  /-- An escape for a character that does not exist. -/
  | character
  /-- A number that is too large to be handled. -/
  | overflow
deriving DecidableEq, Inhabited

def isBreak (c : Char) : Bool :=
  c = '\n' || c = '\r' || c = '\u0085' || c = '\u2028' || c = '\u2029'

/-- The end of the text or of a line. -/
def endsLine : Option Char → Bool
  | none => true
  | some c => isBreak c

/-- A space or the end of a line. -/
def endsEntry (c : Option Char) : Bool := c = some ' ' || endsLine c

/-- White space or the end of a line. -/
def endsWord (c : Option Char) : Bool := c = some '\t' || endsEntry c

structure Cursor where
  rest : List Char
  index : Nat
  line : Nat
  column : Nat
deriving Inhabited

namespace Cursor

def peek (c : Cursor) : Option Char := c.rest.head?

def peekAt (c : Cursor) (n : Nat) : Option Char := c.rest[n]?

/-- Over one character. A byte order mark has no width. -/
def advance (c : Cursor) : Cursor :=
  match c.rest with
  | [] => c
  | ch :: rest =>
    if isBreak ch && !(ch = '\r' && rest.head? = some '\n') then ⟨rest, c.index + 1, c.line + 1, 0⟩
    else if ch = '\ufeff' then ⟨rest, c.index + 1, c.line, c.column⟩
    else ⟨rest, c.index + 1, c.line, c.column + 1⟩

def advanceBy (c : Cursor) : Nat → Cursor
  | 0 => c
  | n + 1 => c.advance.advanceBy n

/-- The longest run of characters that pass a test, and the cursor after it. -/
def span (c : Cursor) (test : Char → Bool) : List Char × Cursor :=
  let run := c.rest.takeWhile test
  (run, c.advanceBy run.length)

def skipSpaces (c : Cursor) : Cursor := (c.span (· = ' ')).2

/-- To the end of the line. -/
def skipLine (c : Cursor) : Cursor := (c.span (!isBreak ·)).2

/-- Over a comment that starts here. -/
def skipComment (c : Cursor) : Cursor := if c.peek = some '#' then c.skipLine else c

/-- The line break that stands here, as it counts in a text. -/
def lineBreak? (c : Cursor) : Option (Char × Cursor) :=
  match c.rest with
  | '\r' :: '\n' :: _ => some ('\n', c.advanceBy 2)
  | ch :: _ =>
    if ch = '\u2028' || ch = '\u2029' then some (ch, c.advance)
    else if isBreak ch then some ('\n', c.advance)
    else none
  | [] => none

/-- Whether a line of three such characters stands here, as between documents. -/
def atMark (c : Cursor) (ch : Char) : Bool :=
  c.rest.take 3 == [ch, ch, ch] && endsWord (c.peekAt 3)

/-- Whether a line that separates documents stands here. -/
def atDocumentMark (c : Cursor) : Bool := c.atMark '-' || c.atMark '.'

end Cursor

end StubLayers.Yaml
