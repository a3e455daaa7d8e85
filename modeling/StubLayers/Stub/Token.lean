import StubLayers.Stub.Layout
import StubLayers.Stub.Quote
import StubLayers.Text.Identifier

/-!
Tokens. The next token depends on what is expected: layout marks and strings come first, then the
longest number, word or operator. Comments and line joins in front of it are handed over with it.
-/

namespace StubLayers

inductive Token where
  | mark (mark : Mark)
  | word (text : String)
  | number (fraction : Bool) (text : String)
  | operator (text : String)
  | quote (quote : Quote)
  /-- `!r` and the like behind an interpolated expression. -/
  | conversion (text : String)
  | eof
  /-- No token starts here. -/
  | invalid
deriving DecidableEq, Inhabited

/-- The token that lies ahead of a reader. -/
structure Peek where
  /-- The comments and line joins in front of it. -/
  extras : List Expr
  token : Token
  span : Span
  /-- The text of the token. -/
  text : String
  /-- In front of the token, behind the extras. -/
  before : Reader
  after : Reader
deriving Inhabited

namespace Stub

/-- Characters that may stand between any two tokens. -/
def isBlank (c : Char) : Bool :=
  c = ' ' || c = '\t' || c = '\n' || c = '\x0b' || c = '\x0c' || c = '\r'
    || c = '\uFEFF' || c = '\u2060' || c = '\u200B'

def operators : List String :=
  ["...", "**=", "//=", ">>=", "<<=",
   "->", ":=", "==", "!=", "<=", ">=", "<>", "+=", "-=", "*=", "/=", "%=", "@=", "&=", "|=", "^=",
   "**", "//", ">>", "<<",
   "+", "-", "*", "/", "%", "@", "&", "|", "^", "~", "<", ">", "=", ".", ",", ":", ";",
   "(", ")", "[", "]", "\x7b", "\x7d"]

/-- Words that are never names. -/
def reservedWords : List String :=
  ["False", "None", "True", "and", "as", "assert", "async", "await", "break", "class", "continue",
   "def", "del", "elif", "else", "except", "finally", "for", "from", "global", "if", "import",
   "in", "is", "lambda", "nonlocal", "not", "or", "pass", "raise", "return", "try", "while",
   "with", "yield"]

/-- Words with a meaning of their own that an expression may use as names. -/
def nameWords : List String := ["print", "exec", "async", "await", "type", "match"]

def isName (word : String) : Bool := !reservedWords.contains word

/-- The longest operator at the start of a text; the table lists longer ones first. -/
def operatorAt (cs : List Char) : Option String :=
  operators.find? fun op => op.toList.isPrefixOf cs

/-- The token at the start of a text, without layout and strings, and its length. -/
def plainToken (cs : List Char) : Token × Nat :=
  match cs with
  | [] => (.eof, 0)
  | c :: rest =>
    match Text.nameRun cs with
    | [] =>
      match numberRun cs with
      | some (n, fraction) => (.number fraction (String.ofList (cs.take n)), n)
      | none =>
        match operatorAt cs with
        | some op => (.operator op, op.length)
        | none =>
          match rest with
          | d :: _ => if c = '!' && d.isLower then (.conversion (String.ofList [c, d]), 2) else (.invalid, 0)
          | [] => (.invalid, 0)
    | word => (.word (String.ofList word), word.length)

/-- The length of a line join: a backslash with the line end behind it, or at the end of the text. -/
def lineJoinRun (cs : List Char) : Nat :=
  match cs with
  | ['\\'] => 1
  | '\\' :: '\n' :: _ => 2
  | '\\' :: '\x00' :: _ => 2
  | '\\' :: '\r' :: '\n' :: _ => 3
  | _ => 0

/-- The length of a comment: up to the end of the line. -/
def commentRun (cs : List Char) : Nat :=
  match cs with
  | '#' :: rest => 1 + (rest.takeWhile fun c => c ≠ '\n' && c ≠ '\x00').length
  | _ => 0

/-- The comment or line join at a reader, with the reader behind it. -/
def extraAt (r : Reader) : Option (Expr × Reader) :=
  let taken (kind : Leaf) (n : Nat) : Option (Expr × Reader) :=
    let s := r.advance n
    some (.leaf kind ⟨r.pos, s.pos⟩ (r.textTo s), s)
  match commentRun r.rest with
  | 0 =>
    match lineJoinRun r.rest with
    | 0 => none
    | n => taken .lineJoin n
  | n => taken .comment n

/-- The token in front of a reader if no comment and no line join comes first. -/
def tokenAt (extras : List Expr) (before r : Reader) : Peek :=
  let (token, n) := plainToken r.rest
  let s := r.advance n
  ⟨extras, token, ⟨r.pos, s.pos⟩, r.textTo s, before, s⟩

/-- The opening of a string behind a gap, if a string is expected. -/
def quoteAt (e : Expect) (r : Reader) (gap : Gap) : Option (Quote × Reader × Reader) :=
  if e.string && gap.comment.isNone then
    match Quote.opening? gap.rest with
    | some (quote, n) =>
      let start := r.advance gap.size
      some (quote, start, { start.advance n with interpolating := quote.interpolated })
    | none => none
  else none

/-- Look ahead; the fuel bounds the number of comments and line joins passed. -/
def look (e : Expect) (extras : List Expr) (r : Reader) : Nat → Peek
  | 0 => ⟨extras.reverse, .invalid, ⟨r.pos, r.pos⟩, "", r, r⟩
  | fuel + 1 =>
    let gap := r.gap e
    match gap.bind (r.mark e) with
    | some (mark, s) => ⟨extras.reverse, .mark mark, ⟨r.pos, r.pos⟩, "", r, s⟩
    | none =>
      match gap.bind (quoteAt e r) with
      | some (quote, start, s) =>
        ⟨extras.reverse, .quote quote, ⟨start.pos, s.pos⟩, start.textTo s, r, s⟩
      | none =>
        let start := r.skipWhile isBlank
        match extraAt start with
        | some (extra, s) => look e (extra :: extras) s fuel
        | none => tokenAt extras.reverse r start

end Stub

namespace Reader

/-- The next token, with what stands in front of it. -/
def peek (e : Expect) (r : Reader) : Peek := Stub.look e [] r (r.left + 1)

end Reader

namespace Peek

def isOperator (p : Peek) (text : String) : Bool := p.token = .operator text

def isWord (p : Peek) (text : String) : Bool := p.token = .word text

def isMark (p : Peek) (mark : Mark) : Bool := p.token = .mark mark

/-- The token as an operator, a keyword or a bracket of an expression. -/
def leaf (p : Peek) : Expr := .leaf .mark p.span p.text

/-- The token with the extras in front of it. -/
def pieces (p : Peek) : List Expr := p.extras ++ [p.leaf]

end Peek

end StubLayers
