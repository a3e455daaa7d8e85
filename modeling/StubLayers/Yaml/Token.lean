import StubLayers.Text.Utf8
import StubLayers.Yaml.Scalar

/-!
The tokens of a document. Indentation opens and closes block collections; a key that is recognised
only by the colon after it is marked where it started, if it started on the same line and not too
far back.
-/

namespace StubLayers.Yaml

inductive Directive where
  | version (major : Nat)
  | tag (handle stem : String)
  | other
deriving DecidableEq, Inhabited

inductive Token where
  | directive (directive : Directive)
  | documentStart
  | documentEnd
  | blockSequenceStart
  | blockMappingStart
  | blockEnd
  | flowSequenceStart
  | flowSequenceEnd
  | flowMappingStart
  | flowMappingEnd
  | blockEntry
  | flowEntry
  | key
  | value
  | alias (name : String)
  | anchor (name : String)
  | tag (handle : Option String) (suffix : String)
  | scalar (text : String) (plain : Bool)
deriving DecidableEq, Inhabited

/-! ### Names, tags and directives -/

def isNameChar (c : Char) : Bool := c.isAlphanum || c = '-' || c = '_'

/-- A name of letters, digits, hyphens and underscores. -/
def scanName (c : Cursor) : Scanned :=
  let (name, next) := c.span isNameChar
  if name.isEmpty then .error .malformed else .ok (name, next)

/-- The name of an anchor or an alias, from after its mark on. -/
def scanAnchor (c : Cursor) : Scanned := do
  let (name, next) ← scanName c
  if endsWord next.peek || next.peek.any fun ch => "?:,]\x7d%@`".toList.contains ch then
    return (name, next)
  else .error .malformed

def isUriChar (c : Char) : Bool := c.isAlphanum || "-;/?:@&=+$,_.!~*'()[]".toList.contains c

/-- Bytes written as two hexadecimal digits after a percent sign. -/
def uriBytes (c : Cursor) : Nat → Except Fault (List UInt8 × Cursor)
  | 0 => .ok ([], c)
  | fuel + 1 =>
    if c.peek = some '%' then do
      let code := (c.rest.drop 1).take 2
      if code.length = 2 && code.all isHexDigit then
        let (bytes, last) ← uriBytes (c.advanceBy 3) fuel
        return ((hexValue code).toUInt8 :: bytes, last)
      else .error .malformed
    else .ok ([], c)

/-- The characters of an address, with its escapes read. -/
def uriChars (c : Cursor) : Nat → Scanned
  | 0 => .ok ([], c)
  | fuel + 1 =>
    match c.peek with
    | none => .ok ([], c)
    | some ch =>
      if ch = '%' then do
        let (bytes, next) ← uriBytes c (c.rest.length + 1)
        match Utf8.decode bytes with
        | .error _ => .error .malformed
        | .ok cs =>
          let (more, last) ← uriChars next fuel
          return (cs ++ more, last)
      else if isUriChar ch then do
        let (more, last) ← uriChars c.advance fuel
        return (ch :: more, last)
      else .ok ([], c)

/-- An address that holds at least one character or escape. -/
def scanUri (c : Cursor) : Scanned :=
  if c.peek.any fun ch => ch = '%' || isUriChar ch then uriChars c (c.rest.length + 1)
  else .error .malformed

/-- The handle of a tag, with its exclamation marks. -/
def scanHandle (c : Cursor) : Scanned :=
  if c.peek ≠ some '!' then .error .malformed
  else if c.peekAt 1 = some ' ' then .ok (['!'], c.advance)
  else
    let (name, next) := c.advance.span isNameChar
    if next.peek = some '!' then .ok ('!' :: name ++ ['!'], next.advance) else .error .malformed

/-- A tag that starts at its exclamation mark. -/
def scanTag (c : Cursor) : Except Fault (Token × Cursor) := do
  let (token, next) ←
    if c.peekAt 1 = some '<' then do
      let (uri, next) ← scanUri (c.advanceBy 2)
      if next.peek = some '>' then pure (Token.tag none (String.ofList uri), next.advance)
      else .error .malformed
    else if endsWord (c.peekAt 1) then pure (Token.tag none "!", c.advance)
    else do
      let word := (c.rest.drop 1).takeWhile fun ch => !endsEntry (some ch)
      let (handle, next) ← if word.contains '!' then scanHandle c else pure (['!'], c.advance)
      let (uri, next) ← scanUri next
      pure (Token.tag (some (String.ofList handle)) (String.ofList uri), next)
  if endsEntry next.peek then return (token, next) else .error .malformed

/-- A number in a directive. -/
def scanVersionPart (c : Cursor) : Scanned :=
  let (digits, next) := c.span Char.isDigit
  if digits.isEmpty then .error .malformed else .ok (digits, next)

def scanVersion (c : Cursor) : Except Fault (Directive × Cursor) := do
  let (major, next) ← scanVersionPart c.skipSpaces
  if next.peek ≠ some '.' then .error .malformed
  else
    let (_, next) ← scanVersionPart next.advance
    if endsEntry next.peek then
      return (.version (Text.ofDigits 10 (major.filterMap Text.digit?)), next)
    else .error .malformed

def scanTagDirective (c : Cursor) : Except Fault (Directive × Cursor) := do
  let (handle, next) ← scanHandle c.skipSpaces
  if next.peek ≠ some ' ' then .error .malformed
  else
    let (stem, next) ← scanUri next.skipSpaces
    if endsEntry next.peek then return (.tag (String.ofList handle) (String.ofList stem), next)
    else .error .malformed

/-- A directive that starts at its percent sign, to the next line. -/
def scanDirective (c : Cursor) : Except Fault (Directive × Cursor) := do
  let (name, next) ← scanName c.advance
  if !endsEntry next.peek then .error .malformed
  else
    let (directive, next) ←
      if name == "YAML".toList then scanVersion next
      else if name == "TAG".toList then scanTagDirective next
      else pure (.other, next.skipLine)
    return (directive, ← skipRestOfLine next)

/-! ### The token stream -/

/-- A place where a key may have started, known as one only when a colon follows. -/
structure PossibleKey where
  /-- The number of tokens before it. -/
  position : Nat
  /-- Nothing but a key can stand there. -/
  required : Bool
  index : Nat
  line : Nat
  column : Nat
deriving Inhabited

structure Lexer where
  cursor : Cursor
  tokens : Array Token
  /-- The column of the innermost block collection, -1 outside of all. -/
  indent : Int
  /-- The columns of the collections around it. -/
  outer : List Int
  /-- Whether a key may start here. -/
  keyAllowed : Bool
  /-- The possible key of each open flow collection, the innermost first, and of the block around. -/
  keys : List (Option PossibleKey)
deriving Inhabited

namespace Lexer

abbrev Step := StateT Lexer (Except Fault)

def start (text : List Char) : Lexer := ⟨⟨text, 0, 0, 0⟩, #[], -1, [], true, [none]⟩

/-- How far back a key may have started. -/
def keyReach : Nat := 1024

def fail {α : Type} : Step α := throw .malformed

def inFlow (l : Lexer) : Bool := 1 < l.keys.length

def push (token : Token) : Step Unit := modify fun l => { l with tokens := l.tokens.push token }

def moveTo (c : Cursor) : Step Unit := modify fun l => { l with cursor := c }

def step : Step Unit := modify fun l => { l with cursor := l.cursor.advance }

def allowKey (allowed : Bool) : Step Unit := modify fun l => { l with keyAllowed := allowed }

/-- Put a token before others. -/
def insertAt (position : Nat) (token : Token) : Step Unit :=
  modify fun l =>
    { l with tokens := (l.tokens.extract 0 position).push token ++ l.tokens.extract position l.tokens.size }

/-- Whether a possible key is still near enough. -/
def isFresh (c : Cursor) (key : PossibleKey) : Bool :=
  key.line = c.line && c.index - key.index ≤ keyReach

/-- Give up the possible keys that are too far back. -/
def dropStaleKeys : Step Unit := do
  let l ← get
  let isStale (key : Option PossibleKey) : Bool := key.any fun k => !isFresh l.cursor k
  if l.keys.any fun key => isStale key && key.any (·.required) then fail
  else set { l with keys := l.keys.map fun key => if isStale key then none else key }

/-- Give up the possible key of the innermost collection. -/
def dropKey : Step Unit := do
  let l ← get
  match l.keys with
  | some key :: rest => if key.required then fail else set { l with keys := none :: rest }
  | _ => pure ()

/-- A key may start here, if one is allowed. -/
def noteKey : Step Unit := do
  let l ← get
  if l.keyAllowed then
    dropKey
    let required := !l.inFlow && l.indent = l.cursor.column
    let key : PossibleKey :=
      ⟨l.tokens.size, required, l.cursor.index, l.cursor.line, l.cursor.column⟩
    modify fun l => { l with keys := some key :: l.keys.drop 1 }

/-- Close the block collections that are indented deeper than a column. -/
def closeBlocks (column : Int) : Step Unit := do
  let l ← get
  if !l.inFlow then
    let columns := (l.indent :: l.outer).takeWhile (column < ·)
    let rest := (l.indent :: l.outer).drop columns.length
    set { l with
      tokens := l.tokens ++ (columns.map fun _ => Token.blockEnd).toArray
      indent := rest.headD (-1)
      outer := rest.drop 1 }

/-- Open a block collection at a column, unless one is open there. -/
def openBlock (column : Nat) : Step Bool := do
  let l ← get
  if l.indent < column then
    set { l with indent := column, outer := l.indent :: l.outer }
    return true
  else return false

/-- To the next token, over spaces, comments and line ends. -/
def skipBlanks : Nat → Step Unit
  | 0 => pure ()
  | fuel + 1 => do
    let l ← get
    let c := l.cursor.skipSpaces.skipComment
    match c.lineBreak? with
    | some (_, next) =>
      set { l with cursor := next, keyAllowed := l.keyAllowed || !l.inFlow }
      skipBlanks fuel
    | none => moveTo c

/-- What every token starts with that cannot belong to a key before it. -/
def leaveBlocks : Step Unit := do
  closeBlocks (-1)
  dropKey
  allowKey false

def fetchDirective : Step Unit := do
  leaveBlocks
  let (directive, next) ← scanDirective (← get).cursor
  push (.directive directive)
  moveTo next

def fetchDocumentMark (token : Token) : Step Unit := do
  leaveBlocks
  push token
  moveTo ((← get).cursor.advanceBy 3)

def fetchFlowStart (token : Token) : Step Unit := do
  noteKey
  modify fun l => { l with keys := none :: l.keys }
  allowKey true
  push token
  step

def fetchFlowEnd (token : Token) : Step Unit := do
  dropKey
  if !(← get).inFlow then fail
  modify fun l => { l with keys := l.keys.drop 1 }
  allowKey false
  push token
  step

def fetchFlowEntry : Step Unit := do
  allowKey true
  dropKey
  push .flowEntry
  step

/-- Open a block collection for an indicator that starts one. -/
def openFor (token : Token) : Step Unit := do
  let l ← get
  if !l.inFlow then
    if !l.keyAllowed then fail
    if ← openBlock l.cursor.column then push token

def fetchBlockEntry : Step Unit := do
  openFor .blockSequenceStart
  allowKey true
  dropKey
  push .blockEntry
  step

def fetchKey : Step Unit := do
  openFor .blockMappingStart
  allowKey (!(← get).inFlow)
  dropKey
  push .key
  step

def fetchValue : Step Unit := do
  let l ← get
  match l.keys with
  | some key :: rest =>
    set { l with keys := none :: rest }
    insertAt key.position .key
    if !l.inFlow then
      if ← openBlock key.column then insertAt key.position .blockMappingStart
    allowKey false
  | _ =>
    openFor .blockMappingStart
    allowKey (!l.inFlow)
    dropKey
  push .value
  step

/-- A token that may be a key. -/
def fetchContent (scan : Lexer → Except Fault (Token × Cursor)) : Step Unit := do
  noteKey
  allowKey false
  let (token, next) ← scan (← get)
  push token
  moveTo next

def scalarToken (plain : Bool) (scanned : Scanned) : Except Fault (Token × Cursor) := do
  let (text, next) ← scanned
  return (.scalar (String.ofList text) plain, next)

def nameToken (make : String → Token) (scanned : Scanned) : Except Fault (Token × Cursor) := do
  let (name, next) ← scanned
  return (make (String.ofList name), next)

def fetchBlockScalar (fold : Bool) : Step Unit := do
  allowKey true
  dropKey
  let l ← get
  let (token, next) ← scalarToken false (scanBlock fold l.indent l.cursor)
  push token
  moveTo next

def fetchPlain : Step Unit := do
  noteKey
  let l ← get
  let (text, next, ended) := scanPlain l.inFlow (l.indent + 1) l.cursor
  push (.scalar (String.ofList text) true)
  moveTo next
  allowKey ended

/-- Whether a plain scalar may start with the character at the cursor. -/
def startsPlain (l : Lexer) : Bool :=
  match l.cursor.peek with
  | none => false
  | some ch =>
    !(endsWord (some ch) || "-?:,[]\x7b\x7d#&*!|>'\"%@`".toList.contains ch) ||
      (!endsWord (l.cursor.peekAt 1) && (ch = '-' || !l.inFlow && (ch = '?' || ch = ':')))

/-- Read the token that starts with the character `ch` at the cursor. -/
def fetch (ch : Char) : Step Unit := do
  let l ← get
  let c := l.cursor
  let atLineStart := c.column = 0
  let stands := endsWord (c.peekAt 1)
  if ch = '%' && atLineStart then fetchDirective
  else if atLineStart && c.atMark '-' then fetchDocumentMark .documentStart
  else if atLineStart && c.atMark '.' then fetchDocumentMark .documentEnd
  else if ch = '[' then fetchFlowStart .flowSequenceStart
  else if ch = '\x7b' then fetchFlowStart .flowMappingStart
  else if ch = ']' then fetchFlowEnd .flowSequenceEnd
  else if ch = '\x7d' then fetchFlowEnd .flowMappingEnd
  else if ch = ',' then fetchFlowEntry
  else if ch = '-' && stands then fetchBlockEntry
  else if ch = '?' && (l.inFlow || stands) then fetchKey
  else if ch = ':' && (l.inFlow || stands) then fetchValue
  else if ch = '*' then fetchContent fun l => nameToken .alias (scanAnchor l.cursor.advance)
  else if ch = '&' then fetchContent fun l => nameToken .anchor (scanAnchor l.cursor.advance)
  else if ch = '!' then fetchContent fun l => scanTag l.cursor
  else if ch = '|' && !l.inFlow then fetchBlockScalar false
  else if ch = '>' && !l.inFlow then fetchBlockScalar true
  else if ch = '\'' then fetchContent fun l => scalarToken false (scanQuoted false l.cursor)
  else if ch = '"' then fetchContent fun l => scalarToken false (scanQuoted true l.cursor)
  else if l.startsPlain then fetchPlain
  else fail

/-- Read all tokens. -/
def run : Nat → Step Unit
  | 0 => fail
  | fuel + 1 => do
    skipBlanks ((← get).cursor.rest.length + 1)
    dropStaleKeys
    closeBlocks (← get).cursor.column
    match (← get).cursor.peek with
    | none => leaveBlocks
    | some ch =>
      fetch ch
      run fuel

end Lexer

/-- Whether a character may stand in a document at all. -/
def isAdmitted (c : Char) : Bool :=
  let n := c.toNat
  n = 0x09 || n = 0x0a || n = 0x0d || 0x20 ≤ n && n ≤ 0x7e || n = 0x85 ||
    0xa0 ≤ n && n ≤ 0xd7ff || 0xe000 ≤ n && n ≤ 0xfffd || 0x10000 ≤ n

/-- The tokens of a text. A byte order mark at its start is no part of it. -/
def tokensOf (text : List Char) : Except Fault (List Token) :=
  if text.all isAdmitted then
    let begin := Lexer.start text
    let begin := if text.head? = some '\ufeff' then { begin with cursor := begin.cursor.advance }
      else begin
    match (Lexer.run (text.length + 1)).run begin with
    | .ok (_, l) => .ok l.tokens.toList
    | .error fault => .error fault
  else .error .malformed

end StubLayers.Yaml
