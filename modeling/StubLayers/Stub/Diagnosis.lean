import StubLayers.Stub.Module

/-!
Where a text leaves the grammar. The broken part reaches from the first token to the last one; if
not even the first token can start a statement, it ends where the rest of the text is in the
grammar again.
-/

namespace StubLayers.Stub

/-- Whether a statement may start with the token. -/
def startsStatement (token : Token) : Bool :=
  startsExpression token || token = .operator "@"
    || match token with
      | .word text =>
        ["import", "from", "pass", "break", "continue", "return", "del", "raise", "global",
         "nonlocal", "assert", "if", "while", "for", "try", "with", "class", "def",
         "yield"].contains text
      | _ => false

/-- A token found without regard to layout, between two readers. -/
structure RawToken where
  token : Token
  start : Reader
  stop : Reader

/-- The tokens of a text without regard to layout; a character that starts no token counts as
one. -/
def rawTokens (r : Reader) : Nat → List RawToken
  | 0 => []
  | fuel + 1 =>
    let start := r.skipWhile isBlank
    match extraAt start with
    | some (_, s) => rawTokens s fuel
    | none =>
      match plainToken start.rest with
      | (.eof, _) => []
      | (token, n) =>
        let stop := start.advance (max n 1)
        ⟨token, start, stop⟩ :: rawTokens stop fuel

/-- The end of the first token behind which the text is in the grammar, or of the last one. -/
def recovery (first : RawToken) : List RawToken → Reader
  | [] => first.stop
  | next :: rest =>
    if (parse? (String.ofList first.stop.rest)).isSome then first.stop else recovery next rest

/-- The broken part of a text that is not in the grammar: where it is and what it says. -/
def brokenPart (text : String) : Span × String :=
  let r := Reader.ofText text
  match rawTokens r (r.left + 1) with
  | [] => (⟨r.pos, r.pos⟩, "")
  | first :: rest =>
    let stop := if startsStatement first.token then (rest.getLastD first).stop
      else recovery first rest
    (⟨first.start.pos, stop.pos⟩, first.start.textTo stop)

/-- Characters that end a line of a message. -/
def endsLine (c : Char) : Bool :=
  c = '\n' || c = '\r' || c = '\x0b' || c = '\x0c' || c = '\x1c' || c = '\x1d' || c = '\x1e'
    || c = '\u0085' || c = '\u2028' || c = '\u2029'

/-- The longest part of a broken text that a message repeats. -/
def snippetLength : Nat := 40

/-- The start of the first line of a broken part. -/
def snippet (part : String) : String :=
  String.ofList ((part.toList.takeWhile fun c => !endsLine c).take snippetLength)

end StubLayers.Stub
