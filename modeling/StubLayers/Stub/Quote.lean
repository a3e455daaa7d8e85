import StubLayers.Stub.Number

/-!
Quotes: how a string starts, where a stretch of its text ends, and how long an escape is.
-/

namespace StubLayers

/-- The kind of a string, from its letters and its quotes. -/
structure Quote where
  delimiter : Char
  triple : Bool
  raw : Bool
  bytes : Bool
  interpolated : Bool
deriving DecidableEq, Inhabited

namespace Quote

/-- The opening of a string: its kind and the number of its characters. Letters of any kind and
number may stand in front of the quotes. -/
def opening (quote : Quote) (size : Nat) : List Char → Option (Quote × Nat)
  | [] => none
  | c :: rest =>
    if c = 'f' || c = 'F' || c = 't' || c = 'T' then
      opening { quote with interpolated := true } (size + 1) rest
    else if c = 'r' || c = 'R' then opening { quote with raw := true } (size + 1) rest
    else if c = 'b' || c = 'B' then opening { quote with bytes := true } (size + 1) rest
    else if c = 'u' || c = 'U' then opening quote (size + 1) rest
    else if c = '`' then some ({ quote with delimiter := c }, size + 1)
    else if c = '"' || c = '\'' then
      match rest with
      | d :: e :: _ =>
        if d = c && e = c then some ({ quote with delimiter := c, triple := true }, size + 3)
        else some ({ quote with delimiter := c }, size + 1)
      | _ => some ({ quote with delimiter := c }, size + 1)
    else none

/-- The opening of a string at the start of a text. -/
def opening? (cs : List Char) : Option (Quote × Nat) :=
  opening ⟨'"', false, false, false, false⟩ 0 cs

/-- How a stretch of string text ends. -/
inductive Stretch where
  /-- So many characters of text. -/
  | text (size : Nat)
  /-- The string ends after so many characters. -/
  | close (size : Nat)
  /-- No plain text stands here. -/
  | nothing
deriving DecidableEq, Inhabited

/-- Behind a backslash of a raw string: how many characters it protects. -/
def protectedRun (delimiter : Char) (cs : List Char) : Nat :=
  let quoted := Stub.oneOf [delimiter, '\\'] cs
  match cs.drop quoted with
  | '\r' :: '\n' :: _ => quoted + 2
  | '\r' :: _ => quoted + 1
  | '\n' :: _ => quoted + 1
  | _ => quoted

/-- Scan string text. `filled` says that some text was passed, `skip` how many characters are
protected from being looked at, `size` how many were passed. A line end closes the stretch only if
text came before it in the stretch. -/
def stretch (q : Quote) (filled : Bool) (skip size : Nat) : List Char → Stretch
  | [] => .nothing
  | c :: rest =>
    match skip with
    | skip + 1 => stretch q filled skip (size + 1) rest
    | 0 =>
      if c = '\x00' then .nothing
      else if q.interpolated && (c = '\x7b' || c = '\x7d') then
        if filled then .text size else .nothing
      else if c = '\\' then
        if q.raw then stretch q filled (protectedRun q.delimiter rest) (size + 1) rest
        else if q.bytes then
          match rest with
          | d :: _ =>
            if d = 'N' || d = 'u' || d = 'U' then stretch q true 2 (size + 1) rest
            else if filled then .text size else .nothing
          | [] => if filled then .text size else .nothing
        else if filled then .text size else .nothing
      else if c = q.delimiter then
        if q.triple then
          match rest with
          | d :: e :: _ =>
            if d = c && e = c then if filled then .text size else .close (size + 3)
            else if d = c then .text (size + 2)
            else .text (size + 1)
          | [d] => if d = c then .text (size + 2) else .text (size + 1)
          | [] => .text (size + 1)
        else if filled then .text size else .close (size + 1)
      else if c = '\n' && filled && !q.triple then .nothing
      else stretch q true 0 (size + 1) rest

/-- The length of the escape at a backslash; one if the backslash stands for itself. -/
def escapeRun (cs : List Char) : Nat :=
  match cs with
  | '\\' :: c :: rest =>
    let hex (n : Nat) : Nat := if (rest.take n).all Stub.isHexDigit && n ≤ rest.length then n + 2 else 1
    if c = 'u' then hex 4
    else if c = 'U' then hex 8
    else if c = 'x' then hex 2
    else if c.isDigit then 2 + ((rest.take 2).takeWhile Char.isDigit).length
    else if c = '\n' then 2
    else if c = '\r' then if rest.head? = some '\n' then 3 else 1
    else if ['\'', '"', 'a', 'b', 'f', 'r', 'n', 't', 'v', '\\'].contains c then 2
    else if c = 'N' then
      match rest with
      | '\x7b' :: more =>
        let name := more.takeWhile (· ≠ '\x7d')
        if name.isEmpty || name.length = more.length then 1 else name.length + 4
      | _ => 1
    else 1
  | _ => 1

end Quote

end StubLayers
