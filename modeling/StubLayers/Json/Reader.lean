import StubLayers.Decimal.Text
import StubLayers.Json.Value
import StubLayers.Text.Integer

/-!
Reading a JSON text from left to right. The first character that does not fit is reported by its
index. Besides the numbers of the format, `NaN` and the infinities are read.
-/

namespace StubLayers.Json

inductive Fault where
  | malformed (index : Nat)
  /-- An integer has too many digits. -/
  | longNumber
deriving DecidableEq, Inhabited

/-- What is left of a text, and the index at which it stands. -/
structure Input where
  index : Nat
  rest : List Char
deriving DecidableEq, Inhabited

namespace Input

def drop (i : Input) (count : Nat) : Input := ⟨i.index + count, i.rest.drop count⟩

def isBlank (c : Char) : Bool := c = ' ' || c = '\t' || c = '\n' || c = '\r'

def skipBlanks (i : Input) : Input := i.drop (i.rest.takeWhile isBlank).length

end Input

/-! ### Strings -/

/-- A part of a string: a character, or a unit of 16 bits from an escape. -/
inductive Part where
  | char (c : Char)
  | unit (n : Nat)
deriving DecidableEq, Inhabited

/-- The character of an escape with one letter. -/
def escaped? : Char → Option Char
  | '"' => some '"'
  | '\\' => some '\\'
  | '/' => some '/'
  | 'b' => some '\x08'
  | 'f' => some '\x0c'
  | 'n' => some '\n'
  | 'r' => some '\r'
  | 't' => some '\t'
  | _ => none

def hexValue? (c : Char) : Option Nat :=
  if '0' ≤ c ∧ c ≤ '9' then some (c.toNat - '0'.toNat)
  else if 'a' ≤ c ∧ c ≤ 'f' then some (c.toNat - 'a'.toNat + 10)
  else if 'A' ≤ c ∧ c ≤ 'F' then some (c.toNat - 'A'.toNat + 10)
  else none

def unit? (digits : List Char) : Option Nat :=
  (digits.mapM hexValue?).map fun ds => Text.ofDigits 16 ds

/-- The parts of a string up to its closing quote. The opening one stands at `start`. -/
def parts (start : Nat) : Nat → List Char → Except Fault (List Part × Input)
  | _, [] => .error (.malformed start)
  | i, '"' :: rest => .ok ([], ⟨i + 1, rest⟩)
  | i, '\\' :: 'u' :: a :: b :: c :: d :: rest =>
    match rest.isEmpty, unit? [a, b, c, d] with
    | false, some n =>
      match parts start (i + 6) rest with
      | .ok (more, last) => .ok (.unit n :: more, last)
      | .error fault => .error fault
    | _, _ => .error (.malformed (i + 1))
  | i, '\\' :: 'u' :: _ => .error (.malformed (i + 1))
  | i, '\\' :: c :: rest =>
    match escaped? c with
    | some c =>
      match parts start (i + 2) rest with
      | .ok (more, last) => .ok (.char c :: more, last)
      | .error fault => .error fault
    | none => .error (.malformed i)
  | _, ['\\'] => .error (.malformed start)
  | i, c :: rest =>
    if c.toNat < 0x20 then .error (.malformed i)
    else
      match parts start (i + 1) rest with
      | .ok (more, last) => .ok (.char c :: more, last)
      | .error fault => .error fault

def isHigh (n : Nat) : Bool := 0xd800 ≤ n && n < 0xdc00

def isLow (n : Nat) : Bool := 0xdc00 ≤ n && n < 0xe000

/-- Put units together: a high one and a low one after it are one character. -/
def join? : List Part → Option (List Char)
  | [] => some []
  | .char c :: rest => (join? rest).map (c :: ·)
  | .unit n :: rest =>
    if isLow n then none
    else if isHigh n then
      match rest with
      | .unit m :: rest =>
        if isLow m then
          (join? rest).map (Char.ofNat (0x10000 + (n - 0xd800) * 0x400 + (m - 0xdc00)) :: ·)
        else none
      | _ => none
    else (join? rest).map (Char.ofNat n :: ·)

/-- Read a string from its opening quote on. -/
def string (i : Input) : Except Fault (Option String × Input) :=
  match parts i.index (i.index + 1) (i.rest.drop 1) with
  | .ok (ps, last) => .ok ((join? ps).map String.ofList, last)
  | .error fault => .error fault

/-! ### Numbers and words -/

def isDigit (c : Char) : Bool := '0' ≤ c && c ≤ '9'

/-- The whole part of a number at the beginning of a text. -/
def whole? : List Char → Option (List Char)
  | '0' :: _ => some ['0']
  | cs =>
    let digits := cs.takeWhile isDigit
    if digits.isEmpty then none else some digits

def signedWhole? : List Char → Option (List Char)
  | '-' :: rest => (whole? rest).map ('-' :: ·)
  | cs => whole? cs

/-- The fraction at the beginning of a text; empty without a digit after the point. -/
def fraction : List Char → List Char
  | '.' :: rest =>
    let digits := rest.takeWhile isDigit
    if digits.isEmpty then [] else '.' :: digits
  | _ => []

/-- The exponent at the beginning of a text; empty without a digit in it. -/
def exponent : List Char → List Char
  | e :: rest =>
    if e = 'e' || e = 'E' then
      let sign := (rest.take 1).filter fun c => c = '+' || c = '-'
      let digits := (rest.drop sign.length).takeWhile isDigit
      if digits.isEmpty then [] else e :: sign ++ digits
    else []
  | [] => []

def number (i : Input) : Except Fault (Value × Input) :=
  match signedWhole? i.rest with
  | none => .error (.malformed i.index)
  | some front =>
    let rest := i.rest.drop front.length
    let tail := fraction rest ++ exponent (rest.drop (fraction rest).length)
    let last := i.drop (front.length + tail.length)
    if tail.isEmpty then
      match Text.readInt? 10 front with
      | some n => .ok (.int n, last)
      | none => .error .longNumber
    else
      match Decimal.readFloat? (front ++ tail) with
      | some x => .ok (.float x, last)
      | none => .error (.malformed i.index)

/-- The words that stand for values. -/
def words : List (String × Value) :=
  [("null", .null), ("true", .bool true), ("false", .bool false), ("NaN", .float (0 / 0)),
    ("Infinity", .float (1 / 0)), ("-Infinity", .float (-1 / 0))]

/-- A word or a number. -/
def scalar (i : Input) : Except Fault (Value × Input) :=
  match words.find? fun w => w.1.toList.isPrefixOf i.rest with
  | some (word, value) => .ok (value, i.drop word.length)
  | none => number i

/-! ### Values -/

mutual

/-- Read one value. A character takes at most two steps, so twice the length is fuel enough. -/
def value : Nat → Input → Except Fault (Value × Input)
  | 0, i => .error (.malformed i.index)
  | fuel + 1, i =>
    match i.rest with
    | '"' :: _ => (string i).map fun (text, last) => (.string text, last)
    | '[' :: _ =>
      let next := (i.drop 1).skipBlanks
      match next.rest with
      | ']' :: _ => .ok (.array [], next.drop 1)
      | _ => (items fuel next).map fun (vs, last) => (.array vs, last)
    | '\x7b' :: _ =>
      let next := (i.drop 1).skipBlanks
      match next.rest with
      | '\x7d' :: _ => .ok (.object [], next.drop 1)
      | _ => (members fuel next).map fun (ms, last) => (.object ms, last)
    | _ => scalar i

/-- Read items up to the end of their array. -/
def items : Nat → Input → Except Fault (List Value × Input)
  | 0, i => .error (.malformed i.index)
  | fuel + 1, i =>
    match value fuel i with
    | .error fault => .error fault
    | .ok (v, next) =>
      let next := next.skipBlanks
      match next.rest with
      | ']' :: _ => .ok ([v], next.drop 1)
      | ',' :: _ => (items fuel (next.drop 1).skipBlanks).map fun (vs, last) => (v :: vs, last)
      | _ => .error (.malformed next.index)

/-- Read members up to the end of their object. -/
def members : Nat → Input → Except Fault (List (Option String × Value) × Input)
  | 0, i => .error (.malformed i.index)
  | fuel + 1, i =>
    match i.rest with
    | '"' :: _ =>
      match string i with
      | .error fault => .error fault
      | .ok (name, next) =>
        let next := next.skipBlanks
        match next.rest with
        | ':' :: _ =>
          match value fuel (next.drop 1).skipBlanks with
          | .error fault => .error fault
          | .ok (v, next) =>
            let next := next.skipBlanks
            match next.rest with
            | '\x7d' :: _ => .ok ([(name, v)], next.drop 1)
            | ',' :: _ =>
              (members fuel (next.drop 1).skipBlanks).map fun (ms, last) => ((name, v) :: ms, last)
            | _ => .error (.malformed next.index)
        | _ => .error (.malformed next.index)
    | _ => .error (.malformed i.index)

end

/-- Without the mark of the byte order. -/
def dropMark : List Char → List Char
  | '\ufeff' :: rest => rest
  | cs => cs

/-- The value of a JSON text. -/
def read (text : String) : Except Fault Value :=
  let cs := dropMark text.toList
  match value (2 * cs.length + 2) (Input.mk 0 cs).skipBlanks with
  | .error fault => .error fault
  | .ok (v, last) =>
    let last := last.skipBlanks
    if last.rest.isEmpty then .ok v else .error (.malformed last.index)

end StubLayers.Json
