import StubLayers.Decimal.Text
import StubLayers.Text.Lowercase
import StubLayers.Yaml.Form
import StubLayers.Yaml.Node

/-!
The value of a document. Every node that can be reached has to have a value: they are looked at
breadth first, and the first one that has none is the fault. The value itself is unrolled from the
root only as deep as asked for, since a document may contain itself.
-/

namespace StubLayers.Yaml

inductive Value where
  | null
  | bool (b : Bool)
  | int (n : Int)
  | float (x : Float)
  | string (text : String)
  | bytes (bytes : List UInt8)
  /-- A date, with or without a time. -/
  | timestamp
  | list (items : List Value)
  /-- A later pair with the same key counts. -/
  | mapping (pairs : List (Value × Value))
  | set (items : List Value)
deriving Inhabited

/-! ### Scalars -/

def withoutUnderscores (text : String) : List Char := text.toList.filter (· ≠ '_')

/-- The parts of a text between colons. -/
def colonParts : List Char → List (List Char)
  | [] => [[]]
  | c :: cs =>
    if c = ':' then [] :: colonParts cs
    else
      match colonParts cs with
      | [] => [[c]]
      | p :: ps => (c :: p) :: ps

def readInt (base : Nat) (text : List Char) : Except Fault Int :=
  match Text.readInt? base text with
  | some n => .ok n
  | none => .error .number

def readFloat (text : List Char) : Except Fault Float :=
  match Decimal.readFloat? text with
  | some x => .ok x
  | none => .error .number

/-- An integer: binary, octal, decimal, hexadecimal, or in parts of sixty. -/
def intValue (text : String) : Except Fault Int := do
  let cs := withoutUnderscores text
  let (negative, cs) := Text.splitSign cs
  if cs.isEmpty then .error .emptyNumber
  else
    let n ←
      if cs = ['0'] then pure 0
      else if cs.take 2 = ['0', 'b'] then readInt 2 (cs.drop 2)
      else if cs.take 2 = ['0', 'x'] then readInt 16 (cs.drop 2)
      else if cs.head? = some '0' then readInt 8 cs
      else if cs.contains ':' then do
        let parts ← (colonParts cs).mapM (readInt 10)
        pure (parts.foldl (fun n part => n * 60 + part) 0)
      else readInt 10 cs
    return if negative then -n else n

/-- The sum of parts of sixty, the last part first. -/
def sumSixties (base : Float) : List Float → Float → Float
  | [], sum => sum
  | part :: rest, sum => sumSixties (base * 60) rest (sum + part * base)

def floatValue (text : String) : Except Fault Float := do
  let cs := (Text.lower (String.ofList (withoutUnderscores text))).toList
  if cs.isEmpty then .error .emptyNumber
  else
    let (negative, cs) := Text.splitSign cs
    let x ←
      if cs = ".inf".toList then pure (1 / 0)
      else if cs = ".nan".toList then pure (0 / 0)
      else if cs.contains ':' then do
        let parts ← (colonParts cs).mapM readFloat
        pure (sumSixties 1 parts.reverse 0)
      else readFloat cs
    return if negative then -x else x

def boolValue (text : String) : Except Fault Bool :=
  let word := Text.lower text
  if ["yes", "true", "on"].contains word then .ok true
  else if ["no", "false", "off"].contains word then .ok false
  else .error (.truth word)

/-- The value of a character of base 64. -/
def sextet? (c : Char) : Option Nat :=
  if 'A' ≤ c ∧ c ≤ 'Z' then some (c.toNat - 'A'.toNat)
  else if 'a' ≤ c ∧ c ≤ 'z' then some (c.toNat - 'a'.toNat + 26)
  else if c.isDigit then some (c.toNat - '0'.toNat + 52)
  else if c = '+' then some 62
  else if c = '/' then some 63
  else none

/-- The bytes of base 64 from the sextet number `position` of a group on, where `left` holds the bits
not yet used and `pads` counts the padding. Other characters are skipped, and nothing counts after
full padding. -/
def base64 (position left pads : Nat) : List Char → Option (List UInt8)
  | [] => if position = 0 then some [] else none
  | c :: cs =>
    if c = '=' then
      if 2 ≤ position then
        if 4 ≤ position + pads + 1 then some [] else base64 position left (pads + 1) cs
      else base64 position left pads cs
    else
      match sextet? c with
      | none => base64 position left pads cs
      | some v =>
        let byte (n : Nat) (rest : Option (List UInt8)) := rest.map (n.toUInt8 :: ·)
        match position with
        | 0 => base64 1 v 0 cs
        | 1 => byte (left * 4 + v / 16) (base64 2 (v % 16) 0 cs)
        | 2 => byte (left * 16 + v / 4) (base64 3 (v % 4) 0 cs)
        | _ => byte (left * 64 + v) (base64 0 0 0 cs)

def bytesValue (text : String) : Except Fault (List UInt8) :=
  if text.toList.all (·.toNat < 0x80) then
    match base64 0 0 0 text.toList with
    | some bytes => .ok bytes
    | none => .error .malformed
  else .error .malformed

/-! ### Points in time -/

/-- The numbers in a text, in order. -/
def numbersIn (cs : List Char) : List Nat :=
  (cs.foldr (fun c (groups : List (List Char)) =>
    match c.isDigit, groups with
    | true, g :: gs => (c :: g) :: gs
    | true, [] => [[c]]
    | false, [] :: gs => [] :: gs
    | false, gs => [] :: gs) [[]]).filterMap fun g =>
      if g.isEmpty then none else some (Text.ofDigits 10 (g.filterMap Text.digit?))

def isLeapYear (year : Nat) : Bool := year % 4 = 0 && (year % 100 ≠ 0 || year % 400 = 0)

def daysInMonth (year month : Nat) : Nat :=
  if month = 2 then if isLeapYear year then 29 else 28
  else if [4, 6, 9, 11].contains month then 30
  else 31

def dateExists (year month day : Nat) : Bool :=
  1 ≤ year && 1 ≤ month && month ≤ 12 && 1 ≤ day && day ≤ daysInMonth year month

/-- Offsets from universal time stay below a day. -/
def zoneExists : List Nat → Bool
  | [hours] => hours * 60 < 1440
  | [hours, minutes] => hours * 60 + minutes < 1440
  | _ => true

/-- The parts of a point in time: date, time, and the offset of its zone. -/
structure TimeParts where
  date : List Nat
  time : List Nat
  zone : List Nat

/-- The text after the date is a time, a fraction, and a zone. -/
def timeParts (cs : List Char) : TimeParts :=
  let isDate c := c.isDigit || c = '-'
  let rest := cs.dropWhile isDate
  let isClock c := c.isDigit || c = ':'
  let clock := (rest.dropWhile (!isClock ·)).takeWhile isClock
  let tail := (rest.dropWhile (!isClock ·)).dropWhile isClock
  let tail := if tail.head? = some '.' then (tail.drop 1).dropWhile Char.isDigit else tail
  ⟨numbersIn (cs.takeWhile isDate), numbersIn clock, numbersIn tail⟩

/-- Whether a text is a point in time, the month and the day with one digit or two. -/
def isTimestamp (cs : List Char) : Bool :=
  Form.hasForm (.inOrder [Form.year, .one '-', Form.shortNumber, .one '-', Form.shortNumber,
    .optionally (.seq Form.daySeparator Form.timePattern)]) cs

/-- A point in time has to exist. -/
def checkTimestamp (text : String) : Except Fault Unit :=
  let cs := text.toList
  if !isTimestamp cs then .error .timestamp
  else
    let parts := timeParts cs
    match parts.date, parts.time with
    | [year, month, day], [] => if dateExists year month day then .ok () else .error .number
    | [year, month, day], [hour, minute, second] =>
      if dateExists year month day && hour < 24 && minute < 60 && second < 60 &&
          zoneExists parts.zone then .ok ()
      else .error .number
    | _, _ => .error .number

/-! ### Types of nodes -/

/-- What a node is to be read as. -/
inductive Kind where
  | null
  | bool
  | int
  | float
  | bytes
  | timestamp
  | string
  | list
  | mapping
  | set
  /-- A list of pairs. -/
  | pairs
  /-- The key that merges another mapping. -/
  | merge
  /-- The key of a mapping's default value. -/
  | value
  | unknown
deriving DecidableEq, Inhabited

def Kind.ofTag (tag : String) : Kind :=
  match [("null", null), ("bool", bool), ("int", int), ("float", float), ("binary", bytes),
      ("timestamp", timestamp), ("str", string), ("seq", list), ("map", mapping), ("set", set),
      ("omap", pairs), ("pairs", pairs), ("merge", merge), ("value", value)].find? fun entry =>
        coreTag entry.1 = tag with
  | some (_, kind) => kind
  | none => unknown

def Kind.ofForm : Form → Kind
  | .bool => bool
  | .float => float
  | .int => int
  | .merge => merge
  | .null => null
  | .timestamp => timestamp
  | .value => value
  | .text => string

def Node.kind (n : Node) : Kind :=
  match n.label, n.content with
  | .tagged tag, _ => .ofTag tag
  | .text, _ => .string
  | .implicit, .scalar text => .ofForm (.ofText text.toList)
  | .implicit, .sequence _ => .list
  | .implicit, .mapping _ => .mapping

/-- Kinds whose values can be no keys. -/
def Kind.isCollection : Kind → Bool
  | list | mapping | set | pairs => true
  | _ => false

namespace Document

def node (d : Document) (id : Nat) : Node := d.nodes[id]?.getD default

/-- The text of a scalar, or of a mapping's default value. -/
def text (d : Document) (id : Nat) : Nat → Except Fault String
  | 0 => .error .malformed
  | fuel + 1 =>
    match (d.node id).content with
    | .scalar text => .ok text
    | .sequence _ => .error .malformed
    | .mapping pairs =>
      match pairs.find? fun pair => (d.node pair.1).kind = .value with
      | some (_, id) => d.text id fuel
      | none => .error .malformed

/-- The value of a node that is no collection. -/
def scalarValue (d : Document) (id : Nat) : Except Fault Value := do
  let text ← d.text id (d.nodes.size + 1)
  match (d.node id).kind with
  | .null => return .null
  | .bool => return .bool (← boolValue text)
  | .int => return .int (← intValue text)
  | .float => return .float (← floatValue text)
  | .bytes => return .bytes (← bytesValue text)
  | .timestamp =>
    match (d.node id).content with
    | .scalar _ =>
      checkTimestamp text
      return .timestamp
    | _ => .error .timestampKind
  | .string => return .string text
  | _ => .error .malformed

/-- A node with a type that no value has. -/
def isUnreadable (d : Document) (id : Nat) : Bool :=
  match (d.node id).kind with
  | .merge | .value | .unknown => true
  | _ => false

/-- The pairs of a mapping with those of merged mappings before its own. A mapping that is being
merged counts without its own merge keys. -/
def mergedPairs (d : Document) (active : List Nat) (id : Nat) :
    Nat → Except Fault (List (Nat × Nat))
  | 0 => .ok []
  | fuel + 1 => do
    match (d.node id).content with
    | .mapping pairs =>
      let isMerge (pair : Nat × Nat) : Bool := (d.node pair.1).kind = .merge
      let own := pairs.filter (!isMerge ·)
      if active.contains id then return own
      else
        let merged ← (pairs.filter isMerge).mapM fun pair =>
          match (d.node pair.2).content with
          | .mapping _ => d.mergedPairs (id :: active) pair.2 fuel
          | .sequence items => do
            let parts ← items.mapM fun item =>
              match (d.node item).content with
              | .mapping _ => d.mergedPairs (id :: active) item fuel
              | _ => .error .malformed
            return parts.reverse.flatten
          | .scalar _ => .error .malformed
        return merged.flatten ++ own
    | _ => .error .malformed

def pairsOf (d : Document) (id : Nat) : Except Fault (List (Nat × Nat)) :=
  d.mergedPairs [] id (d.nodes.size + 1)

/-- Look at a node: a collection is left for later, anything else has to have a value. -/
def visit (d : Document) (id : Nat) : Except Fault (List Nat) :=
  if (d.node id).kind.isCollection then .ok [id]
  else if d.isUnreadable id then .error .malformed
  else (d.scalarValue id).map fun _ => []

/-- Look at a key. The key of a default value is a text here; collections are no keys. -/
def visitKey (d : Document) (id : Nat) : Except Fault (List Nat) :=
  if (d.node id).kind = .value then (d.text id (d.nodes.size + 1)).map fun _ => []
  else if (d.node id).kind.isCollection then .error .malformed
  else d.visit id

/-- Look at a pair of a mapping. -/
def visitPair (d : Document) (pair : Nat × Nat) : Except Fault (List Nat) := do
  let key ← d.visitKey pair.1
  let value ← d.visit pair.2
  return key ++ value

/-- Look at a mapping that stands for a pair in a list. -/
def visitSingle (d : Document) (id : Nat) : Except Fault (List Nat) :=
  match (d.node id).content with
  | .mapping [(key, value)] => do
    let first ← d.visit key
    let second ← d.visit value
    return first ++ second
  | _ => .error .malformed

/-- Look at all parts of a collection, and give those collections that are left for later. -/
def parts (d : Document) (id : Nat) : Except Fault (List Nat) :=
  match (d.node id).kind, (d.node id).content with
  | .list, .sequence items => (items.mapM d.visit).map List.flatten
  | .mapping, .mapping _ | .set, .mapping _ => do
    let later ← (← d.pairsOf id).mapM d.visitPair
    return later.flatten
  | .pairs, .sequence items => (items.mapM d.visitSingle).map List.flatten
  | _, _ => .error .malformed

/-- Look at the collections of a level, then at those that are left for later. -/
def checkLevels (d : Document) (seen : List Nat) : Nat → List Nat → Except Fault Unit
  | 0, _ => .ok ()
  | _, [] => .ok ()
  | fuel + 1, level => do
    let later ← level.mapM d.parts
    let fresh := later.flatten.eraseDups.filter fun id => !seen.contains id && !level.contains id
    d.checkLevels (level ++ seen) fuel fresh

def check (d : Document) : Except Fault Unit := do
  d.checkLevels [] (d.nodes.size + 1) (← d.visit d.root)

def orElse {α : Type} (fallback : α) : Except Fault α → α
  | .ok a => a
  | .error _ => fallback

/-- The value of a node, with collections down to a depth. -/
def unroll (d : Document) (id : Nat) : Nat → Value
  | 0 => .null
  | depth + 1 =>
    match (d.node id).kind, (d.node id).content with
    | .list, .sequence items => .list (items.map fun item => d.unroll item depth)
    | .mapping, _ =>
      .mapping ((orElse [] (d.pairsOf id)).map fun pair => (d.unroll pair.1 depth, d.unroll pair.2 depth))
    | .set, _ => .set ((orElse [] (d.pairsOf id)).map fun pair => d.unroll pair.1 depth)
    | .pairs, .sequence items => .list (items.map fun item => .list [d.unroll item depth])
    | .value, _ => .string (orElse "" (d.text id (d.nodes.size + 1)))
    | _, _ => orElse .null (d.scalarValue id)

end Document

/-- The value of the document in a text, with collections down to a depth; null if there is none. -/
def load (depth : Nat) (text : List Char) : Except Fault Value := do
  match ← readDocument text with
  | none => return .null
  | some d =>
    d.check
    return d.unroll d.root depth

end StubLayers.Yaml
