import StubLayers.Decimal.Shortest
import StubLayers.Text.Integer

/-!
Floating point numbers as text: reading them, and writing them with the fewest digits that read back.
-/

namespace StubLayers.Decimal

/-- Numbers from this power of ten on are written with an exponent. -/
def positionalBelow : Int := 16

/-- Numbers below this power of ten are written with an exponent. -/
def positionalFrom : Int := -4

/-- The exponent mark, its sign and at least two digits. -/
def exponentText (e : Int) : String :=
  let size := toString e.natAbs
  "e" ++ (if e < 0 then "-" else "+") ++ (if size.length < 2 then "0" ++ size else size)

/-- The text of decimal digits that stand for a number between `10 ^ e` and `10 ^ (e + 1)`. -/
def layout (ds : List Char) (e : Int) : String :=
  if positionalFrom ≤ e ∧ e < positionalBelow then
    if e < 0 then "0." ++ String.ofList (List.replicate (-e - 1).toNat '0' ++ ds)
    else
      let whole := ds.take (e.toNat + 1)
      let rest := ds.drop (e.toNat + 1)
      String.ofList (whole ++ List.replicate (e.toNat + 1 - ds.length) '0') ++ "." ++
        (if rest.isEmpty then "0" else String.ofList rest)
  else
    match ds with
    | [] => "0.0"
    | [d] => String.ofList [d] ++ exponentText e
    | d :: rest => String.ofList (d :: '.' :: rest) ++ exponentText e

/-- Digits without the zeros at their end. -/
def dropZeros (ds : List Char) : List Char := (ds.reverse.dropWhile (· = '0')).reverse

/-- The text of a floating point number. -/
def render (x : Float) : String :=
  if x.isNaN then "nan"
  else if x.isInf then if x < 0 then "-inf" else "inf"
  else
    let (negative, size) := ofBits x.toBits
    let sign := if negative then "-" else ""
    match size with
    | none => sign ++ "0.0"
    | some b =>
      let d := shortest b
      let ds := (toString d.digits).toList
      sign ++ layout (dropZeros ds) (d.exponent + ds.length - 1)

/-- The double nearest to `m * 10 ^ e`. -/
def ofScientific (m : Nat) (e : Int) : Float :=
  let size := e + (toString m).length
  if m = 0 ∨ size < -400 then 0
  else if 400 < size then 1 / 0
  else Float.ofScientific m (e < 0) e.natAbs

/-- The exponent after its mark: a sign and digits. -/
def readExponent? (cs : List Char) : Option Int :=
  let (negative, ds) := Text.splitSign cs
  match ds.mapM Text.digit? with
  | some (d :: ds) =>
    let n : Int := Text.ofDigits 10 (d :: ds)
    some (if negative then -n else n)
  | _ => none

/-- Digits, perhaps with a point, perhaps with an exponent. -/
def readUnsigned? (cs : List Char) : Option Float :=
  let isDigit c := (Text.digit? c).isSome
  let whole := cs.takeWhile isDigit
  let rest := cs.dropWhile isDigit
  let (fraction, rest) :=
    match rest with
    | '.' :: rest => (rest.takeWhile isDigit, rest.dropWhile isDigit)
    | rest => ([], rest)
  let exponent :=
    match rest with
    | [] => some 0
    | c :: rest => if c = 'e' ∨ c = 'E' then readExponent? rest else none
  match (whole ++ fraction).filterMap Text.digit?, exponent with
  | d :: ds, some e => some (ofScientific (Text.ofDigits 10 (d :: ds)) (e - fraction.length))
  | _, _ => none

/-- The floating point number that a text writes. -/
def readFloat? (text : List Char) : Option Float :=
  let (negative, cs) := Text.splitSign (Text.trimBy Text.isNumberBlank text)
  let lower := String.ofList (cs.map Char.toLower)
  let size :=
    if lower = "inf" ∨ lower = "infinity" then some (1 / 0)
    else if lower = "nan" then some (0 / 0)
    else readUnsigned? cs
  size.map fun x => if negative then -x else x

end StubLayers.Decimal
