import StubLayers.Text.Blank
import StubLayers.Text.Digit

/-!
Reading integers: white space around the number, a sign, digits of any script, and single
underscores between digits. A decimal number has a greatest length.
-/

namespace StubLayers.Text

/-- The value of a digit or of a Latin letter used as one. -/
def digitValue? (c : Char) : Option Nat :=
  if 'a' ≤ c ∧ c ≤ 'z' then some (c.toNat - 'a'.toNat + 10)
  else if 'A' ≤ c ∧ c ≤ 'Z' then some (c.toNat - 'A'.toNat + 10)
  else digit? c

/-- The digits of a number in a base, from the one after a digit on. -/
def digitsAfter (base : Nat) : List Char → Option (List Nat)
  | [] => some []
  | '_' :: c :: cs =>
    match digitValue? c with
    | some d => if d < base then (digitsAfter base cs).map (d :: ·) else none
    | none => none
  | c :: cs =>
    match digitValue? c with
    | some d => if d < base then (digitsAfter base cs).map (d :: ·) else none
    | none => none

/-- The digits of a number: at least one, and none missing around an underscore. -/
def digitsOf? (base : Nat) : List Char → Option (List Nat)
  | [] => none
  | '_' :: _ => none
  | cs => digitsAfter base cs

def ofDigits (base : Nat) (ds : List Nat) : Nat := ds.foldl (fun n d => n * base + d) 0

/-- How many digits a decimal number may have. -/
def maxDecimalDigits : Nat := 4300

/-- The letter that marks a base. -/
def baseMark? : Nat → Option Char
  | 2 => some 'b'
  | 8 => some 'o'
  | 16 => some 'x'
  | _ => none

/-- Without the mark of the base, and without one underscore after it. -/
def dropBaseMark (base : Nat) : List Char → List Char
  | '0' :: c :: rest =>
    if some c.toLower = baseMark? base then
      match rest with
      | '_' :: rest => rest
      | rest => rest
    else '0' :: c :: rest
  | cs => cs

/-- A sign, and what follows it. -/
def splitSign : List Char → Bool × List Char
  | '-' :: rest => (true, rest)
  | '+' :: rest => (false, rest)
  | cs => (false, cs)

/-- The number that a text writes in a base. -/
def readInt? (base : Nat) (text : List Char) : Option Int :=
  let (negative, cs) := splitSign (trimBy isNumberBlank text)
  match digitsOf? base (dropBaseMark base cs) with
  | none => none
  | some ds =>
    if base = 10 ∧ maxDecimalDigits < ds.length then none
    else some (if negative then -(ofDigits base ds : Int) else ofDigits base ds)

end StubLayers.Text
