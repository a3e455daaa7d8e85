/-!
Number literals: whole numbers in four bases and decimal fractions, each as the length of the
longest literal at the start of a text.
-/

namespace StubLayers.Stub

/-- Digits with single underscores, from a digit on; a last underscore belongs to the run. -/
def digitRun (afterDigit : Bool) : List Char → Nat
  | [] => 0
  | c :: rest =>
    if c.isDigit then digitRun true rest + 1
    else if afterDigit && c = '_' then digitRun false rest + 1
    else 0

/-- Digits of a base with single underscores in front of digits. -/
def baseRun (digit : Char → Bool) : List Char → Nat
  | [] => 0
  | [c] => if digit c then 1 else 0
  | c :: d :: rest =>
    if digit c then baseRun digit (d :: rest) + 1
    else if c = '_' && digit d then baseRun digit (d :: rest) + 1
    else 0

def isHexDigit (c : Char) : Bool :=
  c.isDigit || ('a' ≤ c && c ≤ 'f') || ('A' ≤ c && c ≤ 'F')

def isOctalDigit (c : Char) : Bool := '0' ≤ c && c ≤ '7'

def isBinaryDigit (c : Char) : Bool := c = '0' || c = '1'

/-- One if the text goes on with a character of `allowed`, else zero. -/
def oneOf (allowed : List Char) (cs : List Char) : Nat :=
  match cs with
  | c :: _ => if allowed.contains c then 1 else 0
  | [] => 0

/-- The length of an exponent: a mark, a sign and digits. -/
def exponentRun (cs : List Char) : Nat :=
  match oneOf ['e', 'E'] cs with
  | 0 => 0
  | _ =>
    let sign := oneOf ['+', '-'] (cs.drop 1)
    match digitRun false (cs.drop (1 + sign)) with
    | 0 => 0
    | n => 1 + sign + n

/-- The digits of the base that a mark stands for. -/
def baseDigit? (mark : Char) : Option (Char → Bool) :=
  if mark = 'x' || mark = 'X' then some isHexDigit
  else if mark = 'o' || mark = 'O' then some isOctalDigit
  else if mark = 'b' || mark = 'B' then some isBinaryDigit
  else none

/-- The length of a number with a base mark: `0x`, `0o` or `0b`. -/
def basedRun (cs : List Char) : Nat :=
  match cs with
  | '0' :: mark :: rest =>
    match baseDigit? mark with
    | some digit =>
      match baseRun digit rest with
      | 0 => 0
      | n => 2 + n + oneOf ['L', 'l'] (rest.drop n)
    | none => 0
  | _ => 0

/-- The length of a decimal fraction up to its end mark: with a point, an exponent or both. -/
def fractionBody (cs : List Char) : Nat :=
  let whole := digitRun false cs
  match cs.drop whole with
  | '.' :: more =>
    let places := digitRun false more
    if whole = 0 && places = 0 then 0
    else whole + 1 + places + exponentRun (more.drop places)
  | rest =>
    match exponentRun rest with
    | 0 => 0
    | n => if whole = 0 then 0 else whole + n

/-- The length of a decimal fraction. -/
def fractionRun (cs : List Char) : Nat :=
  match fractionBody cs with
  | 0 => 0
  | n => n + oneOf ['j', 'J'] (cs.drop n)

/-- The length of a decimal whole number. -/
def wholeRun (cs : List Char) : Nat :=
  match digitRun false cs with
  | 0 => 0
  | n => n + oneOf ['L', 'l', 'j', 'J'] (cs.drop n)

/-- The longest number at the start of a text: its length and whether it is a fraction. -/
def numberRun (cs : List Char) : Option (Nat × Bool) :=
  match fractionRun cs, max (basedRun cs) (wholeRun cs) with
  | 0, 0 => none
  | 0, whole => some (whole, false)
  | fraction, whole => if whole < fraction then some (fraction, true) else some (whole, false)

end StubLayers.Stub
