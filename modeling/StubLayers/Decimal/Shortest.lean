/-!
The shortest decimal of a binary number. A number `m * 2 ^ q` stands for all reals that round to it;
of the decimals in that interval those with the fewest digits are taken, and of these the nearest.
All comparisons are exact.
-/

namespace StubLayers.Decimal

/-- A positive binary number and the interval that rounds to it, in quarters of the last place. -/
structure Binary where
  mantissa : Nat
  exponent : Int
  /-- Whether the next smaller number is only half as far away. -/
  narrowBelow : Bool
deriving DecidableEq, Inhabited

namespace Binary

/-- The quarters of the last place in the number. -/
def quarters (b : Binary) : Nat := 4 * b.mantissa

def low (b : Binary) : Nat := b.quarters - if b.narrowBelow then 1 else 2

def high (b : Binary) : Nat := b.quarters + 2

/-- The ends of the interval round to the number iff it is even. -/
def closed (b : Binary) : Bool := b.mantissa % 2 = 0

/-- A quarter of the last place is `unit.1 / unit.2`. -/
def unit (b : Binary) : Nat × Nat :=
  if 2 ≤ b.exponent then (Nat.pow 2 (b.exponent - 2).toNat, 1)
  else (1, Nat.pow 2 (2 - b.exponent).toNat)

end Binary

/-- The decimal `digits * 10 ^ exponent`. -/
structure Scientific where
  digits : Nat
  exponent : Int
deriving DecidableEq, Inhabited

/-- `10 ^ e` as a fraction. -/
def tenPower (e : Int) : Nat × Nat :=
  if 0 ≤ e then (Nat.pow 10 e.toNat, 1) else (1, Nat.pow 10 (-e).toNat)

/-- A count of quarters as a multiple of `10 ^ e`, as a fraction. -/
def scaled (b : Binary) (quarters : Nat) (e : Int) : Nat × Nat :=
  (quarters * b.unit.1 * (tenPower e).2, b.unit.2 * (tenPower e).1)

/-- Whether `digits * 10 ^ e` lies in the interval. -/
def within (b : Binary) (digits : Nat) (e : Int) : Bool :=
  let low := scaled b b.low e
  let high := scaled b b.high e
  if b.closed then low.1 ≤ digits * low.2 && digits * high.2 ≤ high.1
  else low.1 < digits * low.2 && digits * high.2 < high.1

/-- How far `digits * 10 ^ e` is from the number, in units that depend on `e` alone. -/
def distance (b : Binary) (digits : Nat) (e : Int) : Nat :=
  let value := scaled b b.quarters e
  (value.1 - digits * value.2) + (digits * value.2 - value.1)

/-- The decimal with exponent `e` that rounds to the number and is nearest to it. -/
def nearest? (b : Binary) (e : Int) : Option Scientific :=
  let value := scaled b b.quarters e
  let below := value.1 / value.2
  match within b below e, within b (below + 1) e with
  | true, true =>
    if distance b (below + 1) e < distance b below e then some ⟨below + 1, e⟩ else some ⟨below, e⟩
  | true, false => some ⟨below, e⟩
  | false, true => some ⟨below + 1, e⟩
  | false, false => none

/-- The first hit on finer and finer grids. -/
def refine (b : Binary) (e : Int) : Nat → Scientific
  | 0 => ⟨0, 0⟩
  | fuel + 1 =>
    match nearest? b e with
    | some d => d
    | none => refine b (e - 1) fuel

/-- The fewest digits that read back. The grids start above every double. -/
def shortest (b : Binary) : Scientific := refine b 310 700

/-- A double that is a number, taken apart: whether it is negative, and its size unless it is zero. -/
def ofBits (bits : UInt64) : Bool × Option Binary :=
  let n := bits.toNat
  let fraction : Nat := n % Nat.pow 2 52
  let exponent : Nat := n / Nat.pow 2 52 % Nat.pow 2 11
  (n / Nat.pow 2 63 = 1,
    if exponent = 0 then
      if fraction = 0 then none else some ⟨fraction, -1074, false⟩
    else some ⟨fraction + Nat.pow 2 52, (exponent : Int) - 1075, fraction = 0 && 1 < exponent⟩)

end StubLayers.Decimal
