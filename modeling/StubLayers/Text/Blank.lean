import StubLayers.Text.Ranges

/-!
White space: the characters that separate words, and those that may stand around a number.
-/

namespace StubLayers.Text

def blanks : Ranges :=
  [(0x09, 0x0d), (0x1c, 0x20), (0x85, 0x85), (0xa0, 0xa0), (0x1680, 0x1680), (0x2000, 0x200a),
    (0x2028, 0x2029), (0x202f, 0x202f), (0x205f, 0x205f), (0x3000, 0x3000)]

def isBlank (c : Char) : Bool := blanks.contains c.toNat

/-- White space that may stand before and after a number: the separators of records do not count. -/
def isNumberBlank (c : Char) : Bool := isBlank c && !(0x1c ≤ c.toNat && c.toNat ≤ 0x1f)

/-- Without what stands at either end and passes a test. -/
def trimBy (test : Char → Bool) (cs : List Char) : List Char :=
  ((cs.dropWhile test).reverse.dropWhile test).reverse

end StubLayers.Text
