/-!
Reading bytes as UTF-8. The lead byte of a character fixes what each following byte may be; a broken
character is reported with the bytes that could still have begun one.
-/

namespace StubLayers.Utf8

inductive Reason where
  /-- No character starts with this byte. -/
  | start
  /-- The next byte cannot continue the character. -/
  | continuation
  /-- The bytes end within the character. -/
  | ended
deriving DecidableEq, Inhabited

/-- Bytes that are no UTF-8, from position `first` on. -/
structure Fault where
  first : Nat
  /-- The bytes from the first one on that could have begun a character, at least one. -/
  bytes : List UInt8
  reason : Reason
deriving DecidableEq, Inhabited

/-- The ranges of the bytes after a lead byte; none if no character starts so. -/
def following (lead : Nat) : Option (List (Nat × Nat)) :=
  let tail := (0x80, 0xbf)
  if lead < 0x80 then some []
  else if lead < 0xc2 then none
  else if lead < 0xe0 then some [tail]
  else if lead = 0xe0 then some [(0xa0, 0xbf), tail]
  else if lead = 0xed then some [(0x80, 0x9f), tail]
  else if lead < 0xf0 then some [tail, tail]
  else if lead = 0xf0 then some [(0x90, 0xbf), tail, tail]
  else if lead < 0xf4 then some [tail, tail, tail]
  else if lead = 0xf4 then some [(0x80, 0x8f), tail, tail]
  else none

/-- The bytes that fill the ranges in order, and how that ended. -/
def fill : List (Nat × Nat) → List UInt8 → List UInt8 × Option Reason
  | [], _ => ([], none)
  | _ :: _, [] => ([], some .ended)
  | (low, high) :: ranges, b :: bytes =>
    if low ≤ b.toNat ∧ b.toNat ≤ high then
      let (filled, reason) := fill ranges bytes
      (b :: filled, reason)
    else ([], some .continuation)

/-- The part of the lead byte that counts, before `n` further bytes. -/
def payload (lead : Nat) : Nat → Nat
  | 0 => lead
  | n + 1 => lead % Nat.pow 2 (5 - n)

/-- The character of a lead byte and the bytes after it. -/
def charOf (lead : UInt8) (tail : List UInt8) : Char :=
  Char.ofNat (tail.foldl (fun code b => code * 64 + b.toNat % 64)
    (payload lead.toNat tail.length))

/-- The characters of the bytes from position `first` on, `skip` of which belong to a character
already read. -/
def decodeFrom (first skip : Nat) : List UInt8 → Except Fault (List Char)
  | [] => .ok []
  | b :: bytes =>
    match skip with
    | skip + 1 => decodeFrom (first + 1) skip bytes
    | 0 =>
      match following b.toNat with
      | none => .error ⟨first, [b], .start⟩
      | some ranges =>
        match fill ranges bytes with
        | (tail, none) => (decodeFrom (first + 1) tail.length bytes).map (charOf b tail :: ·)
        | (tail, some reason) => .error ⟨first, b :: tail, reason⟩

def decode (bytes : List UInt8) : Except Fault (List Char) := decodeFrom 0 0 bytes

/-- The bytes of a text. -/
def encode (text : String) : List UInt8 := text.toUTF8.toList

end StubLayers.Utf8
