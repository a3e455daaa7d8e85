import StubLayers.Stub.Tree

/-!
The state of reading a stub: what is left of the text, where it stands, the indentation of the open
blocks, and whether an interpolated string is open.
-/

namespace StubLayers

structure Reader where
  rest : List Char
  /-- The number of characters left. -/
  left : Nat
  pos : Position
  /-- Indentation of the open blocks, innermost first. -/
  indents : List Nat
  /-- The string opened last has interpolations and is still open. -/
  interpolating : Bool
  left_eq : left = rest.length

namespace Reader

instance : Inhabited Reader := ⟨⟨[], 0, default, [], false, rfl⟩⟩

/-- One character further. -/
def step (r : Reader) : Reader :=
  match h : r.rest with
  | [] => r
  | c :: rest =>
    { r with
      rest := rest
      left := r.left - 1
      pos := r.pos.after c
      left_eq := by rw [r.left_eq, h, List.length_cons, Nat.add_sub_cancel] }

/-- `n` characters further. -/
def advance (r : Reader) : Nat → Reader
  | 0 => r
  | n + 1 => r.step.advance n

/-- As far as the characters satisfy `p`. -/
def skipWhile (p : Char → Bool) (r : Reader) : Reader :=
  r.advance (r.rest.takeWhile p).length

/-- The text between `r` and the later reader `s`. -/
def textTo (r s : Reader) : String := String.ofList (r.rest.take (r.left - s.left))

/-- At the start of a text; a byte order mark is passed over. -/
def ofText (text : String) : Reader :=
  let r : Reader := ⟨text.toList, text.length, .start, [], false, String.length_toList.symm⟩
  if text.toList.head? = some '\uFEFF' then r.step else r

/-- The indentation of the innermost block. -/
def indent (r : Reader) : Nat := r.indents.headD 0

end Reader

end StubLayers
