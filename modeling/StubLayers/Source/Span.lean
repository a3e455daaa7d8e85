/-!
Places in a text. Rows count line feeds only; a column is the number of bytes, in UTF-8, since the
last line feed.
-/

namespace StubLayers

structure Position where
  row : Nat
  col : Nat
deriving DecidableEq, Inhabited

namespace Position

def start : Position := ⟨0, 0⟩

/-- The position behind the character `c` that stands at `p`. -/
def after (p : Position) (c : Char) : Position :=
  if c = '\n' then ⟨p.row + 1, 0⟩ else ⟨p.row, p.col + c.utf8Size⟩

/-- Document order. -/
def le (p q : Position) : Prop := p.row < q.row ∨ (p.row = q.row ∧ p.col ≤ q.col)

instance : LE Position := ⟨le⟩

instance (p q : Position) : Decidable (p ≤ q) :=
  inferInstanceAs (Decidable (p.row < q.row ∨ (p.row = q.row ∧ p.col ≤ q.col)))

theorem le_def {p q : Position} :
    p ≤ q ↔ p.row < q.row ∨ (p.row = q.row ∧ p.col ≤ q.col) := Iff.rfl

theorem le_refl (p : Position) : p ≤ p := Or.inr ⟨rfl, Nat.le_refl _⟩

theorem le_trans {p q r : Position} (hpq : p ≤ q) (hqr : q ≤ r) : p ≤ r := by
  rw [le_def] at *
  omega

theorem le_after (p : Position) (c : Char) : p ≤ p.after c := by
  unfold after
  split
  · exact Or.inl (Nat.lt_succ_self _)
  · exact Or.inr ⟨rfl, Nat.le_add_right _ _⟩

end Position

/-- The part of a text from `start` up to `stop`. -/
structure Span where
  start : Position
  stop : Position
deriving DecidableEq, Inhabited

namespace Span

/-- `a` lies inside `b`. -/
def Within (a b : Span) : Prop := b.start ≤ a.start ∧ a.stop ≤ b.stop

/-- From the start of `a` to the end of `b`. -/
def through (a b : Span) : Span := ⟨a.start, b.stop⟩

end Span

end StubLayers
