/-!
Patterns of characters. A text fits a pattern if taking it character by character leaves a pattern
that the empty text fits.
-/

namespace StubLayers.Text

inductive Pattern where
  | never
  | nothing
  | char (test : Char → Bool)
  | seq (a b : Pattern)
  | alt (a b : Pattern)
  | many (a : Pattern)

namespace Pattern

/-- Whether the empty text fits. -/
def fitsEmpty : Pattern → Bool
  | never => false
  | nothing => true
  | char _ => false
  | seq a b => a.fitsEmpty && b.fitsEmpty
  | alt a b => a.fitsEmpty || b.fitsEmpty
  | many _ => true

/-- One after the other, without useless parts. -/
def andThen : Pattern → Pattern → Pattern
  | never, _ => never
  | _, never => never
  | nothing, b => b
  | a, nothing => a
  | a, b => seq a b

/-- One or the other, without useless parts. -/
def orElse : Pattern → Pattern → Pattern
  | never, b => b
  | a, never => a
  | a, b => alt a b

/-- What has to follow the character `c`. -/
def after (c : Char) : Pattern → Pattern
  | never => never
  | nothing => never
  | char test => if test c then nothing else never
  | seq a b =>
    if a.fitsEmpty then ((a.after c).andThen b).orElse (b.after c) else (a.after c).andThen b
  | alt a b => (a.after c).orElse (b.after c)
  | many a => (a.after c).andThen (many a)

def fits (p : Pattern) : List Char → Bool
  | [] => p.fitsEmpty
  | c :: cs => (p.after c).fits cs

/-! ### Building patterns -/

def among (cs : String) : Pattern := char fun c => cs.toList.contains c

def one (c : Char) : Pattern := char (· = c)

def word (text : String) : Pattern := text.toList.foldr (fun c p => seq (one c) p) nothing

def inOrder (ps : List Pattern) : Pattern := ps.foldr seq nothing

def anyOf (ps : List Pattern) : Pattern := ps.foldr alt never

def words (texts : List String) : Pattern := anyOf (texts.map word)

def optionally (p : Pattern) : Pattern := alt nothing p

/-- One or more times. -/
def oneOrMore (p : Pattern) : Pattern := seq p (many p)

def digit : Pattern := char Char.isDigit

def sign : Pattern := optionally (among "+-")

end Pattern

end StubLayers.Text
