/-!
Paths, as they are written. A path is an anchor and a list of components: empty components and `.`
are dropped when it is read, `..` stays, because only the file tree can say what it leads to.

* `Path.ofString`, `Path.render`: reading and writing.
* `Path.relativeTo?`, `Path.isWithin`: comparison component by component.
-/

namespace StubLayers

/-- What a path starts from. Two leading slashes are an anchor of their own, three are one. -/
inductive Anchor where
  | relative
  | slash
  | doubleSlash
deriving DecidableEq, Inhabited

structure Path where
  anchor : Anchor
  parts : List String
deriving DecidableEq, Inhabited

namespace Anchor

def text : Anchor → String
  | relative => ""
  | slash => "/"
  | doubleSlash => "//"

def ofChars : List Char → Anchor
  | '/' :: '/' :: '/' :: _ => slash
  | '/' :: '/' :: _ => doubleSlash
  | '/' :: _ => slash
  | _ => relative

end Anchor

namespace Path

/-- The pieces between slashes. -/
def pieces : List Char → List (List Char)
  | [] => [[]]
  | c :: cs =>
    if c = '/' then [] :: pieces cs
    else
      match pieces cs with
      | [] => [[c]]
      | p :: ps => (c :: p) :: ps

/-- Pieces that name something. -/
def isComponent (piece : List Char) : Bool := !piece.isEmpty && piece != ['.']

def ofChars (cs : List Char) : Path :=
  ⟨Anchor.ofChars cs, ((pieces cs).filter isComponent).map String.ofList⟩

def ofString (s : String) : Path := ofChars s.toList

/-- The path that names the directory one stands in. -/
def here : Path := ⟨.relative, []⟩

def render (p : Path) : String :=
  if p = here then "." else p.anchor.text ++ String.intercalate "/" p.parts

def isAbsolute (p : Path) : Bool := p.anchor != .relative

/-- `q` as seen from `p`: an absolute path stays what it is. -/
def join (p q : Path) : Path := if q.isAbsolute then q else ⟨p.anchor, p.parts ++ q.parts⟩

/-- The way from `base` down to `p`, if `base` is a beginning of `p`. -/
def relativeTo? (p base : Path) : Option Path :=
  if p.anchor = base.anchor ∧ base.parts.isPrefixOf p.parts then
    some ⟨.relative, p.parts.drop base.parts.length⟩
  else none

/-- Whether `p` lies properly below `parent`, by its components alone. -/
def isWithin (p parent : Path) : Bool :=
  p.anchor = parent.anchor && parent.parts.isPrefixOf p.parts && p.parts != parent.parts

/-- The last component; empty for a bare anchor. -/
def name (p : Path) : String := p.parts.getLastD ""

def parent (p : Path) : Path := ⟨p.anchor, p.parts.dropLast⟩

/-- The path relative to `base` where it lies below it, else the path itself. -/
def seenFrom (p base : Path) : Path := (p.relativeTo? base).getD p

end Path

/-- Without the slashes at its end. -/
def dropTrailingSlashes (s : String) : String :=
  String.ofList (s.toList.reverse.dropWhile (· = '/')).reverse

/-- A directory as reports show it: an absolute one relative to the project where it lies inside. -/
def projectRelative (directory : String) (root : Path) : String :=
  let path := Path.ofString directory
  if path.isAbsolute then (path.seenFrom root).render else path.render

end StubLayers
