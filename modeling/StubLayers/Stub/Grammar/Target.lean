import StubLayers.Stub.Grammar.Basic

/-!
Targets of assignments and loops. A target is written like an expression, so it is read as one and
then taken as a pattern of names, attributes, subscripts, splats and bracketed lists of these.
-/

namespace StubLayers.Stub

/-- A name, an attribute or a subscript: what may stand behind a star. -/
def isPlace : Expr → Bool
  | .leaf .name _ _ => true
  | .form .member _ _ => true
  | .form .subscript _ _ => true
  | _ => false

mutual

/-- The pattern that an expression stands for as a target. -/
def pattern? : Expr → Option Expr
  | .leaf .name span text => some (.leaf .name span text)
  | .form .member span children => some (.form .member span children)
  | .form .subscript span children => some (.form .subscript span children)
  | .form .tuple span children => (patterns? children).map (.form .tuplePattern span)
  | .form .parenthesized span children => (patterns? children).map (.form .tuplePattern span)
  | .form .list span children => (patterns? children).map (.form .listPattern span)
  | .form .listSplat span children =>
    match children.getLast? with
    | some place => if isPlace place then some (.form .listSplatPattern span children) else none
    | none => none
  | _ => none

/-- The patterns in a bracketed list; brackets, commas, comments and line joins stay. -/
def patterns? : List Expr → Option (List Expr)
  | [] => some []
  | .leaf .mark span text :: rest => (patterns? rest).map (.leaf .mark span text :: ·)
  | .leaf .comment span text :: rest => (patterns? rest).map (.leaf .comment span text :: ·)
  | .leaf .lineJoin span text :: rest => (patterns? rest).map (.leaf .lineJoin span text :: ·)
  | child :: rest => do
    let head ← pattern? child
    let tail ← patterns? rest
    return head :: tail

end

/-- The target that the expressions in front of an assignment stand for: one pattern or, with
commas, a list of them. -/
def target? (whole : Expr) : Option Expr :=
  match whole with
  | .form .expressionList span children => (patterns? children).map (.form .patternList span)
  | expr => pattern? expr

end StubLayers.Stub
