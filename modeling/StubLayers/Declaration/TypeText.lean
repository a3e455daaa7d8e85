import StubLayers.Stub.Tree

/-!
The text of a type: its tokens written next to each other, comments left out. A string literal is
one token and keeps its blanks.
-/

namespace StubLayers.Expr

mutual

def typeText : Expr → String
  | leaf .comment _ _ => ""
  | leaf _ _ text => text
  | literal _ text _ => text
  | form _ _ children => typeTextAll children

def typeTextAll : List Expr → String
  | [] => ""
  | e :: rest => typeText e ++ typeTextAll rest

end

mutual

/-- The first name in an expression, in document order. -/
def firstName : Expr → Option String
  | leaf .name _ text => some text
  | leaf _ _ _ => none
  | literal _ _ parts => firstNameAll parts
  | form _ _ children => firstNameAll children

def firstNameAll : List Expr → Option String
  | [] => none
  | e :: rest => firstName e <|> firstNameAll rest

end

/-- What is called, if the expression is a call. -/
def callee? : Expr → Option Expr
  | form .call _ (function :: _) => some function
  | _ => none

end StubLayers.Expr

namespace StubLayers

/-- The part of a text behind its last dot. -/
def lastDotted (text : String) : String :=
  String.ofList (text.toList.reverse.takeWhile (· ≠ '.')).reverse

end StubLayers
