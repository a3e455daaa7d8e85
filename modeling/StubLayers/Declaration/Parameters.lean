import StubLayers.Declaration.Basic
import StubLayers.Declaration.TypeText

/-!
The parameters of a signature, from the entries of a parameter list. A `/` makes all parameters
before it positional only; a `*` or a starred name makes those behind it keyword only.
-/

namespace StubLayers

/-- The parameters read so far, and whether the next plain one is keyword only. -/
structure ParameterState where
  parameters : List Parameter
  keywordOnly : Bool
deriving Inhabited

namespace ParameterState

/-- The kind of a parameter by how its target is written. -/
def kindOf (s : ParameterState) : ParamTarget → ParameterKind
  | .star => .varPositional
  | .doubleStar => .varKeyword
  | .plain => if s.keywordOnly then .keywordOnly else .positional

/-- The name of a parameter: its target as written, without the stars in front. -/
def nameOf (text : String) : String := String.ofList (text.toList.dropWhile (· = '*'))

/-- One more parameter. -/
def push (s : ParameterState) (target : ParamTarget) (text : String) (type : Option String)
    (hasDefault : Bool) : ParameterState :=
  { parameters := s.parameters ++ [⟨nameOf text, type, s.kindOf target, hasDefault⟩]
    keywordOnly := s.keywordOnly || target = .star }

/-- One more entry of the list. A line join counts as a parameter. -/
def add (s : ParameterState) : ParamItem → ParameterState
  | .comment => s
  | .lineJoin text => s.push .plain text none false
  | .positionalMark =>
    { s with parameters := s.parameters.map ({ · with kind := .positionalOnly }) }
  | .keywordMark => { s with keywordOnly := true }
  | .param target text type hasDefault => s.push target text (type.map Expr.typeText) hasDefault

end ParameterState

/-- The parameters of a parameter list. -/
def parametersOf (items : List ParamItem) : List Parameter :=
  (items.foldl ParameterState.add ⟨[], false⟩).parameters

namespace Parameter

/-- A first parameter without type and default, to be filled by position. -/
def isReceiver (p : Parameter) : Bool :=
  p.type.isNone && !p.hasDefault && (p.kind = .positional || p.kind = .positionalOnly)

end Parameter

/-- The parameters without the receiver. -/
def dropReceiver : List Parameter → List Parameter
  | [] => []
  | p :: rest => if p.isReceiver then rest else p :: rest

namespace FunctionHead

/-- The signature of a function; none if nothing is annotated. In a class the receiver is left
out. -/
def signature? (head : FunctionHead) (hasReceiver : Bool) : Option Signature :=
  let all := parametersOf head.params
  let parameters := if hasReceiver then dropReceiver all else all
  let returns := head.returns.map Expr.typeText
  if returns.isNone && parameters.all (·.type.isNone) then none
  else some ⟨parameters, returns⟩

end FunctionHead

end StubLayers
