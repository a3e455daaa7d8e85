import StubLayers.Declaration.Parameters
import StubLayers.Declaration.Refusal

/-!
The declarations of a body. Adjacent overloads of one name make one method; the branches of a
conditional belong to the body around it; the bodies of functions are not looked at.
-/

namespace StubLayers

/-- Where a body stands: its file, the name of its owner, and whether the owner is a class. -/
structure Scope where
  file : String
  owner : String
  inClass : Bool
deriving DecidableEq, Inhabited

namespace Scope

/-- The name of a value or a function of the owner. -/
def memberName (s : Scope) (name : String) : String := s.owner ++ "#" ++ name

/-- The name of a class of the owner. -/
def className (s : Scope) (name : String) : String :=
  if s.owner = "" then name else s.owner ++ "." ++ name

/-- The scope of the body of a class. -/
def nested (s : Scope) (name : String) : Scope := ⟨s.file, s.className name, true⟩

def locate (s : Scope) (span : Span) : Location := Location.ofSpan s.file span

end Scope

/-! ### Decorators -/

/-- The text of a decorator; arguments of a call are left out. -/
def decoratorText (decorator : Expr) : String := (decorator.callee?.getD decorator).typeText

def overloadDecorators : List String :=
  ["overload", "typing.overload", "typing_extensions.overload"]

def propertyDecorators : List String :=
  ["property", "builtins.property", "cached_property", "functools.cached_property",
   "abc.abstractproperty"]

def isOverload (decorators : List Expr) : Bool :=
  decorators.any fun d => overloadDecorators.contains (decoratorText d)

def isProperty (decorators : List Expr) : Bool :=
  decorators.any fun d => propertyDecorators.contains (decoratorText d)

/-- The other accessors of a property declare nothing of their own. -/
def isAccessor (decorators : List Expr) : Bool :=
  decorators.any fun d =>
    ".setter".toList.isSuffixOf (decoratorText d).toList
      || ".deleter".toList.isSuffixOf (decoratorText d).toList

def isStatic (decorators : List Expr) : Bool :=
  decorators.any fun d => decoratorText d = "staticmethod"

/-- The signature of a function of the scope. -/
def Scope.signature? (s : Scope) (decorators : List Expr) (head : FunctionHead) :
    Option Signature :=
  head.signature? (s.inClass && !isStatic decorators)

/-- What a single function declares. -/
def functionDeclarations (s : Scope) (decorators : List Expr) (head : FunctionHead) :
    List Declaration :=
  if isAccessor decorators then []
  else if isProperty decorators then
    let signatures := (head.returns.map fun type => (⟨[], some type.typeText⟩ : Signature)).toList
    [⟨.attr, s.memberName head.name, s.locate head.span, signatures, []⟩]
  else
    [⟨.method, s.memberName head.name, s.locate head.span, (s.signature? decorators head).toList,
      []⟩]

/-! ### Overloads -/

/-- Adjacent overloads of one name. -/
structure OverloadGroup where
  name : String
  first : Span
  last : Span
  signatures : List Signature
deriving Inhabited

namespace OverloadGroup

def start (s : Scope) (decorators : List Expr) (head : FunctionHead) : OverloadGroup :=
  ⟨head.name, head.span, head.span, (s.signature? decorators head).toList⟩

/-- One more overload of the same name. -/
def extend (g : OverloadGroup) (s : Scope) (decorators : List Expr) (head : FunctionHead) :
    OverloadGroup :=
  { g with last := head.span, signatures := g.signatures ++ (s.signature? decorators head).toList }

/-- The method that the group declares. -/
def declaration (g : OverloadGroup) (s : Scope) : Declaration :=
  ⟨.method, s.memberName g.name, s.locate (g.first.through g.last), g.signatures, []⟩

end OverloadGroup

/-- The overload that a statement is, if it is one. -/
def overload? : Stmt → Option (List Expr × FunctionHead)
  | .function decorators head => if isOverload decorators then some (decorators, head) else none
  | _ => none

/-! ### Assignments -/

mutual

/-- The names that a target binds. -/
def targetNames : Expr → Except Refused (List String)
  | .leaf .name _ text => .ok [text]
  | .form .patternList _ children => targetNamesAll children
  | .form .tuplePattern _ children => targetNamesAll children
  | .form .listPattern _ children => targetNamesAll children
  | e => .error ⟨.target e.label, e.span⟩

/-- The names that the entries of a pattern bind; its brackets and commas bind none. -/
def targetNamesAll : List Expr → Except Refused (List String)
  | [] => .ok []
  | .leaf .mark _ _ :: rest => targetNamesAll rest
  | e :: rest => do
    let names ← targetNames e
    let more ← targetNamesAll rest
    return names ++ more

end

namespace Assignment

def left : Assignment → Expr
  | declare left _ => left
  | value left _ _ => left
  | chain left _ _ => left

/-- The type written with the first target. -/
def type? : Assignment → Option Expr
  | declare _ type => some type
  | value _ type _ => type
  | chain _ type _ => type

/-- The value at the end of a chain. -/
def finalValue? : Assignment → Option Expr
  | declare _ _ => none
  | value _ _ right => some right
  | chain _ _ right => right.finalValue?

/-- The names that all targets of a chain bind, in order. -/
def names : Assignment → Except Refused (List String)
  | declare left _ => targetNames left
  | value left _ _ => targetNames left
  | chain left _ right => do
    let first ← targetNames left
    let more ← right.names
    return first ++ more

end Assignment

def typeFactories : List String :=
  ["TypeVar", "ParamSpec", "TypeVarTuple", "NewType", "NamedTuple", "TypedDict"]

/-- A call that makes a type. -/
def isTypeFactory (value : Expr) : Bool :=
  match value.callee? with
  | some function => typeFactories.contains (lastDotted function.typeText)
  | none => false

/-- What the names of an assignment are declared as: an alias, a made type, or a value. -/
def assignmentShape (body : Assignment) : DeclarationKind × List Signature :=
  let written := body.type?.map Expr.typeText
  let signatures := (written.map fun type => (⟨[], some type⟩ : Signature)).toList
  if written.any (lastDotted · = "TypeAlias") then (.other, [])
  else if body.finalValue?.any isTypeFactory then (.other, signatures)
  else (.attr, signatures)

/-- One declaration for each name bound. -/
def assignmentDeclarations (s : Scope) (span : Span) (body : Assignment) :
    Except Refused (List Declaration) := do
  let names ← body.names
  let (kind, signatures) := assignmentShape body
  return (names.filter (· ≠ "__all__")).map fun name =>
    ⟨kind, s.memberName name, s.locate span, signatures, []⟩

/-! ### Bodies -/

/-- Expressions that say something to the reader only. -/
def isDocumentation : Expr → Bool
  | .literal _ _ _ => true
  | .form .strings _ _ => true
  | .leaf .ellipsis _ _ => true
  | _ => false

/-- Statements that declare nothing; any other of which only the kind counts is refused. -/
def skippedStatements : List StmtKind :=
  [.importStmt, .importFromStmt, .futureImportStmt, .passStmt, .comment]

mutual

/-- The declarations of a body; `pending` holds the overloads right before it. -/
def bodyDeclarations (s : Scope) (pending : Option OverloadGroup) :
    List Stmt → Except Refused (List Declaration)
  | [] => .ok (pending.map (·.declaration s)).toList
  | stmt :: rest =>
    match overload? stmt with
    | some (decorators, head) =>
      match pending with
      | some group =>
        if group.name = head.name then
          bodyDeclarations s (some (group.extend s decorators head)) rest
        else do
          let more ← bodyDeclarations s (some (.start s decorators head)) rest
          return group.declaration s :: more
      | none => bodyDeclarations s (some (.start s decorators head)) rest
    | none => do
      let here ← statementDeclarations s stmt
      let more ← bodyDeclarations s none rest
      return (pending.map (·.declaration s)).toList ++ here ++ more

/-- The declarations of a single statement. -/
def statementDeclarations (s : Scope) : Stmt → Except Refused (List Declaration)
  | .plain kind span =>
    if skippedStatements.contains kind then .ok [] else .error ⟨.statement kind.label, span⟩
  | .augmented _ => .ok []
  | .expression span first =>
    if isDocumentation first then .ok [] else .error ⟨.expression first.label, span⟩
  | .assignment span body => assignmentDeclarations s span body
  | .typeAlias span left =>
    match left.firstName with
    | some name => .ok [⟨.other, s.memberName name, s.locate span, [], []⟩]
    | none => .error ⟨.typeAlias, span⟩
  | .function decorators head => .ok (functionDeclarations s decorators head)
  | .classDef _ span name body => do
    let children ← bodyDeclarations (s.nested name) none body
    return [⟨.typeScope, s.className name, s.locate span, [], children⟩]
  | .conditional _ branches => branchDeclarations s branches

/-- The declarations of the branches of a conditional, one after the other. -/
def branchDeclarations (s : Scope) : List (List Stmt) → Except Refused (List Declaration)
  | [] => .ok []
  | branch :: rest => do
    let here ← bodyDeclarations s none branch
    let more ← branchDeclarations s rest
    return here ++ more

end

end StubLayers
