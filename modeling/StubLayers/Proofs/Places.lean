import Mathlib.Data.List.Basic
import StubLayers.Declaration.Body

/-!
# Declarations without places

What a body declares hangs on its places only through locations.  This file forgets places, on
both sides of the reading.

* `Expr.unplaced`, `Stmt.unplaced`, `Declaration.unplaced`: the same thing with no place in it.
* `outline`: a result without locations, which keeps kinds, names, signatures and children, and the
  cause of a refusal.
* `outline_bodyDeclarations`: the outline of a body's declarations is that of the body without
  places, in the scope without its file.
-/

namespace StubLayers

/-! ### Trees without places -/

namespace Expr

mutual

/-- The expression with no place in it. -/
def unplaced : Expr → Expr
  | leaf kind _ text => leaf kind default text
  | literal _ text parts => literal default text (unplacedAll parts)
  | form kind _ children => form kind default (unplacedAll children)

def unplacedAll : List Expr → List Expr
  | [] => []
  | e :: rest => unplaced e :: unplacedAll rest

end

end Expr

def ParamItem.unplaced : ParamItem → ParamItem
  | param target text type hasDefault => param target text (type.map Expr.unplaced) hasDefault
  | item => item

def Assignment.unplaced : Assignment → Assignment
  | declare left type => declare left.unplaced type.unplaced
  | value left type right => value left.unplaced (type.map Expr.unplaced) right.unplaced
  | chain left type right => chain left.unplaced (type.map Expr.unplaced) right.unplaced

def FunctionHead.unplaced (head : FunctionHead) : FunctionHead :=
  ⟨default, head.name, head.params.map ParamItem.unplaced, head.returns.map Expr.unplaced⟩

namespace Stmt

mutual

/-- The statement with no place in it. -/
def unplaced : Stmt → Stmt
  | plain kind _ => plain kind default
  | expression _ first => expression default first.unplaced
  | augmented _ => augmented default
  | assignment _ body => assignment default body.unplaced
  | typeAlias _ left => typeAlias default left.unplaced
  | function decorators head => function (decorators.map Expr.unplaced) head.unplaced
  | classDef decorators _ name body =>
    classDef (decorators.map Expr.unplaced) default name (unplacedAll body)
  | conditional _ branches => conditional default (unplacedBranches branches)

def unplacedAll : List Stmt → List Stmt
  | [] => []
  | stmt :: rest => unplaced stmt :: unplacedAll rest

def unplacedBranches : List (List Stmt) → List (List Stmt)
  | [] => []
  | branch :: rest => unplacedAll branch :: unplacedBranches rest

end

end Stmt

/-- The scope without its file. -/
def Scope.unplaced (s : Scope) : Scope := ⟨"", s.owner, s.inClass⟩

def OverloadGroup.unplaced (g : OverloadGroup) : OverloadGroup :=
  ⟨g.name, default, default, g.signatures⟩

namespace Declaration

mutual

/-- The declaration with no location in it. -/
def unplaced : Declaration → Declaration
  | ⟨kind, name, _, signatures, children⟩ =>
    ⟨kind, name, default, signatures, unplacedAll children⟩

def unplacedAll : List Declaration → List Declaration
  | [] => []
  | d :: rest => unplaced d :: unplacedAll rest

end

@[simp] theorem kind_unplaced (d : Declaration) : d.unplaced.kind = d.kind := by
  cases d; rfl

@[simp] theorem name_unplaced (d : Declaration) : d.unplaced.name = d.name := by
  cases d; rfl

@[simp] theorem signatures_unplaced (d : Declaration) : d.unplaced.signatures = d.signatures := by
  cases d; rfl

theorem unplacedAll_eq_map (ds : List Declaration) : unplacedAll ds = ds.map unplaced := by
  induction ds with
  | nil => rfl
  | cons d ds ih => rw [unplacedAll, ih, List.map_cons]

@[simp] theorem unplacedAll_append (ds es : List Declaration) :
    unplacedAll (ds ++ es) = unplacedAll ds ++ unplacedAll es := by
  rw [unplacedAll_eq_map, unplacedAll_eq_map, unplacedAll_eq_map, List.map_append]

theorem walkAll_eq_flatMap (ds : List Declaration) : walkAll ds = ds.flatMap walk := by
  induction ds with
  | nil => rfl
  | cons d ds ih => rw [walkAll, ih, List.flatMap_cons]

mutual

/-- A walk goes the same way with no location in it. -/
theorem walk_unplaced : (d : Declaration) → walk d.unplaced = (walk d).map unplaced
  | ⟨kind, name, location, signatures, children⟩ => by
    rw [unplaced, walk, walk, List.map_cons, walkAll_unplacedAll children]
    rfl

theorem walkAll_unplacedAll : (ds : List Declaration) →
    walkAll (unplacedAll ds) = (walkAll ds).map unplaced
  | [] => rfl
  | d :: rest => by
    rw [unplacedAll, walkAll, walkAll, List.map_append, walk_unplaced d, walkAll_unplacedAll rest]

end

end Declaration

/-- A result without locations: the declarations, or the cause of the refusal. -/
def outline : Except Refused (List Declaration) → Except Refusal (List Declaration)
  | .ok ds => .ok (Declaration.unplacedAll ds)
  | .error e => .error e.cause

/-! ### Texts of expressions -/

namespace Expr

mutual

@[simp] theorem typeText_unplaced : (e : Expr) → e.unplaced.typeText = e.typeText
  | leaf kind _ _ => by cases kind <;> rfl
  | literal _ _ _ => rfl
  | form _ _ children => by
    rw [unplaced, typeText, typeText]
    exact typeTextAll_unplacedAll children

theorem typeTextAll_unplacedAll : (es : List Expr) →
    typeTextAll (unplacedAll es) = typeTextAll es
  | [] => rfl
  | e :: rest => by
    rw [unplacedAll, typeTextAll, typeTextAll, typeText_unplaced e, typeTextAll_unplacedAll rest]

end

mutual

@[simp] theorem firstName_unplaced : (e : Expr) → e.unplaced.firstName = e.firstName
  | leaf kind _ _ => by cases kind <;> rfl
  | literal _ _ parts => by
    rw [unplaced, firstName, firstName]
    exact firstNameAll_unplacedAll parts
  | form _ _ children => by
    rw [unplaced, firstName, firstName]
    exact firstNameAll_unplacedAll children

theorem firstNameAll_unplacedAll : (es : List Expr) →
    firstNameAll (unplacedAll es) = firstNameAll es
  | [] => rfl
  | e :: rest => by
    rw [unplacedAll, firstNameAll, firstNameAll, firstName_unplaced e,
      firstNameAll_unplacedAll rest]

end

@[simp] theorem label_unplaced (e : Expr) : e.unplaced.label = e.label := by
  cases e <;> rfl

theorem callee?_unplaced (e : Expr) : e.unplaced.callee? = e.callee?.map unplaced := by
  cases e with
  | leaf kind span text => rfl
  | literal span text parts => rfl
  | form kind span children =>
    cases children with
    | nil => cases kind <;> rfl
    | cons c rest => cases kind <;> rfl

end Expr

@[simp] theorem isDocumentation_unplaced (e : Expr) :
    isDocumentation e.unplaced = isDocumentation e := by
  cases e with
  | leaf kind span text => cases kind <;> rfl
  | literal span text parts => rfl
  | form kind span children => cases kind <;> rfl

@[simp] theorem decoratorText_unplaced (e : Expr) : decoratorText e.unplaced = decoratorText e := by
  rw [decoratorText, Expr.callee?_unplaced, decoratorText]
  cases e.callee? with
  | none => exact Expr.typeText_unplaced e
  | some function => exact Expr.typeText_unplaced function

@[simp] theorem isTypeFactory_unplaced (e : Expr) : isTypeFactory e.unplaced = isTypeFactory e := by
  rw [isTypeFactory, Expr.callee?_unplaced, isTypeFactory]
  cases e.callee? with
  | none => rfl
  | some function => simp

/-! ### Functions -/

@[simp] theorem isOverload_unplaced (decorators : List Expr) :
    isOverload (decorators.map Expr.unplaced) = isOverload decorators := by
  simp [isOverload, List.any_map, Function.comp_def]

@[simp] theorem isProperty_unplaced (decorators : List Expr) :
    isProperty (decorators.map Expr.unplaced) = isProperty decorators := by
  simp [isProperty, List.any_map, Function.comp_def]

@[simp] theorem isAccessor_unplaced (decorators : List Expr) :
    isAccessor (decorators.map Expr.unplaced) = isAccessor decorators := by
  simp [isAccessor, List.any_map, Function.comp_def]

@[simp] theorem isStatic_unplaced (decorators : List Expr) :
    isStatic (decorators.map Expr.unplaced) = isStatic decorators := by
  simp [isStatic, List.any_map, Function.comp_def]

theorem map_typeText_unplaced (type : Option Expr) :
    (type.map Expr.unplaced).map Expr.typeText = type.map Expr.typeText := by
  cases type with
  | none => rfl
  | some e => simp

theorem ParameterState.add_unplaced (state : ParameterState) (item : ParamItem) :
    state.add item.unplaced = state.add item := by
  cases item with
  | param target text type hasDefault =>
    rw [ParamItem.unplaced, ParameterState.add, map_typeText_unplaced, ParameterState.add]
  | _ => rfl

@[simp] theorem parametersOf_unplaced (items : List ParamItem) :
    parametersOf (items.map ParamItem.unplaced) = parametersOf items := by
  simp only [parametersOf, List.foldl_map, ParameterState.add_unplaced]

@[simp] theorem FunctionHead.signature?_unplaced (head : FunctionHead) (hasReceiver : Bool) :
    head.unplaced.signature? hasReceiver = head.signature? hasReceiver := by
  simp only [signature?, unplaced, parametersOf_unplaced, map_typeText_unplaced]

@[simp] theorem Scope.signature?_unplaced (s : Scope) (decorators : List Expr)
    (head : FunctionHead) :
    s.unplaced.signature? (decorators.map Expr.unplaced) head.unplaced =
      s.signature? decorators head := by
  simp only [Scope.signature?, Scope.unplaced, isStatic_unplaced,
    FunctionHead.signature?_unplaced]

theorem overload?_unplaced (stmt : Stmt) :
    overload? stmt.unplaced =
      (overload? stmt).map fun found => (found.1.map Expr.unplaced, found.2.unplaced) := by
  cases stmt with
  | function decorators head =>
    rw [Stmt.unplaced, overload?, isOverload_unplaced, overload?]
    by_cases h : isOverload decorators = true
    · rw [if_pos h, if_pos h]
      rfl
    · rw [if_neg h, if_neg h]
      rfl
  | _ => rfl

theorem unplacedAll_functionDeclarations (s : Scope) (decorators : List Expr)
    (head : FunctionHead) :
    Declaration.unplacedAll (functionDeclarations s decorators head) =
      Declaration.unplacedAll
        (functionDeclarations s.unplaced (decorators.map Expr.unplaced) head.unplaced) := by
  have hreturns : (head.unplaced.returns.map fun type => (⟨[], some type.typeText⟩ : Signature)) =
      head.returns.map fun type => (⟨[], some type.typeText⟩ : Signature) := by
    rw [FunctionHead.unplaced]
    cases head.returns <;> simp
  rw [functionDeclarations, functionDeclarations, isAccessor_unplaced, isProperty_unplaced,
    Scope.signature?_unplaced, hreturns]
  by_cases ha : isAccessor decorators = true
  · rw [if_pos ha, if_pos ha]
  · rw [if_neg ha, if_neg ha]
    by_cases hp : isProperty decorators = true
    · rw [if_pos hp, if_pos hp]
      rfl
    · rw [if_neg hp, if_neg hp]
      rfl

namespace OverloadGroup

theorem unplaced_start (s : Scope) (decorators : List Expr) (head : FunctionHead) :
    (start s decorators head).unplaced =
      start s.unplaced (decorators.map Expr.unplaced) head.unplaced := by
  rw [start, start, Scope.signature?_unplaced]
  rfl

theorem unplaced_extend (g : OverloadGroup) (s : Scope) (decorators : List Expr)
    (head : FunctionHead) :
    (g.extend s decorators head).unplaced =
      g.unplaced.extend s.unplaced (decorators.map Expr.unplaced) head.unplaced := by
  rw [extend, extend, Scope.signature?_unplaced]
  rfl

end OverloadGroup

/-! ### Assignments -/

/-- A result without the place of a refusal. -/
def causes {α : Type} : Except Refused α → Except Refusal α
  | .ok a => .ok a
  | .error e => .error e.cause

theorem causes_append {x x' y y' : Except Refused (List String)} (hx : causes x = causes x')
    (hy : causes y = causes y') :
    causes (do let a ← x; let b ← y; return a ++ b) =
      causes (do let a ← x'; let b ← y'; return a ++ b) := by
  cases x <;> cases x' <;> simp only [causes, Except.error.injEq, Except.ok.injEq,
    reduceCtorEq] at hx
  · exact congrArg Except.error hx
  · subst hx
    cases y <;> cases y' <;> simp only [causes, Except.error.injEq, Except.ok.injEq,
      reduceCtorEq] at hy
    · exact congrArg Except.error hy
    · subst hy
      rfl

mutual

theorem causes_targetNames : (e : Expr) → causes (targetNames e.unplaced) = causes (targetNames e)
  | .leaf kind _ _ => by cases kind <;> rfl
  | .literal _ _ _ => rfl
  | .form kind _ children => by
    have hchildren := causes_targetNamesAll children
    cases kind with
    | patternList => exact hchildren
    | tuplePattern => exact hchildren
    | listPattern => exact hchildren
    | _ => rfl

theorem causes_targetNamesAll : (es : List Expr) →
    causes (targetNamesAll (Expr.unplacedAll es)) = causes (targetNamesAll es)
  | [] => rfl
  | e :: rest => by
    have he := causes_targetNames e
    have hrest := causes_targetNamesAll rest
    cases e with
    | leaf kind span text =>
      cases kind with
      | mark => exact hrest
      | _ => exact causes_append he hrest
    | literal span text parts => exact causes_append he hrest
    | form kind span children => exact causes_append he hrest

end

namespace Assignment

theorem causes_names (body : Assignment) : causes body.unplaced.names = causes body.names := by
  induction body with
  | declare left type => exact causes_targetNames left
  | value left type right => exact causes_targetNames left
  | chain left type right ih => exact causes_append (causes_targetNames left) ih

theorem type?_unplaced (body : Assignment) :
    body.unplaced.type? = body.type?.map Expr.unplaced := by
  cases body <;> rfl

theorem finalValue?_unplaced (body : Assignment) :
    body.unplaced.finalValue? = body.finalValue?.map Expr.unplaced := by
  induction body with
  | declare left type => rfl
  | value left type right => rfl
  | chain left type right ih => exact ih

end Assignment

theorem assignmentShape_unplaced (body : Assignment) :
    assignmentShape body.unplaced = assignmentShape body := by
  have hfactory : (body.finalValue?.map Expr.unplaced).any isTypeFactory =
      body.finalValue?.any isTypeFactory := by
    cases body.finalValue? <;> simp
  simp only [assignmentShape, Assignment.type?_unplaced, Assignment.finalValue?_unplaced,
    map_typeText_unplaced, hfactory]

theorem outline_assignmentDeclarations (s : Scope) (span : Span) (body : Assignment) :
    outline (assignmentDeclarations s span body) =
      outline (assignmentDeclarations s.unplaced default body.unplaced) := by
  have hnames := body.causes_names
  rw [assignmentDeclarations, assignmentDeclarations, assignmentShape_unplaced]
  cases hx : body.unplaced.names <;> cases hy : body.names <;> rw [hx, hy] at hnames <;>
    simp only [causes, Except.error.injEq, Except.ok.injEq, reduceCtorEq] at hnames
  · exact congrArg Except.error hnames.symm
  · subst hnames
    refine congrArg Except.ok ?_
    rw [Declaration.unplacedAll_eq_map, Declaration.unplacedAll_eq_map, List.map_map, List.map_map]
    rfl

/-! ### Bodies -/

theorem outline_append (pre : List Declaration) (x y : Except Refused (List Declaration)) :
    outline (do let here ← x; let more ← y; return pre ++ here ++ more) =
      (do let here ← outline x; let more ← outline y
          return Declaration.unplacedAll pre ++ here ++ more) := by
  cases x with
  | error e => rfl
  | ok here =>
    cases y with
    | error e => rfl
    | ok more =>
      refine congrArg Except.ok ?_
      rw [Declaration.unplacedAll_append, Declaration.unplacedAll_append]

theorem outline_cons (d : Declaration) (y : Except Refused (List Declaration)) :
    outline (do let more ← y; return d :: more) =
      (do let more ← outline y; return d.unplaced :: more) := by
  cases y <;> rfl

theorem outline_class (name : String) (location : Location)
    (x : Except Refused (List Declaration)) :
    outline (do let children ← x; return [⟨.typeScope, name, location, [], children⟩]) =
      (do let children ← outline x; return [⟨.typeScope, name, default, [], children⟩]) := by
  cases x <;> rfl

theorem unplacedAll_flush (pending : Option OverloadGroup) (s : Scope) :
    Declaration.unplacedAll (pending.map (·.declaration s)).toList =
      Declaration.unplacedAll
        ((pending.map OverloadGroup.unplaced).map (·.declaration s.unplaced)).toList := by
  cases pending <;> rfl

mutual

/-- **Declarations hang on places only through locations.** -/
theorem outline_bodyDeclarations (s : Scope) (pending : Option OverloadGroup) :
    (body : List Stmt) → outline (bodyDeclarations s pending body) =
      outline (bodyDeclarations s.unplaced (pending.map OverloadGroup.unplaced)
        (Stmt.unplacedAll body))
  | [] => by
    rw [Stmt.unplacedAll, bodyDeclarations, bodyDeclarations]
    exact congrArg Except.ok (unplacedAll_flush pending s)
  | stmt :: rest => by
    rw [Stmt.unplacedAll, bodyDeclarations, bodyDeclarations, overload?_unplaced]
    cases overload? stmt with
    | some found =>
      obtain ⟨decorators, head⟩ := found
      dsimp only [Option.map_some]
      rw [← OverloadGroup.unplaced_start]
      cases pending with
      | none => exact outline_bodyDeclarations s (some (.start s decorators head)) rest
      | some group =>
        dsimp only [Option.map_some]
        rw [show head.unplaced.name = head.name from rfl,
          show group.unplaced.name = group.name from rfl]
        by_cases hname : group.name = head.name
        · rw [if_pos hname, if_pos hname, ← OverloadGroup.unplaced_extend]
          exact outline_bodyDeclarations s (some (group.extend s decorators head)) rest
        · rw [if_neg hname, if_neg hname, outline_cons, outline_cons,
            outline_bodyDeclarations s (some (.start s decorators head)) rest]
          rfl
    | none =>
      dsimp only [Option.map_none]
      rw [outline_append, outline_append, outline_statementDeclarations s stmt,
        outline_bodyDeclarations s none rest, unplacedAll_flush]
      rfl

theorem outline_statementDeclarations (s : Scope) :
    (stmt : Stmt) → outline (statementDeclarations s stmt) =
      outline (statementDeclarations s.unplaced stmt.unplaced)
  | .plain kind _ => by
    rw [Stmt.unplaced, statementDeclarations, statementDeclarations]
    by_cases h : skippedStatements.contains kind = true
    · rw [if_pos h, if_pos h]
    · rw [if_neg h, if_neg h]
      rfl
  | .augmented _ => rfl
  | .expression _ first => by
    rw [Stmt.unplaced, statementDeclarations, statementDeclarations, isDocumentation_unplaced,
      Expr.label_unplaced]
    by_cases h : isDocumentation first = true
    · rw [if_pos h, if_pos h]
    · rw [if_neg h, if_neg h]
      rfl
  | .assignment span body => by
    rw [Stmt.unplaced, statementDeclarations, statementDeclarations]
    exact outline_assignmentDeclarations s span body
  | .typeAlias _ left => by
    rw [Stmt.unplaced, statementDeclarations, statementDeclarations, Expr.firstName_unplaced]
    cases left.firstName <;> rfl
  | .function decorators head => by
    rw [Stmt.unplaced, statementDeclarations, statementDeclarations]
    exact congrArg Except.ok (unplacedAll_functionDeclarations s decorators head)
  | .classDef _ _ name body => by
    rw [Stmt.unplaced, statementDeclarations, statementDeclarations, outline_class, outline_class,
      outline_bodyDeclarations (s.nested name) none body]
    rfl
  | .conditional _ branches => by
    rw [Stmt.unplaced, statementDeclarations, statementDeclarations]
    exact outline_branchDeclarations s branches

theorem outline_branchDeclarations (s : Scope) :
    (branches : List (List Stmt)) → outline (branchDeclarations s branches) =
      outline (branchDeclarations s.unplaced (Stmt.unplacedBranches branches))
  | [] => rfl
  | branch :: rest => by
    have hseq := fun x y => outline_append [] x y
    simp only [List.nil_append] at hseq
    rw [Stmt.unplacedBranches, branchDeclarations, branchDeclarations, hseq, hseq,
      outline_bodyDeclarations s none branch, outline_branchDeclarations s rest]
    rfl

end

end StubLayers
