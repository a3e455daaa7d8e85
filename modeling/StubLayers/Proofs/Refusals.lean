import Mathlib.Data.List.Basic
import StubLayers.Declaration.Source

/-!
# Why a stub is refused

A stub in the grammar is refused for one of its statements.  This file says for which one, apart
from the way in which declarations are put together.

* `visited`: the statements that are looked at, in document order.  Bodies of classes and branches
  of conditionals are, bodies of functions are not.
* `Offends stmt message span`: the statement is one that a stub may not hold; the message and the
  place that go with it.
* `refusal?_bodyDeclarations`: a body is refused as the first of its visited statements is that has
  anything to refuse, whatever overloads are pending.
* `refused_iff_offending` says this of whole texts.
-/

namespace StubLayers

/-! ### Statements in document order -/

mutual

/-- The statements of a body and those inside them, in document order. -/
def visited : List Stmt → List Stmt
  | [] => []
  | stmt :: rest => stmt :: (visitedIn stmt ++ visited rest)

/-- The statements inside a statement; a function has none. -/
def visitedIn : Stmt → List Stmt
  | .classDef _ _ _ body => visited body
  | .conditional _ branches => visitedBranches branches
  | _ => []

def visitedBranches : List (List Stmt) → List Stmt
  | [] => []
  | branch :: rest => visited branch ++ visitedBranches rest

end

/-! ### Offending statements -/

namespace Expr

mutual

/-- What a target is made of: itself, or the targets in its brackets or between its commas. -/
def targets : Expr → List Expr
  | form .patternList _ children => targetsAll children
  | form .tuplePattern _ children => targetsAll children
  | form .listPattern _ children => targetsAll children
  | e => [e]

def targetsAll : List Expr → List Expr
  | [] => []
  | leaf .mark _ _ :: rest => targetsAll rest
  | e :: rest => targets e ++ targetsAll rest

end

/-- The expression is a name and nothing else. -/
def IsName (e : Expr) : Prop := e.label = "identifier"

instance (e : Expr) : Decidable e.IsName := inferInstanceAs (Decidable (_ = _))

/-- There is a name somewhere in the expression. -/
inductive HoldsName : Expr → Prop
  | name (span : Span) (text : String) : HoldsName (leaf .name span text)
  | part {span : Span} {text : String} {parts : List Expr} {e : Expr} :
      e ∈ parts → HoldsName e → HoldsName (literal span text parts)
  | child {kind : Form} {span : Span} {children : List Expr} {e : Expr} :
      e ∈ children → HoldsName e → HoldsName (form kind span children)

end Expr

/-- The targets of an assignment, in the order of the chain. -/
def Assignment.targets : Assignment → List Expr
  | declare left _ => left.targets
  | value left _ _ => left.targets
  | chain left _ right => left.targets ++ right.targets

/-- The words for expressions that say something to the reader only. -/
def documentationLabels : List String := ["string", "concatenated_string", "ellipsis"]

/-- The words for statements that may stand anywhere and declare nothing. -/
def skippedLabels : List String :=
  ["import_statement", "import_from_statement", "future_import_statement", "pass_statement",
   "comment"]

/-- A stub may not hold the statement; `message` says why and `span` where. -/
inductive Offends : Stmt → String → Span → Prop
  | statement {kind : StmtKind} (span : Span) (h : kind.label ∉ skippedLabels) :
      Offends (.plain kind span) ("Unsupported statement `" ++ kind.label ++ "`") span
  | expression {first : Expr} (span : Span) (h : first.label ∉ documentationLabels) :
      Offends (.expression span first) ("Unsupported expression `" ++ first.label ++ "`") span
  | target {body : Assignment} {before after : List Expr} {e : Expr} (span : Span)
      (split : body.targets = before ++ e :: after) (names : ∀ t ∈ before, t.IsName)
      (h : ¬ e.IsName) :
      Offends (.assignment span body) ("Unsupported assignment target `" ++ e.label ++ "`") e.span
  | typeAlias {left : Expr} (span : Span) (h : ¬ left.HoldsName) :
      Offends (.typeAlias span left) "Unsupported type alias" span

def Stmt.Offending (stmt : Stmt) : Prop := ∃ message span, Offends stmt message span

/-! ### The refusal of a result -/

/-- The refusal, if a result is one. -/
def refusal? {α : Type} : Except Refused α → Option Refused
  | .ok _ => none
  | .error e => some e

/-- Of two results in a row the first refusal counts. -/
theorem refusal?_seq {α β γ : Type} (x : Except Refused α) (y : Except Refused β)
    (f : α → β → γ) :
    refusal? (do let a ← x; let b ← y; return f a b) = (refusal? x).or (refusal? y) := by
  cases x with
  | error e => rfl
  | ok a => cases y <;> rfl

theorem refusal?_map {α β : Type} (x : Except Refused α) (f : α → β) :
    refusal? (do let a ← x; return f a) = refusal? x := by
  cases x <;> rfl

/-! ### Assignments -/

def targetRefusal? (e : Expr) : Option Refused :=
  if e.IsName then none else some ⟨.target e.label, e.span⟩

mutual

theorem refusal?_targetNames : (e : Expr) →
    refusal? (targetNames e) = e.targets.findSome? targetRefusal?
  | .leaf kind _ _ => by cases kind <;> rfl
  | .literal _ _ _ => rfl
  | .form kind _ children => by
    have hchildren := refusal?_targetNamesAll children
    cases kind with
    | patternList => exact hchildren
    | tuplePattern => exact hchildren
    | listPattern => exact hchildren
    | _ => rfl

theorem refusal?_targetNamesAll : (es : List Expr) →
    refusal? (targetNamesAll es) = (Expr.targetsAll es).findSome? targetRefusal?
  | [] => rfl
  | e :: rest => by
    have he := refusal?_targetNames e
    have hrest := refusal?_targetNamesAll rest
    have hboth : refusal? (do let names ← targetNames e; let more ← targetNamesAll rest
                              return names ++ more) =
        (e.targets ++ Expr.targetsAll rest).findSome? targetRefusal? := by
      rw [refusal?_seq, he, hrest, List.findSome?_append]
    cases e with
    | leaf kind span text =>
      cases kind with
      | mark => exact hrest
      | _ => exact hboth
    | literal span text parts => exact hboth
    | form kind span children => exact hboth

end

theorem Assignment.refusal?_names (body : Assignment) :
    refusal? body.names = body.targets.findSome? targetRefusal? := by
  induction body with
  | declare left type => exact refusal?_targetNames left
  | value left type right => exact refusal?_targetNames left
  | chain left type right ih =>
    rw [names, refusal?_seq, refusal?_targetNames, ih, targets, List.findSome?_append]

/-! ### Names in expressions -/

namespace Expr

mutual

theorem firstName_eq_none_iff : (e : Expr) → (e.firstName = none ↔ ¬ e.HoldsName)
  | leaf kind span text => by
    constructor
    · intro h hname
      cases hname
      exact absurd h (by simp [firstName])
    · intro h
      cases kind with
      | name => exact absurd (HoldsName.name span text) h
      | _ => rfl
  | literal span text parts => by
    rw [firstName, firstNameAll_eq_none_iff parts]
    constructor
    · intro h hname
      cases hname with
      | part hmem he => exact h _ hmem he
    · exact fun h e hmem he => h (.part hmem he)
  | form kind span children => by
    rw [firstName, firstNameAll_eq_none_iff children]
    constructor
    · intro h hname
      cases hname with
      | child hmem he => exact h _ hmem he
    · exact fun h e hmem he => h (.child hmem he)

theorem firstNameAll_eq_none_iff : (es : List Expr) →
    (firstNameAll es = none ↔ ∀ e ∈ es, ¬ e.HoldsName)
  | [] => by simp [firstNameAll]
  | e :: rest => by
    rw [List.forall_mem_cons, ← firstName_eq_none_iff e, ← firstNameAll_eq_none_iff rest,
      firstNameAll]
    cases e.firstName <;> simp

end

end Expr

/-! ### Bodies -/

theorem Leaf.label_mem_documentationLabels (kind : Leaf) :
    kind.label ∈ documentationLabels ↔ kind = .ellipsis := by
  cases kind <;> decide

theorem Form.label_mem_documentationLabels (kind : Form) :
    kind.label ∈ documentationLabels ↔ kind = .strings := by
  cases kind <;> decide

theorem isDocumentation_iff (e : Expr) :
    isDocumentation e = true ↔ e.label ∈ documentationLabels := by
  cases e with
  | leaf kind span text =>
    rw [Expr.label, Leaf.label_mem_documentationLabels]
    cases kind <;> simp [isDocumentation]
  | literal span text parts => exact iff_of_true rfl List.mem_cons_self
  | form kind span children =>
    rw [Expr.label, Form.label_mem_documentationLabels]
    cases kind <;> simp [isDocumentation]

theorem skipped_iff (kind : StmtKind) :
    skippedStatements.contains kind = true ↔ kind.label ∈ skippedLabels := by
  cases kind <;> decide

/-- What there is to refuse about a statement itself. -/
def offence? : Stmt → Option Refused
  | .plain kind span =>
    if kind.label ∈ skippedLabels then none else some ⟨.statement kind.label, span⟩
  | .expression span first =>
    if first.label ∈ documentationLabels then none else some ⟨.expression first.label, span⟩
  | .assignment _ body => body.targets.findSome? targetRefusal?
  | .typeAlias span left => if left.firstName.isSome then none else some ⟨.typeAlias, span⟩
  | _ => none

theorem offence?_of_overload {stmt : Stmt} {found : List Expr × FunctionHead}
    (h : overload? stmt = some found) : offence? stmt = none ∧ visitedIn stmt = [] := by
  cases stmt with
  | function decorators head => exact ⟨rfl, rfl⟩
  | _ => exact absurd h (by simp [overload?])

theorem findSome?_of_nothing_inside {stmt : Stmt} (h : visitedIn stmt = []) :
    (stmt :: visitedIn stmt).findSome? offence? = offence? stmt := by
  rw [h, List.findSome?_cons]
  cases offence? stmt <;> rfl

mutual

/-- **The first offending statement decides**, and pending overloads have no part in it. -/
theorem refusal?_bodyDeclarations (s : Scope) (pending : Option OverloadGroup) :
    (body : List Stmt) →
      refusal? (bodyDeclarations s pending body) = (visited body).findSome? offence?
  | [] => rfl
  | stmt :: rest => by
    rw [bodyDeclarations, visited]
    cases hfound : overload? stmt with
    | some found =>
      obtain ⟨decorators, head⟩ := found
      obtain ⟨hnone, hinside⟩ := offence?_of_overload hfound
      dsimp only
      rw [List.findSome?_cons_of_isNone (by rw [hnone]; rfl), hinside, List.nil_append]
      cases pending with
      | none => exact refusal?_bodyDeclarations s _ rest
      | some group =>
        dsimp only
        by_cases hname : group.name = head.name
        · rw [if_pos hname]
          exact refusal?_bodyDeclarations s _ rest
        · rw [if_neg hname, refusal?_map]
          exact refusal?_bodyDeclarations s _ rest
    | none =>
      dsimp only
      rw [refusal?_seq, refusal?_statementDeclarations s stmt,
        refusal?_bodyDeclarations s none rest, ← List.cons_append, List.findSome?_append]

theorem refusal?_statementDeclarations (s : Scope) :
    (stmt : Stmt) →
      refusal? (statementDeclarations s stmt) = (stmt :: visitedIn stmt).findSome? offence?
  | .augmented _ | .function _ _ => rfl
  | .plain kind span => by
    rw [statementDeclarations, findSome?_of_nothing_inside rfl, offence?]
    by_cases h : kind.label ∈ skippedLabels
    · rw [if_pos ((skipped_iff kind).mpr h), if_pos h]
      rfl
    · rw [if_neg fun hd => h ((skipped_iff kind).mp hd), if_neg h]
      rfl
  | .expression span first => by
    rw [statementDeclarations, findSome?_of_nothing_inside rfl, offence?]
    by_cases h : first.label ∈ documentationLabels
    · rw [if_pos ((isDocumentation_iff first).mpr h), if_pos h]
      rfl
    · rw [if_neg fun hd => h ((isDocumentation_iff first).mp hd), if_neg h]
      rfl
  | .assignment span body => by
    rw [statementDeclarations, assignmentDeclarations, refusal?_map, body.refusal?_names,
      findSome?_of_nothing_inside rfl, offence?]
  | .typeAlias span left => by
    rw [statementDeclarations, findSome?_of_nothing_inside rfl, offence?]
    cases left.firstName <;> rfl
  | .classDef decorators span name body => by
    rw [statementDeclarations, refusal?_map, refusal?_bodyDeclarations (s.nested name) none body]
    rfl
  | .conditional span branches => by
    rw [statementDeclarations, refusal?_branchDeclarations s branches]
    rfl

theorem refusal?_branchDeclarations (s : Scope) :
    (branches : List (List Stmt)) →
      refusal? (branchDeclarations s branches) = (visitedBranches branches).findSome? offence?
  | [] => rfl
  | branch :: rest => by
    rw [branchDeclarations, visitedBranches, refusal?_seq, refusal?_bodyDeclarations s none branch,
      refusal?_branchDeclarations s rest, List.findSome?_append]

end

/-! ### The first offending statement -/

theorem findSome?_targets_eq_some_iff {es : List Expr} {e : Refused} :
    es.findSome? targetRefusal? = some e ↔
      ∃ before t after, es = before ++ t :: after ∧ (∀ t' ∈ before, t'.IsName) ∧ ¬ t.IsName ∧
        e = ⟨.target t.label, t.span⟩ := by
  rw [List.findSome?_eq_some_iff]
  simp only [targetRefusal?, ite_eq_left_iff, reduceCtorEq, imp_false, not_not]
  constructor
  · rintro ⟨before, t, after, hsplit, ht, hbefore⟩
    by_cases hname : t.IsName
    · exact absurd ht (by simp [hname])
    · rw [if_neg hname] at ht
      exact ⟨before, t, after, hsplit, hbefore, hname, (Option.some.inj ht).symm⟩
  · rintro ⟨before, t, after, hsplit, hbefore, hname, rfl⟩
    exact ⟨before, t, after, hsplit, if_neg hname, hbefore⟩

theorem offends_iff {stmt : Stmt} {message : String} {span : Span} :
    Offends stmt message span ↔
      ∃ cause, offence? stmt = some ⟨cause, span⟩ ∧ cause.message = message := by
  constructor
  · intro h
    cases h with
    | statement _ h => exact ⟨_, if_neg h, rfl⟩
    | expression _ h => exact ⟨_, if_neg h, rfl⟩
    | @target body before after e _ split names h =>
      exact ⟨_, findSome?_targets_eq_some_iff.mpr ⟨before, e, after, split, names, h, rfl⟩, rfl⟩
    | typeAlias _ h =>
      rw [← Expr.firstName_eq_none_iff] at h
      exact ⟨.typeAlias, by simp [offence?, h], rfl⟩
  · rintro ⟨cause, h, rfl⟩
    cases stmt with
    | plain kind span' =>
      by_cases hskipped : kind.label ∈ skippedLabels
      · exact absurd h (by simp [offence?, hskipped])
      · rw [offence?, if_neg hskipped] at h
        cases h
        exact .statement span hskipped
    | expression span' first =>
      by_cases hd : first.label ∈ documentationLabels
      · exact absurd h (by simp [offence?, hd])
      · rw [offence?, if_neg hd] at h
        cases h
        exact .expression span hd
    | assignment span' body =>
      obtain ⟨before, e, after, hsplit, hnames, hname, he⟩ := findSome?_targets_eq_some_iff.mp h
      cases he
      exact .target span' hsplit hnames hname
    | typeAlias span' left =>
      cases hname : left.firstName with
      | some name => exact absurd h (by simp [offence?, hname])
      | none =>
        rw [offence?, hname] at h
        cases h
        exact .typeAlias span ((Expr.firstName_eq_none_iff left).mp hname)
    | _ => exact absurd h (by simp [offence?])

theorem offending_iff {stmt : Stmt} : stmt.Offending ↔ offence? stmt ≠ none := by
  constructor
  · rintro ⟨message, span, h⟩
    obtain ⟨cause, h, -⟩ := offends_iff.mp h
    rw [h]
    exact Option.some_ne_none _
  · intro h
    obtain ⟨e, he⟩ := Option.ne_none_iff_exists'.mp h
    exact ⟨e.cause.message, e.span, offends_iff.mpr ⟨e.cause, he, rfl⟩⟩

theorem parseSource_eq_error_iff {text file module : String} {stmts : List Stmt}
    (parses : Stub.parse? text = some stmts) {e : ParseError} :
    parseSource text file module = .error e ↔
      ∃ refused, (visited stmts).findSome? offence? = some refused ∧
        e = ⟨refused.cause, Location.ofSpan file refused.span⟩ := by
  rw [parseSource, parses, ← refusal?_bodyDeclarations ⟨file, module, false⟩ none stmts]
  dsimp only [declarationsOf]
  cases bodyDeclarations ⟨file, module, false⟩ none stmts with
  | ok nodes => simp [refusal?]
  | error refused => simp [refusal?, eq_comm]

/-- **Why a text in the grammar is refused.**  It is refused exactly if one of its visited
statements is offending, and then with the message and the place of the first such statement. -/
theorem refused_iff_offending (text file module : String) (stmts : List Stmt)
    (parses : Stub.parse? text = some stmts) :
    ((∃ e, parseSource text file module = .error e) ↔ ∃ stmt ∈ visited stmts, stmt.Offending) ∧
    ∀ before stmt after message span, visited stmts = before ++ stmt :: after →
      (∀ earlier ∈ before, ¬ earlier.Offending) → Offends stmt message span →
      ∃ e, parseSource text file module = .error e ∧ e.cause.message = message ∧
        e.place = Location.ofSpan file span := by
  refine ⟨?_, ?_⟩
  · have hnone : (∀ stmt ∈ visited stmts, ¬ stmt.Offending) ↔
        (visited stmts).findSome? offence? = none := by
      simp only [List.findSome?_eq_none_iff, offending_iff, not_not]
    constructor
    · rintro ⟨e, he⟩
      by_contra hall
      obtain ⟨refused, hrefused, -⟩ := (parseSource_eq_error_iff parses).mp he
      rw [hnone.mp fun stmt hstmt h => hall ⟨stmt, hstmt, h⟩] at hrefused
      exact absurd hrefused (by simp)
    · rintro ⟨stmt, hstmt, h⟩
      have hsome : (visited stmts).findSome? offence? ≠ none := fun hn => hnone.mpr hn stmt hstmt h
      obtain ⟨refused, hrefused⟩ := Option.ne_none_iff_exists'.mp hsome
      exact ⟨_, (parseSource_eq_error_iff parses).mpr ⟨refused, hrefused, rfl⟩⟩
  · intro before stmt after message span hsplit hbefore h
    obtain ⟨cause, hcause, hmessage⟩ := offends_iff.mp h
    have hfirst : (visited stmts).findSome? offence? = some ⟨cause, span⟩ := by
      refine List.findSome?_eq_some_iff.mpr ⟨before, stmt, after, hsplit, hcause, ?_⟩
      intro earlier hearlier
      by_contra hoffence
      exact hbefore earlier hearlier (offending_iff.mpr hoffence)
    exact ⟨_, (parseSource_eq_error_iff parses).mpr ⟨_, hfirst, rfl⟩, hmessage, rfl⟩

/-- An overload is pending when the chain in the last branch is met, and a loop follows. -/
def offendingText : String :=
  "class A:\n if v:\n  x: int\n else:\n  @overload\n  def f(): ...\n  a = (b, c.d) = 1\n" ++
    "while v: pass\n"

theorem refused_iff_offending_chain :
    (Stub.parse? offendingText).isSome = true ∧
    ∃ e, parseSource offendingText "m.pyi" "m" = .error e ∧
      e.cause.message = "Unsupported assignment target `attribute`" ∧
      e.place = ⟨"m.pyi", 7, 10, 7, 13⟩ := by
  have hfirst : (visited ((Stub.parse? offendingText).getD [])).findSome? offence? =
      some ⟨.target "attribute", ⟨⟨6, 10⟩, ⟨6, 13⟩⟩⟩ := by decide +kernel
  cases parses : Stub.parse? offendingText with
  | none =>
    rw [parses] at hfirst
    exact absurd hfirst (by decide)
  | some stmts =>
    rw [parses, Option.getD_some, List.findSome?_eq_some_iff] at hfirst
    obtain ⟨before, stmt, after, hsplit, hoffence, hbefore⟩ := hfirst
    refine ⟨rfl, (refused_iff_offending offendingText "m.pyi" "m" stmts parses).2 before stmt after
      _ _ hsplit ?_ (offends_iff.mpr ⟨_, hoffence, rfl⟩)⟩
    exact fun earlier hearlier h => offending_iff.mp h (hbefore earlier hearlier)

end StubLayers
