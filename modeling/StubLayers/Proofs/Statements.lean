import StubLayers.Proofs.Refusals
import StubLayers.Proofs.Rules
import StubLayers.Stub.Module

/-!
# Statements as they are read

What holds of every statement of a stub in the grammar, because it holds of every statement when it
is read.

* `Rule.Yields P rule`: whatever the rule reads satisfies `P`.  There is one lemma for each way of
  putting rules together.
* `Stmt.Throughout P`: `P` holds of a statement and of all statements in it, at any depth.
* `ReadsSo P g`: what the rules for definitions, assignments and aliases have to do for `P`.
* `yields_statementRule`, `yields_suiteRule`: a round of the rules keeps `P` throughout.
* `forall_visited_of_parse?`: then `P` holds of all statements of a text.
* `titled_of_parse?`: every class has a name.
-/

namespace StubLayers

/-! ### What a rule yields -/

namespace Rule

/-- Whatever the rule reads satisfies `P`. -/
def Yields {α : Type} (P : α → Prop) (rule : Rule α) : Prop :=
  ∀ r, Ensures r rule fun a _ => P a

namespace Yields

variable {α β : Type} {P : α → Prop} {Q : β → Prop}

theorem pure {a : α} (h : P a) : Yields P (pure a : Rule α) := fun _ => .pure h

theorem failure : Yields P (failure : Rule α) := fun _ => .failure

theorem bind {rule : Rule α} {f : α → Rule β} (h : Yields P rule)
    (hf : ∀ a, P a → Yields Q (f a)) : Yields Q (rule >>= f) :=
  fun r => (h r).bind fun a s ha => hf a ha s

theorem bind_any {rule : Rule α} {f : α → Rule β} (hf : ∀ a, Yields Q (f a)) :
    Yields Q (rule >>= f) :=
  bind (P := fun _ => True) (fun _ _ _ _ => trivial) fun a _ => hf a

theorem either {first second : Rule α} (h : Yields P first) (h' : Yields P second) :
    Yields P (Rule.either first second) := by
  intro r a s hr
  rw [Rule.either] at hr
  cases hfirst : first r with
  | none =>
    rw [hfirst] at hr
    exact h' r a s hr
  | some result =>
    rw [hfirst] at hr
    exact h r a s (hfirst.trans hr)

theorem collect {step : Rule (Option α)} (h : Yields (fun item => ∀ a ∈ item, P a) step)
    {items : List α} (hitems : ∀ a ∈ items, P a) (fuel : Nat) :
    Yields (fun all => ∀ a ∈ all, P a) (Rule.collect step items fuel) := by
  induction fuel generalizing items with
  | zero => exact failure
  | succ fuel ih =>
    refine bind h fun item hitem => ?_
    cases item with
    | none => exact pure fun a ha => hitems a (List.mem_reverse.mp ha)
    | some a => exact ih (List.forall_mem_cons.mpr ⟨hitem a rfl, hitems⟩)

theorem many {step : Rule (Option α)} (h : Yields (fun item => ∀ a ∈ item, P a) step) :
    Yields (fun all => ∀ a ∈ all, P a) (Rule.many step) :=
  fun r => collect h (fun _ ha => absurd ha List.not_mem_nil) (r.left + 1) r

end Yields

end Rule

/-- **Names are words.** -/
theorem Rule.yields_name (e : Expect) : Rule.Yields (fun found => IsWord found.2) (Rule.name e) := by
  intro r
  refine .peek fun p hp => ?_
  split
  · rename_i text htoken
    split
    · refine .take (.pure ?_)
      obtain rfl : p.text = text := hp.token.eq_of_lexeme? (by rw [htoken]; rfl)
      exact hp.token.isWord htoken
    · exact .failure
  · exact .failure

theorem IsWord.ne_empty {text : String} (h : IsWord text) : text ≠ "" := by
  obtain ⟨c, cs, htext, -⟩ := h
  rintro rfl
  exact absurd htext (by simp)

/-! ### Statements in statements -/

namespace Stmt

/-- `P` holds of the statement and of every statement in it, at any depth. -/
def Throughout (P : Stmt → Prop) (stmt : Stmt) : Prop := ∀ inner ∈ stmt :: visitedIn stmt, P inner

/-- The statement is neither an assignment nor an alias nor a definition. -/
def IsPlain : Stmt → Prop
  | assignment _ _ => False
  | typeAlias _ _ => False
  | function _ _ => False
  | classDef _ _ _ _ => False
  | _ => True

end Stmt

theorem forall_visited_iff {P : Stmt → Prop} {stmts : List Stmt} :
    (∀ inner ∈ visited stmts, P inner) ↔
      ∀ stmt ∈ stmts, ∀ inner ∈ stmt :: visitedIn stmt, P inner := by
  induction stmts with
  | nil => simp [visited]
  | cons stmt rest ih =>
    rw [visited, ← List.cons_append, List.forall_mem_append, ih]
    simp only [List.forall_mem_cons]

theorem forall_visitedBranches_iff {P : Stmt → Prop} {branches : List (List Stmt)} :
    (∀ inner ∈ visitedBranches branches, P inner) ↔
      ∀ branch ∈ branches, ∀ inner ∈ visited branch, P inner := by
  induction branches with
  | nil => simp [visitedBranches]
  | cons branch rest ih =>
    rw [visitedBranches, List.forall_mem_append, ih, List.forall_mem_cons]

namespace Stmt

variable {P : Stmt → Prop}

theorem throughout_of_simple {stmt : Stmt} (hinside : visitedIn stmt = []) (h : P stmt) :
    stmt.Throughout P := by
  rw [Throughout, hinside]
  simpa using h

theorem throughout_classDef {decorators : List Expr} {span : Span} {name : String}
    {body : List Stmt} (h : P (classDef decorators span name body))
    (hbody : ∀ stmt ∈ body, stmt.Throughout P) :
    (classDef decorators span name body).Throughout P := by
  rw [Throughout, List.forall_mem_cons, visitedIn, forall_visited_iff]
  exact ⟨h, hbody⟩

theorem throughout_conditional {span : Span} {branches : List (List Stmt)}
    (h : P (conditional span branches))
    (hbranches : ∀ branch ∈ branches, ∀ stmt ∈ branch, stmt.Throughout P) :
    (conditional span branches).Throughout P := by
  rw [Throughout, List.forall_mem_cons, visitedIn, forall_visitedBranches_iff]
  exact ⟨h, fun branch hbranch => forall_visited_iff.mpr (hbranches branch hbranch)⟩

end Stmt

/-! ### Rules for statements -/

namespace Stub

open Rule

variable {P : Stmt → Prop}

/-- `P` holds throughout all statements of a list. -/
def AllThroughout (P : Stmt → Prop) (stmts : List Stmt) : Prop := ∀ stmt ∈ stmts, stmt.Throughout P

theorem allThroughout_nil : AllThroughout P [] := fun _ hstmt => absurd hstmt List.not_mem_nil

theorem allThroughout_append {stmts more : List Stmt} (h : AllThroughout P stmts)
    (h' : AllThroughout P more) : AllThroughout P (stmts ++ more) :=
  List.forall_mem_append.mpr ⟨h, h'⟩

theorem allThroughout_reverse {stmts : List Stmt} (h : AllThroughout P stmts) :
    AllThroughout P stmts.reverse :=
  fun stmt hstmt => h stmt (List.mem_reverse.mp hstmt)

/-- **A function is read with its name.** -/
theorem yields_functionStatement_of_isWord {g : Grammar} {decorators : List Expr}
    (h : ∀ head : FunctionHead, IsWord head.name → P (.function decorators head)) (p : Peek) :
    Yields (Stmt.Throughout P) (functionStatement g decorators p) := by
  refine .bind_any fun _ => ?_
  extract_lets rest
  have hrest : ∀ u, Yields (Stmt.Throughout P) (rest u) := by
    intro u
    refine (yields_name _).bind fun found hname => ?_
    repeat refine .bind_any fun _ => ?_
    exact .pure (Stmt.throughout_of_simple rfl (h _ hname))
  -- with or without `def` still to read, what follows is the same
  split
  · exact .bind_any fun _ => hrest ()
  · exact hrest ()

/-- The rules of `g` for single statements read them so that `P` holds. -/
structure ReadsSo (P : Stmt → Prop) (g : Grammar) : Prop where
  plain : ∀ stmt : Stmt, stmt.IsPlain → P stmt
  assignment : ∀ start span, Yields (fun found => ∀ body, found = .assignment body →
    P (.assignment span body)) (assignedRule g start)
  typeAlias : Yields (fun left => ∀ span, P (.typeAlias span left)) (g.type true .operand .inner)
  function : ∀ decorators p, Yields (Stmt.Throughout P) (functionStatement g decorators p)
  classDef : ∀ decorators span name body, IsWord name → P (.classDef decorators span name body)

/-- The rules that the grammar calls for bodies and statements keep `P` throughout. -/
structure Keeps (P : Stmt → Prop) (g : Grammar) : Prop where
  suite : Yields (AllThroughout P) g.suite
  statement : ∀ e, Yields (AllThroughout P) (g.statement e)

theorem yields_terminated {α : Type} {Q : α → Prop} {rule : Rule α} (h : Yields Q rule) :
    Yields Q (terminated rule) := by
  refine h.bind fun a ha => .bind_any fun p => ?_
  split
  · exact .pure ha
  · exact .failure

section

variable {g : Grammar} (hP : ReadsSo P g)

include hP

theorem ReadsSo.throughout_plain {stmt : Stmt} (hinside : visitedIn stmt = []) (h : stmt.IsPlain) :
    stmt.Throughout P := Stmt.throughout_of_simple hinside (hP.plain stmt h)

theorem allThroughout_extras (extras : List Expr) :
    AllThroughout P (extras.flatMap extraStmt) := by
  intro stmt hstmt
  obtain ⟨extra, -, hstmt⟩ := List.mem_flatMap.mp hstmt
  unfold extraStmt at hstmt
  split at hstmt
  · obtain rfl := List.mem_singleton.mp hstmt
    exact hP.throughout_plain rfl trivial
  · obtain rfl := List.mem_singleton.mp hstmt
    exact hP.throughout_plain rfl trivial
  · exact absurd hstmt List.not_mem_nil

theorem yields_plainStatement (kind : StmtKind) (p : Peek) (rest : Rule Unit) :
    Yields (Stmt.Throughout P) (plainStatement kind p rest) :=
  .bind_any fun _ => .bind_any fun _ => .bind_any fun _ =>
    .pure (hP.throughout_plain rfl trivial)

theorem yields_expressionStatement (start : Expect) (p : Peek) :
    Yields (Stmt.Throughout P) (expressionStatement g start p) := by
  refine Yields.bind (P := fun found => ∀ span body, found = .assignment body →
    P (.assignment span body)) (fun r found s hfound span => ?_) fun found hfound => ?_
  · exact hP.assignment start span r found s hfound
  · refine .bind_any fun stop => ?_
    cases found with
    | expression first whole => exact .pure (hP.throughout_plain rfl trivial)
    | assignment body => exact .pure (Stmt.throughout_of_simple rfl (hfound _ body rfl))
    | augmented => exact .pure (hP.throughout_plain rfl trivial)

theorem yields_aliasStatement (p : Peek) :
    Yields (Stmt.Throughout P) (aliasStatement g p) := by
  refine .bind_any fun _ => .bind_any fun _ => hP.typeAlias.bind fun left hleft => ?_
  repeat refine .bind_any fun _ => ?_
  exact .pure (Stmt.throughout_of_simple rfl (hleft _))

theorem yields_simpleStatement (start : Expect) :
    Yields (Stmt.Throughout P) (simpleStatement g start) := by
  refine .bind_any fun p => ?_
  have hexpression := yields_expressionStatement hP start p
  split
  all_goals first
    | exact yields_plainStatement hP _ _ _
    | exact hexpression
    | skip
  · split
    · exact yields_plainStatement hP _ _ _
    · exact yields_plainStatement hP _ _ _
  · split
    · exact yields_plainStatement hP _ _ _
    · exact .either (yields_terminated hexpression) (yields_plainStatement hP _ _ _)
  · exact .either (yields_terminated hexpression) (yields_plainStatement hP _ _ _)
  · exact .either (yields_terminated (yields_aliasStatement hP p)) hexpression

theorem yields_simpleRest {stmts : List Stmt} (h : AllThroughout P stmts) (fuel : Nat) :
    Yields (AllThroughout P) (simpleRest g stmts fuel) := by
  induction fuel generalizing stmts with
  | zero => exact .failure
  | succ fuel ih =>
    refine .bind_any fun p => ?_
    have hp := allThroughout_append h (allThroughout_extras hP p.extras)
    dsimp only
    split
    · exact .bind_any fun _ => .pure hp
    · split
      · refine .bind_any fun _ => .bind_any fun q => ?_
        have hmark : AllThroughout P [.plain .semicolon p.span] :=
          List.forall_mem_singleton.mpr (hP.throughout_plain rfl trivial)
        have hq := allThroughout_append (allThroughout_append hp hmark)
          (allThroughout_extras hP q.extras)
        split
        · exact .bind_any fun _ => .pure hq
        · refine .bind_any fun _ => (yields_simpleStatement hP _).bind fun next hnext => ?_
          exact ih (allThroughout_append hq (List.forall_mem_singleton.mpr hnext))
      · exact .failure

theorem yields_simpleStatements (start : Expect) :
    Yields (AllThroughout P) (simpleStatements g start) :=
  (yields_simpleStatement hP start).bind fun _ hfirst => .bind_any fun _ =>
    yields_simpleRest hP (List.forall_mem_singleton.mpr hfirst) _

variable (hg : Keeps P g)

include hg

theorem yields_blockRest {read : List Stmt} (h : AllThroughout P read) (fuel : Nat) :
    Yields (AllThroughout P) (blockRest g read fuel) := by
  induction fuel generalizing read with
  | zero => exact .failure
  | succ fuel ih =>
    refine .bind_any fun p => ?_
    have hread : AllThroughout P (if read.isEmpty then []
        else (p.extras.flatMap extraStmt).reverse ++ read) := by
      split
      · exact allThroughout_nil
      · exact allThroughout_append (allThroughout_reverse (allThroughout_extras hP p.extras)) h
    dsimp only
    split
    · exact .bind_any fun _ => .pure (allThroughout_reverse hread)
    · refine .bind_any fun _ => (hg.statement _).bind fun next hnext => ?_
      exact ih (allThroughout_append (allThroughout_reverse hnext) hread)

theorem yields_suiteRule : Yields (AllThroughout P) (suiteRule g) := by
  refine .bind_any fun p => ?_
  split
  · exact .bind_any fun _ => .bind_any fun _ => yields_blockRest hP hg allThroughout_nil _
  · exact .bind_any fun _ => .pure allThroughout_nil
  · exact .bind_any fun _ => yields_simpleStatements hP _

omit hP in
theorem yields_body : Yields (AllThroughout P) (body g) := .bind_any fun _ => hg.suite

omit hP in
theorem yields_guarded : Yields (AllThroughout P) (guarded g) := .bind_any fun _ => yields_body hg

omit hP in
theorem yields_optionalClause (outer : Expect) (word : String) :
    Yields (fun clauses => ∀ clause ∈ clauses, AllThroughout P clause)
      (optionalClause g outer word) := by
  refine .bind_any fun p => ?_
  split
  · exact .bind_any fun _ => (yields_body hg).bind fun _ h =>
      .pure (List.forall_mem_singleton.mpr h)
  · exact .pure fun _ hclause => absurd hclause List.not_mem_nil

/-- **A class is read with its name.** -/
theorem yields_classStatement (decorators : List Expr) (p : Peek) :
    Yields (Stmt.Throughout P) (classStatement g decorators p) := by
  refine .bind_any fun _ => (yields_name _).bind fun found hname => .bind_any fun _ =>
    .bind_any fun q => ?_
  have hrest : Yields (Stmt.Throughout P) (do
      let stmts ← body g
      return .classDef decorators ⟨p.span.start, ← position⟩ found.2 stmts) :=
    (yields_body hg).bind fun _ hbody => .bind_any fun _ =>
      .pure (Stmt.throughout_classDef (hP.classDef _ _ _ _ hname) hbody)
  split
  · exact .bind_any fun _ => hrest
  · exact hrest

theorem yields_decoratedStatement (p : Peek) :
    Yields (Stmt.Throughout P) (decoratedStatement g p) := by
  refine .bind_any fun first => .bind_any fun more => .bind_any fun q => ?_
  split
  · exact yields_classStatement hP hg _ q
  · split
    · exact hP.function _ q
    · exact .failure

theorem yields_conditionalStatement (outer : Expect) (p : Peek) :
    Yields (Stmt.Throughout P) (conditionalStatement g outer p) := by
  refine .bind_any fun _ => (yields_guarded hg).bind fun first hfirst => ?_
  refine .bind (.many (P := AllThroughout P) (.bind_any fun q => ?_)) fun others hothers => ?_
  · split
    · exact .bind_any fun _ => (yields_guarded hg).bind fun branch hbranch =>
        .pure (by simpa using hbranch)
    · exact .pure (by simp)
  · refine (yields_optionalClause hg outer "else").bind fun last hlast => .bind_any fun _ => ?_
    refine .pure (Stmt.throughout_conditional (hP.plain _ trivial) ?_)
    rw [List.cons_append, List.forall_mem_cons, List.forall_mem_append]
    exact ⟨hfirst, hothers, hlast⟩

omit hP hg in
theorem yields_of_some {rule found : Rule Stmt} (h : some rule = some found)
    (hrule : Yields (Stmt.Throughout P) rule) : Yields (Stmt.Throughout P) found :=
  Option.some.inj h ▸ hrule

omit hg in
theorem yields_asyncStatement {outer : Expect} {p : Peek} {rule : Rule Stmt}
    (h : asyncStatement g outer p = some rule) : Yields (Stmt.Throughout P) rule := by
  unfold asyncStatement at h
  dsimp only at h
  split_ifs at h
  · exact yields_of_some h (hP.function _ p)
  · exact yields_of_some h (yields_plainStatement hP _ _ _)
  · exact yields_of_some h (yields_plainStatement hP _ _ _)

theorem yields_compoundStatement {outer : Expect} {p : Peek} {rule : Rule Stmt}
    (h : compoundStatement g outer p = some rule) : Yields (Stmt.Throughout P) rule := by
  unfold compoundStatement at h
  split at h
  · exact yields_of_some h (yields_conditionalStatement hP hg outer p)
  · exact yields_of_some h (yields_plainStatement hP _ _ _)
  · exact yields_of_some h (yields_plainStatement hP _ _ _)
  · exact yields_of_some h (yields_plainStatement hP _ _ _)
  · exact yields_of_some h (yields_plainStatement hP _ _ _)
  · exact yields_of_some h (yields_classStatement hP hg _ p)
  · exact yields_of_some h (hP.function _ p)
  · exact yields_asyncStatement hP h
  · exact yields_of_some h (yields_decoratedStatement hP hg p)
  · exact absurd h (by simp)

theorem yields_statementRule (outer : Expect) :
    Yields (AllThroughout P) (statementRule g outer) := by
  refine .bind_any fun p => ?_
  split
  · rename_i rule hrule
    exact (yields_compoundStatement hP hg hrule).bind fun _ h =>
      .pure (List.forall_mem_singleton.mpr h)
  · split
    · refine .either (yields_simpleStatements hP outer) ?_
      exact (yields_plainStatement hP _ _ _).bind fun _ h =>
        .pure (List.forall_mem_singleton.mpr h)
    · exact yields_simpleStatements hP outer

theorem yields_moduleRest {read : List Stmt} (h : AllThroughout P read) (fuel : Nat) :
    Yields (AllThroughout P) (moduleRest g read fuel) := by
  induction fuel generalizing read with
  | zero => exact .failure
  | succ fuel ih =>
    refine .bind_any fun p => ?_
    have hread := allThroughout_append
      (allThroughout_reverse (allThroughout_extras hP p.extras)) h
    dsimp only
    split
    · exact .pure (allThroughout_reverse hread)
    · refine .bind_any fun _ => (hg.statement _).bind fun next hnext => ?_
      exact ih (allThroughout_append (allThroughout_reverse hnext) hread)

end

/-! ### Whole texts -/

section

variable (hP : ∀ depth, ReadsSo P (grammar depth))

include hP

theorem keeps_grammar (depth : Nat) : Keeps P (grammar depth) := by
  induction depth with
  | zero => exact ⟨.failure, fun _ => .failure⟩
  | succ depth ih =>
    exact ⟨yields_suiteRule (hP depth) ih, fun outer => yields_statementRule (hP depth) ih outer⟩

/-- **What holds of every statement as it is read** holds of every statement of a text. -/
theorem forall_visited_of_parse? {text : String} {stmts : List Stmt}
    (h : parse? text = some stmts) : ∀ stmt ∈ visited stmts, P stmt := by
  obtain ⟨⟨found, s⟩, hfound, rfl⟩ := Option.map_eq_some_iff.mp h
  exact forall_visited_iff.mpr
    (yields_moduleRest (hP _) (keeps_grammar hP _) allThroughout_nil _ _ _ _ hfound)

end

end Stub

/-! ### Classes have names -/

/-- If the statement is a class, it has a name. -/
def Stmt.HasTitle : Stmt → Prop
  | classDef _ _ name _ => name ≠ ""
  | _ => True

namespace Stub

open Rule

theorem readsSo_hasTitle (g : Grammar) : ReadsSo Stmt.HasTitle g where
  plain stmt h := by cases stmt <;> trivial
  assignment _ _ _ _ _ _ _ _ := trivial
  typeAlias _ _ _ _ _ := trivial
  function _ p := yields_functionStatement_of_isWord (fun _ _ => trivial) p
  classDef _ _ _ _ hname := hname.ne_empty

/-- **Every class of a text has a name.** -/
theorem titled_of_parse? {text : String} {stmts : List Stmt} (h : parse? text = some stmts) :
    ∀ stmt ∈ visited stmts, stmt.HasTitle :=
  forall_visited_of_parse? (fun depth => readsSo_hasTitle (grammar depth)) h

end Stub

end StubLayers
