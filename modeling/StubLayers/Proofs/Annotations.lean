import StubLayers.Proofs.Shapes
import StubLayers.Proofs.Types

/-!
# Annotations and parameter lists of a text

What the layout of a text does to the signatures that are read from it.

* `Stmt.Annotated`: the annotations of a statement are made of lexemes, and its parameter list is a
  layout of entries.  `annotated_of_parse?` says so of all statements of a text.
* `Stmt.Signs`: a statement gives a signature, made of some annotations.  `signed_bodyDeclarations`
  follows it through bodies, classes and branches: every signature of a text is given by one of its
  statements.
* `SameOrGlued`: two lists of lexemes are the same, or two lexemes of one have run together in the
  other.
* `typeText_of_layout`: the texts of annotations, and signatures, up to their layout.
* `parametersOf_of_layout`: the parameters of a list, up to its layout.
-/

namespace StubLayers

/-! ### Annotations -/

/-- The type written in an entry of a parameter list. -/
def ParamItem.type? : ParamItem → Option Expr
  | param _ _ type _ => type
  | _ => none

/-- The types written in the head of a function, in order. -/
def FunctionHead.annotations (head : FunctionHead) : List Expr :=
  head.params.filterMap ParamItem.type? ++ head.returns.toList

/-- The types written in a statement that signatures are made of. -/
def Stmt.annotations : Stmt → List Expr
  | assignment _ body => body.type?.toList
  | function _ head => head.annotations
  | _ => []

/-- The annotations of a statement are made of lexemes, and its parameters are a layout. -/
def Stmt.Annotated : Stmt → Prop
  | assignment _ body => ∀ e ∈ body.type?, e.Lexical
  | function _ head => (∃ es, LaidOut es head.params) ∧ ∀ e ∈ head.returns, e.Lexical
  | _ => True

theorem LaidOut.lexical {es : List ParamEntry} {items : List ParamItem} (h : LaidOut es items) :
    ∀ e ∈ items.filterMap ParamItem.type?, e.Lexical := by
  induction h with
  | nil => simp
  | comment _ ih => exact ih
  | lineJoin _ _ ih => exact ih
  | @entry es items entry item hentry _ ih =>
    intro e he
    obtain ⟨found, hfound, htype⟩ := List.mem_filterMap.mp he
    rcases List.mem_cons.mp hfound with rfl | hfound
    · cases hentry with
      | positionalMark => nomatch htype
      | keywordMark => nomatch htype
      | param _ _ hlexical => exact hlexical e htype
    · exact ih e (List.mem_filterMap.mpr ⟨found, hfound, htype⟩)

theorem Stmt.Annotated.lexical {stmt : Stmt} (h : stmt.Annotated) :
    ∀ e ∈ stmt.annotations, e.Lexical := by
  cases stmt with
  | assignment span body => exact fun e he => h e (Option.mem_toList.mp he)
  | function decorators head =>
    obtain ⟨⟨es, hes⟩, hreturns⟩ := h
    exact List.forall_mem_append.mpr
      ⟨hes.lexical, fun e he => hreturns e (Option.mem_toList.mp he)⟩
  | _ => exact fun e he => absurd he List.not_mem_nil

namespace Stub

open Rule

section

variable {g : Grammar} (hg : Faithful g)

include hg

theorem yields_type (bounded : Bool) (start : Expect) (f : Follow) :
    Yields Expr.Lexical (g.type bounded start f) :=
  fun r => (hg.type bounded start f r).mono fun _ _ h => h.lexeme_of_mem

theorem yields_returnsAndBody (bounded : Bool) :
    Yields (fun returns => ∀ e ∈ returns, e.Lexical) (returnsAndBody g bounded) := by
  refine .bind_any fun p => ?_
  split
  · refine .bind_any fun _ => .bind_any fun _ => (yields_type hg _ _ _).bind fun type htype => ?_
    exact .bind_any fun _ => .pure (by simpa using htype)
  · exact .bind_any fun _ => .pure (by simp)

theorem yields_functionStatement (decorators : List Expr) (p : Peek) :
    Yields (Stmt.Throughout Stmt.Annotated) (functionStatement g decorators p) := by
  have hreturns := (yields_returnsAndBody hg false).either (yields_returnsAndBody hg true)
  refine .bind_any fun _ => ?_
  extract_lets rest
  have hrest : ∀ u, Yields (Stmt.Throughout Stmt.Annotated) (rest u) := by
    intro u
    refine .bind_any fun _ => .bind_any fun _ => .bind (fun r => ensures_parameters hg r) ?_
    intro params hparams
    refine hreturns.bind fun returns hreturns => .bind_any fun _ => ?_
    exact .pure (Stmt.throughout_of_simple rfl ⟨hparams, hreturns⟩)
  split
  · exact .bind_any fun _ => hrest ()
  · exact hrest ()

omit hg in
theorem type?_assign (left : Expr) (type : Option Expr) (right : Assigned) :
    (Assigned.assign left type right).type? = type := by
  cases right <;> rfl

theorem yields_assignedRule (start : Expect) (span : Span) :
    Yields (fun found => ∀ body, found = .assignment body → (Stmt.assignment span body).Annotated)
      (assignedRule g start) := by
  refine .bind_any fun p => ?_
  split
  · exact .bind_any fun _ => .pure nofun
  · refine .bind_any fun whole => .bind_any fun q => ?_
    split
    · refine .bind_any fun _ => .bind_any fun left => .bind_any fun right => .pure ?_
      rintro body ⟨⟩ e he
      rw [type?_assign] at he
      exact absurd he (by simp)
    · refine .bind_any fun _ => .bind_any fun left => .bind_any fun _ => ?_
      refine (yields_type hg _ _ _).bind fun type htype => .bind_any fun q => ?_
      split
      · refine .bind_any fun _ => .bind_any fun right => .pure ?_
        rintro body ⟨⟩ e he
        rw [type?_assign] at he
        exact Option.some.inj he ▸ htype
      · refine .pure ?_
        rintro body ⟨⟩ e he
        exact Option.some.inj he ▸ htype
    · split
      · exact .bind_any fun _ => .bind_any fun _ => .bind_any fun _ => .pure nofun
      · exact .pure nofun
    · exact .pure nofun

theorem readsSo_annotated : ReadsSo Stmt.Annotated g where
  plain stmt h := by
    cases stmt with
    | assignment => exact absurd h id
    | function => exact absurd h id
    | _ => trivial
  assignment := yields_assignedRule hg
  typeAlias _ _ _ _ _ := trivial
  function := yields_functionStatement hg
  classDef _ _ _ _ _ := trivial

end

/-- **Annotations and parameter lists of a text** are made of lexemes. -/
theorem annotated_of_parse? {text : String} {stmts : List Stmt} (h : parse? text = some stmts) :
    ∀ stmt ∈ visited stmts, stmt.Annotated :=
  forall_visited_of_parse? (fun depth => readsSo_annotated (faithful_grammar depth)) h

end Stub

/-! ### Where signatures come from -/

/-- The texts of the types in a signature. -/
def Signature.types (sig : Signature) : List String :=
  sig.parameters.filterMap (·.type) ++ sig.returns.toList

/-- The statement gives the signature, which is made of the annotations `es`. -/
inductive Stmt.Signs : Stmt → Signature → List Expr → Prop
  | function {decorators : List Expr} {head : FunctionHead} {hasReceiver : Bool} {sig : Signature} :
      head.signature? hasReceiver = some sig →
      Signs (.function decorators head) sig head.annotations
  | property {decorators : List Expr} {head : FunctionHead} {e : Expr} : head.returns = some e →
      Signs (.function decorators head) ⟨[], some e.typeText⟩ [e]
  | assignment {span : Span} {body : Assignment} {e : Expr} : body.type? = some e →
      Signs (.assignment span body) ⟨[], some e.typeText⟩ [e]

theorem filterMap_type_parametersBetween (before items : List ParamItem) :
    (parametersBetween before items).filterMap (·.type) =
      (items.filterMap ParamItem.type?).map Expr.typeText := by
  induction items generalizing before with
  | nil => rfl
  | cons item items ih =>
    rw [parametersBetween, List.filterMap_append, ih]
    cases item with
    | param target text type hasDefault => cases type <;> rfl
    | _ => rfl

/-- A receiver has no type. -/
theorem filterMap_type_dropReceiver (ps : List Parameter) :
    (dropReceiver ps).filterMap (·.type) = ps.filterMap (·.type) := by
  cases ps with
  | nil => rfl
  | cons p ps =>
    rw [dropReceiver]
    split
    · rename_i hreceiver
      have htype : p.type = none := by
        simp only [Parameter.isReceiver, Bool.and_eq_true, Option.isNone_iff_eq_none] at hreceiver
        exact hreceiver.1.1
      rw [List.filterMap_cons_none htype]
    · rfl

theorem FunctionHead.types_of_signature? {head : FunctionHead} {hasReceiver : Bool}
    {sig : Signature} (h : head.signature? hasReceiver = some sig) :
    sig.types = head.annotations.map Expr.typeText := by
  have hparameters : (if hasReceiver then dropReceiver (parametersOf head.params)
      else parametersOf head.params).filterMap (·.type) =
        (head.params.filterMap ParamItem.type?).map Expr.typeText := by
    split
    · rw [filterMap_type_dropReceiver, parametersOf_eq, filterMap_type_parametersBetween]
    · rw [parametersOf_eq, filterMap_type_parametersBetween]
  rw [signature?] at h
  generalize (if hasReceiver then dropReceiver (parametersOf head.params)
    else parametersOf head.params) = parameters at h hparameters
  split at h
  · exact absurd h (by simp)
  · obtain rfl := Option.some.inj h
    rw [Signature.types, hparameters, annotations, List.map_append, Option.toList_map]

namespace Stmt.Signs

variable {stmt : Stmt} {sig : Signature} {es : List Expr}

/-- **A signature has the texts of its annotations**, in order. -/
theorem types_eq (h : stmt.Signs sig es) : sig.types = es.map Expr.typeText := by
  cases h with
  | function h => exact FunctionHead.types_of_signature? h
  | property _ => rfl
  | assignment _ => rfl

theorem subset (h : stmt.Signs sig es) : es ⊆ stmt.annotations := by
  cases h with
  | function _ => exact fun e he => he
  | @property decorators head e h =>
    intro e' he'
    obtain rfl := List.mem_singleton.mp he'
    exact List.mem_append_right _ (Option.mem_toList.mpr h)
  | assignment h =>
    intro e' he'
    obtain rfl := List.mem_singleton.mp he'
    exact Option.mem_toList.mpr h

end Stmt.Signs

/-- One of the statements gives the signature. -/
def Given (all : List Stmt) (sig : Signature) : Prop := ∃ stmt ∈ all, ∃ es, stmt.Signs sig es

/-- The statements give all signatures of the declarations, at any depth. -/
def Signed (all : List Stmt) (ds : List Declaration) : Prop :=
  ∀ d ∈ Declaration.walkAll ds, ∀ sig ∈ d.signatures, Given all sig

theorem signed_nil (all : List Stmt) : Signed all [] := fun _ hd => absurd hd List.not_mem_nil

theorem Signed.append {all : List Stmt} {ds es : List Declaration} (h : Signed all ds)
    (h' : Signed all es) : Signed all (ds ++ es) := by
  rw [Signed, Declaration.walkAll_append, List.forall_mem_append]
  exact ⟨h, h'⟩

theorem signed_singleton {all : List Stmt} {kind : DeclarationKind} {name : String}
    {location : Location} {signatures : List Signature} {children : List Declaration}
    (h : ∀ sig ∈ signatures, Given all sig) (hchildren : Signed all children) :
    Signed all [⟨kind, name, location, signatures, children⟩] := by
  rw [Signed, Declaration.walkAll, Declaration.walkAll, List.append_nil, Declaration.walk,
    List.forall_mem_cons]
  exact ⟨h, hchildren⟩

section

variable {all : List Stmt} (s : Scope)

theorem given_signature? {decorators : List Expr} {head : FunctionHead}
    (h : .function decorators head ∈ all) :
    ∀ sig ∈ (s.signature? decorators head).toList, Given all sig := by
  intro sig hsig
  exact ⟨_, h, _, .function (Option.mem_toList.mp hsig)⟩

theorem signed_functionDeclarations {decorators : List Expr} {head : FunctionHead}
    (h : .function decorators head ∈ all) :
    Signed all (functionDeclarations s decorators head) := by
  rw [functionDeclarations]
  split
  · exact signed_nil all
  · split
    · refine signed_singleton (fun sig hsig => ?_) (signed_nil all)
      obtain ⟨e, he, rfl⟩ := Option.map_eq_some_iff.mp (Option.mem_toList.mp hsig)
      exact ⟨_, h, _, .property he⟩
    · exact signed_singleton (given_signature? s h) (signed_nil all)

theorem given_assignmentShape {span : Span} {body : Assignment} (h : .assignment span body ∈ all) :
    ∀ sig ∈ (assignmentShape body).2, Given all sig := by
  have hwritten : ∀ sig ∈ ((body.type?.map Expr.typeText).map fun type =>
      (⟨[], some type⟩ : Signature)).toList, Given all sig := by
    intro sig hsig
    obtain ⟨e, he, rfl⟩ : ∃ e, body.type? = some e ∧ ⟨[], some e.typeText⟩ = sig := by
      simpa using hsig
    exact ⟨_, h, _, .assignment he⟩
  rw [assignmentShape]
  split
  · exact fun sig hsig => absurd hsig List.not_mem_nil
  · split
    · exact hwritten
    · exact hwritten

theorem signed_assignmentDeclarations {span : Span} {body : Assignment}
    (h : .assignment span body ∈ all) :
    Gives (Signed all) (assignmentDeclarations s span body) := by
  refine body.gives_names.bind fun names _ => .ok ?_
  induction names.filter (· ≠ "__all__") with
  | nil => exact signed_nil all
  | cons name names ih =>
    exact (signed_singleton (given_assignmentShape h) (signed_nil all)).append ih

/-- What a pending group gives when it is closed. -/
theorem signed_flush {pending : Option OverloadGroup}
    (h : ∀ g ∈ pending, ∀ sig ∈ g.signatures, Given all sig) :
    Signed all (pending.map (·.declaration s)).toList := by
  cases pending with
  | none => exact signed_nil all
  | some g => exact signed_singleton (h g rfl) (signed_nil all)

end

mutual

/-- **Every signature of a body** is given by one of its statements. -/
theorem signed_bodyDeclarations {all : List Stmt} (s : Scope) (pending : Option OverloadGroup)
    (hpending : ∀ g ∈ pending, ∀ sig ∈ g.signatures, Given all sig) :
    (body : List Stmt) → visited body ⊆ all →
      Gives (Signed all) (bodyDeclarations s pending body)
  | [], _ => .ok (signed_flush s hpending)
  | stmt :: rest, hin => by
    rw [visited, List.cons_subset, List.append_subset] at hin
    obtain ⟨hstmt, hinside, hrest⟩ := hin
    rw [bodyDeclarations]
    cases hfound : overload? stmt with
    | some found =>
      obtain ⟨decorators, head⟩ := found
      rw [function_of_overload? hfound] at hstmt
      have hhead := given_signature? s hstmt
      have hstarted := signed_bodyDeclarations s (some (.start s decorators head))
        (by rintro g ⟨rfl⟩; exact hhead) rest hrest
      dsimp only
      cases pending with
      | none => exact hstarted
      | some group =>
        have hgroup := hpending group rfl
        dsimp only
        split
        · refine signed_bodyDeclarations s _ ?_ rest hrest
          rintro g ⟨rfl⟩
          exact List.forall_mem_append.mpr ⟨hgroup, hhead⟩
        · refine hstarted.bind fun more hmore => .ok ?_
          exact (signed_singleton hgroup (signed_nil all)).append hmore
    | none =>
      dsimp only
      have hhere := signed_statementDeclarations s stmt hstmt hinside
      have hmore := signed_bodyDeclarations s none (fun _ hg => nomatch hg) rest hrest
      refine hhere.bind fun here hhere => hmore.bind fun more hmore => .ok ?_
      exact ((signed_flush s hpending).append hhere).append hmore

theorem signed_statementDeclarations {all : List Stmt} (s : Scope) :
    (stmt : Stmt) → stmt ∈ all → visitedIn stmt ⊆ all →
      Gives (Signed all) (statementDeclarations s stmt)
  | .plain kind _, _, _ => by
    rw [statementDeclarations]
    split
    · exact .ok (signed_nil all)
    · exact .error _
  | .augmented _, _, _ => .ok (signed_nil all)
  | .expression _ first, _, _ => by
    rw [statementDeclarations]
    split
    · exact .ok (signed_nil all)
    · exact .error _
  | .assignment span body, h, _ => by
    rw [statementDeclarations]
    exact signed_assignmentDeclarations s h
  | .typeAlias span left, _, _ => by
    rw [statementDeclarations]
    cases left.firstName with
    | none => exact .error _
    | some name => exact .ok (signed_singleton (by simp) (signed_nil all))
  | .function decorators head, h, _ => by
    rw [statementDeclarations]
    exact .ok (signed_functionDeclarations s h)
  | .classDef decorators span name body, _, hinside => by
    rw [statementDeclarations]
    have hbody := signed_bodyDeclarations (s.nested name) none (fun _ hg => nomatch hg) body hinside
    exact hbody.bind fun children hchildren => .ok (signed_singleton (by simp) hchildren)
  | .conditional span branches, _, hinside => by
    rw [statementDeclarations]
    exact signed_branchDeclarations s branches hinside

theorem signed_branchDeclarations {all : List Stmt} (s : Scope) :
    (branches : List (List Stmt)) → visitedBranches branches ⊆ all →
      Gives (Signed all) (branchDeclarations s branches)
  | [], _ => .ok (signed_nil all)
  | branch :: rest, hin => by
    rw [visitedBranches, List.append_subset] at hin
    rw [branchDeclarations]
    have hhere := signed_bodyDeclarations s none (fun _ hg => nomatch hg) branch hin.1
    have hmore := signed_branchDeclarations s rest hin.2
    exact hhere.bind fun here hhere => hmore.bind fun more hmore => .ok (hhere.append hmore)

end

/-- **Every signature of a text** is given by one of its statements. -/
theorem signed_of_parseSource {text file module : String} {tree : DeclarationTree}
    {stmts : List Stmt} (hparse : Stub.parse? text = some stmts)
    (h : parseSource text file module = .ok tree) : Signed (visited stmts) tree.nodes := by
  obtain ⟨stmts', hparse', hnodes, -⟩ := parseSource_eq_ok_iff.mp h
  obtain rfl := Option.some.inj (hparse.symm.trans hparse')
  exact signed_bodyDeclarations ⟨file, module, false⟩ none (fun _ hg => nomatch hg) stmts
    (fun _ h => h) _ hnodes

/-! ### Texts of annotations -/

/-- The lexemes are the same, or two lexemes of one list have run together in the other. -/
def SameOrGlued (l l' : List String) : Prop := l = l' ∨ Glued l l' ∨ Glued l' l

/-- One entry is the other with its type laid out anew. -/
inductive ParamItem.Respelled : ParamItem → ParamItem → Prop
  | same (item : ParamItem) : Respelled item item
  | param {target : ParamTarget} {text : String} {type type' : Option Expr} {hasDefault : Bool} :
      type.map Expr.lexemes = type'.map Expr.lexemes →
      Respelled (.param target text type hasDefault) (.param target text type' hasDefault)

/-- An annotation with the same tokens as one without line joins. -/
theorem typeText_eq_iff_unjoined {e e' : Expr} (h : e.tokens = e'.tokens) (h' : e'.Unjoined) :
    e.typeText = e'.typeText ↔ e.Unjoined := by
  rw [(typeText_eq_join_tokens_iff e').mpr h', ← h]
  exact typeText_eq_join_tokens_iff e

theorem sameOrGlued_of_typeText_eq {e e' : Expr} (he : e.Lexical) (he' : e'.Lexical)
    (h : e.typeText = e'.typeText) : SameOrGlued e.lexemes e'.lexemes := by
  rw [Expr.typeText_eq_join, Expr.typeText_eq_join] at h
  exact eq_or_glued_of_join_eq he he' h

theorem typeText_eq_iff_of_separate {e e' : Expr} (he : e.Lexical) (he' : e'.Lexical)
    (h : Separate e.lexemes) (h' : Separate e'.lexemes) :
    e.typeText = e'.typeText ↔ e.lexemes = e'.lexemes := by
  rw [Expr.typeText_eq_join, Expr.typeText_eq_join]
  exact join_eq_iff_of_separate he he' h h'

/-- Annotations without line joins, by their tokens. -/
theorem typeText_of_unjoined {e e' : Expr} (he : e.Lexical) (he' : e'.Lexical) (h : e.Unjoined)
    (h' : e'.Unjoined) :
    (e.typeText = e'.typeText → SameOrGlued e.tokens e'.tokens) ∧
      (Separate e.tokens → Separate e'.tokens →
        (e.typeText = e'.typeText ↔ e.tokens = e'.tokens)) := by
  rw [← h.lexemes_eq, ← h'.lexemes_eq]
  exact ⟨sameOrGlued_of_typeText_eq he he', typeText_eq_iff_of_separate he he'⟩

theorem forall₂_sameOrGlued {es es' : List Expr} (hes : ∀ e ∈ es, e.Lexical)
    (hes' : ∀ e ∈ es', e.Lexical) (h : es.map Expr.typeText = es'.map Expr.typeText) :
    List.Forall₂ (fun e e' => SameOrGlued e.lexemes e'.lexemes) es es' := by
  induction es generalizing es' with
  | nil =>
    obtain rfl := List.map_eq_nil_iff.mp h.symm
    exact .nil
  | cons e es ih =>
    obtain ⟨e', rest, rfl, htext, hrest⟩ := List.map_eq_cons_iff.mp h.symm
    rw [List.forall_mem_cons] at hes hes'
    exact .cons (sameOrGlued_of_typeText_eq hes.1 hes'.1 htext.symm) (ih hes.2 hes'.2 hrest.symm)

theorem map_typeText_eq {type type' : Option Expr}
    (h : type.map Expr.lexemes = type'.map Expr.lexemes) :
    type.map Expr.typeText = type'.map Expr.typeText := by
  have hjoin : Expr.typeText = String.join ∘ Expr.lexemes := funext Expr.typeText_eq_join
  rw [hjoin, ← Option.map_map, h, Option.map_map]

theorem ParamItem.Respelled.add_eq {item item' : ParamItem} (h : item.Respelled item')
    (s : ParameterState) : s.add item = s.add item' := by
  cases h with
  | same => rfl
  | param htype => simp only [ParameterState.add, map_typeText_eq htype]

theorem foldl_add_eq {items items' : List ParamItem}
    (h : List.Forall₂ ParamItem.Respelled items items') (s : ParameterState) :
    items.foldl ParameterState.add s = items'.foldl ParameterState.add s := by
  induction h generalizing s with
  | nil => rfl
  | cons hitem _ ih => rw [List.foldl_cons, List.foldl_cons, hitem.add_eq, ih]

/-- **Types laid out anew** leave a signature alone. -/
theorem FunctionHead.signature?_eq {head head' : FunctionHead}
    (hparams : List.Forall₂ ParamItem.Respelled head.params head'.params)
    (hreturns : head.returns.map Expr.lexemes = head'.returns.map Expr.lexemes)
    (hasReceiver : Bool) : head.signature? hasReceiver = head'.signature? hasReceiver := by
  rw [signature?, signature?, parametersOf, parametersOf, foldl_add_eq hparams,
    map_typeText_eq hreturns]

/-! ### Results on texts -/

/-- The annotations of a text that signatures are made of. -/
def annotationsIn (stmts : List Stmt) : List Expr := (visited stmts).flatMap Stmt.annotations

theorem lexical_of_parse? {text : String} {stmts : List Stmt} (h : Stub.parse? text = some stmts) :
    ∀ e ∈ annotationsIn stmts, e.Lexical := by
  intro e he
  obtain ⟨stmt, hstmt, he⟩ := List.mem_flatMap.mp he
  exact (Stub.annotated_of_parse? h stmt hstmt).lexical e he

/-- **The text of an annotation is made of its tokens, except where a line is joined.**  An
annotation is written as its tokens one after the other exactly if no line is joined in it; a line
join stays in the text.  For annotations of two texts: with the same tokens, and lines joined in at
most one of them, they have the same text exactly if lines are joined in none.  Without joined lines
the same text means the same tokens, or two tokens of one have run together in the other; and if no
neighbours can run together, it means the same tokens.  With joined lines this is so of the lexemes,
of which a line join is one.  Every signature of a text is given by one of its statements, and
statements that give the same signature have annotations that differ by such lexemes only.  Types
laid out anew change no signature. -/
theorem typeText_of_layout (text text' : String) (stmts stmts' : List Stmt)
    (parses : Stub.parse? text = some stmts) (parses' : Stub.parse? text' = some stmts') :
    (∀ e ∈ annotationsIn stmts, e.typeText = String.join e.tokens ↔ e.Unjoined) ∧
    (∀ e ∈ annotationsIn stmts, ∀ e' ∈ annotationsIn stmts',
      (e.tokens = e'.tokens → e'.Unjoined → (e.typeText = e'.typeText ↔ e.Unjoined)) ∧
      (e.Unjoined → e'.Unjoined →
        (e.typeText = e'.typeText → SameOrGlued e.tokens e'.tokens) ∧
        (Separate e.tokens → Separate e'.tokens →
          (e.typeText = e'.typeText ↔ e.tokens = e'.tokens))) ∧
      (e.typeText = e'.typeText → SameOrGlued e.lexemes e'.lexemes) ∧
      (Separate e.lexemes → Separate e'.lexemes →
        (e.typeText = e'.typeText ↔ e.lexemes = e'.lexemes))) ∧
    (∀ file module tree, parseSource text file module = .ok tree → ∀ d ∈ tree.walk,
      ∀ sig ∈ d.signatures, ∃ stmt ∈ visited stmts, ∃ es, stmt.Signs sig es) ∧
    (∀ stmt ∈ visited stmts, ∀ stmt' ∈ visited stmts', ∀ sig es es', stmt.Signs sig es →
      stmt'.Signs sig es' →
      List.Forall₂ (fun e e' => SameOrGlued e.lexemes e'.lexemes) es es') ∧
    (∀ head head' : FunctionHead, List.Forall₂ ParamItem.Respelled head.params head'.params →
      head.returns.map Expr.lexemes = head'.returns.map Expr.lexemes →
      ∀ hasReceiver, head.signature? hasReceiver = head'.signature? hasReceiver) := by
  have hlexical := lexical_of_parse? parses
  have hlexical' := lexical_of_parse? parses'
  refine ⟨fun e _ => typeText_eq_join_tokens_iff e,
    fun e he e' he' => ⟨typeText_eq_iff_unjoined, ?_, ?_, ?_⟩, ?_, ?_, ?_⟩
  · exact typeText_of_unjoined (hlexical e he) (hlexical' e' he')
  · exact sameOrGlued_of_typeText_eq (hlexical e he) (hlexical' e' he')
  · exact typeText_eq_iff_of_separate (hlexical e he) (hlexical' e' he')
  · exact fun file module tree hread => signed_of_parseSource parses hread
  · intro stmt hstmt stmt' hstmt' sig es es' hes hes'
    refine forall₂_sameOrGlued (fun e he => ?_) (fun e he => ?_)
      (hes.types_eq.symm.trans hes'.types_eq)
    · exact hlexical e (List.mem_flatMap.mpr ⟨stmt, hstmt, hes.subset he⟩)
    · exact hlexical' e (List.mem_flatMap.mpr ⟨stmt', hstmt', hes'.subset he⟩)
  · exact fun head head' hparams hreturns => FunctionHead.signature?_eq hparams hreturns

-- tokens are written without anything between them, so that two words can run together
example : [(Stub.parse? "x: not a\n"), (Stub.parse? "x: nota\n")].map (fun parsed =>
    parsed.map fun stmts => (annotationsIn stmts).map fun e => (e.typeText, e.tokens)) =
      [some [("nota", ["not", "a"])], some [("nota", ["nota"])]] := by
  decide +kernel

/-- An annotation with a string, and another layout of it. -/
def literalText : String := "def f(a: Literal['x']) -> None: ...\n"

def spacedLiteralText : String := "def f(a: Literal [ # c\n  'x' ]) -> None: ...\n"

theorem separate_literal : Separate ["Literal", "[", "'x'", "]"] := by
  have hstring : IsPlainString '\'' ['x'] "'x'" :=
    ⟨[], rfl, by simp, by decide, forall_mem_of_all (by decide)⟩
  refine .cons_cons ?_ (.cons_cons ?_ (.cons_cons ?_ (.singleton _)))
  · rintro c ⟨⟩
    exact not_runsOn_of_mayRun (forall_mem_of_all (by decide)) (by decide)
  · rintro c ⟨⟩
    exact not_runsOn_of_mayRun (forall_mem_of_all (by decide)) (by decide)
  · exact fun c _ => hstring.not_runsOn (by simp)

/-- The first annotation by the lexemes of all. -/
theorem exists_annotation {stmts : List Stmt} {l : List String} {rest : List (List String)}
    (h : (annotationsIn stmts).map Expr.lexemes = l :: rest) :
    ∃ e ∈ annotationsIn stmts, e.lexemes = l := by
  have hmem : l ∈ (annotationsIn stmts).map Expr.lexemes := by simp [h]
  simpa using hmem

theorem typeText_of_layout_literal :
    ∃ stmts stmts', Stub.parse? literalText = some stmts ∧
      Stub.parse? spacedLiteralText = some stmts' ∧
      ∃ e ∈ annotationsIn stmts, ∃ e' ∈ annotationsIn stmts',
        e.tokens = ["Literal", "[", "'x'", "]"] ∧ e.Unjoined ∧ e'.Unjoined ∧ Separate e.tokens ∧
          Separate e'.tokens ∧ e.typeText = String.join e.tokens ∧ e.typeText = e'.typeText := by
  have hlexemes : (Stub.parse? literalText).map (fun stmts =>
      (annotationsIn stmts).map Expr.lexemes) =
        some [["Literal", "[", "'x'", "]"], ["None"]] := by decide +kernel
  have hlexemes' : (Stub.parse? spacedLiteralText).map (fun stmts =>
      (annotationsIn stmts).map Expr.lexemes) =
        some [["Literal", "[", "'x'", "]"], ["None"]] := by decide +kernel
  obtain ⟨stmts, parses, hstmts⟩ := Option.map_eq_some_iff.mp hlexemes
  obtain ⟨stmts', parses', hstmts'⟩ := Option.map_eq_some_iff.mp hlexemes'
  obtain ⟨e, he, hl⟩ := exists_annotation hstmts
  obtain ⟨e', he', hl'⟩ := exists_annotation hstmts'
  have hunjoined : e.Unjoined := by
    rw [Expr.Unjoined, hl]
    decide
  have hunjoined' : e'.Unjoined := by
    rw [Expr.Unjoined, hl']
    decide
  rw [hunjoined.lexemes_eq] at hl
  rw [hunjoined'.lexemes_eq] at hl'
  have hseparate : Separate e.tokens := hl ▸ separate_literal
  have hseparate' : Separate e'.tokens := hl' ▸ separate_literal
  obtain ⟨hjoin, htexts, -⟩ := typeText_of_layout _ _ stmts stmts' parses parses'
  have htokens := ((htexts e he e' he').2.1 hunjoined hunjoined').2 hseparate hseparate'
  exact ⟨stmts, stmts', parses, parses', e, he, e', he', hl, hunjoined, hunjoined', hseparate,
    hseparate', (hjoin e he).mpr hunjoined, htokens.mpr (hl.trans hl'.symm)⟩

/-- An annotation on two lines, and the same tokens on one. -/
def joinedTypeText : String := "x: a[b, \\\n c]\n"

def plainTypeText : String := "x: a[b, c]\n"

/-- **A joined line stays in the text of an annotation**, so that the same tokens give another
text. -/
theorem typeText_keeps_line_join :
    (¬ ∀ (text text' : String) (stmts stmts' : List Stmt), Stub.parse? text = some stmts →
        Stub.parse? text' = some stmts' → ∀ e ∈ annotationsIn stmts, ∀ e' ∈ annotationsIn stmts',
          e.tokens = e'.tokens → e.typeText = e'.typeText) ∧
    (Stub.parse? joinedTypeText).map (fun stmts =>
        (annotationsIn stmts).map fun e => (e.typeText, e.tokens)) =
      some [("a[b,\\\nc]", ["a", "[", "b", ",", "c", "]"])] ∧
    (Stub.parse? plainTypeText).map (fun stmts =>
        (annotationsIn stmts).map fun e => (e.typeText, e.tokens)) =
      some [("a[b,c]", ["a", "[", "b", ",", "c", "]"])] := by
  have hjoined : (Stub.parse? joinedTypeText).map (fun stmts =>
        (annotationsIn stmts).map fun e => (e.typeText, e.tokens)) =
      some [("a[b,\\\nc]", ["a", "[", "b", ",", "c", "]"])] := by decide +kernel
  have hplain : (Stub.parse? plainTypeText).map (fun stmts =>
        (annotationsIn stmts).map fun e => (e.typeText, e.tokens)) =
      some [("a[b,c]", ["a", "[", "b", ",", "c", "]"])] := by decide +kernel
  refine ⟨fun hclaim => ?_, hjoined, hplain⟩
  obtain ⟨stmts, parses, hstmts⟩ := Option.map_eq_some_iff.mp hjoined
  obtain ⟨stmts', parses', hstmts'⟩ := Option.map_eq_some_iff.mp hplain
  obtain ⟨e, es, he, hfound, -⟩ := List.map_eq_cons_iff.mp hstmts
  obtain ⟨e', es', he', hfound', -⟩ := List.map_eq_cons_iff.mp hstmts'
  obtain ⟨htext, htokens⟩ := Prod.mk.inj hfound
  obtain ⟨htext', htokens'⟩ := Prod.mk.inj hfound'
  have hsame := hclaim _ _ stmts stmts' parses parses' e (by simp [he]) e' (by simp [he'])
    (htokens.trans htokens'.symm)
  rw [htext, htext'] at hsame
  exact absurd hsame (by decide)

/-- **The layouts of a parameter list that matter.**  A parameter list that is read is a layout of
entries.  It has one parameter for each parameter written and one more for each line join between
them; it has the declared parameters exactly if it is tidy; and so it has the parameters of a tidy
layout of the same entries. -/
theorem parametersOf_of_layout (text : String) (stmts : List Stmt)
    (parses : Stub.parse? text = some stmts) (decorators : List Expr) (head : FunctionHead)
    (mem : .function decorators head ∈ visited stmts) :
    (∃ es, LaidOut es head.params) ∧
    ∀ es, LaidOut es head.params →
      (parametersOf head.params).length =
        (declaredParameters es).length + head.params.countP ParamItem.isLineJoin ∧
      (parametersOf head.params = declaredParameters es ↔ Tidy es head.params) ∧
      ∀ items, LaidOut es items → Tidy es items →
        (parametersOf head.params = parametersOf items ↔ Tidy es head.params) := by
  have hannotated := Stub.annotated_of_parse? parses _ mem
  refine ⟨hannotated.1, fun es hes => ?_⟩
  refine ⟨hes.length_parametersOf, hes.parametersOf_eq_declared_iff, fun items hitems htidy => ?_⟩
  rw [hitems.parametersOf_eq_declared_iff.mpr htidy]
  exact hes.parametersOf_eq_declared_iff

/-- The head of a function. -/
def Stmt.head? : Stmt → Option FunctionHead
  | function _ head => some head
  | _ => none

/-- The names of the parameters of all functions of a text. -/
def parameterNames (stmts : List Stmt) : List (List String) :=
  (visited stmts).filterMap fun stmt =>
    stmt.head?.map fun head => (parametersOf head.params).map (·.name)

theorem parametersOf_of_layout_commented :
    ∃ stmts decorators head, Stub.parse? "def f(a, # c\n *b: int): ...\n" = some stmts ∧
      .function decorators head ∈ visited stmts ∧
      (parametersOf head.params).map (·.name) = ["a", "b"] ∧
      ∃ es, LaidOut es head.params ∧
        2 = (declaredParameters es).length + head.params.countP ParamItem.isLineJoin ∧
        (parametersOf head.params = declaredParameters es ↔ Tidy es head.params) := by
  have hnames : (Stub.parse? "def f(a, # c\n *b: int): ...\n").map parameterNames =
      some [["a", "b"]] := by decide +kernel
  obtain ⟨stmts, parses, hstmts⟩ := Option.map_eq_some_iff.mp hnames
  have hmem : ["a", "b"] ∈ parameterNames stmts := by simp [hstmts]
  obtain ⟨stmt, hstmt, hhead⟩ := List.mem_filterMap.mp hmem
  obtain ⟨head, hhead, hparameters⟩ := Option.map_eq_some_iff.mp hhead
  obtain ⟨decorators, rfl⟩ : ∃ decorators, stmt = .function decorators head := by
    cases stmt with
    | function decorators head' => exact ⟨decorators, by rw [Option.some.inj hhead]⟩
    | _ => nomatch hhead
  obtain ⟨⟨es, hes⟩, hall⟩ := parametersOf_of_layout _ stmts parses decorators head hstmt
  obtain ⟨hlength, htidy, -⟩ := hall es hes
  refine ⟨stmts, decorators, head, parses, hstmt, hparameters, es, hes, ?_, htidy⟩
  rw [← hlength, ← List.length_map (f := Parameter.name), hparameters]
  rfl

/-- A joined line is a parameter, and blanks behind a star belong to the name. -/
theorem lineJoin_adds_parameter :
    (Stub.parse? "def f(a: int, \\\n b: int): ...\n").map parameterNames =
      some [["a", "\\\n", "b"]] ∧
    (Stub.parse? "def f(a: int, b: int): ...\n").map parameterNames = some [["a", "b"]] ∧
    (Stub.parse? "def f(* a): ...\n").map parameterNames = some [[" a"]] ∧
    (Stub.parse? "def f(*a): ...\n").map parameterNames = some [["a"]] := by
  decide +kernel

end StubLayers
