import StubLayers.Proofs.Forward
import StubLayers.Proofs.Statements

/-!
# Statements one behind the other

The rules for statements go forward like those for expressions, and hand over statements with the
places where they start and end.  So the statements of a text lie one behind the other, and those
in a class or in a conditional lie inside it.

* `Stmt.Fits`, `WellPlaced`: the statements inside a statement lie in it, one behind the other.
* `Standing r stmts s`: so do the statements between the readers `r` and `s`.
* `standing_token`: a statement from its first token up to the reader behind it.
* `Rule.Places f rule`: what the rule reads stands between its start and its end.
* `places_statementRule`, `places_suiteRule`: one round of the rules.
* `wellPlaced_of_parse?`: the statements of every text are well placed.
-/

namespace StubLayers

/-! ### Statements -/

/-- The statements right inside a statement. -/
def Stmt.parts : Stmt → List Stmt
  | classDef _ _ _ body => body
  | conditional _ branches => branches.flatten
  | _ => []

/-- Each statement ends before the later ones start. -/
def Apart (stmts : List Stmt) : Prop :=
  stmts.Pairwise fun stmt later => stmt.span.stop ≤ later.span.start

/-- The statement starts before it ends, and what stands in it lies there, one behind the other. -/
structure Stmt.Fits (stmt : Stmt) : Prop where
  proper : stmt.span.start ≤ stmt.span.stop
  inside : ∀ part ∈ stmt.parts, part.span.Within stmt.span
  apart : Apart stmt.parts

/-- The spans of statements follow the structure of the document, at every depth. -/
structure WellPlaced (stmts : List Stmt) : Prop where
  fits : ∀ stmt ∈ visited stmts, stmt.Fits
  apart : Apart stmts

/-! ### Statements between two readers -/

theorem Stmt.throughout_of_parts {P : Stmt → Prop} {stmt : Stmt} (h : P stmt)
    (hparts : ∀ part ∈ stmt.parts, part.Throughout P) : stmt.Throughout P := by
  cases stmt with
  | classDef decorators span name body => exact throughout_classDef h hparts
  | conditional span branches =>
    refine throughout_conditional h fun branch hbranch stmt hstmt => ?_
    exact hparts stmt (List.mem_flatten_of_mem hbranch hstmt)
  | _ => exact throughout_of_simple rfl h

/-- Reading on from `r` to `s` one passes the statements, one behind the other; what stands in them
fits at every depth. -/
structure Standing (r : Reader) (stmts : List Stmt) (s : Reader) : Prop where
  reaches : r.Reaches s
  strung : Strung r.pos (stmts.map Stmt.span) s.pos
  fits : ∀ stmt ∈ stmts, stmt.Throughout Stmt.Fits

namespace Standing

variable {r s t : Reader} {stmts more : List Stmt}

theorem nil (h : r.Reaches s) : Standing r [] s := ⟨h, h.pos_le, by simp⟩

theorem append (h : Standing r stmts s) (h' : Standing s more t) :
    Standing r (stmts ++ more) t where
  reaches := h.reaches.trans h'.reaches
  strung := by
    rw [List.map_append]
    exact h.strung.append h'.strung
  fits := List.forall_mem_append.mpr ⟨h.fits, h'.fits⟩

/-- Nothing stands in front. -/
theorem of_reaches (hr : r.Reaches s) (h : Standing s stmts t) : Standing r stmts t :=
  (nil hr).append h

/-- Nothing stands behind. -/
theorem reaching (h : Standing r stmts s) (hs : s.Reaches t) : Standing r stmts t := by
  simpa using h.append (nil hs)

theorem apart (h : Standing r stmts s) : Apart stmts := List.pairwise_map.mp h.strung.pairwise

end Standing

/-- A statement from the token `p` up to the reader `s` behind what stands in it. -/
theorem standing_token {p : Peek} {r s t : Reader} {stmt : Stmt} (hp : p.Follows r)
    (ht : p.after.Reaches t) (hparts : Standing t stmt.parts s)
    (hspan : stmt.span = ⟨p.span.start, s.pos⟩) : Standing r [stmt] s := by
  have hstart : p.span.start ≤ t.pos := by
    obtain ⟨-, hproper, hstop⟩ := hp.span
    exact Position.le_trans hproper (Position.le_trans hstop ht.pos_le)
  have hfits : stmt.Fits := by
    refine ⟨?_, fun part hpart => ?_, hparts.apart⟩
    · rw [hspan]
      exact Position.le_trans hstart hparts.reaches.pos_le
    · obtain ⟨hlo, -, hhi⟩ := hparts.strung.mem part.span (List.mem_map_of_mem hpart)
      rw [hspan]
      exact ⟨Position.le_trans hstart hlo, hhi⟩
  refine ⟨hp.reaches.trans (ht.trans hparts.reaches), ?_, ?_⟩
  · refine .single ?_ hfits.proper ?_
    · rw [hspan]
      exact Position.le_trans hp.extras.le hp.span.1
    · rw [hspan]
      exact s.pos.le_refl
  · exact List.forall_mem_singleton.mpr (Stmt.throughout_of_parts hfits hparts.fits)

/-- A sign that is kept as a statement. -/
theorem standing_sign {p : Peek} {r : Reader} (hp : p.Follows r) (kind : StmtKind) :
    Standing p.before [.plain kind p.span] p.after := by
  refine ⟨hp.after, hp.span, List.forall_mem_singleton.mpr (Stmt.throughout_of_simple rfl ?_)⟩
  exact ⟨hp.span.2.1, by simp [Stmt.parts], .nil⟩

theorem strung_extraStmt {lo hi : Position} {extras : List Expr}
    (h : Strung lo (extras.map Expr.span) hi) :
    Strung lo ((extras.flatMap Stub.extraStmt).map Stmt.span) hi := by
  induction extras generalizing lo with
  | nil => exact h
  | cons extra extras ih =>
    obtain ⟨hstart, hproper, hrest⟩ := h
    have hhere : Strung lo ((Stub.extraStmt extra).map Stmt.span) extra.span.stop := by
      unfold Stub.extraStmt
      split
      · exact .single hstart hproper (Position.le_refl _)
      · exact .single hstart hproper (Position.le_refl _)
      · exact Position.le_trans hstart hproper
    rw [List.flatMap_cons, List.map_append]
    exact hhere.append (ih hrest)

theorem parts_of_mem_extraStmt {extra : Expr} {stmt : Stmt} (h : stmt ∈ Stub.extraStmt extra) :
    stmt.parts = [] := by
  unfold Stub.extraStmt at h
  split at h
  · rw [List.mem_singleton.mp h]
    rfl
  · rw [List.mem_singleton.mp h]
    rfl
  · exact absurd h List.not_mem_nil

/-- The comments and line joins in front of a token stand there as statements. -/
theorem standing_extras {p : Peek} {r : Reader} (hp : p.Follows r) :
    Standing r (p.extras.flatMap Stub.extraStmt) p.before := by
  have hstrung := strung_extraStmt hp.extras
  refine ⟨hp.before, hstrung, fun stmt hstmt => ?_⟩
  obtain ⟨extra, -, hextra⟩ := List.mem_flatMap.mp hstmt
  have hparts := parts_of_mem_extraStmt hextra
  obtain ⟨-, hproper, -⟩ := hstrung.mem stmt.span (List.mem_map_of_mem hstmt)
  refine Stmt.throughout_of_parts ⟨hproper, ?_, ?_⟩ ?_
  · simp [hparts]
  · rw [hparts]
    exact .nil
  · simp [hparts]

namespace Rule

variable {α : Type}

theorem Ensures.either {r : Reader} {Q : α → Reader → Prop} {first second : Rule α}
    (h : Ensures r first Q) (h' : Ensures r second Q) : Ensures r (Rule.either first second) Q := by
  intro a s hs
  rw [Rule.either] at hs
  cases hfirst : first r with
  | none =>
    rw [hfirst] at hs
    exact h' a s hs
  | some result =>
    rw [hfirst] at hs
    exact h a s (hfirst.trans hs)

theorem Ensures.look {β : Type} {r : Reader} {Q : β → Reader → Prop} {e : Expect}
    {next : Peek → Rule β}
    (h : ∀ p : Peek, r.peek e = p → p.Follows r → Ensures r (next p) Q) :
    Ensures r (Rule.peek e >>= next) Q := h _ rfl (r.follows_peek e)

theorem Ensures.position {β : Type} {r : Reader} {Q : β → Reader → Prop}
    {next : Position → Rule β} (h : Ensures r (next r.pos) Q) :
    Ensures r (Rule.position >>= next) Q := h

/-- What the rule reads stands between its start and its end. -/
def Places (f : α → List Stmt) (rule : Rule α) : Prop :=
  ∀ r, Ensures r rule fun a s => Standing r (f a) s

namespace Places

theorem behind {f : α → List Stmt} {rule : Rule α} {b : Reader} (h : Places f rule) :
    Behind b rule := fun r hr => (h r).mono fun _ _ hs => hr.trans hs.reaches

/-- A rule that nothing is kept of comes first. -/
theorem after {β : Type} {f : α → List Stmt} {rule : Rule β} {next : β → Rule α}
    (h : ∀ b, Behind b rule) (hnext : ∀ a, Places f (next a)) : Places f (rule >>= next) :=
  fun r => (h r r (.refl r)).bind fun a s hs =>
    (hnext a s).mono fun _ _ hstanding => hstanding.of_reaches hs

/-- **What is collected** stands between the start of the first step and the end of the last. -/
theorem collect {f : α → List Stmt} {step : Rule (Option α)}
    (h : Places (fun item => item.elim [] f) step) {r₀ : Reader} (items : List α) (fuel : Nat)
    {r : Reader} (hitems : Standing r₀ (items.reverse.flatMap f) r) :
    Ensures r (Rule.collect step items fuel) fun all s => Standing r₀ (all.flatMap f) s := by
  induction fuel generalizing items r with
  | zero => exact .failure
  | succ fuel ih =>
    refine (h r).bind fun item s hitem => ?_
    cases item with
    | none => exact .pure (by simpa using hitems.append hitem)
    | some a => exact ih (a :: items) (by simpa using hitems.append hitem)

theorem many {f : α → List Stmt} {step : Rule (Option α)}
    (h : Places (fun item => item.elim [] f) step) :
    Places (fun all => all.flatMap f) (Rule.many step) :=
  fun r => collect h [] (r.left + 1) (.nil (.refl r))

end Places

end Rule

namespace Stub

open Rule

section

variable {b : Reader} {g : Grammar} (hg : Forward g)

include hg

/-! ### Parts of simple statements -/

theorem behind_rightSide : Behind b (rightSide g) := .bind .lead fun _ => (hg.assigned _).behind

theorem reads_assignedRule (start : Expect) : Reads start (assignedRule g start) := by
  refine .peek fun p r hr => ?_
  subst hr
  split
  · exact (reads_yieldRule hg start .line).bind (fun _ _ => .pure) r
  · refine (reads_expressions hg start .line).bind (fun found b => .peek fun q hq => ?_) r
    split
    · exact .bind (.take hq) fun _ => .bind .lift fun _ => (behind_rightSide hg).bind fun _ => .pure
    · refine .bind (.take hq) fun _ => .bind .lift fun _ => .bind .lead fun _ => ?_
      refine (hg.type _ _ _).behind.bind fun _ => .peek fun q hq => .ite ?_ .pure
      exact .bind (.take hq) fun _ => (behind_rightSide hg).bind fun _ => .pure
    · refine .ite (.bind (.take hq) fun _ => .bind .lift fun _ => ?_) .pure
      exact (behind_rightSide hg).bind fun _ => .pure
    · exact .pure

omit hg in
theorem behind_dottedName (start : Expect) (f : Follow) : Behind b (dottedName start f) := by
  refine (reads_name _).behind.bind fun _ => .bind (.many ?_) fun _ => .pure
  refine .peek fun p hp => .ite (.bind (.take hp) fun _ => ?_) .pure
  exact (reads_name _).behind.bind fun _ => .pure

omit hg in
theorem behind_importList (f : Follow) : Behind b (importList f) := by
  have hitem : ∀ start, Behind b (do
      dottedName start f
      let p ← peek f.expect
      if p.isWord "as" then
        take p
        let _ ← name .inner) := fun start =>
    (behind_dottedName start f).bind fun _ => .peek fun p hp =>
      .ite (.bind (.take hp) fun _ => (reads_name _).behind.bind fun _ => .pure) .pure
  refine (hitem .inner).bind fun _ => .bind (.many ?_) fun _ => .pure
  refine .peek fun p hp => .ite (.bind (.take hp) fun _ => .peek fun q _ => ?_) .pure
  split
  · exact (hitem _).bind fun _ => .pure
  · exact .failure
  · exact .pure

omit hg in
theorem behind_importNames : Behind b importNames := by
  refine .peek fun p hp => .ite (.bind (.take hp) fun _ => ?_) (behind_importList _)
  exact (behind_importList _).bind fun _ => (reads_operator _ _).behind.bind fun _ => .pure

omit hg in
theorem behind_futureImport : Behind b futureImport :=
  (reads_keyword _ _).behind.bind fun _ => (reads_keyword _ _).behind.bind fun _ =>
    behind_importNames

omit hg in
theorem behind_importFrom : Behind b importFrom := by
  refine .bind (.many (.peek fun p hp => ?_)) fun dots => .peek fun p _ => ?_
  · exact .ite (.bind (.take hp) fun _ => .pure) .pure
  · extract_lets rest
    have hrest : ∀ u, Behind b (rest u) := by
      refine fun _ => (reads_keyword _ _).behind.bind fun _ => .peek fun p hp => ?_
      exact .ite (.take hp) behind_importNames
    exact .ite ((behind_dottedName _ _).bind hrest) (hrest ())

theorem behind_commaExpressions (trailing : Bool) : Behind b (commaExpressions g trailing) := by
  refine .bind (.many (.peek fun p hp => .ite (.bind (.take hp) fun _ => ?_) .pure)) fun _ => .pure
  refine .peek fun q _ => .ite (.ite .failure .pure) ?_
  exact (hg.led_expression 0 _ _ _).bind fun _ => .pure

theorem behind_optionalExpressions : Behind b (optionalExpressions g) :=
  .peek fun _ _ => .ite (.bind .lead fun _ => (reads_expressions hg _ _).behind.bind fun _ => .pure)
    .pure

omit hg in
theorem behind_names : Behind b names := by
  refine (reads_name _).behind.bind fun _ => .bind (.many ?_) fun _ => .pure
  refine .peek fun p hp => .ite (.bind (.take hp) fun _ => ?_) .pure
  exact (reads_name _).behind.bind fun _ => .pure

/-! ### Parts of compound statements -/

theorem behind_body : Behind b (body g) := (reads_operator _ _).behind.bind fun _ => hg.suite b

theorem behind_guarded : Behind b (guarded g) :=
  (hg.led_expression 0 _ _ _).bind fun _ => behind_body hg

theorem behind_optionalClause (outer : Expect) (word : String) :
    Behind b (optionalClause g outer word) :=
  .peek fun _ hp => .ite (.bind (.take hp) fun _ => (behind_body hg).bind fun _ => .pure) .pure

theorem behind_optionalTypeParameters : Behind b (optionalTypeParameters g) :=
  .peek fun _ hp => .ite ((past_typeParameters hg hp).behind.bind fun _ => .pure) .pure

theorem behind_returnsAndBody (bounded : Bool) : Behind b (returnsAndBody g bounded) := by
  refine .peek fun p hp => .ite ?_ ((behind_body hg).bind fun _ => .pure)
  refine .bind (.take hp) fun _ => .bind .lead fun _ => (hg.type _ _ _).behind.bind fun _ => ?_
  exact (behind_body hg).bind fun _ => .pure

theorem past_decorator {p : Peek} (hp : b.Reaches p.after) : Past b (decorator g p) := by
  refine .take hp fun _ => (hg.led_expression 0 _ _ _).bind fun _ => .peek fun q hq => ?_
  exact .ite (.bind (.take hq) fun _ => .pure) .failure

theorem behind_forRest (outer : Expect) : Behind b (forRest g outer) :=
  (behind_loopTargets hg).bind fun _ => (reads_keyword _ _).behind.bind fun _ =>
    .bind .lead fun _ => (reads_expressions hg _ _).behind.bind fun _ =>
      (behind_body hg).bind fun _ => (behind_optionalClause hg _ _).bind fun _ => .pure

theorem behind_exceptClause : Behind b (exceptClause g) := by
  refine .peek fun p hp => ?_
  extract_lets close rest
  have hclose : ∀ u, Behind b (close u) := fun _ => (behind_body hg).bind fun _ => .pure
  have hrest : ∀ u, Behind b (rest u) := by
    refine fun u => .peek fun p _ => .ite (.bind .lead fun _ => ?_) (hclose ())
    exact (reads_expressions hg _ _).behind.bind fun _ => hclose ()
  exact .ite (.bind (.take hp) hrest) (hrest ())

theorem behind_withRest : Behind b (withRest g) :=
  .bind .lead fun _ => (reads_expressions hg _ _).behind.bind fun _ =>
    (behind_body hg).bind fun _ => .pure

/-! ### Matching -/

omit hg in
theorem behind_bracketedPatterns {item : Expect → Rule Unit} (h : ∀ e, Behind b (item e))
    (closer : String) : Behind b (bracketedPatterns item closer) := by
  refine .bind (.many (.peek fun p _ => .ite .pure (.bind .lead fun _ => (h _).bind fun _ => ?_)))
    fun _ => (reads_operator _ _).behind.bind fun _ => .pure
  exact .peek fun q hq => .ite (.bind (.take hq) fun _ => .pure) (.ite .failure .pure)

omit hg in
theorem behind_numberPattern (start : Expect) : Behind b (numberPattern start) := by
  refine .peek fun p hp => ?_
  extract_lets rest
  have hrest : ∀ u, Behind b (rest u) := by
    refine fun u => .peek fun p hp => ?_
    split
    · exact .take hp
    · exact .failure
  exact .ite (.bind (.take hp) hrest) (hrest ())

theorem behind_basePattern {simple : Expect → Follow → Rule Unit}
    (h : ∀ e f, Behind b (simple e f)) (start : Expect) (f : Follow) :
    Behind b (basePattern g simple start f) := by
  refine .peek fun p hp => ?_
  have hnested : ∀ closer,
      Behind b (bracketedPatterns (fun e => g.casePattern e .bracket) closer) :=
    behind_bracketedPatterns fun e => hg.casePattern e _ b
  have hstarred : Behind b (do
      take p
      let _ ← name .inner) := .bind (.take hp) fun _ => (reads_name _).behind.bind fun _ => .pure
  split
  · exact (past_strings hg f hp _).behind.bind fun _ => .pure
  · refine .ite (.take hp) ((behind_dottedName _ _).bind fun _ => .peek fun q hq => ?_)
    exact .ite (.bind (.take hq) fun _ => hnested _) .pure
  · exact hstarred
  · exact hstarred
  · exact .bind (.take hp) fun _ => hnested _
  · exact .bind (.take hp) fun _ => hnested _
  · refine .bind (.take hp) fun _ => behind_bracketedPatterns (fun e => ?_) _
    refine .peek fun q _ => .ite (h _ _) ((h _ _).bind fun _ => ?_)
    exact (reads_operator _ _).behind.bind fun _ => .bind .lead fun _ => hg.casePattern _ _ b
  · refine (behind_numberPattern _).bind fun _ => .peek fun q hq => .ite ?_ .pure
    refine .bind (.take hq) fun _ => .peek fun p hp => ?_
    split
    · exact .take hp
    · exact .failure

theorem behind_simplePattern (depth : Nat) (start : Expect) (f : Follow) :
    Behind b (simplePattern g depth start f) := by
  induction depth generalizing start f with
  | zero => exact .failure
  | succ depth ih =>
    refine (behind_basePattern hg ih start f).bind fun _ => .bind (.many ?_) fun _ => .pure
    refine .peek fun p hp => .ite (.bind (.take hp) fun _ => .bind .lead fun _ => ?_) .pure
    exact (behind_basePattern hg ih _ f).bind fun _ => .pure

theorem behind_casePatternRule (start : Expect) (f : Follow) :
    Behind b (casePatternRule g start f) := by
  refine .peek fun p hp => .get fun r _ => ?_
  extract_lets depth rest q
  have hrest : ∀ u, Behind b (rest u) := by
    refine fun u => .bind (.many (.peek fun p hp => ?_)) fun _ => .pure
    exact .ite (.bind (.take hp) fun _ => (reads_name _).behind.bind fun _ => .pure) .pure
  have hsimple : ∀ e, Behind b (simplePattern g depth e f >>= rest) := fun e =>
    (behind_simplePattern hg depth e f).bind hrest
  split
  · refine .ite (.bind (.take ?_) fun _ => .bind .lead fun _ => hsimple _) (hsimple _)
    exact hp.trans (p.after.reaches_peek _)
  · exact hsimple _

theorem behind_caseClause : Behind b (caseClause g) := by
  refine .bind .lead fun _ => (hg.casePattern _ _ b).bind fun _ => .bind (.many ?_) fun _ => ?_
  · refine .peek fun p hp => .ite (.bind (.take hp) fun _ => .peek fun q _ => .ite .pure ?_) .pure
    exact .bind .lead fun _ => (hg.casePattern _ _ b).bind fun _ => .pure
  · refine .peek fun p hp => ?_
    extract_lets close
    have hclose : ∀ u, Behind b (close u) := fun _ => (behind_body hg).bind fun _ => .pure
    refine .ite (.bind (.take hp) fun _ => ?_) (hclose ())
    exact (hg.led_expression 0 _ _ _).bind fun _ => hclose ()

theorem behind_cases : Behind b (cases g) := by
  refine .peek fun p hp => ?_
  split
  · exact .take hp
  · refine .bind (.take hp) fun _ => .bind (.many (.peek fun q hq => .ite ?_ .pure)) fun _ => ?_
    · exact .bind (.take hq) fun _ => (behind_caseClause hg).bind fun _ => .pure
    · exact .peek fun q hq => .ite (.take hq) .failure
  · exact .failure


/-! ### Simple statements -/

omit hg in
theorem ensures_terminated {α : Type} {rule : Rule α} {r : Reader} {Q : α → Reader → Prop}
    (h : Ensures r rule Q) : Ensures r (terminated rule) Q := by
  refine h.bind fun a s ha => .peek fun p _ => ?_
  split
  · exact .pure ha
  · exact .failure

omit hg in
theorem ensures_plainStatement (kind : StmtKind) {p : Peek} {r r' : Reader} (hp : p.Follows r)
    {rest : Rule Unit} (hrest : Behind p.after rest) :
    Ensures r' (plainStatement kind p rest) fun stmt s => Standing r [stmt] s := by
  refine .take ((hrest p.after (.refl p.after)).bind fun _ s hs => .position (.pure ?_))
  exact standing_token hp hs (.nil (.refl s)) rfl

theorem ensures_expressionStatement (start : Expect) {p : Peek} {r : Reader}
    (hpeek : r.peek start = p) :
    Ensures r (expressionStatement g start p) fun stmt s => Standing r [stmt] s := by
  subst hpeek
  refine (reads_assignedRule hg start r).bind fun found s hs => .position ?_
  have hp := r.follows_peek start
  cases found with
  | expression first whole => exact .pure (standing_token hp hs (.nil (.refl s)) rfl)
  | assignment body => exact .pure (standing_token hp hs (.nil (.refl s)) rfl)
  | augmented => exact .pure (standing_token hp hs (.nil (.refl s)) rfl)

theorem ensures_printStatement {p : Peek} {r r' : Reader} (hp : p.Follows r) :
    Ensures r' (printStatement g p) fun stmt s => Standing r [stmt] s := by
  refine ensures_plainStatement _ hp (.peek fun q hq => ?_)
  extract_lets rest
  have hrest : ∀ u, Behind p.after (rest u) := fun _ =>
    (hg.led_expression 0 _ _ _).bind fun _ => behind_commaExpressions hg true
  exact .ite (.bind (.take hq) hrest) (hrest ())

theorem ensures_execStatement {p : Peek} {r r' : Reader} (hp : p.Follows r) :
    Ensures r' (execStatement g p) fun stmt s => Standing r [stmt] s := by
  refine ensures_plainStatement _ hp (.peek fun q hq => ?_)
  extract_lets rest
  have hrest : ∀ u, Behind p.after (rest u) := by
    refine fun _ => .peek fun q hq => .ite (.bind (.take hq) fun _ => ?_) .pure
    exact (hg.led_expression 0 _ _ _).bind fun _ => behind_commaExpressions hg false
  split
  · exact (past_stringLiteral hg hq _).behind.bind fun _ => hrest ()
  · exact .ite (.bind (.take hq) hrest) (.bind .failure hrest)
  · exact .bind .failure hrest

theorem ensures_aliasStatement {p : Peek} {r r' : Reader} (hp : p.Follows r) :
    Ensures r' (aliasStatement g p) fun stmt s => Standing r [stmt] s := by
  refine .take ((Behind.lead p.after (.refl p.after)).bind fun _ s hs => ?_)
  refine ((hg.type _ _ _).behind s hs).bind fun left s hs => ?_
  refine ((reads_operator _ _).behind s hs).bind fun _ s hs => ?_
  refine (Behind.lead s hs).bind fun _ s hs => ((hg.type _ _ _).behind s hs).bind fun _ s hs => ?_
  exact .position (.pure (standing_token hp hs (.nil (.refl s)) rfl))

theorem places_simpleStatement (start : Expect) :
    Places (fun stmt => [stmt]) (simpleStatement g start) := by
  refine fun r => .look fun p hpeek hp => ?_
  have hexpression := ensures_expressionStatement hg start hpeek
  split
  · exact ensures_plainStatement _ hp (behind_importList _)
  · split
    · exact ensures_plainStatement _ hp behind_futureImport
    · exact ensures_plainStatement _ hp behind_importFrom
  · exact ensures_plainStatement _ hp .pure
  · exact ensures_plainStatement _ hp .pure
  · exact ensures_plainStatement _ hp .pure
  · exact ensures_plainStatement _ hp (behind_optionalExpressions hg)
  · refine ensures_plainStatement _ hp (.bind .lead fun _ => ?_)
    exact (reads_expressions hg _ _).behind.bind fun _ => .pure
  · refine ensures_plainStatement _ hp ((behind_optionalExpressions hg).bind fun _ => ?_)
    refine .peek fun q hq => .ite (.bind (.take hq) fun _ => ?_) .pure
    exact (hg.led_expression 0 _ _ _).bind fun _ => .pure
  · exact ensures_plainStatement _ hp behind_names
  · exact ensures_plainStatement _ hp behind_names
  · refine ensures_plainStatement _ hp ((hg.led_expression 0 _ _ _).bind fun _ => ?_)
    exact behind_commaExpressions hg false
  · split
    · exact ensures_printStatement hg hp
    · exact .either (ensures_terminated hexpression) (ensures_printStatement hg hp)
  · exact .either (ensures_terminated hexpression) (ensures_execStatement hg hp)
  · exact .either (ensures_terminated (ensures_aliasStatement hg hp)) hexpression
  · exact hexpression

theorem ensures_simpleRest {r₀ : Reader} (stmts : List Stmt) (fuel : Nat) {r : Reader}
    (h : Standing r₀ stmts r) :
    Ensures r (simpleRest g stmts fuel) fun all s => Standing r₀ all s := by
  induction fuel generalizing stmts r with
  | zero => exact .failure
  | succ fuel ih =>
    refine .look fun p _ hp => ?_
    have hextras := h.append (standing_extras hp)
    dsimp only
    split
    · exact .take (.pure (hextras.reaching hp.after))
    · split
      · refine .take (.look fun q hpeek hq => ?_)
        have hsign := (hextras.append (standing_sign hp .semicolon)).append (standing_extras hq)
        split
        · exact .take (.pure (hsign.reaching hq.after))
        · refine .peek_lead hpeek ?_
          refine (places_simpleStatement hg _ q.before).bind fun next s hnext => ?_
          exact ih _ (hsign.append hnext)
      · exact .failure

theorem places_simpleStatements (start : Expect) :
    Places (fun stmts => stmts) (simpleStatements g start) :=
  fun r => (places_simpleStatement hg start r).bind fun first _ hfirst =>
    .get (ensures_simpleRest hg [first] _ hfirst)

/-! ### Bodies -/

omit hg in
theorem ensures_blockRest (hstatement : Places (fun stmts => stmts) (g.statement .blockStatement))
    {r₀ : Reader} (read : List Stmt) (fuel : Nat) {r : Reader} (h : Standing r₀ read.reverse r) :
    Ensures r (blockRest g read fuel) fun all s => Standing r₀ all s := by
  induction fuel generalizing read r with
  | zero => exact .failure
  | succ fuel ih =>
    refine .look fun p _ hp => ?_
    extract_lets kept
    have hkept : Standing r₀ kept.reverse p.before := by
      simp only [kept]
      split
      · rename_i hempty
        rw [List.isEmpty_iff.mp hempty] at h
        exact h.reaching hp.before
      · simpa using h.append (standing_extras hp)
    split
    · exact .take (.pure (hkept.reaching hp.after))
    · refine .set ((hstatement p.before).bind fun next s hnext => ih _ ?_)
      simpa using hkept.append hnext

theorem places_suiteRule (hstatement : Places (fun stmts => stmts) (g.statement .blockStatement)) :
    Places (fun stmts => stmts) (suiteRule g) := by
  refine fun r => .look fun p _ hp => ?_
  split
  · exact .take (.get (ensures_blockRest hstatement [] _ (.nil hp.reaches)))
  · exact .take (.pure (.nil hp.reaches))
  · refine .set ((places_simpleStatements hg .suite p.before).mono fun stmts s hstmts => ?_)
    exact hstmts.of_reaches hp.before

omit hg in
theorem places_body (hsuite : Places (fun stmts => stmts) g.suite) :
    Places (fun stmts => stmts) (body g) :=
  .after (fun _ => (reads_operator _ _).behind) fun _ => hsuite

section

variable (hsuite : Places (fun stmts => stmts) g.suite)

include hsuite

theorem places_guarded : Places (fun stmts => stmts) (guarded g) :=
  .after (fun _ => hg.led_expression 0 _ _ _) fun _ => places_body hsuite

omit hg in
theorem places_optionalClause (outer : Expect) (word : String) :
    Places List.flatten (optionalClause g outer word) := by
  refine fun r => .look fun p _ hp => ?_
  split
  · refine .take ((places_body hsuite p.after).bind fun stmts s hstmts => .pure ?_)
    simpa using hstmts.of_reaches hp.reaches
  · exact .pure (.nil (.refl r))

/-! ### Compound statements -/

omit hsuite in
theorem ensures_functionStatement (decorators : List Expr) {p : Peek} {r r' : Reader}
    (hp : p.Follows r) :
    Ensures r' (functionStatement g decorators p) fun stmt s => Standing r [stmt] s := by
  refine .take ?_
  extract_lets rest
  have hrest : ∀ u s, p.after.Reaches s →
      Ensures s (rest u) fun stmt s => Standing r [stmt] s := by
    intro u s hs
    refine ((reads_name _).behind s hs).bind fun found s hs => ?_
    refine (behind_optionalTypeParameters hg s hs).bind fun _ s hs => ?_
    refine (behind_parameters hg s hs).bind fun params s hs => ?_
    refine ((behind_returnsAndBody hg false).either (behind_returnsAndBody hg true) s hs).bind ?_
    intro returns s hs
    exact .position (.pure (standing_token hp hs (.nil (.refl s)) rfl))
  split
  · exact ((reads_keyword _ _).behind p.after (.refl _)).bind fun _ s hs => hrest () s hs
  · exact hrest () p.after (.refl _)

theorem ensures_classStatement (decorators : List Expr) {p : Peek} {r r' : Reader}
    (hp : p.Follows r) :
    Ensures r' (classStatement g decorators p) fun stmt s => Standing r [stmt] s := by
  refine .take (((reads_name _).behind p.after (.refl _)).bind fun found s hs => ?_)
  refine (behind_optionalTypeParameters hg s hs).bind fun _ s hs => .look fun q _ hq => ?_
  extract_lets rest
  have hrest : ∀ u s, p.after.Reaches s →
      Ensures s (rest u) fun stmt s => Standing r [stmt] s := by
    refine fun u s hs => (places_body hsuite s).bind fun stmts t hstmts => .position (.pure ?_)
    exact standing_token hp hs hstmts rfl
  split
  · exact (past_arguments hg false (hs.trans hq.reaches) s).bind fun _ s hs => hrest () s hs
  · exact hrest () s hs

theorem ensures_decoratedStatement {p : Peek} {r r' : Reader} (hp : p.Follows r) :
    Ensures r' (decoratedStatement g p) fun stmt s => Standing r [stmt] s := by
  refine (past_decorator hg (.refl p.after) r').bind fun first s hs => ?_
  have hmany : Behind p.after (many do
      let q ← peek .inner
      if q.isOperator "@" then return some (← decorator g q) else return none) :=
    .many (.peek fun q hq => .ite ((past_decorator hg hq).behind.bind fun _ => .pure) .pure)
  refine (hmany s hs).bind fun more s hs => .look fun q _ hq => ?_
  have hfront : r.Reaches s := hp.reaches.trans hs
  split
  · exact (ensures_classStatement hg hsuite _ hq).mono fun _ _ h => h.of_reaches hfront
  · split
    · exact (ensures_functionStatement hg _ hq).mono fun _ _ h => h.of_reaches hfront
    · exact .failure

theorem ensures_conditionalStatement (outer : Expect) {p : Peek} {r r' : Reader}
    (hp : p.Follows r) :
    Ensures r' (conditionalStatement g outer p) fun stmt s => Standing r [stmt] s := by
  refine .take ((places_guarded hg hsuite p.after).bind fun first s hfirst => ?_)
  have hothers : Places (fun all => all.flatMap fun stmts => stmts) (many do
      let q ← peek outer
      if q.isWord "elif" then
        take q
        return some (← guarded g)
      else return none) := by
    refine .many fun r => .look fun q _ hq => ?_
    split
    · refine .take ((places_guarded hg hsuite q.after).bind fun stmts s hstmts => .pure ?_)
      exact hstmts.of_reaches hq.reaches
    · exact .pure (.nil (.refl r))
  refine (hothers s).bind fun others s hothers => ?_
  refine (places_optionalClause hsuite outer "else" s).bind fun last s hlast => ?_
  refine .position (.pure (standing_token hp (.refl _) ?_ rfl))
  simpa [Stmt.parts, List.flatMap_id'] using (hfirst.append hothers).append hlast

omit hg hsuite in
theorem ensures_of_some {rule found : Rule Stmt} {r : Reader} {Q : Stmt → Reader → Prop}
    (h : some rule = some found) (hrule : Ensures r rule Q) : Ensures r found Q :=
  Option.some.inj h ▸ hrule

omit hsuite in
theorem ensures_asyncStatement {outer : Expect} {p : Peek} {r r' : Reader} (hp : p.Follows r)
    {rule : Rule Stmt} (h : asyncStatement g outer p = some rule) :
    Ensures r' rule fun stmt s => Standing r [stmt] s := by
  have hboth := hp.extend (p.after.reaches_peek .operandOrNewline)
  unfold asyncStatement at h
  dsimp only at h
  split_ifs at h
  · exact ensures_of_some h (ensures_functionStatement hg _ hp)
  · exact ensures_of_some h (ensures_plainStatement _ hboth (behind_forRest hg _))
  · exact ensures_of_some h (ensures_plainStatement _ hboth (behind_withRest hg))

omit hsuite in
theorem ensures_tryStatement (outer : Expect) {p : Peek} {r r' : Reader} (hp : p.Follows r) :
    Ensures r' (tryStatement g outer p) fun stmt s => Standing r [stmt] s := by
  refine ensures_plainStatement _ hp ((behind_body hg).bind fun _ => .bind (.many ?_) fun _ => ?_)
  · refine .peek fun q hq => .ite (.bind (.take hq) fun _ => ?_) .pure
    exact (behind_exceptClause hg).bind fun _ => .pure
  · exact (behind_optionalClause hg _ _).bind fun _ => (behind_optionalClause hg _ _).bind fun _ =>
      .pure

theorem ensures_compoundStatement {outer : Expect} {p : Peek} {r r' : Reader} (hp : p.Follows r)
    {rule : Rule Stmt} (h : compoundStatement g outer p = some rule) :
    Ensures r' rule fun stmt s => Standing r [stmt] s := by
  unfold compoundStatement at h
  split at h
  · exact ensures_of_some h (ensures_conditionalStatement hg hsuite outer hp)
  · refine ensures_of_some h (ensures_plainStatement _ hp ((behind_guarded hg).bind fun _ => ?_))
    exact (behind_optionalClause hg _ _).bind fun _ => .pure
  · exact ensures_of_some h (ensures_plainStatement _ hp (behind_forRest hg outer))
  · exact ensures_of_some h (ensures_tryStatement hg outer hp)
  · exact ensures_of_some h (ensures_plainStatement _ hp (behind_withRest hg))
  · exact ensures_of_some h (ensures_classStatement hg hsuite _ hp)
  · exact ensures_of_some h (ensures_functionStatement hg _ hp)
  · exact ensures_asyncStatement hg hp h
  · exact ensures_of_some h (ensures_decoratedStatement hg hsuite hp)
  · exact absurd h (by simp)

omit hsuite in
theorem ensures_matchStatement {p : Peek} {r r' : Reader} (hp : p.Follows r) :
    Ensures r' (matchStatement g p) fun stmt s => Standing r [stmt] s := by
  refine ensures_plainStatement _ hp (.bind .lead fun _ => ?_)
  exact (reads_expressions hg _ _).behind.bind fun _ => (reads_operator _ _).behind.bind fun _ =>
    behind_cases hg

theorem places_statementRule (outer : Expect) :
    Places (fun stmts => stmts) (statementRule g outer) := by
  refine fun r => .look fun p _ hp => ?_
  split
  · rename_i rule hrule
    exact (ensures_compoundStatement hg hsuite hp hrule).bind fun _ _ h => .pure h
  · split
    · refine .either (places_simpleStatements hg outer r) ?_
      exact (ensures_matchStatement hg hp).bind fun _ _ h => .pure h
    · exact places_simpleStatements hg outer r

end

end

/-! ### Whole texts -/

/-- The rules go forward and read bodies and statements in place. -/
structure Placing (g : Grammar) : Prop where
  forward : Forward g
  suite : Places (fun stmts => stmts) g.suite
  statement : ∀ e, Places (fun stmts => stmts) (g.statement e)

/-- **The rules read in place**, however deep they call each other. -/
theorem placing_grammar (depth : Nat) : Placing (grammar depth) := by
  induction depth with
  | zero =>
    exact ⟨⟨fun _ _ _ => .failure, fun _ _ _ => .failure, fun _ _ => .failure,
      fun _ _ _ => .failure, fun _ => .failure, fun _ _ _ => .failure, fun _ => .failure⟩,
      fun _ => .failure, fun _ _ => .failure⟩
  | succ depth ih =>
    have hg := ih.forward
    have hsuite := places_suiteRule hg (ih.statement .blockStatement)
    exact ⟨⟨reads_expressionRule hg (reads_lambdaRule hg), reads_arithmeticRule hg,
      reads_operandRule hg, reads_typeRule hg, reads_assignedRule hg,
      fun e f _ => behind_casePatternRule hg e f, fun _ => hsuite.behind⟩, hsuite,
      places_statementRule hg ih.suite⟩

theorem ensures_moduleRest {g : Grammar}
    (hstatement : Places (fun stmts => stmts) (g.statement .statement)) {r₀ : Reader}
    (read : List Stmt) (fuel : Nat) {r : Reader} (h : Standing r₀ read.reverse r) :
    Ensures r (moduleRest g read fuel) fun all _ => ∃ t, Standing r₀ all t := by
  induction fuel generalizing read r with
  | zero => exact .failure
  | succ fuel ih =>
    refine .look fun p _ hp => ?_
    have hextras := h.append (standing_extras hp)
    rw [← List.reverse_reverse (p.extras.flatMap extraStmt), ← List.reverse_append] at hextras
    dsimp only
    split
    · exact .pure ⟨_, hextras⟩
    · refine .set ((hstatement p.before).bind fun next s hnext => ih _ ?_)
      simpa using hextras.append hnext

/-- **The statements of a text are well placed.** -/
theorem wellPlaced_of_parse? {text : String} {stmts : List Stmt} (h : parse? text = some stmts) :
    WellPlaced stmts := by
  obtain ⟨⟨found, s⟩, hfound, rfl⟩ := Option.map_eq_some_iff.mp h
  obtain ⟨t, hstanding⟩ := ensures_moduleRest ((placing_grammar _).statement .statement) [] _
    (.nil (.refl _)) _ _ hfound
  exact ⟨forall_visited_iff.mpr hstanding.fits, hstanding.apart⟩

end Stub

end StubLayers
