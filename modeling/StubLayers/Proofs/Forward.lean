import StubLayers.Proofs.Rules
import StubLayers.Stub.Grammar.Statement

/-!
# Reading goes forward

A rule hands the reader on from token to token.  This file says that it never goes back, and that
the position of a reader is always the one behind the text that has been read.

* `Reader.Reaches r s`: reading on from `r` one comes to `s`.
* `Strung lo spans hi`: the spans lie one behind the other between two positions.
* `Peek.Follows p r`: the token `p` lies ahead of `r`, behind its extras.
* `Rule.Behind b rule`: started behind `b`, the rule ends behind `b`.
* `Rule.Past b rule`: wherever it is started, the rule ends behind `b`; so do rules that start with
  a token that has been looked at.
* `Rule.Reads e rule`: the rule reads at least the token that lies ahead where `e` is expected.
* `Forward g`: the rules that the others call go forward.  There is one lemma for each rule.
-/

namespace StubLayers

/-! ### Readers -/

theorem Position.le_foldl_after (p : Position) (cs : List Char) : p ≤ cs.foldl after p := by
  induction cs generalizing p with
  | nil => exact p.le_refl
  | cons c cs ih => exact le_trans (p.le_after c) (ih (p.after c))

namespace Reader

/-- Reading on from `r` one comes to `s`, at the position that the text between them leads to. -/
def Reaches (r s : Reader) : Prop :=
  ∃ front, r.rest = front ++ s.rest ∧ s.pos = front.foldl Position.after r.pos

namespace Reaches

variable {r s t : Reader}

theorem refl (r : Reader) : r.Reaches r := ⟨[], rfl, rfl⟩

theorem trans (h : r.Reaches s) (h' : s.Reaches t) : r.Reaches t := by
  obtain ⟨front, hrest, hpos⟩ := h
  obtain ⟨more, hrest', hpos'⟩ := h'
  refine ⟨front ++ more, ?_, ?_⟩
  · rw [hrest, hrest', List.append_assoc]
  · rw [List.foldl_append, ← hpos, hpos']

theorem pos_le (h : r.Reaches s) : r.pos ≤ s.pos := by
  obtain ⟨front, -, hpos⟩ := h
  rw [hpos]
  exact r.pos.le_foldl_after front

end Reaches

theorem reaches_step (r : Reader) : r.Reaches r.step := by
  unfold step
  split
  · exact .refl r
  · rename_i c rest hrest
    exact ⟨[c], hrest, rfl⟩

theorem reaches_advance (r : Reader) (n : Nat) : r.Reaches (r.advance n) := by
  induction n generalizing r with
  | zero => exact .refl r
  | succ n ih => exact r.reaches_step.trans (ih r.step)

theorem reaches_skipWhile (p : Char → Bool) (r : Reader) : r.Reaches (r.skipWhile p) :=
  r.reaches_advance _

/-- A mark of layout has no width. -/
theorem reaches_of_mark {e : Expect} {r s : Reader} {gap : Gap} {mark : Mark}
    (h : r.mark e gap = some (mark, s)) : r.Reaches s := by
  unfold Reader.mark at h
  split_ifs at h
  all_goals
    obtain ⟨-, rfl⟩ := Prod.mk.inj (Option.some.inj h)
    exact ⟨[], rfl, rfl⟩

end Reader

/-! ### Spans in a row -/

/-- The spans lie one behind the other between `lo` and `hi`. -/
def Strung (lo : Position) : List Span → Position → Prop
  | [], hi => lo ≤ hi
  | span :: spans, hi => lo ≤ span.start ∧ span.start ≤ span.stop ∧ Strung span.stop spans hi

namespace Strung

variable {lo mid hi : Position} {spans more : List Span}

theorem append (h : Strung lo spans mid) (h' : Strung mid more hi) :
    Strung lo (spans ++ more) hi := by
  induction spans generalizing lo with
  | nil =>
    cases more with
    | nil => exact Position.le_trans h h'
    | cons span more => exact ⟨Position.le_trans h h'.1, h'.2⟩
  | cons span spans ih => exact ⟨h.1, h.2.1, ih h.2.2⟩

theorem single {span : Span} (hlo : lo ≤ span.start) (h : span.start ≤ span.stop)
    (hhi : span.stop ≤ hi) : Strung lo [span] hi := ⟨hlo, h, hhi⟩

theorem le (h : Strung lo spans hi) : lo ≤ hi := by
  induction spans generalizing lo with
  | nil => exact h
  | cons span spans ih => exact Position.le_trans h.1 (Position.le_trans h.2.1 (ih h.2.2))

theorem mem (h : Strung lo spans hi) :
    ∀ span ∈ spans, lo ≤ span.start ∧ span.start ≤ span.stop ∧ span.stop ≤ hi := by
  induction spans generalizing lo with
  | nil => simp
  | cons span spans ih =>
    refine List.forall_mem_cons.mpr ⟨⟨h.1, h.2.1, h.2.2.le⟩, fun inner hinner => ?_⟩
    obtain ⟨hstart, hinner⟩ := ih h.2.2 inner hinner
    exact ⟨Position.le_trans h.1 (Position.le_trans h.2.1 hstart), hinner⟩

theorem pairwise (h : Strung lo spans hi) :
    spans.Pairwise fun span later => span.stop ≤ later.start := by
  induction spans generalizing lo with
  | nil => exact .nil
  | cons span spans ih =>
    exact List.pairwise_cons.mpr ⟨fun later hlater => (h.2.2.mem later hlater).1, ih h.2.2⟩

end Strung

/-! ### Looking ahead -/

/-- The token lies ahead of the reader: first come its extras, then the token. -/
structure Peek.Follows (p : Peek) (r : Reader) : Prop where
  extras : Strung r.pos (p.extras.map Expr.span) p.before.pos
  before : r.Reaches p.before
  span : Strung p.before.pos [p.span] p.after.pos
  after : p.before.Reaches p.after

namespace Stub

theorem follows_of_extraAt {r s : Reader} {extra : Expr} (h : extraAt r = some (extra, s)) :
    r.Reaches s ∧ extra.span = ⟨r.pos, s.pos⟩ := by
  unfold extraAt at h
  dsimp only at h
  split at h
  · split at h
    · exact absurd h (by simp)
    · obtain ⟨rfl, rfl⟩ := Prod.mk.inj (Option.some.inj h)
      exact ⟨r.reaches_advance _, rfl⟩
  · obtain ⟨rfl, rfl⟩ := Prod.mk.inj (Option.some.inj h)
    exact ⟨r.reaches_advance _, rfl⟩

theorem reaches_of_quoteAt {e : Expect} {r start s : Reader} {gap : Gap} {quote : Quote}
    (h : quoteAt e r gap = some (quote, start, s)) : r.Reaches start ∧ start.Reaches s := by
  unfold quoteAt at h
  split_ifs at h
  split at h
  · rename_i q n hopening
    obtain ⟨-, hpair⟩ := Prod.mk.inj (Option.some.inj h)
    obtain ⟨rfl, rfl⟩ := Prod.mk.inj hpair
    have hopens : ((r.advance gap.size).advance n).Reaches
        { (r.advance gap.size).advance n with interpolating := q.interpolated } :=
      ⟨[], rfl, rfl⟩
    exact ⟨r.reaches_advance _, (Reader.reaches_advance _ n).trans hopens⟩
  · exact absurd h (by simp)

theorem follows_look {e : Expect} {extras : List Expr} {r₀ r : Reader} (fuel : Nat)
    (hextras : Strung r₀.pos (extras.reverse.map Expr.span) r.pos) (hr : r₀.Reaches r) :
    (look e extras r fuel).Follows r₀ := by
  induction fuel generalizing extras r with
  | zero =>
    exact ⟨hextras, hr, .single (Position.le_refl _) (Position.le_refl _) (Position.le_refl _),
      .refl r⟩
  | succ fuel ih =>
    rw [look]
    dsimp only
    split
    · rename_i mark s hmark
      obtain ⟨gap, -, hmark⟩ := Option.bind_eq_some_iff.mp hmark
      have hs := Reader.reaches_of_mark hmark
      exact ⟨hextras, hr, .single (Position.le_refl _) (Position.le_refl _) hs.pos_le, hs⟩
    · split
      · rename_i quote start s hquote
        obtain ⟨gap, -, hquote⟩ := Option.bind_eq_some_iff.mp hquote
        obtain ⟨hstart, hs⟩ := reaches_of_quoteAt hquote
        exact ⟨hextras, hr, .single hstart.pos_le hs.pos_le (Position.le_refl _), hstart.trans hs⟩
      · have hblanks := r.reaches_skipWhile isBlank
        split
        · rename_i extra s hextra
          obtain ⟨hs, hspan⟩ := follows_of_extraAt hextra
          refine ih ?_ (hr.trans (hblanks.trans hs))
          rw [List.reverse_cons, List.map_append]
          refine hextras.append ?_
          rw [List.map_singleton, hspan]
          exact .single hblanks.pos_le hs.pos_le (Position.le_refl _)
        · have hs := (r.skipWhile isBlank).reaches_advance
            (plainToken (r.skipWhile isBlank).rest).2
          exact ⟨hextras, hr, .single hblanks.pos_le hs.pos_le (Position.le_refl _),
            hblanks.trans hs⟩

end Stub

theorem Reader.follows_peek (e : Expect) (r : Reader) : (r.peek e).Follows r :=
  Stub.follows_look _ r.pos.le_refl (.refl r)

theorem Peek.Follows.reaches {p : Peek} {r : Reader} (h : p.Follows r) : r.Reaches p.after :=
  h.before.trans h.after

/-- The token together with what follows it. -/
theorem Peek.Follows.extend {p : Peek} {r s : Reader} (h : p.Follows r) (hs : p.after.Reaches s) :
    ({ p with after := s } : Peek).Follows r := by
  obtain ⟨hstart, hproper, hstop⟩ := h.span
  have hspan := Strung.single hstart hproper (Position.le_trans hstop hs.pos_le)
  exact ⟨h.extras, h.before, hspan, h.after.trans hs⟩

theorem Reader.reaches_peek (e : Expect) (r : Reader) : r.Reaches (r.peek e).after :=
  (r.follows_peek e).reaches

/-! ### Rules -/

namespace Rule

variable {α β : Type} {b : Reader}

/-- Started behind `b`, the rule ends behind `b`. -/
def Behind (b : Reader) (rule : Rule α) : Prop :=
  ∀ r, b.Reaches r → Ensures r rule fun _ s => b.Reaches s

/-- Wherever it is started, the rule ends behind `b`. -/
def Past (b : Reader) (rule : Rule α) : Prop := ∀ r, Ensures r rule fun _ s => b.Reaches s

/-- The rule reads at least the token that lies ahead where `e` is expected. -/
def Reads (e : Expect) (rule : Rule α) : Prop :=
  ∀ r, Ensures r rule fun _ s => (r.peek e).after.Reaches s

namespace Behind

theorem pure {a : α} : Behind b (pure a : Rule α) := fun _ hr => .pure hr

theorem failure : Behind b (failure : Rule α) := fun _ _ => .failure

theorem bind {rule : Rule α} {next : α → Rule β} (h : Behind b rule)
    (hnext : ∀ a, Behind b (next a)) : Behind b (rule >>= next) :=
  fun r hr => (h r hr).bind fun a s hs => hnext a s hs

theorem peek {e : Expect} {next : Peek → Rule β}
    (h : ∀ p : Peek, b.Reaches p.after → Behind b (next p)) : Behind b (Rule.peek e >>= next) :=
  fun r hr => h _ (hr.trans (r.reaches_peek e)) r hr

theorem set {s : Reader} (h : b.Reaches s) : Behind b (MonadStateOf.set s : Rule PUnit) := by
  intro r _ a t ht
  have hread : some (PUnit.unit, s) = some (a, t) := ht
  cases hread
  exact h

theorem take {p : Peek} (h : b.Reaches p.after) : Behind b (Rule.take p) := .set h

theorem lead {e : Expect} : Behind b (Rule.lead e) := by
  intro r hr a t ht
  have hread : some ((r.peek e).extras, (r.peek e).before) = some (a, t) := ht
  cases hread
  exact hr.trans (r.follows_peek e).before

theorem get {next : Reader → Rule β} (h : ∀ r, b.Reaches r → Behind b (next r)) :
    Behind b (MonadState.get >>= next) := fun r hr => h r hr r hr

theorem lift {x : Option α} : Behind b (liftM x : Rule α) := by
  intro r hr a t ht
  obtain ⟨found, -, hread⟩ := Option.bind_eq_some_iff.mp ht
  cases hread
  exact hr

theorem ite {c : Prop} [Decidable c] {x y : Rule α} (hx : Behind b x) (hy : Behind b y) :
    Behind b (if c then x else y) := by
  split
  · exact hx
  · exact hy

theorem either {first second : Rule α} (h : Behind b first) (h' : Behind b second) :
    Behind b (Rule.either first second) := by
  intro r hr a s hs
  rw [Rule.either] at hs
  cases hfirst : first r with
  | none =>
    rw [hfirst] at hs
    exact h' r hr a s hs
  | some result =>
    rw [hfirst] at hs
    exact h r hr a s (hfirst.trans hs)

theorem collect {step : Rule (Option α)} (h : Behind b step) (items : List α) (fuel : Nat) :
    Behind b (Rule.collect step items fuel) := by
  induction fuel generalizing items with
  | zero => exact failure
  | succ fuel ih =>
    refine bind h fun item => ?_
    cases item with
    | none => exact pure
    | some a => exact ih (a :: items)

theorem many {step : Rule (Option α)} (h : Behind b step) : Behind b (Rule.many step) :=
  fun r hr => collect h [] (r.left + 1) r hr

end Behind

namespace Past

theorem behind {rule : Rule α} (h : Past b rule) : Behind b rule := fun r _ => h r

theorem bind {rule : Rule α} {next : α → Rule β} (h : Past b rule)
    (hnext : ∀ a, Behind b (next a)) : Past b (rule >>= next) :=
  fun r => (h r).bind fun a s hs => hnext a s hs

theorem take {p : Peek} {next : Unit → Rule β} (h : b.Reaches p.after)
    (hnext : ∀ u, Behind b (next u)) : Past b (Rule.take p >>= next) := fun _ => hnext () p.after h

end Past

namespace Reads

variable {e : Expect}

theorem behind {rule : Rule α} (h : Reads e rule) : Behind b rule :=
  fun r hr => (h r).mono fun _ _ hs => (hr.trans (r.reaches_peek e)).trans hs

theorem bind {rule : Rule α} {next : α → Rule β} (h : Reads e rule)
    (hnext : ∀ a b, Behind b (next a)) : Reads e (rule >>= next) :=
  fun r => (h r).bind fun a s hs => hnext a _ s hs

theorem failure : Reads e (failure : Rule α) := fun _ => .failure

/-- The token is looked at first. -/
theorem peek {next : Peek → Rule β}
    (h : ∀ p r, r.peek e = p → Ensures r (next p) fun _ s => p.after.Reaches s) :
    Reads e (Rule.peek e >>= next) := fun r => h _ r rfl

theorem take {p : Peek} {r : Reader} {next : Unit → Rule β} (h : ∀ u b, Behind b (next u)) :
    Ensures r (Rule.take p >>= next) fun _ s => p.after.Reaches s :=
  h () p.after p.after (.refl p.after)

end Reads

theorem behind_led {rule : Rule Expr} (e : Expect) (h : Behind b rule) : Behind b (led e rule) :=
  .bind .lead fun _ => h.bind fun _ => .pure

theorem reads_operator (e : Expect) (text : String) : Reads e (operator e text) := by
  refine .peek fun p r _ => ?_
  split
  · exact Reads.take fun _ _ => .pure
  · exact .failure

theorem reads_keyword (e : Expect) (text : String) : Reads e (keyword e text) := by
  refine .peek fun p r _ => ?_
  split
  · exact Reads.take fun _ _ => .pure
  · exact .failure

theorem reads_name (e : Expect) : Reads e (name e) := by
  refine .peek fun p r _ => ?_
  split
  · split
    · exact Reads.take fun _ _ => .pure
    · exact .failure
  · exact .failure

end Rule

namespace Stub

open Rule Expr

/-- The rules that the others call go forward.  Expressions and types read at least one token. -/
structure Forward (g : Grammar) : Prop where
  expression : ∀ least e f, Reads e (g.expression least e f)
  arithmetic : ∀ least e f, Reads e (g.arithmetic least e f)
  operand : ∀ e f, Reads e (g.operand e f)
  type : ∀ bounded e f, Reads e (g.type bounded e f)
  assigned : ∀ e, Reads e (g.assigned e)
  casePattern : ∀ e f b, Behind b (g.casePattern e f)
  suite : ∀ b, Behind b g.suite

section

variable {b : Reader} {g : Grammar} (hg : Forward g)

include hg

theorem Forward.led_expression (least : Nat) (e e' : Expect) (f : Follow) :
    Behind b (led e (g.expression least e' f)) := behind_led e (hg.expression least e' f).behind

theorem Forward.led_arithmetic (least : Nat) (e e' : Expect) (f : Follow) :
    Behind b (led e (g.arithmetic least e' f)) := behind_led e (hg.arithmetic least e' f).behind

theorem behind_moreExpressions (f : Follow) (pieces : List Expr) (comma : Bool) (fuel : Nat) :
    Behind b (moreExpressions g f pieces comma fuel) := by
  induction fuel generalizing pieces comma with
  | zero => exact .failure
  | succ fuel ih =>
    refine .peek fun p hp => .ite (.bind (.take hp) fun _ => .peek fun q _ => ?_) .pure
    exact .ite ((hg.led_expression 0 _ _ f).bind fun next => ih _ true) .pure

theorem reads_expressions (start : Expect) (f : Follow) : Reads start (expressions g start f) :=
  (hg.expression 0 start f).bind fun first _ => .get fun r _ =>
    (behind_moreExpressions hg f [first] false (r.left + 1)).bind fun _ => .pure

theorem reads_yieldRule (start : Expect) (f : Follow) : Reads start (yieldRule g start f) := by
  refine (reads_keyword start "yield").bind fun word b => .peek fun p hp => .ite ?_ (.ite ?_ .pure)
  · exact .bind (.take hp) fun _ => (hg.led_expression 0 _ _ f).bind fun _ => .pure
  · exact .bind .lead fun _ => (reads_expressions hg _ f).behind.bind fun _ => .pure

/-! ### Strings -/

omit hg in
theorem behind_formatText {interpolation : Rule (List Expr)} (h : Behind b interpolation)
    (parts : List Expr) (fuel : Nat) : Behind b (formatText interpolation parts fuel) := by
  induction fuel generalizing parts with
  | zero => exact .failure
  | succ fuel ih =>
    refine .get fun r hr => ?_
    split
    · exact .failure
    · refine .ite .pure (.ite (h.bind fun inner => ih _) ?_)
      exact .bind (.set (hr.trans r.reaches_step)) fun _ => ih parts

theorem behind_interpolation (depth : Nat) : Behind b (interpolation g depth) := by
  induction depth with
  | zero => exact .failure
  | succ depth ih =>
    refine .get fun r hr => .bind (.set (hr.trans r.reaches_step)) fun _ => .peek fun p _ => ?_
    extract_lets rest
    have hrest : ∀ value, Behind b (rest value) := by
      intro value
      refine .peek fun p hp => ?_
      extract_lets close format conversion
      -- the steps behind the value, from the last one on
      have hclose : ∀ inner, Behind b (close inner) :=
        fun inner => (reads_operator _ _).behind.bind fun _ => .pure
      have hformat : Behind b (format ()) := by
        refine .peek fun p hp => .ite (.bind (.take hp) fun _ => .get fun r _ => ?_) (hclose [])
        exact (behind_formatText ih [] _).bind hclose
      have hconversion : Behind b (conversion ()) := by
        refine .peek fun p hp => ?_
        split
        · exact .bind (.take hp) fun _ => hformat
        · exact hformat
      exact .ite (.bind (.take hp) fun _ => hconversion) hconversion
    refine .ite ((reads_yieldRule hg _ _).behind.bind hrest) (.bind .lead fun _ => ?_)
    exact (reads_expressions hg _ _).behind.bind fun found => hrest _

theorem behind_stringSpecial : Behind b (stringSpecial g) := by
  refine .get fun r hr => ?_
  have hblanks := hr.trans (r.reaches_skipWhile isBlank)
  split
  · exact .bind (.set (hr.trans (r.reaches_advance _))) fun _ => .pure
  · dsimp only
    split
    · rename_i extra s hextra
      exact .bind (.set (hblanks.trans (follows_of_extraAt hextra).1)) fun _ => .pure
    · refine .bind (.set hblanks) fun _ => ?_
      split
      · exact behind_interpolation hg _
      · exact .failure

theorem behind_stringBody (q : Quote) (parts : List Expr) (fuel : Nat) :
    Behind b (stringBody g q parts fuel) := by
  induction fuel generalizing parts with
  | zero => exact .failure
  | succ fuel ih =>
    refine .get fun r hr => ?_
    have hadvance : ∀ n, b.Reaches (r.advance n) := fun n => hr.trans (r.reaches_advance n)
    refine .ite ?_ ?_
    · refine .ite (.bind (.set (hadvance 2)) fun _ => ih parts) (.ite ?_ .failure)
      exact (behind_interpolation hg _).bind fun _ => ih _
    · split
      · exact .bind (.set (hadvance _)) fun _ => ih parts
      · rename_i n _
        exact .bind (.set ((hadvance n).trans ⟨[], rfl, rfl⟩)) fun _ => .pure
      · exact (behind_stringSpecial hg).bind fun _ => ih _

theorem past_stringLiteral {p : Peek} (hp : b.Reaches p.after) (q : Quote) :
    Past b (stringLiteral g p q) :=
  .take hp fun _ => (behind_stringBody hg q [] _).bind fun _ => .get fun _ _ => .pure

theorem past_strings (f : Follow) {p : Peek} (hp : b.Reaches p.after) (q : Quote) :
    Past b (strings g f p q) := by
  refine (past_stringLiteral hg hp q).bind fun first => .bind (.many (.peek fun p hp => ?_)) ?_
  · split
    · exact (past_stringLiteral hg hp _).behind.bind fun _ => .pure
    · exact .pure
  · intro more
    split
    · exact .pure
    · exact .pure

/-! ### Loops and comprehensions -/

theorem behind_loopTarget (start : Expect) : Behind b (loopTarget g start) := by
  refine .peek fun p hp => .ite (.bind (.take hp) fun _ => .bind .lead fun _ => ?_) ?_
  · exact (hg.operand _ _).behind.bind fun _ => .ite .pure .failure
  · refine (hg.operand _ _).behind.bind fun _ => ?_
    split
    · exact .pure
    · exact .failure

theorem behind_loopTargets : Behind b (loopTargets g) := by
  have htarget : Behind b (led .operand (loopTarget g .operand)) :=
    behind_led _ (behind_loopTarget hg _)
  refine htarget.bind fun _ => .bind (.many (.peek fun p hp => .ite ?_ .pure)) fun _ => .pure
  refine .bind (.take hp) fun _ => .peek fun q _ => .ite .pure ?_
  exact htarget.bind fun _ => .pure

theorem behind_clauseValues : Behind b (clauseValues g) := by
  refine (hg.led_expression 0 _ _ _).bind fun _ => .bind (.many ?_) fun _ => .pure
  refine .peek fun p hp => .ite (.bind (.take hp) fun _ => .peek fun q _ => ?_) .pure
  exact .ite ((hg.led_expression 0 _ _ _).bind fun _ => .pure) (.ite .failure .pure)

theorem behind_forClause (opening : List Expr) : Behind b (forClause g opening) :=
  (reads_keyword _ _).behind.bind fun _ => (behind_loopTargets hg).bind fun _ =>
    (reads_keyword _ _).behind.bind fun _ => (behind_clauseValues hg).bind fun _ => .pure

theorem behind_clauses : Behind b (clauses g) := by
  refine .bind (.many (.peek fun p hp => .ite ?_ (.ite ?_ (.ite ?_ .pure)))) fun _ => .pure
  · exact .bind .lead fun _ => (behind_forClause hg _).bind fun _ => .pure
  · exact .bind (.take hp) fun _ => (behind_forClause hg _).bind fun _ => .pure
  · exact .bind (.take hp) fun _ => (hg.led_expression 0 _ _ _).bind fun _ => .pure

/-! ### Brackets -/

theorem behind_element (start : Expect) : Behind b (element g start) := by
  refine .peek fun p hp => .ite (.bind (.take hp) fun _ => ?_) (.ite ?_ ?_)
  · exact (hg.led_expression 0 _ _ _).bind fun _ => .pure
  · exact (reads_yieldRule hg _ _).behind
  · exact (hg.expression 0 _ _).behind

omit hg in
theorem behind_moreElements {item : Expect → Rule Expr} (h : ∀ e, Behind b (item e))
    (closer : String) : Behind b (moreElements item closer) := by
  refine .bind (.many (.peek fun p hp => .ite (.bind (.take hp) fun _ => ?_) .pure)) fun _ => .pure
  exact .peek fun q _ => .ite .pure ((behind_led _ (h _)).bind fun _ => .pure)

omit hg in
/-- Elements behind the first ones, up to the closing bracket. -/
theorem behind_elements {item : Expect → Rule Expr} (h : ∀ e, Behind b (item e)) (closer : String)
    (f : List Expr → List Expr → Expr) :
    Behind b (do
      let more ← moreElements item closer
      let close ← operator .closing closer
      return f more close) :=
  (behind_moreElements h closer).bind fun _ => (reads_operator _ _).behind.bind fun _ => .pure

/-- The clauses of a comprehension behind its body, up to the closing bracket. -/
theorem behind_comprehension (closer : String) (f : List Expr → List Expr → Expr) :
    Behind b (do
      let body ← clauses g
      let close ← operator .closing closer
      return f body close) :=
  (behind_clauses hg).bind fun _ => (reads_operator _ _).behind.bind fun _ => .pure

theorem past_parentheses {p : Peek} (hp : b.Reaches p.after) : Past b (parentheses g p) := by
  refine .take hp fun _ => .peek fun q hq => .ite (.bind (.take hq) fun _ => .pure) ?_
  refine (behind_led _ (behind_element hg _)).bind fun first => .peek fun q hq => ?_
  refine .ite (behind_comprehension hg _ _) (.ite (.bind (.take hq) fun _ => .pure) ?_)
  exact behind_elements (behind_element hg) _ _

theorem past_squareBrackets {p : Peek} (hp : b.Reaches p.after) : Past b (squareBrackets g p) := by
  refine .take hp fun _ => .peek fun q hq => .ite (.bind (.take hq) fun _ => .pure) ?_
  refine (behind_led _ (behind_element hg _)).bind fun first => .peek fun q _ => ?_
  exact .ite (behind_comprehension hg _ _) (behind_elements (behind_element hg) _ _)

theorem past_doubleSplat {p : Peek} (hp : b.Reaches p.after) : Past b (doubleSplat g p) :=
  .take hp fun _ => (hg.led_expression 0 _ _ _).bind fun _ => .pure

theorem behind_dictionaryEntry (start : Expect) : Behind b (dictionaryEntry g start) := by
  refine .peek fun p hp => .ite (past_doubleSplat hg hp).behind ?_
  refine (hg.expression 0 _ _).behind.bind fun _ => (reads_operator _ _).behind.bind fun _ => ?_
  exact (hg.led_expression 0 _ _ _).bind fun _ => .pure

theorem behind_dictionaryRest (opening : List Expr) : Behind b (dictionaryRest g opening) :=
  behind_elements (behind_dictionaryEntry hg) _ _

theorem past_braces {p : Peek} (hp : b.Reaches p.after) : Past b (braces g p) := by
  refine .take hp fun _ => .peek fun q hq => .ite (.bind (.take hq) fun _ => .pure) (.ite ?_ ?_)
  · exact .bind (.take hq) fun _ => (reads_operator _ _).behind.bind fun _ => .pure
  refine .ite (.bind .lead fun _ => ?_) ?_
  · exact (past_doubleSplat hg hq).behind.bind fun _ => behind_dictionaryRest hg _
  refine (behind_led _ (behind_element hg _)).bind fun first => .peek fun q hq => .ite ?_ ?_
  · refine .bind (.take hq) fun _ => (hg.led_expression 0 _ _ _).bind fun _ => .peek fun q _ => ?_
    exact .ite (behind_comprehension hg _ _) (behind_dictionaryRest hg _)
  · exact .ite (behind_comprehension hg _ _) (behind_elements (behind_element hg) _ _)

/-! ### Calls, subscripts and attributes -/

theorem behind_argument (start : Expect) : Behind b (argument g start) := by
  refine .peek fun p hp => ?_
  have hvalue : ∀ q : Peek, b.Reaches q.after → ∀ f : List Expr → Expr, Behind b (do
      take q
      let value ← led .operand (g.expression 0 .operand .bracket)
      return f value) :=
    fun q hq f => .bind (.take hq) fun _ => (hg.led_expression 0 _ _ _).bind fun _ => .pure
  split
  · exact hvalue p hp _
  · exact (past_doubleSplat hg hp).behind
  · exact .ite (hvalue _ (hp.trans (p.after.reaches_peek _)) _) (hg.expression 0 _ _).behind
  · exact (hg.expression 0 _ _).behind

theorem past_arguments (generator : Bool) {p : Peek} (hp : b.Reaches p.after) :
    Past b (arguments g generator p) := by
  refine .take hp fun _ => .peek fun q hq => .ite (.bind (.take hq) fun _ => .pure) (.ite ?_ ?_)
  · exact .bind (.take hq) fun _ => (reads_operator _ _).behind.bind fun _ => .pure
  refine (behind_led _ (behind_argument hg _)).bind fun first => .peek fun q _ => .ite ?_ ?_
  · split
    · exact .failure
    · exact .failure
    · exact .ite (behind_comprehension hg _ _) .failure
    · exact .failure
  · exact behind_elements (behind_argument hg) _ _

theorem behind_sliceBound : Behind b (sliceBound g) :=
  .peek fun _ _ => .ite (hg.led_expression 0 _ _ _) .pure

theorem past_sliceRest (opening : List Expr) {colon : Peek} (hcolon : b.Reaches colon.after) :
    Past b (sliceRest g opening colon) := by
  refine .take hcolon fun _ => (behind_sliceBound hg).bind fun _ => .peek fun p hp => ?_
  exact .ite (.bind (.take hp) fun _ => (behind_sliceBound hg).bind fun _ => .pure) .pure

theorem behind_subscriptItem (start : Expect) : Behind b (subscriptItem g start) := by
  refine .peek fun p hp => .ite ?_ ?_
  · have hcolon : b.Reaches ({ p with extras := [] } : Peek).after := hp
    exact (past_sliceRest hg [] hcolon).behind
  refine (hg.expression 0 _ _).behind.bind fun first => .peek fun q hq => ?_
  exact .ite (past_sliceRest hg [first] hq).behind .pure

theorem behind_subscriptItems : Behind b (subscriptItems g) :=
  (behind_led _ (behind_subscriptItem hg _)).bind fun _ =>
    (behind_moreElements (behind_subscriptItem hg) _).bind fun _ =>
      (reads_operator _ _).behind.bind fun _ => .pure

theorem behind_trailer (f : Follow) : Behind b (trailer g f) := by
  refine .peek fun p hp => ?_
  split
  · exact .bind (.take hp) fun _ => (reads_name _).behind.bind fun _ => .pure
  · exact .bind (.take hp) fun _ => (behind_subscriptItems hg).bind fun _ => .pure
  · exact (past_arguments hg true hp).behind.bind fun _ => .pure
  · exact .pure

theorem behind_trailers (f : Follow) : Behind b (trailers g f) := .many (behind_trailer hg f)

theorem reads_atom (start : Expect) (f : Follow) : Reads start (atom g start f) := by
  refine .peek fun p r _ => ?_
  have hp := Reader.Reaches.refl p.after
  split
  · exact Reads.take fun _ _ => .pure
  · exact Reads.take fun _ _ => .pure
  · exact Reads.take fun _ _ => .pure
  · split
    · exact Reads.take fun _ _ => .pure
    · exact .failure
  · exact Reads.take fun _ _ => .pure
  · exact past_strings hg f hp _ r
  · exact Reads.take fun _ _ => .pure
  · exact past_parentheses hg hp r
  · exact past_squareBrackets hg hp r
  · exact past_braces hg hp r
  · exact .failure

theorem reads_operandRule (start : Expect) (f : Follow) : Reads start (operandRule g start f) :=
  (reads_atom hg start f).bind fun _ _ => (behind_trailers hg f).bind fun _ => .pure

/-! ### Arithmetic -/

theorem past_starredOperand (f : Follow) {p : Peek} (hp : b.Reaches p.after) :
    Past b (starredOperand g f p) :=
  .take hp fun _ => .bind .lead fun _ => (reads_atom hg _ f).behind.bind fun _ =>
    (behind_trailers hg f).bind fun _ => .ite .pure .failure

theorem reads_signedOperand (start : Expect) (f : Follow) :
    Reads start (signedOperand g start f) := by
  refine .peek fun p r hr => ?_
  have hsign : ∀ (kind : Form) (e : Expect), Ensures r (do
      take p
      let value ← led e (g.arithmetic (unaryStrength + 1) e f)
      return ofChildren kind (p.leaf :: value)) fun _ s => p.after.Reaches s :=
    fun kind e => Reads.take fun _ _ => (hg.led_arithmetic _ e e f).bind fun _ => .pure
  have hoperand : Ensures r (operandRule g start f) fun _ s => p.after.Reaches s :=
    hr ▸ reads_operandRule hg start f r
  split
  · exact hsign .unary .operand
  · exact hsign .unary .operand
  · exact hsign .unary .operand
  · exact past_starredOperand hg f (.refl p.after) r
  · split
    · exact hsign .await f.expectOperand
    · exact hoperand
  · exact hoperand

theorem behind_arithmeticRest (least : Nat) (f : Follow) (left : Expr) (fuel : Nat) :
    Behind b (arithmeticRest g least f left fuel) := by
  induction fuel generalizing left with
  | zero => exact .failure
  | succ fuel ih =>
    refine .peek fun p hp => ?_
    split
    · split
      · refine .ite (.bind (.take hp) fun _ => ?_) .pure
        exact (hg.led_arithmetic _ _ _ f).bind fun _ => ih _
      · exact .pure
    · exact .pure

theorem reads_arithmeticRule (least : Nat) (start : Expect) (f : Follow) :
    Reads start (arithmeticRule g least start f) :=
  (reads_signedOperand hg start f).bind fun _ _ => .get fun _ _ =>
    behind_arithmeticRest hg least f _ _

/-! ### Comparisons and words -/

omit hg in
theorem behind_comparisonOperator (f : Follow) : Behind b (comparisonOperator f) := by
  refine .peek fun p hp => ?_
  have htaken : Behind b (do take p; return some p.pieces) := .bind (.take hp) fun _ => .pure
  split
  · exact .ite htaken .pure
  · exact htaken
  · refine .bind (.take hp) fun _ => .peek fun q hq => ?_
    exact .ite (.bind (.take hq) fun _ => .pure) .pure
  · exact .bind (.take hp) fun _ => (reads_keyword _ _).behind.bind fun _ => .pure
  · exact .pure

theorem reads_comparison (start : Expect) (f : Follow) : Reads start (comparison g start f) := by
  refine (reads_arithmeticRule hg _ start f).bind fun first b => .bind (.many ?_) fun more => ?_
  · refine (behind_comparisonOperator f).bind fun item => ?_
    split
    · exact (hg.led_arithmetic _ _ _ f).bind fun _ => .pure
    · exact .pure
  · split
    · exact .pure
    · exact .pure

theorem reads_expressionHead {lambda : Expect → Follow → Rule Expr}
    (hlambda : ∀ e f, Reads e (lambda e f)) (start : Expect) (f : Follow) :
    Reads start (expressionHead g lambda start f) := by
  refine .peek fun p r hr => ?_
  have hcomparison : Ensures r (comparison g start f) fun _ s => p.after.Reaches s :=
    hr ▸ reads_comparison hg start f r
  split
  · exact Reads.take fun _ _ => (hg.led_expression _ _ _ f).bind fun _ => .pure
  · exact hr ▸ hlambda start f r
  · dsimp only
    split
    · refine Past.take (p.after.reaches_peek _) (fun _ => ?_) r
      exact (hg.led_expression _ _ _ f).bind fun _ => .pure
    · exact hcomparison
  · exact hcomparison

theorem behind_expressionRest (least : Nat) (f : Follow) (left : Expr) (fuel : Nat) :
    Behind b (expressionRest g least f left fuel) := by
  induction fuel generalizing left with
  | zero => exact .failure
  | succ fuel ih =>
    refine .peek fun p hp => ?_
    have hjoin : ∀ (holds : Prop) [Decidable holds] (form : Form) (level : Nat), Behind b (
        if holds then do
          take p
          let value ← led .operand (g.expression level .operand f)
          expressionRest g least f (.ofChildren form (left :: p.pieces ++ value)) fuel
        else return left) := fun holds _ form level =>
      .ite (.bind (.take hp) fun _ => (hg.led_expression level _ _ f).bind fun _ => ih _) .pure
    dsimp only
    split
    · exact hjoin _ .boolean notLevel
    · exact hjoin _ .boolean andLevel
    · exact hjoin _ .asPattern orLevel
    · refine .ite (.bind (.take hp) fun _ => (hg.led_expression 0 _ _ _).bind fun _ => ?_) .pure
      exact (reads_keyword _ _).behind.bind fun _ => (hg.led_expression 0 _ _ f).bind fun _ => ih _
    · exact .pure

theorem reads_expressionRule {lambda : Expect → Follow → Rule Expr}
    (hlambda : ∀ e f, Reads e (lambda e f)) (least : Nat) (start : Expect) (f : Follow) :
    Reads start (expressionRule g lambda least start f) :=
  (reads_expressionHead hg hlambda start f).bind fun _ _ => .get fun _ _ =>
    behind_expressionRest hg least f _ _

/-! ### Types and parameters -/

theorem past_typeParameters {p : Peek} (hp : b.Reaches p.after) : Past b (typeParameters g p) :=
  .take hp fun _ => (behind_led _ (hg.type true _ _).behind).bind fun _ =>
    behind_elements (fun e => (hg.type true e _).behind) _ _

theorem reads_typeHead (start : Expect) (f : Follow) : Reads start (typeHead g start f) := by
  refine .peek fun p r hr => ?_
  have hplain : Ensures r (do return ([← g.expression 0 start f], false))
      fun _ s => p.after.Reaches s :=
    hr ▸ (hg.expression 0 start f).bind (fun _ _ => .pure) r
  dsimp only
  split
  · split
    · exact (past_typeParameters hg (p.after.reaches_peek _)).bind (fun _ => .pure) r
    · exact hplain
  · exact Reads.take fun _ _ => (reads_name _).behind.bind fun _ => .pure
  · split
    · split
      · exact Past.take (p.after.reaches_peek _) (fun _ => .pure) r
      · exact hplain
    · exact hplain
  · exact hplain

theorem behind_typeRest (bounded : Bool) (f : Follow) (pieces : List Expr) (closed : Bool)
    (fuel : Nat) : Behind b (typeRest g bounded f pieces closed fuel) := by
  induction fuel generalizing pieces closed with
  | zero => exact .failure
  | succ fuel ih =>
    refine .peek fun p hp => .ite ?_ (.ite ?_ (.ite ?_ .pure))
    · exact .bind (.take hp) fun _ => (reads_name _).behind.bind fun _ => ih _ true
    · exact .bind (.take hp) fun _ => (behind_led _ (hg.type false _ f).behind).bind fun _ =>
        ih _ true
    · exact .bind (.take hp) fun _ => (behind_led _ (hg.type true _ f).behind).bind fun _ => .pure

theorem reads_typeRule (bounded : Bool) (start : Expect) (f : Follow) :
    Reads start (typeRule g bounded start f) :=
  (reads_typeHead hg start f).bind fun _ _ => .get fun _ _ => behind_typeRest hg bounded f _ _ _

theorem past_defaultValue (f : Follow) {p : Peek} (hp : b.Reaches p.after) :
    Past b (defaultValue g f p) :=
  .take hp fun _ => (hg.led_expression 0 _ _ f).bind fun _ => .pure

theorem past_typeBehind (f : Follow) {p : Peek} (hp : b.Reaches p.after) :
    Past b (typeBehind g f p) :=
  .take hp fun _ => .bind .lead fun _ => (hg.type true _ f).behind.bind fun _ => .pure

theorem behind_starredParam (typed : Bool) (f : Follow) (target : ParamTarget) (p : Peek) :
    Behind b (starredParam g typed f target p) := by
  refine .bind .lead fun _ => (hg.operand _ f).behind.bind fun _ => .ite ?_ .failure
  refine .get fun r _ => .peek fun q hq => .ite ?_ .pure
  exact (past_typeBehind hg f hq).behind.bind fun _ => .pure

theorem behind_paramItem (typed : Bool) (start : Expect) (f : Follow) :
    Behind b (paramItem g typed start f) := by
  refine .peek fun p hp => ?_
  split
  · exact .bind (.take hp) fun _ => .pure
  · refine .bind (.take hp) fun _ => .peek fun q _ => ?_
    exact .ite (behind_starredParam hg typed f .star p) .pure
  · exact .bind (.take hp) fun _ => behind_starredParam hg typed f .doubleStar p
  · refine (past_parentheses hg hp).behind.bind fun tuple => ?_
    split
    · refine .get fun r _ => .peek fun q hq => .ite ?_ .pure
      exact (past_defaultValue hg f hq).behind.bind fun _ => .pure
    · exact .failure
  · refine .ite (.bind (.take hp) fun _ => .peek fun q hq => .ite ?_ (.ite ?_ .pure)) .failure
    · refine (past_typeBehind hg f hq).behind.bind fun found => .peek fun q hq => .ite ?_ .pure
      exact (past_defaultValue hg f hq).behind.bind fun _ => .pure
    · exact (past_defaultValue hg f hq).behind.bind fun _ => .pure
  · exact .failure

theorem behind_paramItems (typed : Bool) (f : Follow) (closer : String) :
    Behind b (paramItems g typed f closer) := by
  have hentry : Behind b (do
      let extras ← lead f.expect
      let found ← paramItem g typed f.expect f
      return (extras.flatMap extraItem ++ [found.1], extras ++ found.2)) :=
    .bind .lead fun _ => (behind_paramItem hg typed _ f).bind fun _ => .pure
  refine .peek fun p _ => .ite .pure (hentry.bind fun first => .bind (.many ?_) fun _ => .pure)
  refine .peek fun p hp => .ite (.bind (.take hp) fun _ => .peek fun q _ => .ite .pure ?_) .pure
  exact hentry.bind fun _ => .pure

theorem behind_parameters : Behind b (parameters g) :=
  (reads_operator _ _).behind.bind fun _ => (behind_paramItems hg _ _ _).bind fun _ =>
    (reads_operator _ _).behind.bind fun _ => .pure

theorem reads_lambdaRule (start : Expect) (f : Follow) : Reads start (lambdaRule g start f) :=
  (reads_keyword _ _).bind fun _ _ => (behind_paramItems hg _ _ _).bind fun _ =>
    (reads_operator _ _).behind.bind fun _ => (hg.led_expression 0 _ _ f).bind fun _ => .pure

end

end Stub

end StubLayers
