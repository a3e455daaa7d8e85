import StubLayers.Proofs.Parameters
import StubLayers.Proofs.Reading

/-!
# The layout of a parameter list

The same parameters can be laid out in many ways: with comments and line joins between them, with
blanks between a star and its name, with line breaks inside a type.  This file says which layouts
leave the parameters of a list alone.

* `ParamEntry`: what a parameter list says, by its tokens alone; `declaredParameters` are the
  parameters that it should have.
* `LaidOut es items`: the entries `items` are a layout of `es`.
* `Tidy es items`: no line join stands between the entries or in a type, and there is no layout in
  the target of a parameter.
* `parametersOf_eq_declared_iff`: the parameters are the declared ones exactly in a tidy layout.
* `length_parametersOf`: every line join between the entries adds a parameter.
-/

namespace StubLayers

/-! ### Entries without layout -/

/-- The tokens of an expression: its lexemes without the line joins. -/
def Expr.tokens (e : Expr) : List String := e.lexemes.filter fun t => !decide (IsLineJoin t)

/-- An entry of a parameter list by its tokens.  Of a default only its being there counts. -/
inductive ParamEntry where
  | positionalMark
  | keywordMark
  | param (target : ParamTarget) (name : List String) (type : Option (List String))
      (hasDefault : Bool)

namespace ParamEntry

def isParam : ParamEntry → Bool
  | param _ _ _ _ => true
  | _ => false

def isPositionalMark : ParamEntry → Bool
  | positionalMark => true
  | _ => false

def opensKeywords : ParamEntry → Bool
  | keywordMark => true
  | param .star _ _ _ => true
  | _ => false

/-- The kind of a parameter by the entries before and after it. -/
def kind (before after : List ParamEntry) (target : ParamTarget) : ParameterKind :=
  if after.any isPositionalMark then .positionalOnly
  else
    match target with
    | .star => .varPositional
    | .doubleStar => .varKeyword
    | .plain => if before.any opensKeywords then .keywordOnly else .positional

/-- The parameter of an entry: its name and its type are their tokens, next to each other. -/
def parameter? (before after : List ParamEntry) : ParamEntry → Option Parameter
  | param target name type hasDefault =>
    some ⟨String.join name, type.map String.join, kind before after target, hasDefault⟩
  | _ => none

end ParamEntry

/-- The parameters of the entries behind `before`. -/
def declaredBehind (before : List ParamEntry) : List ParamEntry → List Parameter
  | [] => []
  | e :: after => (e.parameter? before after).toList ++ declaredBehind (before ++ [e]) after

/-- The parameters that a list of entries declares: one for each parameter that is written. -/
def declaredParameters (es : List ParamEntry) : List Parameter := declaredBehind [] es

/-! ### Layouts -/

/-- The stars in front of a target. -/
def ParamTarget.stars : ParamTarget → String
  | plain => ""
  | star => "*"
  | doubleStar => "**"

/-- The text is made of the tokens `ts`, with layout between them. -/
def Spelled (ts : List String) (text : String) : Prop :=
  (∀ t ∈ ts, ¬ IsLineJoin t) ∧ ∃ behind, Passes ts (text.toList ++ behind) behind

/-- All lexemes of the expression are written as lexemes are. -/
def Expr.Lexical (e : Expr) : Prop := ∀ t ∈ e.lexemes, Lexeme t

/-- No line is joined in the expression. -/
def Expr.Unjoined (e : Expr) : Prop := ∀ t ∈ e.lexemes, ¬ IsLineJoin t

/-- The entry `e` is laid out as `item`. -/
inductive ParamEntry.Written : ParamEntry → ParamItem → Prop
  | positionalMark : Written .positionalMark .positionalMark
  | keywordMark : Written .keywordMark .keywordMark
  | param {target : ParamTarget} {name : List String} {tail : String} {type : Option Expr}
      {hasDefault : Bool} : Spelled name tail → Unstarred name → (∀ e ∈ type, e.Lexical) →
      Written (.param target name (type.map Expr.tokens) hasDefault)
        (.param target (target.stars ++ tail) type hasDefault)

/-- The list `items` is a layout of the entries `es`. -/
inductive LaidOut : List ParamEntry → List ParamItem → Prop
  | nil : LaidOut [] []
  | comment {es : List ParamEntry} {items : List ParamItem} : LaidOut es items →
      LaidOut es (.comment :: items)
  | lineJoin {es : List ParamEntry} {items : List ParamItem} {t : String} : IsLineJoin t →
      LaidOut es items → LaidOut es (.lineJoin t :: items)
  | entry {es : List ParamEntry} {items : List ParamItem} {e : ParamEntry} {item : ParamItem} :
      e.Written item → LaidOut es items → LaidOut (e :: es) (item :: items)

/-- The entry `e` is laid out as `item`: no layout in the target, no line join in the type. -/
inductive ParamEntry.Plain : ParamEntry → ParamItem → Prop
  | positionalMark : Plain .positionalMark .positionalMark
  | keywordMark : Plain .keywordMark .keywordMark
  | param {target : ParamTarget} {name : List String} {type : Option Expr} {hasDefault : Bool} :
      (∀ e ∈ type, e.Unjoined) →
      Plain (.param target name (type.map Expr.tokens) hasDefault)
        (.param target (target.stars ++ String.join name) type hasDefault)

/-- Comments may stand between the entries, and nothing else. -/
inductive Tidy : List ParamEntry → List ParamItem → Prop
  | nil : Tidy [] []
  | comment {es : List ParamEntry} {items : List ParamItem} : Tidy es items →
      Tidy es (.comment :: items)
  | entry {es : List ParamEntry} {items : List ParamItem} {e : ParamEntry} {item : ParamItem} :
      e.Plain item → Tidy es items → Tidy (e :: es) (item :: items)

/-- A target without stars. -/
theorem ParamEntry.Written.plain {name : List String} {text : String} {type : Option Expr}
    {hasDefault : Bool} (hname : Spelled name text) (hunstarred : Unstarred name)
    (htype : ∀ e ∈ type, e.Lexical) :
    Written (.param .plain name (type.map Expr.tokens) hasDefault)
      (.param .plain text type hasDefault) := by
  have h := @Written.param .plain name text type hasDefault hname hunstarred htype
  rwa [ParamTarget.stars, String.empty_append] at h

theorem LaidOut.append {es more : List ParamEntry} {items moreItems : List ParamItem}
    (h : LaidOut es items) (h' : LaidOut more moreItems) :
    LaidOut (es ++ more) (items ++ moreItems) := by
  induction h with
  | nil => exact h'
  | comment _ ih => exact .comment ih
  | lineJoin ht _ ih => exact .lineJoin ht ih
  | entry he _ ih => exact .entry he ih

theorem exists_laidOut_flatMap {α : Type} {f : α → List ParamItem} {as : List α}
    (h : ∀ a ∈ as, ∃ es, LaidOut es (f a)) : ∃ es, LaidOut es (as.flatMap f) := by
  induction as with
  | nil => exact ⟨[], .nil⟩
  | cons a as ih =>
    obtain ⟨⟨es, hes⟩, hrest⟩ := List.forall_mem_cons.mp h
    obtain ⟨more, hmore⟩ := ih hrest
    exact ⟨es ++ more, hes.append hmore⟩

/-- What was passed over is made of its tokens. -/
theorem spelled_of_passes {e : Expr} {text : String} (rest : List Char)
    (h : Passes e.lexemes (text.toList ++ rest) rest) : Spelled e.tokens text := by
  refine ⟨fun t ht => by simpa using (List.mem_filter.mp ht).2, rest, ?_⟩
  exact h.filter fun t _ ht => by simpa using ht

theorem Unstarred.tokens {e : Expr} (h : Unstarred e.lexemes) : Unstarred e.tokens := by
  obtain ⟨t, more, hlexemes, hjoin, hstar⟩ := h
  rw [Expr.tokens, hlexemes, List.filter_cons_of_pos (by simpa using hjoin)]
  exact ⟨t, _, rfl, hjoin, hstar⟩

/-! ### Texts without layout -/

theorem length_join_filter_le (p : String → Bool) (ts : List String) :
    (String.join (ts.filter p)).length ≤ (String.join ts).length := by
  induction ts with
  | nil => exact Nat.le_refl _
  | cons t ts ih =>
    rw [List.filter_cons, String.join_cons, String.length_append]
    split
    · rw [String.join_cons, String.length_append]
      omega
    · omega

theorem length_join_filter_lt {p : String → Bool} {ts : List String} {t : String} (ht : t ∈ ts)
    (hpt : p t = false) (hne : t ≠ "") :
    (String.join (ts.filter p)).length < (String.join ts).length := by
  have hlength : 0 < t.length := by
    rw [← String.length_toList]
    exact List.length_pos_of_ne_nil (by simpa using hne)
  obtain ⟨front, back, rfl⟩ := List.append_of_mem ht
  have hfront := length_join_filter_le p front
  have hback := length_join_filter_le p back
  rw [List.filter_append, List.filter_cons_of_neg (by simp [hpt])]
  simp only [String.join_append, String.join_cons, String.length_append]
  omega

theorem join_filter_eq_iff {p : String → Bool} {ts : List String}
    (hne : ∀ t ∈ ts, p t = false → t ≠ "") :
    String.join ts = String.join (ts.filter p) ↔ ∀ t ∈ ts, p t = true := by
  constructor
  · intro h
    by_contra hall
    obtain ⟨t, ht, hpt⟩ : ∃ t ∈ ts, p t = false := by simpa using hall
    have hlt := length_join_filter_lt ht hpt (hne t ht hpt)
    rw [← h] at hlt
    exact Nat.lt_irrefl _ hlt
  · intro h
    rw [List.filter_eq_self.mpr h]

theorem Expr.Unjoined.lexemes_eq {e : Expr} (h : e.Unjoined) : e.lexemes = e.tokens := by
  rw [Expr.tokens, List.filter_eq_self.mpr]
  intro t ht
  simpa using h t ht

theorem typeText_eq_join_tokens_iff (e : Expr) :
    e.typeText = String.join e.tokens ↔ e.Unjoined := by
  rw [Expr.typeText_eq_join, Expr.tokens, join_filter_eq_iff]
  · simp [Expr.Unjoined]
  · rintro t - ht rfl
    exact absurd ht (by decide)

/-- The stars in front of a target are cut off, and nothing else. -/
theorem nameOf_stars_append {name : List String} {tail : String} (h : Spelled name tail)
    (hname : Unstarred name) (target : ParamTarget) :
    ParameterState.nameOf (target.stars ++ tail) = tail := by
  obtain ⟨-, behind, hpasses⟩ := h
  have hhead := hpasses.head_ne_star hname
  have hdrop : tail.toList.dropWhile (· = '*') = tail.toList := by
    cases htail : tail.toList with
    | nil => rfl
    | cons c cs =>
      rw [htail, List.cons_append, List.head?_cons] at hhead
      rw [List.dropWhile_cons_of_neg]
      simpa using hhead
  rw [ParameterState.nameOf, String.toList_append]
  cases target with
  | plain => simp [ParamTarget.stars, hdrop]
  | star => simp [ParamTarget.stars, hdrop]
  | doubleStar => simp [ParamTarget.stars, hdrop]

/-! ### What a layout leaves alone -/

section

variable {es : List ParamEntry} {items : List ParamItem}

theorem ParamEntry.Written.marks {e : ParamEntry} {item : ParamItem} (h : e.Written item) :
    item.isPositionalMark = e.isPositionalMark ∧ item.opensKeywords = e.opensKeywords ∧
      item.isParam = e.isParam ∧ item.isLineJoin = false := by
  cases h with
  | positionalMark => exact ⟨rfl, rfl, rfl, rfl⟩
  | keywordMark => exact ⟨rfl, rfl, rfl, rfl⟩
  | @param target => cases target <;> exact ⟨rfl, rfl, rfl, rfl⟩

theorem LaidOut.any_isPositionalMark (h : LaidOut es items) :
    items.any ParamItem.isPositionalMark = es.any ParamEntry.isPositionalMark := by
  induction h with
  | nil => rfl
  | comment _ ih => exact ih
  | lineJoin _ _ ih => exact ih
  | entry he _ ih => rw [List.any_cons, List.any_cons, he.marks.1, ih]

theorem LaidOut.countP_isParam (h : LaidOut es items) :
    items.countP ParamItem.isParam = es.countP ParamEntry.isParam := by
  induction h with
  | nil => rfl
  | comment _ ih => simpa [ParamItem.isParam] using ih
  | lineJoin _ _ ih => simpa [ParamItem.isParam] using ih
  | entry he _ ih => rw [List.countP_cons, List.countP_cons, he.marks.2.2.1, ih]

theorem length_declaredBehind (before es : List ParamEntry) :
    (declaredBehind before es).length = es.countP ParamEntry.isParam := by
  induction es generalizing before with
  | nil => rfl
  | cons e es ih =>
    rw [declaredBehind, List.length_append, ih, List.countP_cons]
    cases e <;> simp [ParamEntry.parameter?, ParamEntry.isParam, Nat.add_comm]

/-- **Line joins are counted.**  A layout has the parameters that are written and one more for each
line join between the entries. -/
theorem LaidOut.length_parametersOf (h : LaidOut es items) :
    (parametersOf items).length =
      (declaredParameters es).length + items.countP ParamItem.isLineJoin := by
  rw [parametersOf_eq, length_parametersBetween, declaredParameters, length_declaredBehind,
    h.countP_isParam]

/-- The kind of a parameter does not depend on the layout around it. -/
theorem kindBetween_eq {before : List ParamItem} {before' : List ParamEntry}
    (hbefore : before.any ParamItem.opensKeywords = before'.any ParamEntry.opensKeywords)
    (h : LaidOut es items) (target : ParamTarget) :
    kindBetween before items target = ParamEntry.kind before' es target := by
  cases target <;> simp only [kindBetween, ParamEntry.kind, h.any_isPositionalMark, hbefore]

/-- A parameter is the declared one exactly if it is written plainly. -/
theorem parameter?_eq_iff {before : List ParamItem} {before' : List ParamEntry}
    (hbefore : before.any ParamItem.opensKeywords = before'.any ParamEntry.opensKeywords)
    {e : ParamEntry} {item : ParamItem} (he : e.Written item) (h : LaidOut es items) :
    item.parameter? before items = e.parameter? before' es ↔ e.Plain item := by
  cases he with
  | positionalMark => exact iff_of_true rfl .positionalMark
  | keywordMark => exact iff_of_true rfl .keywordMark
  | @param target name tail type hasDefault hname hunstarred _ =>
    have htype : type.map Expr.typeText = (type.map Expr.tokens).map String.join ↔
        ∀ e ∈ type, e.Unjoined := by
      cases type with
      | none => simp
      | some e => simpa using typeText_eq_join_tokens_iff e
    simp only [ParamItem.parameter?, ParamEntry.parameter?, Option.some.injEq, Parameter.mk.injEq,
      nameOf_stars_append hname hunstarred, kindBetween_eq hbefore h, htype, and_true]
    constructor
    · rintro ⟨rfl, hjoins⟩
      exact .param hjoins
    · intro hplain
      generalize htokens : type.map Expr.tokens = tokens at hplain
      generalize htext : target.stars ++ tail = text at hplain
      cases hplain with
      | param hjoins => exact ⟨(String.append_right_inj _).mp htext, hjoins⟩

theorem tidy_comment_iff : Tidy es (.comment :: items) ↔ Tidy es items := by
  constructor
  · intro h
    cases h with
    | comment h => exact h
    | entry hplain _ => nomatch hplain
  · exact .comment

theorem not_tidy_lineJoin {t : String} : ¬ Tidy es (.lineJoin t :: items) := by
  intro h
  cases h with
  | entry hplain _ => nomatch hplain

theorem tidy_cons_iff {e : ParamEntry} {item : ParamItem} (he : e.Written item) :
    Tidy (e :: es) (item :: items) ↔ e.Plain item ∧ Tidy es items := by
  constructor
  · intro h
    cases h with
    | comment _ => nomatch he
    | entry hplain h => exact ⟨hplain, h⟩
  · rintro ⟨hplain, h⟩
    exact .entry hplain h

/-- Both sides of an equation of parameters, entry by entry. -/
theorem toList_append_eq_iff {p q : Option Parameter} {ps qs : List Parameter}
    (h : p.isSome = q.isSome) : p.toList ++ ps = q.toList ++ qs ↔ p = q ∧ ps = qs := by
  cases p <;> cases q <;> simp_all

theorem parametersBetween_eq_iff {before : List ParamItem} {before' : List ParamEntry}
    (hbefore : before.any ParamItem.opensKeywords = before'.any ParamEntry.opensKeywords)
    (h : LaidOut es items) :
    parametersBetween before items = declaredBehind before' es ↔ Tidy es items := by
  induction h generalizing before before' with
  | nil => exact iff_of_true rfl .nil
  | comment _ ih =>
    rw [tidy_comment_iff, parametersBetween]
    exact ih (by simpa [ParamItem.opensKeywords] using hbefore)
  | @lineJoin es items t ht h _ =>
    -- one parameter too many
    refine iff_of_false (fun heq => ?_) not_tidy_lineJoin
    have hlength := congrArg List.length heq
    rw [length_parametersBetween, length_declaredBehind, (LaidOut.lineJoin ht h).countP_isParam,
      List.countP_cons] at hlength
    simp [ParamItem.isLineJoin] at hlength
  | @entry es items e item he h ih =>
    have hsome : (item.parameter? before items).isSome = (e.parameter? before' es).isSome := by
      cases he <;> rfl
    rw [parametersBetween, declaredBehind, toList_append_eq_iff hsome, tidy_cons_iff he,
      parameter?_eq_iff hbefore he h, ih (by simp [hbefore, he.marks.2.1])]

/-- **The layouts that do not matter.**  A layout has the declared parameters exactly if it is
tidy. -/
theorem LaidOut.parametersOf_eq_declared_iff (h : LaidOut es items) :
    parametersOf items = declaredParameters es ↔ Tidy es items := by
  rw [parametersOf_eq, declaredParameters]
  exact parametersBetween_eq_iff rfl h

end

end StubLayers
