import Mathlib.Data.List.Induction
import StubLayers.Declaration.Body

/-!
# Parameters by their place

A parameter list is read from left to right: a star raises a flag that stays up, and a slash changes
all parameters before it.  This file says what comes out by looking both ways from each entry, with
no state.

* `kindBetween before after target`: the kind of a parameter between the entries `before` and the
  entries `after` it.
* `parametersBetween`: the parameters of a list, each by its place.
* `ParameterState.Follows`: what has been read agrees with `parametersBetween`.  `Follows.add` is
  one entry more, `follows_foldl` a whole list, and `parametersOf_eq` the result.
* `parametersOf_by_place`: each parameter written is found at its number, with the kind that its
  place gives.
* `signature?_without_receiver`: the receiver of a method leaves no trace in its signature.
-/

namespace StubLayers

/-! ### Entries -/

namespace ParamItem

/-- A parameter is written here. -/
def isParam : ParamItem → Bool
  | param _ _ _ _ => true
  | _ => false

def isLineJoin : ParamItem → Bool
  | lineJoin _ => true
  | _ => false

def isPositionalMark : ParamItem → Bool
  | positionalMark => true
  | _ => false

/-- Plain parameters behind the entry are keyword only. -/
def opensKeywords : ParamItem → Bool
  | keywordMark => true
  | param .star _ _ _ => true
  | _ => false

end ParamItem

/-- The kind of a parameter by what stands before and after it.  A slash behind it decides, however
it is written. -/
def kindBetween (before after : List ParamItem) (target : ParamTarget) : ParameterKind :=
  if after.any ParamItem.isPositionalMark then .positionalOnly
  else
    match target with
    | .star => .varPositional
    | .doubleStar => .varKeyword
    | .plain => if before.any ParamItem.opensKeywords then .keywordOnly else .positional

/-- The parameter that an entry stands for in its place. -/
def ParamItem.parameter? (before after : List ParamItem) : ParamItem → Option Parameter
  | param target text type hasDefault =>
    some ⟨ParameterState.nameOf text, type.map Expr.typeText, kindBetween before after target,
      hasDefault⟩
  | lineJoin text =>
    some ⟨ParameterState.nameOf text, none, kindBetween before after .plain, false⟩
  | _ => none

/-- The parameters of the entries behind `before`, each by its place. -/
def parametersBetween (before : List ParamItem) : List ParamItem → List Parameter
  | [] => []
  | item :: after =>
    (item.parameter? before after).toList ++ parametersBetween (before ++ [item]) after

/-! ### One entry more at the end -/

section

variable {item : ParamItem} {before after : List ParamItem}

theorem kindBetween_mark (target : ParamTarget) :
    kindBetween before (after ++ [.positionalMark]) target = .positionalOnly := by
  simp [kindBetween, ParamItem.isPositionalMark]

theorem kindBetween_concat (h : item.isPositionalMark = false) (target : ParamTarget) :
    kindBetween before (after ++ [item]) target = kindBetween before after target := by
  simp [kindBetween, h]

theorem parameter?_mark (entry : ParamItem) :
    entry.parameter? before (after ++ [.positionalMark]) =
      (entry.parameter? before after).map ({ · with kind := .positionalOnly }) := by
  cases entry <;> simp [ParamItem.parameter?, kindBetween_mark]

theorem parameter?_concat (h : item.isPositionalMark = false) (entry : ParamItem) :
    entry.parameter? before (after ++ [item]) = entry.parameter? before after := by
  cases entry <;> simp [ParamItem.parameter?, kindBetween_concat h]

/-- A slash at the end reaches back to all parameters. -/
theorem parametersBetween_mark (before items : List ParamItem) :
    parametersBetween before (items ++ [.positionalMark]) =
      (parametersBetween before items).map ({ · with kind := .positionalOnly }) := by
  induction items generalizing before with
  | nil => rfl
  | cons entry items ih =>
    rw [List.cons_append, parametersBetween, parametersBetween, ih, parameter?_mark,
      List.map_append, Option.toList_map]

/-- Any other entry at the end only adds the parameter that it stands for. -/
theorem parametersBetween_concat (h : item.isPositionalMark = false)
    (before items : List ParamItem) :
    parametersBetween before (items ++ [item]) =
      parametersBetween before items ++ (item.parameter? (before ++ items) []).toList := by
  induction items generalizing before with
  | nil => simp [parametersBetween]
  | cons entry items ih =>
    rw [List.cons_append, parametersBetween, parametersBetween, ih, parameter?_concat h,
      List.append_assoc, List.append_assoc, List.singleton_append]

end

/-! ### Reading from left to right -/

namespace ParameterState

/-- What has been read of `items`. -/
structure Follows (s : ParameterState) (items : List ParamItem) : Prop where
  parameters : s.parameters = parametersBetween [] items
  keywordOnly : s.keywordOnly = items.any ParamItem.opensKeywords

variable {s : ParameterState} {items : List ParamItem}

theorem Follows.kindOf_eq (h : s.Follows items) (target : ParamTarget) :
    s.kindOf target = kindBetween items [] target := by
  cases target <;> simp [kindOf, kindBetween, h.keywordOnly]

/-- A parameter is added by the flag alone. -/
theorem Follows.push (h : s.Follows items) {item : ParamItem} {target : ParamTarget}
    {text : String} {type : Option String} {hasDefault : Bool}
    (hitem : item.parameter? items [] =
      some ⟨nameOf text, type, kindBetween items [] target, hasDefault⟩)
    (hmark : item.isPositionalMark = false) (hopens : item.opensKeywords = (target == .star)) :
    (s.push target text type hasDefault).Follows (items ++ [item]) := by
  constructor
  · rw [ParameterState.push, parametersBetween_concat hmark, List.nil_append, hitem, h.kindOf_eq,
      h.parameters]
    rfl
  · rw [ParameterState.push, h.keywordOnly, List.any_append]
    cases target <;> simp_all

/-- **One entry more.** -/
theorem Follows.add (h : s.Follows items) (item : ParamItem) :
    (s.add item).Follows (items ++ [item]) := by
  cases item with
  | comment =>
    constructor
    · rw [parametersBetween_concat rfl, ← h.parameters]
      exact (List.append_nil _).symm
    · simp [ParameterState.add, h.keywordOnly, ParamItem.opensKeywords]
  | positionalMark =>
    constructor
    · rw [parametersBetween_mark, ← h.parameters]
      rfl
    · simp [ParameterState.add, h.keywordOnly, ParamItem.opensKeywords]
  | keywordMark =>
    constructor
    · rw [parametersBetween_concat rfl, ← h.parameters]
      exact (List.append_nil _).symm
    · simp [ParameterState.add, ParamItem.opensKeywords]
  | lineJoin text => exact h.push rfl rfl rfl
  | param target text type hasDefault =>
    exact h.push rfl rfl (by cases target <;> rfl)

/-- **A whole list.** -/
theorem follows_foldl (items : List ParamItem) :
    (items.foldl ParameterState.add ⟨[], false⟩).Follows items := by
  induction items using List.reverseRecOn with
  | nil => exact ⟨rfl, rfl⟩
  | append_singleton items item ih =>
    rw [List.foldl_append, List.foldl_cons, List.foldl_nil]
    exact ih.add item

end ParameterState

theorem parametersOf_eq (items : List ParamItem) :
    parametersOf items = parametersBetween [] items :=
  (ParameterState.follows_foldl items).parameters

/-! ### The number of a parameter -/

/-- What stands before a list counts only by whether it opens keywords. -/
theorem parametersBetween_congr (before before' items : List ParamItem)
    (h : before.any ParamItem.opensKeywords = before'.any ParamItem.opensKeywords) :
    parametersBetween before items = parametersBetween before' items := by
  induction items generalizing before before' with
  | nil => rfl
  | cons item items ih =>
    have hitem : item.parameter? before items = item.parameter? before' items := by
      cases item <;> simp [ParamItem.parameter?, kindBetween, h]
    rw [parametersBetween, parametersBetween, hitem]
    exact congrArg _ (ih _ _ (by rw [List.any_append, List.any_append, h]))

theorem length_parametersBetween (before items : List ParamItem) :
    (parametersBetween before items).length =
      items.countP ParamItem.isParam + items.countP ParamItem.isLineJoin := by
  induction items generalizing before with
  | nil => rfl
  | cons item items ih =>
    rw [parametersBetween, List.length_append, ih, List.countP_cons, List.countP_cons]
    cases item <;> simp [ParamItem.parameter?, ParamItem.isParam, ParamItem.isLineJoin] <;> omega

theorem getElem?_parametersBetween (before front after : List ParamItem) {item : ParamItem}
    {p : Parameter} (h : item.parameter? (before ++ front) after = some p) :
    (parametersBetween before (front ++ item :: after))[front.countP ParamItem.isParam +
      front.countP ParamItem.isLineJoin]? = some p := by
  induction front generalizing before with
  | nil =>
    rw [List.append_nil] at h
    simp [parametersBetween, h]
  | cons entry front ih =>
    have hrest := ih (before ++ [entry]) (by simpa using h)
    rw [List.cons_append, parametersBetween, List.countP_cons, List.countP_cons]
    -- an entry moves the number on exactly if it stands for a parameter
    cases entry with
    | param | lineJoin =>
      simp only [ParamItem.parameter?, ParamItem.isParam, ParamItem.isLineJoin,
        Option.toList_some, List.singleton_append]
      rw [List.getElem?_cons]
      grind
    | comment | positionalMark | keywordMark =>
      simpa [ParamItem.parameter?, ParamItem.isParam, ParamItem.isLineJoin] using hrest

/-- **Every parameter by its place.**  A list without line joins has one parameter for each that is
written, in order.  The kind of a parameter is the one that its place gives: positional only before
a slash, then by its stars, then by a star before it.  It has a default if one is written, and the
text of its type if one is written. -/
theorem parametersOf_by_place (items : List ParamItem)
    (written : ∀ item ∈ items, item.isLineJoin = false) :
    (parametersOf items).length = items.countP ParamItem.isParam ∧
      ∀ (before after : List ParamItem) (target : ParamTarget) (text : String) (type : Option Expr)
        (hasDefault : Bool), items = before ++ .param target text type hasDefault :: after →
        (parametersOf items)[before.countP ParamItem.isParam]? =
          some ⟨ParameterState.nameOf text, type.map Expr.typeText,
            kindBetween before after target, hasDefault⟩ := by
  have hnone : ∀ {part : List ParamItem}, (∀ item ∈ part, item ∈ items) →
      part.countP ParamItem.isLineJoin = 0 := by
    intro part hpart
    rw [List.countP_eq_zero]
    intro item hitem
    rw [written item (hpart item hitem)]
    exact Bool.false_ne_true
  rw [parametersOf_eq]
  constructor
  · rw [length_parametersBetween, hnone fun _ h => h, Nat.add_zero]
  · intro before after target text type hasDefault hsplit
    have hbefore : before.countP ParamItem.isLineJoin = 0 := by
      refine hnone fun item hitem => ?_
      rw [hsplit]
      exact List.mem_append_left _ hitem
    have hfound := getElem?_parametersBetween [] before after
      (show (ParamItem.param target text type hasDefault).parameter? ([] ++ before) after = _ from rfl)
    rw [hbefore, Nat.add_zero] at hfound
    rw [hsplit]
    exact hfound

/-- All kinds in one list: `(a, /, b: int, *args: int, c=..., **kw)`. -/
def mixedParameters : List ParamItem :=
  let int : Expr := .leaf .name default "int"
  [.param .plain "a" none false, .comment, .positionalMark, .param .plain "b" (some int) false,
    .param .star "*args" (some int) false, .param .plain "c" none true,
    .param .doubleStar "**kw" none false]

theorem parametersOf_by_place_mixed :
    (∀ item ∈ mixedParameters, item.isLineJoin = false) ∧
      (parametersOf mixedParameters).length = 5 ∧
      (parametersOf mixedParameters)[3]? = some ⟨"c", none, .keywordOnly, true⟩ := by
  have hwritten : ∀ item ∈ mixedParameters, item.isLineJoin = false := by
    simp [mixedParameters, ParamItem.isLineJoin]
  obtain ⟨hlength, hplace⟩ := parametersOf_by_place mixedParameters hwritten
  exact ⟨hwritten, hlength, hplace (mixedParameters.take 5) (mixedParameters.drop 6) .plain "c"
    none true rfl⟩

/-! ### The receiver -/

/-- Comments in front of a list are passed over. -/
theorem parametersBetween_comments {comments : List ParamItem}
    (h : ∀ item ∈ comments, item = .comment) (items : List ParamItem) :
    parametersBetween [] (comments ++ items) = parametersBetween [] items := by
  induction comments with
  | nil => rfl
  | cons item comments ih =>
    obtain ⟨rfl, hcomments⟩ := List.forall_mem_cons.mp h
    rw [List.cons_append, parametersBetween, ← ih hcomments]
    exact parametersBetween_congr [.comment] [] _ rfl

/-- A bare name in front adds a parameter that can be a receiver and changes no other. -/
theorem parametersOf_receiver (name : String) (rest : List ParamItem) :
    ∃ receiver : Parameter, receiver.isReceiver = true ∧
      parametersOf (.param .plain name none false :: rest) = receiver :: parametersOf rest := by
  rw [parametersOf_eq, parametersOf_eq, parametersBetween]
  refine ⟨_, ?_, congrArg _ (parametersBetween_congr [.param .plain name none false] [] rest rfl)⟩
  simp only [Parameter.isReceiver, kindBetween]
  split <;> rfl

theorem FunctionHead.signature?_receiver (head : FunctionHead) {comments : List ParamItem}
    (h : ∀ item ∈ comments, item = .comment) (name : String) (rest : List ParamItem) :
    FunctionHead.signature? { head with params := comments ++ .param .plain name none false :: rest }
        true =
      FunctionHead.signature? { head with params := comments ++ rest } false := by
  have hskip : ∀ items, parametersOf (comments ++ items) = parametersOf items := by
    intro items
    rw [parametersOf_eq, parametersOf_eq, parametersBetween_comments h]
  obtain ⟨receiver, hreceiver, hparameters⟩ := parametersOf_receiver name rest
  have hdrop : dropReceiver (parametersOf (.param .plain name none false :: rest)) =
      parametersOf rest := by
    rw [hparameters, dropReceiver, if_pos hreceiver]
  simp only [FunctionHead.signature?, hskip, hdrop, if_true, Bool.false_eq_true, if_false]

/-- **The receiver leaves no trace.**  In a class, a function that is not static and whose first
parameter is a bare name has the signature of the static function without that parameter, whatever
follows; so another name for it, or a slash right behind it, changes nothing. -/
theorem signature?_without_receiver (s : Scope) (hclass : s.inClass = true)
    (decorators marked : List Expr) (hdecorators : isStatic decorators = false)
    (hmarked : isStatic marked = true) (head : FunctionHead) (comments : List ParamItem)
    (hcomments : ∀ item ∈ comments, item = .comment) (name : String) (rest : List ParamItem) :
    let method (first : List ParamItem) : Option Signature :=
      s.signature? decorators { head with params := comments ++ first ++ rest }
    method [.param .plain name none false] =
        s.signature? marked { head with params := comments ++ rest } ∧
      (∀ other, method [.param .plain other none false] = method [.param .plain name none false]) ∧
      method [.param .plain name none false, .positionalMark] =
        method [.param .plain name none false] := by
  intro method
  have hmethod : ∀ first, method first =
      FunctionHead.signature? { head with params := comments ++ first ++ rest } true := by
    intro first
    simp only [method, Scope.signature?, hclass, hdecorators, Bool.not_false, Bool.and_true]
  have hbare : ∀ other, method [.param .plain other none false] =
      FunctionHead.signature? { head with params := comments ++ rest } false := by
    intro other
    rw [hmethod, List.append_assoc]
    exact head.signature?_receiver hcomments other rest
  have hslash : method [.param .plain name none false, .positionalMark] =
      FunctionHead.signature? { head with params := comments ++ rest } false := by
    rw [hmethod, List.append_assoc]
    refine (head.signature?_receiver hcomments name (.positionalMark :: rest)).trans ?_
    -- a slash in front of all parameters reaches back to none
    have hnone : parametersOf (comments ++ .positionalMark :: rest) =
        parametersOf (comments ++ rest) := by
      rw [parametersOf_eq, parametersOf_eq, parametersBetween_comments hcomments,
        parametersBetween_comments hcomments]
      exact parametersBetween_congr [.positionalMark] [] rest rfl
    simp only [FunctionHead.signature?, hnone]
  refine ⟨?_, fun other => (hbare other).trans (hbare name).symm, hslash.trans (hbare name).symm⟩
  rw [hbare, Scope.signature?, hmarked, Bool.not_true, Bool.and_false]

/-- A method with all kinds of parameters behind its receiver. -/
theorem signature?_without_receiver_mixed :
    let s : Scope := ⟨"m.pyi", "m.A", true⟩
    let marked : List Expr := [.leaf .name default "staticmethod"]
    let head : FunctionHead := ⟨default, "f", [], none⟩
    isStatic [] = false ∧ isStatic marked = true ∧
      s.signature? [] { head with params := .param .plain "self" none false :: mixedParameters } =
        s.signature? marked { head with params := mixedParameters } := by
  intro s marked head
  have hmarked : isStatic marked = true := by decide
  exact ⟨rfl, hmarked, (signature?_without_receiver s rfl [] marked rfl hmarked head []
    (fun _ h => absurd h List.not_mem_nil) "self" mixedParameters).1⟩

end StubLayers
