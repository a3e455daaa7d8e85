import StubLayers.Proofs.Identifiers
import StubLayers.Proofs.ParameterLayout

/-!
# What an assignment declares

The targets of an assignment are walked pattern by pattern along the chain, and its value is found
by walking the chain once more.  This file says what comes out when the targets are made of names.

* `Expr.isNamePattern`: names in nested lists, with comments and line joins between them.
* `Expr.extras`: these comments and line joins, in document order.
* `targetNames_eq`, `Assignment.names_eq`: a pattern binds its names in document order, unless it
  has an extra; then the first one is refused as if it were a target.
* `HasLastPart`: what follows the last point of a text; `lastDotted_eq_iff` says that it is found.
* `Assignment.Shaped text kind signatures`: what the names are declared as, where `text` writes out
  types and functions.
* `assignment_declares`: what a whole assignment declares.  Line joins are not left out when types
  and functions are written out, and so hide what stands behind a point.
-/

namespace StubLayers

/-! ### Patterns of names -/

namespace Expr

/-- A bracket or a comma. -/
def isMark : Expr → Bool
  | leaf .mark _ _ => true
  | _ => false

mutual

/-- The target is made of names by lists with commas, with parentheses and with brackets.  Comments
and line joins may stand between the entries. -/
def isNamePattern : Expr → Bool
  | leaf kind _ _ => kind = .name
  | literal _ _ _ => false
  | form kind _ children => kind ∈ [.patternList, .tuplePattern, .listPattern] && haveNames children

def haveNames : List Expr → Bool
  | [] => true
  | e :: rest => (e.isMark || e.isExtra || isNamePattern e) && haveNames rest

end

mutual

/-- The comments and line joins in an expression, in document order. -/
def extras : Expr → List Expr
  | leaf .comment span text => [leaf .comment span text]
  | leaf .lineJoin span text => [leaf .lineJoin span text]
  | leaf _ _ _ => []
  | literal _ _ parts => extrasAll parts
  | form _ _ children => extrasAll children

def extrasAll : List Expr → List Expr
  | [] => []
  | e :: rest => extras e ++ extrasAll rest

end

end Expr

/-- The names, or the refusal of the first extra. -/
def namesUnless (extras : List Expr) (names : List String) : Except Refused (List String) :=
  match extras with
  | [] => .ok names
  | extra :: _ => .error ⟨.target extra.label, extra.span⟩

theorem namesUnless_append (extras more : List Expr) (names others : List String) :
    namesUnless (extras ++ more) (names ++ others) = do
      let names ← namesUnless extras names
      let others ← namesUnless more others
      return names ++ others := by
  cases extras with
  | nil => cases more <;> rfl
  | cons extra extras => rfl

open Expr

mutual

/-- **A pattern binds its names in document order**, unless it has an extra. -/
theorem targetNames_eq : (e : Expr) → e.isNamePattern = true →
    targetNames e = namesUnless e.extras e.names
  | leaf kind span text, h => by
    obtain rfl := of_decide_eq_true h
    rfl
  | form kind span children, h => by
    rw [isNamePattern, Bool.and_eq_true, decide_eq_true_iff] at h
    obtain ⟨hkind, hchildren⟩ := h
    have hall := targetNamesAll_eq children hchildren
    rw [extras, names]
    simp only [List.mem_cons, List.not_mem_nil, or_false] at hkind
    rcases hkind with rfl | rfl | rfl <;> exact hall

theorem targetNamesAll_eq : (es : List Expr) → haveNames es = true →
    targetNamesAll es = namesUnless (extrasAll es) (namesAll es)
  | [], _ => rfl
  | e :: rest, h => by
    rw [haveNames, Bool.and_eq_true] at h
    obtain ⟨he, hrest⟩ := h
    have hpattern (hnames : e.isNamePattern = true) := targetNames_eq e hnames
    have hmore := targetNamesAll_eq rest hrest
    have hboth (hnames : targetNames e = namesUnless e.extras e.names) :
        (do let names ← targetNames e; let more ← targetNamesAll rest; return names ++ more) =
          namesUnless (extrasAll (e :: rest)) (namesAll (e :: rest)) := by
      rw [extrasAll, namesAll_cons, namesUnless_append, hnames, hmore]
    cases e with
    | leaf kind span text =>
      cases kind with
      | mark => exact hmore
      | comment => exact hboth rfl
      | lineJoin => exact hboth rfl
      | _ => exact hboth (hpattern he)
    | literal span text parts => exact nomatch he
    | form kind span children => exact hboth (hpattern he)

end

/-! ### Chains -/

namespace Assignment

/-- The left sides of a chain, in order. -/
def lefts : Assignment → List Expr
  | declare left _ => [left]
  | value left _ _ => [left]
  | chain left _ right => left :: right.lefts

/-- **A chain binds the names of its left sides**, one after the other. -/
theorem names_eq {body : Assignment} (h : ∀ left ∈ body.lefts, left.isNamePattern = true) :
    body.names =
      namesUnless (body.lefts.flatMap Expr.extras) (body.lefts.flatMap Expr.names) := by
  induction body with
  | declare left type =>
    rw [names, targetNames_eq left (h left List.mem_cons_self)]
    simp [lefts]
  | value left type right =>
    rw [names, targetNames_eq left (h left List.mem_cons_self)]
    simp [lefts]
  | chain left type right ih =>
    obtain ⟨hleft, hright⟩ := List.forall_mem_cons.mp h
    rw [names, targetNames_eq left hleft, ih hright, lefts, List.flatMap_cons, List.flatMap_cons,
      namesUnless_append]

end Assignment

/-! ### Texts with points -/

/-- `part` is what follows the last point of the text, or all of it if there is none. -/
def HasLastPart (text part : String) : Prop :=
  '.' ∉ part.toList ∧ (text = part ∨ ∃ front, text = front ++ "." ++ part)

theorem takeWhile_reverse_of_notMem {part : List Char} (h : '.' ∉ part) (rest : List Char) :
    (part.reverse ++ rest).takeWhile (· ≠ '.') =
      part.reverse ++ rest.takeWhile (· ≠ '.') := by
  refine List.takeWhile_append_of_pos fun c hc => ?_
  rw [List.mem_reverse] at hc
  simpa using ne_of_mem_of_not_mem hc h

/-- **The last part of a text is found.** -/
theorem lastDotted_eq_iff {text part : String} :
    lastDotted text = part ↔ HasLastPart text part := by
  constructor
  · rintro rfl
    have hsplit := List.takeWhile_append_dropWhile (p := (· ≠ '.')) (l := text.toList.reverse)
    refine ⟨?_, ?_⟩
    · intro hmem
      rw [lastDotted, String.toList_ofList, List.mem_reverse] at hmem
      exact absurd (List.all_eq_true.mp List.all_takeWhile _ hmem) (by simp)
    · cases hrest : text.toList.reverse.dropWhile (· ≠ '.') with
      | nil =>
        left
        rw [hrest, List.append_nil] at hsplit
        rw [lastDotted, hsplit, List.reverse_reverse, String.ofList_toList]
      | cons c rest =>
        have hpoint : c = '.' := by
          have hhead := List.head?_dropWhile_not (· ≠ '.') text.toList.reverse
          rw [hrest] at hhead
          simpa using hhead
        refine Or.inr ⟨String.ofList rest.reverse, ?_⟩
        rw [hrest, hpoint] at hsplit
        have htext := congrArg List.reverse hsplit
        rw [List.reverse_reverse, List.reverse_append, List.reverse_cons] at htext
        rw [← String.toList_inj, ← htext, lastDotted]
        simp
  · rintro ⟨hpart, rfl | ⟨front, rfl⟩⟩
    · have hall := takeWhile_reverse_of_notMem hpart []
      rw [List.append_nil, List.takeWhile_nil, List.append_nil] at hall
      rw [lastDotted, hall, List.reverse_reverse, String.ofList_toList]
    · have hreverse : (front ++ "." ++ part).toList.reverse =
          part.toList.reverse ++ '.' :: front.toList.reverse := by
        simp
      rw [lastDotted, hreverse, takeWhile_reverse_of_notMem hpart,
        List.takeWhile_cons_of_neg (by decide), List.append_nil, List.reverse_reverse,
        String.ofList_toList]

/-! ### Kinds and signatures -/

/-- The text of an expression by its tokens alone: neither comments nor line joins stand in it. -/
def Expr.plainText (e : Expr) : String := String.join e.tokens

namespace Assignment

/-- The type written with the first target is `TypeAlias`, perhaps behind a point. -/
def IsAlias (text : Expr → String) (body : Assignment) : Prop :=
  ∃ type ∈ body.type?, HasLastPart (text type) "TypeAlias"

/-- The value at the end of the chain is a call of one of the functions that make types, perhaps
behind a point. -/
def MakesType (text : Expr → String) (body : Assignment) : Prop :=
  ∃ value ∈ body.finalValue?, ∃ function ∈ value.callee?,
    ∃ factory ∈ typeFactories, HasLastPart (text function) factory

/-- What the names of the assignment are declared as, if `text` writes out types and functions. -/
structure Shaped (text : Expr → String) (body : Assignment) (kind : DeclarationKind)
    (signatures : List Signature) : Prop where
  other : body.IsAlias text ∨ body.MakesType text → kind = .other
  attr : ¬ (body.IsAlias text ∨ body.MakesType text) → kind = .attr
  aliased : body.IsAlias text → signatures = []
  typed : ¬ body.IsAlias text →
    signatures = (body.type?.map fun type => (⟨[], some (text type)⟩ : Signature)).toList

/-- What kind and signatures depend on: the type that is written, and the function that is called
for the value. -/
def decisive (body : Assignment) : List Expr :=
  body.type?.toList ++ (body.finalValue?.bind Expr.callee?).toList

theorem isAlias_typeText_iff (body : Assignment) :
    body.IsAlias Expr.typeText ↔
      (body.type?.map Expr.typeText).any (lastDotted · = "TypeAlias") = true := by
  rw [IsAlias]
  cases body.type? <;> simp [lastDotted_eq_iff]

theorem makesType_typeText_iff (body : Assignment) :
    body.MakesType Expr.typeText ↔ body.finalValue?.any isTypeFactory = true := by
  rw [MakesType]
  cases body.finalValue? with
  | none => simp
  | some value =>
    simp only [isTypeFactory, Option.any_some, Option.mem_some_iff, exists_eq_left']
    cases value.callee? with
    | none => simp
    | some function => simp [← lastDotted_eq_iff]

/-- **The shape of an assignment** is decided by the texts of its type and its value. -/
theorem shaped_assignmentShape (body : Assignment) :
    body.Shaped Expr.typeText (assignmentShape body).1 (assignmentShape body).2 := by
  have halias := body.isAlias_typeText_iff
  have hmakes := body.makesType_typeText_iff
  rw [assignmentShape, Option.map_map]
  by_cases hisAlias : body.IsAlias Expr.typeText
  · rw [if_pos (halias.mp hisAlias)]
    exact ⟨fun _ => rfl, fun h => absurd (Or.inl hisAlias) h, fun _ => rfl, absurd hisAlias⟩
  · rw [if_neg (mt halias.mpr hisAlias)]
    by_cases hmakesType : body.MakesType Expr.typeText
    · rw [if_pos (hmakes.mp hmakesType)]
      exact ⟨fun _ => rfl, fun h => absurd (Or.inr hmakesType) h, fun h => absurd h hisAlias,
        fun _ => rfl⟩
    · rw [if_neg (mt hmakes.mpr hmakesType)]
      exact ⟨fun h => absurd h (not_or.mpr ⟨hisAlias, hmakesType⟩), fun _ => rfl,
        fun h => absurd h hisAlias, fun _ => rfl⟩

/-- Without line joins the texts are those of the tokens alone. -/
theorem Shaped.plainText {body : Assignment} {kind : DeclarationKind} {signatures : List Signature}
    (h : body.Shaped Expr.typeText kind signatures) (hjoins : ∀ e ∈ body.decisive, e.Unjoined) :
    body.Shaped Expr.plainText kind signatures := by
  have htype : ∀ type ∈ body.type?, type.typeText = type.plainText := fun type htype =>
    (typeText_eq_join_tokens_iff type).mpr
      (hjoins type (List.mem_append_left _ (Option.mem_toList.mpr htype)))
  have hfunction : ∀ value ∈ body.finalValue?, ∀ function ∈ value.callee?,
      function.typeText = function.plainText := by
    intro value hvalue function hfunction
    refine (typeText_eq_join_tokens_iff function).mpr
      (hjoins function (List.mem_append_right _ (Option.mem_toList.mpr ?_)))
    exact Option.mem_bind_iff.mpr ⟨value, hvalue, hfunction⟩
  have halias : body.IsAlias Expr.plainText ↔ body.IsAlias Expr.typeText :=
    exists_congr fun type => and_congr_right fun hmem => by rw [htype type hmem]
  have hmakes : body.MakesType Expr.plainText ↔ body.MakesType Expr.typeText :=
    exists_congr fun value => and_congr_right fun hvalue => exists_congr fun function =>
      and_congr_right fun hmem => by rw [hfunction value hvalue function hmem]
  constructor
  · rw [halias, hmakes]
    exact h.other
  · rw [halias, hmakes]
    exact h.attr
  · rw [halias]
    exact h.aliased
  · rw [halias]
    intro hnot
    rw [h.typed hnot]
    congr 1
    exact Option.map_congr fun type hmem => by rw [htype type hmem]

end Assignment

/-- **What an assignment of names declares.**  If comments and line joins stand between the entries
of its targets, the first of them is refused.  Else it declares every name in its targets but
`__all__`, in document order and as often as it stands there, at the place of the statement, and
all of them alike: as an alias or a made type by the last part of the type or of the function that
is called, as a value otherwise.  Line joins count as text there, so without them it is the tokens
that decide. -/
theorem assignment_declares (s : Scope) (span : Span) (body : Assignment)
    (patterns : ∀ left ∈ body.lefts, left.isNamePattern = true) :
    (∀ extra more, body.lefts.flatMap Expr.extras = extra :: more →
      statementDeclarations s (.assignment span body) =
        .error ⟨.target extra.label, extra.span⟩) ∧
    (body.lefts.flatMap Expr.extras = [] → ∃ kind signatures,
      statementDeclarations s (.assignment span body) =
        .ok (((body.lefts.flatMap Expr.names).filter (· ≠ "__all__")).map fun name =>
          ⟨kind, s.owner ++ "#" ++ name, Location.ofSpan s.file span, signatures, []⟩) ∧
      body.Shaped Expr.typeText kind signatures ∧
      ((∀ e ∈ body.decisive, e.Unjoined) → body.Shaped Expr.plainText kind signatures)) := by
  have hnames := Assignment.names_eq patterns
  have hshape := body.shaped_assignmentShape
  refine ⟨fun extra more hextras => ?_, fun hextras => ⟨_, _, ?_, hshape, hshape.plainText⟩⟩
  · rw [hextras] at hnames
    rw [statementDeclarations, assignmentDeclarations, hnames]
    rfl
  · rw [hextras] at hnames
    rw [statementDeclarations, assignmentDeclarations, hnames]
    rfl

/-- `a, (b, [__all__, a]) = c = typing.TypeVar("T")`, without its places. -/
def nestedAssignment : Assignment :=
  let name (text : String) : Expr := .leaf .name default text
  let mark (text : String) : Expr := .leaf .mark default text
  let inner : Expr :=
    .form .listPattern default [mark "[", name "__all__", mark ",", name "a", mark "]"]
  let outer : Expr := .form .tuplePattern default [mark "(", name "b", mark ",", inner, mark ")"]
  let function : Expr := .form .member default [name "typing", mark ".", name "TypeVar"]
  .chain (.form .patternList default [name "a", mark ",", outer]) none
    (.value (name "c") none (.form .call default [function]))

theorem assignment_declares_nested :
    (∀ left ∈ nestedAssignment.lefts, left.isNamePattern = true) ∧
    statementDeclarations ⟨"m.pyi", "m", false⟩ (.assignment default nestedAssignment) =
      .ok (["m#a", "m#b", "m#a", "m#c"].map fun name =>
        ⟨.other, name, ⟨"m.pyi", 1, 0, 1, 0⟩, [], []⟩) := by
  have hpatterns : ∀ left ∈ nestedAssignment.lefts, left.isNamePattern = true := by decide
  have hdeclares := assignment_declares ⟨"m.pyi", "m", false⟩ default nestedAssignment hpatterns
  obtain ⟨kind, signatures, hresult, -, hplain⟩ := hdeclares.2 rfl
  have hshaped := hplain (by unfold Expr.Unjoined; decide)
  have hmakes : nestedAssignment.MakesType Expr.plainText :=
    ⟨_, rfl, _, rfl, "TypeVar", by decide, by decide, Or.inr ⟨"typing", by decide⟩⟩
  have halias : ¬ nestedAssignment.IsAlias Expr.plainText := by
    rintro ⟨type, htype, -⟩
    exact nomatch htype
  obtain rfl := hshaped.other (Or.inr hmakes)
  obtain rfl := hshaped.typed halias
  exact ⟨hpatterns, hresult⟩

/-- The assignment that a text consists of, if it is an assignment of names. -/
def soleAssignment? (text : String) : Option Assignment :=
  match Stub.parse? text with
  | some [.assignment _ body] => if body.lefts.all Expr.isNamePattern then some body else none
  | _ => none

/-- A comment between two names is refused though the names alone are not, and a line join behind
the point hides a function that makes types. -/
theorem layout_spoils_assignment :
    ((∃ body, soleAssignment? "(a, # c\n b) = 1\n" = some body ∧
        body.lefts.flatMap Expr.names = ["a", "b"]) ∧
      (parseSource "(a, # c\n b) = 1\n" "m.pyi" "m").toOption.map (·.walk.map (·.name)) = none ∧
      (parseSource "(a,\n b) = 1\n" "m.pyi" "m").toOption.map (·.walk.map (·.name)) =
        some ["m#a", "m#b"]) ∧
    ((∃ body, soleAssignment? "T = typing.\\\nTypeVar(\"T\")\n" = some body ∧
        body.MakesType Expr.plainText) ∧
      (parseSource "T = typing.\\\nTypeVar(\"T\")\n" "m.pyi" "m").toOption.map
        (·.walk.map (·.kind)) = some [.attr]) := by
  refine ⟨⟨?_, by decide +kernel, by decide +kernel⟩, ?_, by decide +kernel⟩
  · have hnames : (soleAssignment? "(a, # c\n b) = 1\n").map (·.lefts.flatMap Expr.names) =
        some ["a", "b"] := by
      decide +kernel
    exact Option.map_eq_some_iff.mp hnames
  · have hcallee : (soleAssignment? "T = typing.\\\nTypeVar(\"T\")\n").map (fun body =>
        (body.finalValue?.bind Expr.callee?).map Expr.tokens) =
          some (some ["typing", ".", "TypeVar"]) := by
      decide +kernel
    obtain ⟨body, hbody, htokens⟩ := Option.map_eq_some_iff.mp hcallee
    obtain ⟨function, hfunction, htokens⟩ := Option.map_eq_some_iff.mp htokens
    obtain ⟨value, hvalue, hfunction⟩ := Option.bind_eq_some_iff.mp hfunction
    refine ⟨body, hbody, value, hvalue, function, hfunction, "TypeVar", by decide, by decide, ?_⟩
    exact Or.inr ⟨"typing", by rw [Expr.plainText, htokens]; decide⟩

end StubLayers
