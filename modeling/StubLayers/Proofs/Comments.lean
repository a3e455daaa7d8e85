import StubLayers.Declaration.Source
import StubLayers.Proofs.Places

/-!
# Comments between statements

A comment declares nothing, but it stands in the body like any statement and ends the group of
overloads before it.  This file says which comments can be inserted without a trace.

* `Commented ss ts`: `ts` is `ss` with comments inserted, into the body itself or into bodies
  nested in it to any depth.
* `joins`: how often an overload joins another of its name right before it.  Comments can only
  lower this number.
* `Agree`: what a body and the commented body give, step by step: the same refusal, or declarations
  whose number grows by the joins that are lost.
* `outline_commented_iff`: comments leave the declarations of an accepted body as they are exactly
  if no join is lost.
-/

namespace StubLayers

/-! ### Comments inserted into a body -/

mutual

/-- The second body is the first with comments inserted at any depth. -/
inductive Commented : List Stmt → List Stmt → Prop
  | nil : Commented [] []
  | comment {ss ts : List Stmt} (span : Span) : Commented ss ts →
      Commented ss (.plain .comment span :: ts)
  | cons {a b : Stmt} {ss ts : List Stmt} : CommentedIn a b → Commented ss ts →
      Commented (a :: ss) (b :: ts)

/-- The second statement is the first with comments inserted into its bodies. -/
inductive CommentedIn : Stmt → Stmt → Prop
  | same (stmt : Stmt) : CommentedIn stmt stmt
  | classDef {body body' : List Stmt} (decorators : List Expr) (span : Span) (name : String) :
      Commented body body' →
      CommentedIn (.classDef decorators span name body) (.classDef decorators span name body')
  | conditional {branches branches' : List (List Stmt)} (span : Span) :
      CommentedBranches branches branches' →
      CommentedIn (.conditional span branches) (.conditional span branches')

inductive CommentedBranches : List (List Stmt) → List (List Stmt) → Prop
  | nil : CommentedBranches [] []
  | cons {branch branch' : List Stmt} {rest rest' : List (List Stmt)} :
      Commented branch branch' → CommentedBranches rest rest' →
      CommentedBranches (branch :: rest) (branch' :: rest')

end

theorem CommentedIn.overload?_eq {a b : Stmt} (h : CommentedIn a b) :
    overload? b = overload? a := by
  cases h <;> rfl

/-! ### Overloads that join -/

/-- The name of the overload that a statement is. -/
def overloadName? (stmt : Stmt) : Option String := (overload? stmt).map (·.2.name)

mutual

/-- How often, in a body and all bodies in it, an overload stands right behind another of its name;
`before` is the name of an overload right before the body. -/
def joins : Option String → List Stmt → Nat
  | _, [] => 0
  | before, stmt :: rest =>
    (if before.isSome ∧ overloadName? stmt = before then 1 else 0) + joinsIn stmt +
      joins (overloadName? stmt) rest

def joinsIn : Stmt → Nat
  | .classDef _ _ _ body => joins none body
  | .conditional _ branches => joinsOf branches
  | _ => 0

def joinsOf : List (List Stmt) → Nat
  | [] => 0
  | branch :: rest => joins none branch + joinsOf rest

end

theorem overloadName?_unplaced (stmt : Stmt) :
    overloadName? stmt.unplaced = overloadName? stmt := by
  rw [overloadName?, overload?_unplaced, Option.map_map, overloadName?]
  rfl

mutual

theorem joins_unplacedAll (before : Option String) :
    (body : List Stmt) → joins before (Stmt.unplacedAll body) = joins before body
  | [] => rfl
  | stmt :: rest => by
    rw [Stmt.unplacedAll, joins, joins, overloadName?_unplaced, joinsIn_unplaced stmt,
      joins_unplacedAll _ rest]

theorem joinsIn_unplaced : (stmt : Stmt) → joinsIn stmt.unplaced = joinsIn stmt
  | .classDef _ _ _ body => by
    rw [Stmt.unplaced, joinsIn, joinsIn]
    exact joins_unplacedAll none body
  | .conditional _ branches => by
    rw [Stmt.unplaced, joinsIn, joinsIn]
    exact joinsOf_unplacedBranches branches
  | .plain _ _ | .expression _ _ | .augmented _ | .assignment _ _ | .typeAlias _ _
  | .function _ _ => rfl

theorem joinsOf_unplacedBranches : (branches : List (List Stmt)) →
    joinsOf (Stmt.unplacedBranches branches) = joinsOf branches
  | [] => rfl
  | branch :: rest => by
    rw [Stmt.unplacedBranches, joinsOf, joinsOf, joins_unplacedAll none branch,
      joinsOf_unplacedBranches rest]

end

theorem joinsIn_of_overload {stmt : Stmt} {found : List Expr × FunctionHead}
    (h : overload? stmt = some found) : joinsIn stmt = 0 := by
  cases stmt with
  | function decorators head => rfl
  | _ => exact absurd h (by simp [overload?])

/-! ### Agreement up to lost joins -/

/-- The number of declarations, nested ones included. -/
def countAll (ds : List Declaration) : Nat := (Declaration.walkAll ds).length

theorem countAll_append (ds es : List Declaration) :
    countAll (ds ++ es) = countAll ds + countAll es := by
  rw [countAll, Declaration.walkAll_append, List.length_append, countAll, countAll]

theorem countAll_cons (d : Declaration) (ds : List Declaration) :
    countAll (d :: ds) = countAll [d] + countAll ds := countAll_append [d] ds

theorem countAll_singleton (kind : DeclarationKind) (name : String) (location : Location)
    (signatures : List Signature) (children : List Declaration) :
    countAll [⟨kind, name, location, signatures, children⟩] = countAll children + 1 := by
  rw [countAll, Declaration.walkAll, Declaration.walk, Declaration.walkAll, List.append_nil,
    List.length_cons, countAll]

theorem countAll_declaration (g : OverloadGroup) (s : Scope) : countAll [g.declaration s] = 1 := rfl

/-- Of two bodies with `j` and `j'` joins: both are refused alike, or each join that is lost makes
one declaration more, and if none is lost the declarations are the same. -/
inductive Agree (j j' : Nat) :
    Except Refused (List Declaration) → Except Refused (List Declaration) → Prop
  | refused (e : Refused) : Agree j j' (.error e) (.error e)
  | declared {ds es : List Declaration} (le : j' ≤ j) (count : countAll es + j' = countAll ds + j)
      (same : j' = j → es = ds) : Agree j j' (.ok ds) (.ok es)

namespace Agree

theorem refl (j : Nat) (r : Except Refused (List Declaration)) : Agree j j r r := by
  cases r with
  | error e => exact refused e
  | ok ds => exact declared (Nat.le_refl j) rfl fun _ => rfl

theorem trans {j j' j'' : Nat} {r r' r'' : Except Refused (List Declaration)}
    (h : Agree j j' r r') (h' : Agree j' j'' r' r'') : Agree j j'' r r'' := by
  cases h with
  | refused e =>
    cases h'
    exact refused e
  | declared le count same =>
    cases h' with
    | declared le' count' same' =>
      refine declared (Nat.le_trans le' le) (by omega) fun h => ?_
      rw [same' (by omega), same (by omega)]

theorem add {j j' : Nat} {r r' : Except Refused (List Declaration)} (n : Nat)
    (h : Agree j j' r r') : Agree (n + j) (n + j') r r' := by
  cases h with
  | refused e => exact refused e
  | declared le count same => exact declared (by omega) (by omega) fun h => same (by omega)

theorem append {i i' k k' : Nat} {x x' y y' : Except Refused (List Declaration)}
    (pre : List Declaration) (hx : Agree i i' x x') (hy : Agree k k' y y') :
    Agree (i + k) (i' + k') (do let here ← x; let more ← y; return pre ++ here ++ more)
      (do let here ← x'; let more ← y'; return pre ++ here ++ more) := by
  cases hx with
  | refused e => exact refused e
  | declared le count same =>
    cases hy with
    | refused e => exact refused e
    | declared le' count' same' =>
      refine declared (by omega) ?_ fun h => ?_
      · simp only [countAll_append]
        omega
      · rw [same (by omega), same' (by omega)]

theorem cons {k k' : Nat} {y y' : Except Refused (List Declaration)} (d : Declaration)
    (hy : Agree k k' y y') :
    Agree k k' (do let more ← y; return d :: more) (do let more ← y'; return d :: more) := by
  cases hy with
  | refused e => exact refused e
  | @declared ds es le count same =>
    refine declared le ?_ fun h => ?_
    · rw [countAll_cons d es, countAll_cons d ds]
      omega
    · rw [same h]

theorem classDef {j j' : Nat} {x x' : Except Refused (List Declaration)} (name : String)
    (location : Location) (hx : Agree j j' x x') :
    Agree j j' (do let children ← x; return [⟨.typeScope, name, location, [], children⟩])
      (do let children ← x'; return [⟨.typeScope, name, location, [], children⟩]) := by
  cases hx with
  | refused e => exact refused e
  | declared le count same =>
    refine declared le ?_ fun h => ?_
    · rw [countAll_singleton, countAll_singleton]
      omega
    · rw [same h]

end Agree

/-! ### A group of overloads that is ended -/

/-- Groups of one name go on alike: only the method that they end in differs. -/
theorem pending_cases (s : Scope) {g g' : OverloadGroup} (hname : g.name = g'.name)
    (body : List Stmt) :
    (∃ e, bodyDeclarations s (some g) body = .error e ∧
      bodyDeclarations s (some g') body = .error e) ∨
    ∃ (h h' : OverloadGroup) (more : List Declaration),
      bodyDeclarations s (some g) body = .ok (h.declaration s :: more) ∧
      bodyDeclarations s (some g') body = .ok (h'.declaration s :: more) := by
  induction body generalizing g g' with
  | nil => exact Or.inr ⟨g, g', [], rfl, rfl⟩
  | cons stmt rest ih =>
    rw [bodyDeclarations, bodyDeclarations]
    cases overload? stmt with
    | some found =>
      obtain ⟨decorators, head⟩ := found
      dsimp only
      rw [← hname]
      by_cases hhead : g.name = head.name
      · rw [if_pos hhead, if_pos hhead]
        exact ih hname
      · rw [if_neg hhead, if_neg hhead]
        cases bodyDeclarations s (some (.start s decorators head)) rest with
        | error e => exact Or.inl ⟨e, rfl, rfl⟩
        | ok more => exact Or.inr ⟨g, g', more, rfl, rfl⟩
    | none =>
      dsimp only
      cases statementDeclarations s stmt with
      | error e => exact Or.inl ⟨e, rfl, rfl⟩
      | ok here =>
        cases bodyDeclarations s none rest with
        | error e => exact Or.inl ⟨e, rfl, rfl⟩
        | ok more => exact Or.inr ⟨g, g', here ++ more, rfl, rfl⟩

/-- A statement that is no overload ends the group before it. -/
theorem bodyDeclarations_flush (s : Scope) (g : OverloadGroup) {stmt : Stmt}
    (h : overload? stmt = none) (rest : List Stmt) :
    bodyDeclarations s (some g) (stmt :: rest) =
      (do let more ← bodyDeclarations s none (stmt :: rest); return g.declaration s :: more) := by
  rw [bodyDeclarations, bodyDeclarations, h]
  dsimp only
  cases statementDeclarations s stmt with
  | error e => rfl
  | ok here => cases bodyDeclarations s none rest <;> rfl

/-- To end a group before a body loses the join of the group with the body, if there is one. -/
theorem agree_flush (s : Scope) (g : OverloadGroup) (body : List Stmt) :
    Agree (joins (some g.name) body) (joins none body) (bodyDeclarations s (some g) body)
      (do let more ← bodyDeclarations s none body; return g.declaration s :: more) := by
  cases body with
  | nil => exact Agree.refl _ _
  | cons stmt rest =>
    rw [joins, joins, overloadName?]
    cases ho : overload? stmt with
    | none =>
      rw [bodyDeclarations_flush s g ho, Option.map_none, if_neg (by simp), if_neg (by simp)]
      exact Agree.refl _ _
    | some found =>
      obtain ⟨decorators, head⟩ := found
      rw [bodyDeclarations, bodyDeclarations, ho, Option.map_some]
      dsimp only
      by_cases hhead : g.name = head.name
      · rw [if_pos hhead, if_pos ⟨rfl, by rw [hhead]⟩, if_neg (by simp)]
        -- the group that was ended and the one that starts anew go on alike
        have hname : (g.extend s decorators head).name =
            (OverloadGroup.start s decorators head).name := hhead
        rcases pending_cases s hname rest with ⟨e, hl, hr⟩ | ⟨h, h', more, hl, hr⟩
        · rw [hl, hr]
          exact Agree.refused e
        · rw [hl, hr]
          refine Agree.declared (by omega) ?_ fun h => absurd h (by omega)
          rw [countAll_cons _ (_ :: _), countAll_cons _ more, countAll_cons _ more,
            countAll_declaration, countAll_declaration, countAll_declaration]
          omega
      · rw [if_neg hhead, if_neg (by simpa using Ne.symm hhead), if_neg (by simp)]
        exact Agree.refl _ _

/-! ### Commented bodies -/

mutual

/-- **Comments only take joins away.** -/
theorem Commented.agree {ss ts : List Stmt} (h : Commented ss ts) (s : Scope)
    (pending : Option OverloadGroup) :
    Agree (joins (pending.map (·.name)) ss) (joins (pending.map (·.name)) ts)
      (bodyDeclarations s pending ss) (bodyDeclarations s pending ts) := by
  cases h with
  | nil => exact Agree.refl _ _
  | @comment _ ts span h =>
    have hjoins : ∀ before, joins before (.plain .comment span :: ts) = joins none ts := by
      intro before
      rw [joins, if_neg (by cases before <;> simp [overloadName?, overload?])]
      exact Nat.zero_add _
    rw [hjoins]
    have hhere : statementDeclarations s (.plain .comment span) = .ok [] := by
      rw [statementDeclarations, if_pos (by decide)]
    have hrest : bodyDeclarations s none (.plain .comment span :: ts) =
        bodyDeclarations s none ts := by
      rw [bodyDeclarations]
      dsimp only [overload?]
      rw [hhere]
      cases bodyDeclarations s none ts <;> rfl
    cases pending with
    | none =>
      rw [hrest]
      exact h.agree s none
    | some g =>
      rw [bodyDeclarations_flush s g rfl, hrest]
      exact (agree_flush s g ss).trans ((h.agree s none).cons (g.declaration s))
  | @cons a b ss ts hab h =>
    have ho := hab.overload?_eq
    rw [bodyDeclarations, bodyDeclarations, joins, joins, ho, overloadName?, overloadName?, ho]
    cases hfound : overload? a with
    | none =>
      dsimp only [Option.map_none]
      rw [Nat.add_assoc, Nat.add_assoc]
      exact ((hab.agree s).append _ (h.agree s none)).add _
    | some found =>
      obtain ⟨decorators, head⟩ := found
      dsimp only [Option.map_some]
      rw [joinsIn_of_overload hfound, joinsIn_of_overload (ho.trans hfound)]
      have hstart := h.agree s (some (.start s decorators head))
      cases pending with
      | none => exact hstart.add _
      | some g =>
        dsimp only [Option.map_some]
        by_cases hhead : g.name = head.name
        · rw [if_pos hhead, if_pos hhead]
          have hextend := h.agree s (some (g.extend s decorators head))
          rw [Option.map_some, show (g.extend s decorators head).name = head.name from hhead]
            at hextend
          exact hextend.add _
        · rw [if_neg hhead, if_neg hhead]
          exact (hstart.cons _).add _

theorem CommentedIn.agree {a b : Stmt} (h : CommentedIn a b) (s : Scope) :
    Agree (joinsIn a) (joinsIn b) (statementDeclarations s a) (statementDeclarations s b) := by
  cases h with
  | same => exact Agree.refl _ _
  | classDef decorators span name h =>
    rw [joinsIn, joinsIn, statementDeclarations, statementDeclarations]
    exact (h.agree (s.nested name) none).classDef _ _
  | conditional span h =>
    rw [joinsIn, joinsIn, statementDeclarations, statementDeclarations]
    exact h.agree s

theorem CommentedBranches.agree {bs bs' : List (List Stmt)} (h : CommentedBranches bs bs')
    (s : Scope) :
    Agree (joinsOf bs) (joinsOf bs') (branchDeclarations s bs) (branchDeclarations s bs') := by
  cases h with
  | nil => exact Agree.refl _ _
  | cons h hrest =>
    rw [joinsOf, joinsOf, branchDeclarations, branchDeclarations]
    exact (h.agree s none).append [] (hrest.agree s)

end

/-- Equal outlines have equally many declarations. -/
theorem countAll_eq_of_unplacedAll {ds es : List Declaration}
    (h : Declaration.unplacedAll es = Declaration.unplacedAll ds) : countAll es = countAll ds := by
  have hlength := congrArg (fun xs => (Declaration.walkAll xs).length) h
  simp only [Declaration.walkAll_unplacedAll, List.length_map] at hlength
  exact hlength

theorem Agree.outline_eq_iff {j j' : Nat} {r r' : Except Refused (List Declaration)}
    (h : Agree j j' r r') :
    outline r' = outline r ↔ (∃ cause, outline r = .error cause) ∨ j' = j := by
  cases h with
  | refused e => exact ⟨fun _ => Or.inl ⟨e.cause, rfl⟩, fun _ => rfl⟩
  | declared le count same =>
    constructor
    · intro heq
      have hcount := countAll_eq_of_unplacedAll (Except.ok.inj heq)
      exact Or.inr (by omega)
    · rintro (⟨cause, hcause⟩ | hj)
      · exact absurd hcause (by simp [outline])
      · rw [same hj]

/-- **Which comments leave no trace.**  Let `ts` be `ss` with comments inserted at any depth, where
places may have moved.  The two bodies declare the same, locations aside, exactly if `ss` is
refused or no comment comes between an overload and the one of its name right before it. -/
theorem outline_commented_iff (s : Scope) (ss ts : List Stmt)
    (h : Commented (Stmt.unplacedAll ss) (Stmt.unplacedAll ts)) :
    outline (bodyDeclarations s none ts) = outline (bodyDeclarations s none ss) ↔
      (∃ cause, outline (bodyDeclarations s none ss) = .error cause) ∨
        joins none ts = joins none ss := by
  have hagree := (h.agree s.unplaced none).outline_eq_iff
  rw [Option.map_none, joins_unplacedAll, joins_unplacedAll] at hagree
  rw [outline_bodyDeclarations s none ts, outline_bodyDeclarations s none ss]
  exact hagree

/-- An overload of `f` that annotates nothing. -/
def bareOverload : Stmt := .function [.leaf .name default "overload"] ⟨default, "f", [], none⟩

/-- Comments around overloads, in a class and before it, leave no trace. -/
theorem outline_commented_class :
    let plain : List Stmt := [.classDef [] default "A" [bareOverload, bareOverload]]
    let commented : List Stmt :=
      [.plain .comment default, .classDef [] default "A"
        [.plain .comment default, bareOverload, bareOverload, .plain .comment default]]
    Commented (Stmt.unplacedAll plain) (Stmt.unplacedAll commented) ∧
      outline (bodyDeclarations ⟨"m.pyi", "m", false⟩ none commented) =
        outline (bodyDeclarations ⟨"m.pyi", "m", false⟩ none plain) := by
  intro plain commented
  have h : Commented (Stmt.unplacedAll plain) (Stmt.unplacedAll commented) :=
    .comment default (.cons (.classDef [] default "A" (.comment default
      (.cons (.same _) (.cons (.same _) (.comment default .nil))))) .nil)
  exact ⟨h, (outline_commented_iff ⟨"m.pyi", "m", false⟩ plain commented h).mpr (Or.inr rfl)⟩

/-- **Comments can leave a trace.**  A comment between two overloads of one name makes two methods
of them. -/
theorem comment_splits_overloads :
    (¬ ∀ (s : Scope) (ss ts : List Stmt), Commented (Stmt.unplacedAll ss) (Stmt.unplacedAll ts) →
        outline (bodyDeclarations s none ts) = outline (bodyDeclarations s none ss)) ∧
    (parseSource "@overload\ndef f(): ...\n@overload\ndef f(): ...\n" "m.pyi" "m").toOption.map
        (fun tree => tree.walk.map (·.name)) = some ["m#f"] ∧
    (parseSource "@overload\ndef f(): ...\n# c\n@overload\ndef f(): ...\n" "m.pyi" "m").toOption.map
        (fun tree => tree.walk.map (·.name)) = some ["m#f", "m#f"] := by
  refine ⟨fun hclaim => ?_, by decide +kernel, by decide +kernel⟩
  have hsame := hclaim ⟨"m.pyi", "m", false⟩ [bareOverload, bareOverload]
    [bareOverload, .plain .comment default, bareOverload]
    (.cons (.same _) (.comment default (.cons (.same _) .nil)))
  have hlength := congrArg (fun r => (r.toOption.getD []).length) hsame
  exact absurd hlength (by decide)

end StubLayers
