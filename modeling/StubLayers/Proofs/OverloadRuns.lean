import Mathlib.Data.List.SplitBy
import StubLayers.Proofs.Comments

/-!
# Runs of overloads

A body is read statement by statement, with a pending group of overloads that is closed when
another statement or another name comes.  This file says what comes out, with nothing pending: the
body is cut into pieces, and each piece declares for itself.

* `Cut body pieces`: the pieces are the longest runs of overloads of one name, and all other
  statements one by one.
* `pieceDeclarations`: what a piece declares; a run declares one method.
* `bodyDeclarations_run`, `bodyDeclarations_close`: a pending group takes in the rest of its run and
  is closed by whatever follows.
* `Cut.bodyDeclarations_eq`: a body declares what its pieces declare, one after the other, and is
  refused as the first of them is.
* `bodyDeclarations_grouped` adds what follows for a statement between two bodies and for branches.
-/

namespace StubLayers

/-! ### Results in a row -/

/-- One result after the other.  The first refusal counts. -/
def inTurn : List (Except Refused (List Declaration)) → Except Refused (List Declaration)
  | [] => .ok []
  | result :: rest => do
    let here ← result
    let more ← inTurn rest
    return here ++ more

theorem inTurn_append (xs ys : List (Except Refused (List Declaration))) :
    inTurn (xs ++ ys) = do
      let here ← inTurn xs
      let more ← inTurn ys
      return here ++ more := by
  induction xs with
  | nil =>
    rw [List.nil_append]
    cases inTurn ys <;> rfl
  | cons x xs ih =>
    rw [List.cons_append, inTurn, ih, inTurn]
    cases x with
    | error e => rfl
    | ok here =>
      cases inTurn xs with
      | error e => rfl
      | ok more =>
        cases inTurn ys with
        | error e => rfl
        | ok last => exact congrArg Except.ok (List.append_assoc here more last).symm

theorem inTurn_pair (x y : Except Refused (List Declaration)) :
    inTurn [x, y] = do
      let here ← x
      let more ← y
      return here ++ more := by
  cases x with
  | error e => rfl
  | ok here =>
    cases y with
    | error e => rfl
    | ok more => exact congrArg (fun ds => Except.ok (here ++ ds)) (List.append_nil more)

/-! ### Pieces of a body -/

/-- Overloads of one name, at least one of them. -/
structure IsRun (name : String) (piece : List Stmt) : Prop where
  ne_nil : piece ≠ []
  overload : ∀ stmt ∈ piece, overloadName? stmt = some name

/-- The body in pieces: runs of overloads that do not go on in the next piece, and single other
statements. -/
structure Cut (body : List Stmt) (pieces : List (List Stmt)) : Prop where
  whole : pieces.flatten = body
  piece : ∀ piece ∈ pieces,
    (∃ name, IsRun name piece) ∨ ∃ stmt, piece = [stmt] ∧ overload? stmt = none
  longest : pieces.IsChain fun piece next => ∀ name, IsRun name piece → ¬ IsRun name next

theorem overloadName?_eq_none_iff {stmt : Stmt} :
    overloadName? stmt = none ↔ overload? stmt = none := by
  rw [overloadName?, Option.map_eq_none_iff]

theorem not_isRun_singleton {stmt : Stmt} (h : overload? stmt = none) (name : String) :
    ¬ IsRun name [stmt] := by
  intro hrun
  have hname := hrun.overload stmt List.mem_cons_self
  rw [overloadName?_eq_none_iff.mpr h] at hname
  exact absurd hname (by simp)

/-- Whether two statements are overloads of one name. -/
def sameOverload (stmt next : Stmt) : Bool :=
  (overloadName? stmt).isSome && overloadName? next == overloadName? stmt

theorem sameOverload_iff {stmt next : Stmt} :
    sameOverload stmt next = true ↔
      ∃ name, overloadName? stmt = some name ∧ overloadName? next = some name := by
  rw [sameOverload, Bool.and_eq_true, beq_iff_eq]
  cases overloadName? stmt <;> simp

theorem piece_of_isChain {piece : List Stmt} (hne : piece ≠ [])
    (h : piece.IsChain fun stmt next => sameOverload stmt next) :
    (∃ name, IsRun name piece) ∨ ∃ stmt, piece = [stmt] ∧ overload? stmt = none := by
  induction piece with
  | nil => exact absurd rfl hne
  | cons first rest ih =>
    rcases rest with _ | ⟨next, rest⟩
    · cases hfirst : overloadName? first with
      | none => exact Or.inr ⟨first, rfl, overloadName?_eq_none_iff.mp hfirst⟩
      | some name =>
        refine Or.inl ⟨name, hne, fun stmt hstmt => ?_⟩
        rw [List.mem_singleton.mp hstmt, hfirst]
    · rw [List.isChain_cons_cons] at h
      obtain ⟨name, hfirst, hnext⟩ := sameOverload_iff.mp h.1
      rcases ih (List.cons_ne_nil next rest) h.2 with ⟨name', hrun⟩ | ⟨stmt, hsingle, hstmt⟩
      · have hname := hrun.overload next List.mem_cons_self
        rw [hnext] at hname
        obtain rfl := Option.some.inj hname
        exact Or.inl ⟨name, hne, List.forall_mem_cons.mpr ⟨hfirst, hrun.overload⟩⟩
      · rw [List.cons.injEq] at hsingle
        rw [← hsingle.1, ← overloadName?_eq_none_iff, hnext] at hstmt
        exact absurd hstmt (by simp)

/-- Every body can be cut. -/
theorem cut_splitBy (body : List Stmt) : Cut body (body.splitBy sameOverload) where
  whole := List.flatten_splitBy sameOverload body
  piece piece hpiece :=
    piece_of_isChain (List.ne_nil_of_mem_splitBy hpiece) (List.isChain_of_mem_splitBy hpiece)
  longest := by
    refine (List.isChain_getLast_head_splitBy sameOverload body).imp ?_
    rintro piece next ⟨hpiece, hnext, happart⟩ name hrun hrun'
    have hsame := sameOverload_iff.mpr ⟨name, hrun.overload _ (List.getLast_mem hpiece),
      hrun'.overload _ (List.head_mem hnext)⟩
    rw [happart] at hsame
    exact absurd hsame (by simp)

namespace Cut

variable {body : List Stmt} {piece : List Stmt} {pieces : List (List Stmt)}

theorem tail (h : Cut body (piece :: pieces)) : Cut pieces.flatten pieces :=
  ⟨rfl, fun p hp => h.piece p (List.mem_cons_of_mem piece hp), h.longest.tail⟩

/-- A run does not go on behind its piece. -/
theorem head?_ne (h : Cut body (piece :: pieces)) {name : String} (hrun : IsRun name piece) :
    ∀ stmt ∈ pieces.flatten.head?, overloadName? stmt ≠ some name := by
  cases pieces with
  | nil => exact fun _ hstmt => nomatch hstmt
  | cons next pieces =>
    have hlongest := (List.isChain_cons_cons.mp h.longest).1 name hrun
    rcases h.piece next (by simp) with ⟨name', hnext⟩ | ⟨single, rfl, hsingle⟩
    · obtain ⟨first, rest, rfl⟩ := List.exists_cons_of_ne_nil hnext.ne_nil
      rintro stmt ⟨rfl⟩ hname
      have hfirst := hnext.overload first List.mem_cons_self
      rw [hname] at hfirst
      obtain rfl := Option.some.inj hfirst
      exact hlongest hnext
    · rintro stmt ⟨rfl⟩ hname
      rw [overloadName?_eq_none_iff.mpr hsingle] at hname
      exact absurd hname (by simp)

/-- A statement that is no overload keeps what stands before it and behind it apart. -/
theorem between {before after : List Stmt} {pieces pieces' : List (List Stmt)} {stmt : Stmt}
    (h : Cut before pieces) (h' : Cut after pieces') (hstmt : overload? stmt = none) :
    Cut (before ++ stmt :: after) (pieces ++ [stmt] :: pieces') where
  whole := by rw [List.flatten_append, List.flatten_cons, h.whole, h'.whole]; rfl
  piece := by
    rw [List.forall_mem_append, List.forall_mem_cons]
    exact ⟨h.piece, Or.inr ⟨stmt, rfl, hstmt⟩, h'.piece⟩
  longest := by
    rw [List.isChain_append, List.isChain_cons]
    refine ⟨h.longest, ⟨fun _ _ name hrun => ?_, h'.longest⟩, ?_⟩
    · exact absurd hrun (not_isRun_singleton hstmt name)
    · rintro piece - next ⟨rfl⟩ name -
      exact not_isRun_singleton hstmt name

end Cut

/-! ### What a piece declares -/

/-- The method of a run: it spans all of the run, from its first function to its last, and has the
signatures of those that have one. -/
def runDeclaration (s : Scope) (first : List Expr × FunctionHead)
    (rest : List (List Expr × FunctionHead)) : Declaration where
  kind := .method
  name := s.memberName first.2.name
  location :=
    { file := s.file
      startLine := first.2.span.start.row + 1
      startCol := first.2.span.start.col
      endLine := (rest.getLastD first).2.span.stop.row + 1
      endCol := (rest.getLastD first).2.span.stop.col }
  signatures := (first :: rest).filterMap fun o => s.signature? o.1 o.2
  children := []

/-- What a piece declares: a run its method, anything else what its statements declare. -/
def pieceDeclarations (s : Scope) (piece : List Stmt) : Except Refused (List Declaration) :=
  match piece.filterMap overload? with
  | first :: rest => .ok [runDeclaration s first rest]
  | [] => inTurn (piece.map (statementDeclarations s))

theorem exists_overload {stmt : Stmt} {name : String} (h : overloadName? stmt = some name) :
    ∃ decorators head, overload? stmt = some (decorators, head) ∧ head.name = name := by
  rw [overloadName?, Option.map_eq_some_iff] at h
  obtain ⟨⟨decorators, head⟩, hfound, hname⟩ := h
  exact ⟨decorators, head, hfound, hname⟩

/-! ### The pending group -/

namespace OverloadGroup

/-- The group with all overloads of a list taken in. -/
def extendAll (g : OverloadGroup) (s : Scope) (os : List (List Expr × FunctionHead)) :
    OverloadGroup :=
  os.foldl (fun g o => g.extend s o.1 o.2) g

theorem extendAll_eq (g : OverloadGroup) (s : Scope) (os : List (List Expr × FunctionHead)) :
    g.extendAll s os =
      ⟨g.name, g.first, (os.getLast?.map (·.2.span)).getD g.last,
        g.signatures ++ os.filterMap fun o => s.signature? o.1 o.2⟩ := by
  induction os generalizing g with
  | nil => rw [extendAll, List.foldl_nil, List.filterMap_nil, List.append_nil]; rfl
  | cons o os ih =>
    have hlast : ((o :: os).getLast?.map (·.2.span)).getD g.last =
        (os.getLast?.map (·.2.span)).getD o.2.span := by
      cases os with
      | nil => rfl
      | cons o' os => rw [List.getLast?_cons_cons]; simp [List.getLast?_cons]
    rw [extendAll, List.foldl_cons, ← extendAll, ih, hlast, extend, List.append_assoc]
    simp only [List.filterMap_eq_flatMap_toList, List.flatMap_cons]

theorem declaration_extendAll_start (s : Scope) (first : List Expr × FunctionHead)
    (rest : List (List Expr × FunctionHead)) :
    ((start s first.1 first.2).extendAll s rest).declaration s = runDeclaration s first rest := by
  have hlast : (rest.getLast?.map (·.2.span)).getD first.2.span = (rest.getLastD first).2.span := by
    rw [List.getLastD_eq_getLast?]
    cases rest.getLast? <;> rfl
  rw [extendAll_eq, declaration, start]
  dsimp only
  rw [hlast, runDeclaration, List.filterMap_eq_flatMap_toList, List.filterMap_eq_flatMap_toList,
    List.flatMap_cons]
  rfl

end OverloadGroup

/-- **A pending group takes in the overloads of its name.** -/
theorem bodyDeclarations_run (s : Scope) (g : OverloadGroup) (run tail : List Stmt)
    (h : ∀ stmt ∈ run, overloadName? stmt = some g.name) :
    bodyDeclarations s (some g) (run ++ tail) =
      bodyDeclarations s (some (g.extendAll s (run.filterMap overload?))) tail := by
  induction run generalizing g with
  | nil => rfl
  | cons stmt run ih =>
    rw [List.forall_mem_cons] at h
    obtain ⟨decorators, head, hfound, hname⟩ := exists_overload h.1
    rw [List.cons_append, bodyDeclarations, hfound]
    dsimp only
    rw [if_pos hname.symm, ih (g.extend s decorators head) h.2, List.filterMap_cons_some hfound]
    rfl

/-- **A pending group is closed by what does not belong to it.** -/
theorem bodyDeclarations_close (s : Scope) (g : OverloadGroup) (tail : List Stmt)
    (h : ∀ stmt ∈ tail.head?, overloadName? stmt ≠ some g.name) :
    bodyDeclarations s (some g) tail =
      inTurn [.ok [g.declaration s], bodyDeclarations s none tail] := by
  have hrow : (do let more ← bodyDeclarations s none tail; return g.declaration s :: more) =
      inTurn [.ok [g.declaration s], bodyDeclarations s none tail] := by
    rw [inTurn_pair]
    cases bodyDeclarations s none tail <;> rfl
  rw [← hrow]
  cases tail with
  | nil => rfl
  | cons stmt tail =>
    cases hfound : overload? stmt with
    | none => exact bodyDeclarations_flush s g hfound tail
    | some found =>
      obtain ⟨decorators, head⟩ := found
      have hother : ¬ g.name = head.name := by
        intro hname
        apply h stmt rfl
        rw [overloadName?, hfound, hname]
        rfl
      rw [bodyDeclarations, bodyDeclarations, hfound]
      dsimp only
      rw [if_neg hother]

/-! ### Bodies -/

/-- A body that starts with a run of overloads. -/
theorem bodyDeclarations_run_append (s : Scope) {name : String} {run tail : List Stmt}
    (hrun : IsRun name run) (htail : ∀ stmt ∈ tail.head?, overloadName? stmt ≠ some name) :
    bodyDeclarations s none (run ++ tail) =
      inTurn [pieceDeclarations s run, bodyDeclarations s none tail] := by
  obtain ⟨stmt, rest, rfl⟩ := List.exists_cons_of_ne_nil hrun.ne_nil
  have hall := List.forall_mem_cons.mp hrun.overload
  obtain ⟨decorators, head, hfound, hname⟩ := exists_overload hall.1
  have hpiece : pieceDeclarations s (stmt :: rest) =
      .ok [runDeclaration s (decorators, head) (rest.filterMap overload?)] := by
    rw [pieceDeclarations, List.filterMap_cons_some hfound]
  have hgroup : ((OverloadGroup.start s decorators head).extendAll s
      (rest.filterMap overload?)).name = name := by
    rw [OverloadGroup.extendAll_eq]
    exact hname
  rw [List.cons_append, bodyDeclarations, hfound]
  dsimp only
  rw [bodyDeclarations_run s _ rest tail (by rw [← hname] at hall; exact hall.2),
    bodyDeclarations_close s _ tail (by rw [hgroup]; exact htail),
    OverloadGroup.declaration_extendAll_start s (decorators, head), hpiece]

/-- A body that starts with another statement. -/
theorem bodyDeclarations_cons (s : Scope) {stmt : Stmt} (h : overload? stmt = none)
    (tail : List Stmt) :
    bodyDeclarations s none (stmt :: tail) =
      inTurn [statementDeclarations s stmt, bodyDeclarations s none tail] := by
  rw [bodyDeclarations, h, inTurn_pair]
  rfl

theorem pieceDeclarations_singleton (s : Scope) {stmt : Stmt} (h : overload? stmt = none) :
    pieceDeclarations s [stmt] = statementDeclarations s stmt := by
  rw [pieceDeclarations, List.filterMap_cons_none h, List.filterMap_nil, List.map_singleton,
    inTurn, inTurn]
  cases statementDeclarations s stmt with
  | error e => rfl
  | ok here => exact congrArg Except.ok (List.append_nil here)

/-- **A body declares what its pieces declare.** -/
theorem Cut.bodyDeclarations_eq {body : List Stmt} {pieces : List (List Stmt)}
    (h : Cut body pieces) (s : Scope) :
    bodyDeclarations s none body = inTurn (pieces.map (pieceDeclarations s)) := by
  induction pieces generalizing body with
  | nil =>
    rw [← h.whole]
    rfl
  | cons piece pieces ih =>
    have hfirst : bodyDeclarations s none (piece ++ pieces.flatten) =
        inTurn [pieceDeclarations s piece, bodyDeclarations s none pieces.flatten] := by
      rcases h.piece piece List.mem_cons_self with ⟨name, hrun⟩ | ⟨stmt, rfl, hstmt⟩
      · exact bodyDeclarations_run_append s hrun (h.head?_ne hrun)
      · rw [List.singleton_append, bodyDeclarations_cons s hstmt,
          pieceDeclarations_singleton s hstmt]
    rw [← h.whole, List.flatten_cons, hfirst, ih h.tail, inTurn_pair, List.map_cons, inTurn]

theorem branchDeclarations_eq (s : Scope) (branches : List (List Stmt)) :
    branchDeclarations s branches = inTurn (branches.map (bodyDeclarations s none)) := by
  induction branches with
  | nil => rfl
  | cons branch rest ih => rw [branchDeclarations, ih, List.map_cons, inTurn]

/-- **Overloads are grouped by runs.**  Every body can be cut into pieces, the longest runs of
overloads of one name and all other statements one by one, and it declares what the pieces declare,
in their order.  So a statement that is no overload keeps the bodies on its two sides apart, and a
conditional declares what its branches declare one after the other. -/
theorem bodyDeclarations_grouped (s : Scope) (body : List Stmt) :
    (∃ pieces, Cut body pieces) ∧
    (∀ pieces, Cut body pieces →
      bodyDeclarations s none body = inTurn (pieces.map (pieceDeclarations s))) ∧
    (∀ before stmt after, body = before ++ stmt :: after → overload? stmt = none →
      bodyDeclarations s none body =
        inTurn [bodyDeclarations s none before, statementDeclarations s stmt,
          bodyDeclarations s none after]) ∧
    ∀ span branches, statementDeclarations s (.conditional span branches) =
      inTurn (branches.map (bodyDeclarations s none)) := by
  refine ⟨⟨_, cut_splitBy body⟩, fun pieces h => h.bodyDeclarations_eq s, ?_, ?_⟩
  · rintro before stmt after rfl hstmt
    have hbefore := cut_splitBy before
    have hafter := cut_splitBy after
    rw [(hbefore.between hafter hstmt).bodyDeclarations_eq s, List.map_append, List.map_cons,
      pieceDeclarations_singleton s hstmt, inTurn_append, ← hbefore.bodyDeclarations_eq s, inTurn,
      ← hafter.bodyDeclarations_eq s, inTurn, inTurn_pair]
  · intro span branches
    rw [statementDeclarations, branchDeclarations_eq]

end StubLayers
