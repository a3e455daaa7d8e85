import Mathlib.Data.Prod.Lex
import StubLayers.Proofs.OverloadRuns
import StubLayers.Proofs.Shapes
import StubLayers.Proofs.Spans

/-!
# Declarations in document order

Declarations take their places from statements: a group of overloads from its first one to its
last, the names of an assignment all the same one.  The branches of a conditional are laid end to
end.  This file says that the places of declarations follow the document if those of the statements
do, and so for every text.

* `InOrder file all ds`: each of the declarations ends before the later ones start, or one
  assignment declares both.
* `Laid file all stmts ds`: so it is at every depth, and children lie in their class; the
  declarations lie between the starts and the ends of `stmts`.
* `laid_inTurn`: results in a row are laid out if each of them is.
* `laid_bodyDeclarations`, `laid_statementDeclarations`: bodies and statements.
* `places_follow_document` says so of whole trees.
-/

namespace StubLayers

/-! ### Places -/

/-- Line and column, lines counted from one. -/
def Position.place (p : Position) : Int ×ₗ Int := toLex (p.row + 1, p.col)

theorem Position.place_le_place {p q : Position} : p.place ≤ q.place ↔ p ≤ q := by
  rw [place, place, Prod.Lex.toLex_le_toLex, le_def]
  dsimp only
  omega

namespace Location

def starts (l : Location) : Int ×ₗ Int := toLex (l.startLine, l.startCol)

def ends (l : Location) : Int ×ₗ Int := toLex (l.endLine, l.endCol)

/-- The first place lies inside the second one. -/
def Within (l m : Location) : Prop := m.starts ≤ l.starts ∧ l.ends ≤ m.ends

end Location

/-! ### Declarations -/

/-- An assignment among the statements declares both, at its own place. -/
def FromOneAssignment (file : String) (all : List Stmt) (d e : Declaration) : Prop :=
  ∃ s span body ds, .assignment span body ∈ all ∧ assignmentDeclarations s span body = .ok ds ∧
    d ∈ ds ∧ e ∈ ds ∧ d.location = Location.ofSpan file span ∧
    e.location = Location.ofSpan file span

/-- Each declaration ends before the later ones start, unless one assignment declares both. -/
def InOrder (file : String) (all : List Stmt) (ds : List Declaration) : Prop :=
  ds.Pairwise fun d later =>
    d.location.ends ≤ later.location.starts ∨ FromOneAssignment file all d later

/-- The declaration starts before it ends, and its children are in order and lie inside it. -/
structure Declaration.Encloses (file : String) (all : List Stmt) (d : Declaration) : Prop where
  proper : d.location.starts ≤ d.location.ends
  within : ∀ child ∈ d.children, child.location.Within d.location
  inOrder : InOrder file all d.children

/-- The declaration lies between the start of a statement and the end of one. -/
structure Declaration.Spanned (stmts : List Stmt) (d : Declaration) : Prop where
  starts : ∃ stmt ∈ stmts, stmt.span.start.place ≤ d.location.starts
  ends : ∃ stmt ∈ stmts, d.location.ends ≤ stmt.span.stop.place

/-- The declarations are in order at every depth, and lie between the starts and the ends of the
statements. -/
structure Laid (file : String) (all stmts : List Stmt) (ds : List Declaration) : Prop where
  inOrder : InOrder file all ds
  encloses : ∀ d ∈ Declaration.walkAll ds, d.Encloses file all
  spanned : ∀ d ∈ ds, d.Spanned stmts

section

variable {file : String} {all stmts : List Stmt} {ds : List Declaration}

theorem laid_nil : Laid file all stmts [] :=
  ⟨.nil, by simp [Declaration.walkAll], by simp⟩

theorem Declaration.Spanned.mono {more : List Stmt} {d : Declaration} (h : d.Spanned stmts)
    (hmore : stmts ⊆ more) : d.Spanned more := by
  obtain ⟨first, hfirst, hstarts⟩ := h.starts
  obtain ⟨last, hlast, hends⟩ := h.ends
  exact ⟨⟨first, hmore hfirst, hstarts⟩, ⟨last, hmore hlast, hends⟩⟩

/-- **What is laid out for two lists of statements** is so for both in a row. -/
theorem Laid.append {more : List Stmt} {es : List Declaration} (h : Laid file all stmts ds)
    (h' : Laid file all more es)
    (hapart : ∀ stmt ∈ stmts, ∀ later ∈ more, stmt.span.stop ≤ later.span.start) :
    Laid file all (stmts ++ more) (ds ++ es) where
  inOrder := by
    refine List.pairwise_append.mpr ⟨h.inOrder, h'.inOrder, fun d hd e he => .inl ?_⟩
    obtain ⟨stmt, hstmt, hends⟩ := (h.spanned d hd).ends
    obtain ⟨later, hlater, hstarts⟩ := (h'.spanned e he).starts
    calc d.location.ends ≤ stmt.span.stop.place := hends
      _ ≤ later.span.start.place := Position.place_le_place.mpr (hapart stmt hstmt later hlater)
      _ ≤ e.location.starts := hstarts
  encloses := by
    rw [Declaration.walkAll_append, List.forall_mem_append]
    exact ⟨h.encloses, h'.encloses⟩
  spanned := List.forall_mem_append.mpr
    ⟨fun d hd => (h.spanned d hd).mono (List.subset_append_left stmts more),
      fun e he => (h'.spanned e he).mono (List.subset_append_right stmts more)⟩

/-- A statement covers what the statements inside it declare. -/
theorem Laid.of_within {stmt : Stmt} (h : Laid file all stmts ds)
    (hwithin : ∀ part ∈ stmts, part.span.Within stmt.span) : Laid file all [stmt] ds where
  inOrder := h.inOrder
  encloses := h.encloses
  spanned d hd := by
    obtain ⟨first, hfirst, hstarts⟩ := (h.spanned d hd).starts
    obtain ⟨last, hlast, hends⟩ := (h.spanned d hd).ends
    have hstart := Position.place_le_place.mpr (hwithin first hfirst).1
    have hstop := Position.place_le_place.mpr (hwithin last hlast).2
    exact ⟨⟨stmt, List.mem_singleton_self stmt, hstart.trans hstarts⟩,
      ⟨stmt, List.mem_singleton_self stmt, hends.trans hstop⟩⟩

/-- One declaration, from the start of a statement to the end of another one. -/
theorem laid_singleton {d : Declaration} {first last : Stmt} (hfirst : first ∈ stmts)
    (hlast : last ∈ stmts)
    (hlocation : d.location = Location.ofSpan file (first.span.through last.span))
    (h : ∀ e ∈ Declaration.walkAll [d], e.Encloses file all) : Laid file all stmts [d] where
  inOrder := List.pairwise_singleton _ d
  encloses := h
  spanned := by
    refine List.forall_mem_singleton.mpr ⟨⟨first, hfirst, ?_⟩, ⟨last, hlast, ?_⟩⟩
    · rw [hlocation]
      exact le_rfl
    · rw [hlocation]
      exact le_rfl

theorem encloses_of_flat (hflat : ∀ d ∈ ds, d.children = [])
    (hproper : ∀ d ∈ ds, d.location.starts ≤ d.location.ends) :
    ∀ d ∈ Declaration.walkAll ds, d.Encloses file all := by
  refine Every.of_flat hflat fun d hd => ⟨hproper d hd, ?_, ?_⟩
  · simp [hflat d hd]
  · rw [hflat d hd]
    exact .nil

/-- One declaration without children. -/
theorem laid_flat {d : Declaration} {first last : Stmt} (hfirst : first ∈ stmts)
    (hlast : last ∈ stmts) (hproper : first.span.start ≤ last.span.stop)
    (hlocation : d.location = Location.ofSpan file (first.span.through last.span))
    (hflat : d.children = []) : Laid file all stmts [d] := by
  refine laid_singleton hfirst hlast hlocation (encloses_of_flat (by simpa using hflat) ?_)
  rw [List.forall_mem_singleton, hlocation]
  exact Position.place_le_place.mpr hproper

/-- **Results in a row are laid out** if each of them is. -/
theorem laid_inTurn {pieces : List (List Stmt)}
    {f : List Stmt → Except Refused (List Declaration)} (hapart : Apart pieces.flatten)
    (h : ∀ piece ∈ pieces, Gives (Laid file all piece) (f piece)) :
    Gives (Laid file all pieces.flatten) (inTurn (pieces.map f)) := by
  induction pieces with
  | nil => exact .ok laid_nil
  | cons piece pieces ih =>
    rw [List.forall_mem_cons] at h
    rw [Apart, List.flatten_cons, List.pairwise_append] at hapart
    obtain ⟨-, hpieces, hbetween⟩ := hapart
    rw [List.map_cons, inTurn, List.flatten_cons]
    exact h.1.bind fun here hhere => (ih hpieces h.2).bind fun more hmore =>
      .ok (hhere.append hmore hbetween)

end

/-! ### What single statements declare -/

section

variable {all : List Stmt} (s : Scope)

theorem laid_functionDeclarations {decorators : List Expr} {head : FunctionHead}
    (h : (Stmt.function decorators head).Fits) :
    Laid s.file all [.function decorators head] (functionDeclarations s decorators head) := by
  have hone (kind : DeclarationKind) (name : String) (signatures : List Signature) :
      Laid s.file all [.function decorators head]
        [⟨kind, name, s.locate head.span, signatures, []⟩] :=
    laid_flat (List.mem_singleton_self _) (List.mem_singleton_self _) h.proper rfl rfl
  rw [functionDeclarations]
  split
  · exact laid_nil
  · split
    · exact hone _ _ _
    · exact hone _ _ _

/-- The names of an assignment all have its place. -/
theorem laid_assignmentDeclarations {span : Span} {body : Assignment}
    (hmem : .assignment span body ∈ all) (h : (Stmt.assignment span body).Fits) :
    Gives (Laid s.file all [.assignment span body]) (assignmentDeclarations s span body) := by
  intro ds hds
  have hnames : ∀ d ∈ ds, d.location = Location.ofSpan s.file span ∧ d.children = [] := by
    cases hnames : body.names with
    | error e => rw [assignmentDeclarations, hnames] at hds; exact nomatch hds
    | ok names =>
      rw [assignmentDeclarations, hnames] at hds
      obtain rfl := Except.ok.inj hds
      intro d hd
      obtain ⟨name, -, rfl⟩ := List.mem_map.mp hd
      exact ⟨rfl, rfl⟩
  refine ⟨?_, encloses_of_flat (fun d hd => (hnames d hd).2) fun d hd => ?_, fun d hd => ?_⟩
  · refine List.pairwise_of_forall_mem_list fun d hd e he => .inr ?_
    exact ⟨s, span, body, ds, hmem, hds, hd, he, (hnames d hd).1, (hnames e he).1⟩
  · rw [(hnames d hd).1]
    exact Position.place_le_place.mpr h.proper
  · have hlocation := (hnames d hd).1
    exact ⟨⟨_, List.mem_singleton_self _, by rw [hlocation]; exact le_rfl⟩,
      ⟨_, List.mem_singleton_self _, by rw [hlocation]; exact le_rfl⟩⟩

/-- A run of overloads spans from its first function to its last. -/
theorem laid_run {name : String} {run : List Stmt} (hrun : IsRun name run) (hapart : Apart run)
    (h : ∀ stmt ∈ run, stmt.Fits) : Gives (Laid s.file all run) (pieceDeclarations s run) := by
  obtain ⟨stmt, tail, rfl⟩ := List.exists_cons_of_ne_nil hrun.ne_nil
  obtain ⟨decorators, head, hfirst, -⟩ := exists_overload (hrun.overload stmt List.mem_cons_self)
  obtain rfl := function_of_overload? hfirst
  rw [pieceDeclarations, List.filterMap_cons_some hfirst]
  generalize hlast : (tail.filterMap overload?).getLastD (decorators, head) = last
  have hmem : last ∈ (Stmt.function decorators head :: tail).filterMap overload? := by
    rw [List.filterMap_cons_some hfirst, ← hlast]
    exact List.getLastD_mem_cons
  obtain ⟨stmt, hstmt, hoverload⟩ := List.mem_filterMap.mp hmem
  obtain rfl := function_of_overload? hoverload
  have hproper : head.span.start ≤ last.2.span.stop := by
    rcases List.mem_cons.mp hstmt with heq | htail
    · rw [← (Stmt.function.inj heq).2]
      exact (h _ hstmt).proper
    · have hbefore : head.span.stop ≤ last.2.span.start := List.rel_of_pairwise_cons hapart htail
      have hstop := Position.le_trans hbefore (h _ hstmt).proper
      exact Position.le_trans (h _ List.mem_cons_self).proper hstop
  have hlocation : (runDeclaration s (decorators, head) (tail.filterMap overload?)).location =
      Location.ofSpan s.file (head.span.through last.2.span) := by
    rw [← hlast]
    rfl
  exact .ok (laid_flat List.mem_cons_self hstmt hproper hlocation rfl)

/-- **A body is laid out** if its statements are, one by one. -/
theorem laid_bodyDeclarations {body : List Stmt} (hapart : Apart body)
    (hfits : ∀ stmt ∈ body, stmt.Fits)
    (h : ∀ stmt ∈ body, Gives (Laid s.file all [stmt]) (statementDeclarations s stmt)) :
    Gives (Laid s.file all body) (bodyDeclarations s none body) := by
  have hcut := cut_splitBy body
  have hmem : ∀ piece ∈ body.splitBy sameOverload, ∀ stmt ∈ piece, stmt ∈ body := by
    intro piece hpiece stmt hstmt
    rw [← hcut.whole]
    exact List.mem_flatten_of_mem hpiece hstmt
  have hpieces : ∀ piece ∈ body.splitBy sameOverload,
      Gives (Laid s.file all piece) (pieceDeclarations s piece) := by
    intro piece hpiece
    rcases hcut.piece piece hpiece with ⟨name, hrun⟩ | ⟨stmt, rfl, hstmt⟩
    · refine laid_run s hrun ?_ fun stmt hstmt => hfits stmt (hmem piece hpiece stmt hstmt)
      rw [Apart, ← hcut.whole, List.pairwise_flatten] at hapart
      exact hapart.1 piece hpiece
    · rw [pieceDeclarations_singleton s hstmt]
      exact h stmt (hmem _ hpiece stmt (List.mem_singleton_self stmt))
  have hall := laid_inTurn (by rw [hcut.whole]; exact hapart) hpieces
  rwa [← hcut.bodyDeclarations_eq s, hcut.whole] at hall

/-- A class encloses what its body declares. -/
theorem laid_class {decorators : List Expr} {span : Span} {name : String} {body : List Stmt}
    (h : (Stmt.classDef decorators span name body).Fits) {children : List Declaration}
    (hchildren : Laid s.file all body children) :
    Laid s.file all [.classDef decorators span name body]
      [⟨.typeScope, s.className name, s.locate span, [], children⟩] := by
  refine laid_singleton (List.mem_singleton_self _) (List.mem_singleton_self _) rfl ?_
  rw [Declaration.walkAll, Declaration.walkAll, List.append_nil, Declaration.walk,
    List.forall_mem_cons]
  refine ⟨⟨Position.place_le_place.mpr h.proper, fun child hchild => ?_, hchildren.inOrder⟩,
    hchildren.encloses⟩
  obtain ⟨⟨_, hfirst, hstarts⟩, ⟨_, hlast, hends⟩⟩ :=
    (hchildren.of_within h.inside).spanned child hchild
  obtain rfl := List.mem_singleton.mp hfirst
  obtain rfl := List.mem_singleton.mp hlast
  exact ⟨hstarts, hends⟩

end

/-! ### Statements in statements -/

theorem mem_visited {stmt : Stmt} {stmts : List Stmt} (h : stmt ∈ stmts) : stmt ∈ visited stmts :=
  forall_visited_iff.mp (fun _ hinner => hinner) stmt h stmt List.mem_cons_self

theorem mem_visitedBranches {stmt : Stmt} {branch : List Stmt} {branches : List (List Stmt)}
    (hbranch : branch ∈ branches) (h : stmt ∈ branch) : stmt ∈ visitedBranches branches :=
  forall_visitedBranches_iff.mp (fun _ hinner => hinner) branch hbranch stmt (mem_visited h)

mutual

/-- **What a statement declares is laid out** inside the statement. -/
theorem laid_statementDeclarations {all : List Stmt} (hall : ∀ stmt ∈ all, stmt.Fits) :
    (stmt : Stmt) → stmt :: visitedIn stmt ⊆ all →
      ∀ s : Scope, Gives (Laid s.file all [stmt]) (statementDeclarations s stmt)
  | .plain kind _, _, s => by
    rw [statementDeclarations]
    split
    · exact .ok laid_nil
    · exact .error _
  | .augmented _, _, _ => .ok laid_nil
  | .expression _ first, _, s => by
    rw [statementDeclarations]
    split
    · exact .ok laid_nil
    · exact .error _
  | .assignment span body, hin, s => by
    have hmem := (List.cons_subset.mp hin).1
    rw [statementDeclarations]
    exact laid_assignmentDeclarations s hmem (hall _ hmem)
  | .typeAlias span left, hin, s => by
    have hfits := hall _ (List.cons_subset.mp hin).1
    rw [statementDeclarations]
    cases left.firstName with
    | none => exact .error _
    | some name =>
      exact .ok (laid_flat (List.mem_singleton_self _) (List.mem_singleton_self _) hfits.proper
        rfl rfl)
  | .function decorators head, hin, s => by
    have hfits := hall _ (List.cons_subset.mp hin).1
    rw [statementDeclarations]
    exact .ok (laid_functionDeclarations s hfits)
  | .classDef decorators span name body, hin, s => by
    obtain ⟨hmem, hinside⟩ := List.cons_subset.mp hin
    have hfits := hall _ hmem
    have hbody := laid_bodyDeclarations (s.nested name) hfits.apart
      (fun stmt hstmt => hall stmt (hinside (mem_visited hstmt))) fun stmt hstmt =>
        laid_each hall body hinside stmt hstmt (s.nested name)
    rw [statementDeclarations]
    exact hbody.bind fun children hchildren => .ok (laid_class s hfits hchildren)
  | .conditional span branches, hin, s => by
    obtain ⟨hmem, hinside⟩ := List.cons_subset.mp hin
    have hfits := hall _ hmem
    have hbranches : ∀ branch ∈ branches,
        Gives (Laid s.file all branch) (bodyDeclarations s none branch) := by
      intro branch hbranch
      refine laid_bodyDeclarations s ?_ ?_ fun stmt hstmt => ?_
      · exact (List.pairwise_flatten.mp hfits.apart).1 branch hbranch
      · exact fun stmt hstmt => hall stmt (hinside (mem_visitedBranches hbranch hstmt))
      · exact laid_eachBranch hall branches hinside branch hbranch stmt hstmt s
    rw [statementDeclarations, branchDeclarations_eq]
    intro ds hds
    exact (laid_inTurn hfits.apart hbranches ds hds).of_within hfits.inside

theorem laid_each {all : List Stmt} (hall : ∀ stmt ∈ all, stmt.Fits) :
    (stmts : List Stmt) → visited stmts ⊆ all → ∀ stmt ∈ stmts,
      ∀ s : Scope, Gives (Laid s.file all [stmt]) (statementDeclarations s stmt)
  | [], _ => by simp
  | stmt :: rest, hin => by
    rw [visited, ← List.cons_append, List.append_subset] at hin
    exact List.forall_mem_cons.mpr
      ⟨laid_statementDeclarations hall stmt hin.1, laid_each hall rest hin.2⟩

theorem laid_eachBranch {all : List Stmt} (hall : ∀ stmt ∈ all, stmt.Fits) :
    (branches : List (List Stmt)) → visitedBranches branches ⊆ all →
      ∀ branch ∈ branches, ∀ stmt ∈ branch,
        ∀ s : Scope, Gives (Laid s.file all [stmt]) (statementDeclarations s stmt)
  | [], _ => by simp
  | branch :: rest, hin => by
    rw [visitedBranches, List.append_subset] at hin
    exact List.forall_mem_cons.mpr
      ⟨laid_each hall branch hin.1, laid_eachBranch hall rest hin.2⟩

end

/-! ### Whole trees -/

/-- The places in a tree follow the document: declarations start before they end, children lie in
their class, and in every list of declarations each ends before the later ones start, or has the
place of the later one because one assignment declares both. -/
structure DeclarationTree.FollowsDocument (all : List Stmt) (tree : DeclarationTree) : Prop where
  proper : ∀ d ∈ tree.walk, d.location.starts ≤ d.location.ends
  within : ∀ d ∈ tree.walk, ∀ child ∈ d.children, child.location.Within d.location
  inOrder : ∀ ds ∈ tree.nodes :: tree.walk.map (·.children), InOrder tree.file all ds

theorem followsDocument_of_wellPlaced {file module : String} {stmts : List Stmt}
    {tree : DeclarationTree} (hplaced : WellPlaced stmts)
    (h : declarationsOf file module stmts = .ok tree) : tree.FollowsDocument (visited stmts) := by
  have hbody := laid_bodyDeclarations ⟨file, module, false⟩ hplaced.apart
    (fun stmt hstmt => hplaced.fits stmt (mem_visited hstmt)) fun stmt hstmt =>
      laid_each hplaced.fits stmts (List.Subset.refl _) stmt hstmt ⟨file, module, false⟩
  cases hnodes : bodyDeclarations ⟨file, module, false⟩ none stmts with
  | error refused =>
    rw [declarationsOf, hnodes] at h
    cases h
  | ok nodes =>
    rw [declarationsOf, hnodes] at h
    obtain rfl := Except.ok.inj h
    have hlaid := hbody nodes hnodes
    refine ⟨fun d hd => (hlaid.encloses d hd).proper, fun d hd => (hlaid.encloses d hd).within, ?_⟩
    refine List.forall_mem_cons.mpr ⟨hlaid.inOrder, List.forall_mem_map.mpr fun d hd => ?_⟩
    exact (hlaid.encloses d hd).inOrder

/-- **Places follow the document.**  If the statements inside each statement lie in it, one behind
the other, the places of declarations follow the document as well, whatever conditionals, groups of
overloads and assignments of several names there are.  The statements of every text in the grammar
lie so. -/
theorem places_follow_document (file module : String) (tree : DeclarationTree) :
    (∀ stmts, WellPlaced stmts → declarationsOf file module stmts = .ok tree →
      tree.FollowsDocument (visited stmts)) ∧
    ∀ text, parseSource text file module = .ok tree →
      ∃ stmts, Stub.parse? text = some stmts ∧ WellPlaced stmts ∧
        tree.FollowsDocument (visited stmts) := by
  refine ⟨fun stmts => followsDocument_of_wellPlaced, fun text h => ?_⟩
  obtain ⟨stmts, hparse, -⟩ := parseSource_eq_ok_iff.mp h
  have hplaced := Stub.wellPlaced_of_parse? hparse
  rw [parseSource, hparse] at h
  exact ⟨stmts, hparse, hplaced, followsDocument_of_wellPlaced hplaced h⟩

/-- Overloads in a class, and two names of one assignment in a branch. -/
def branchedText : String :=
  "class C:\n  @overload\n  def f(self) -> int: ...\n"
    ++ "  @overload\n  def f(self, a: int) -> int: ...\n"
    ++ "if a:\n  x, y = 1\nelse:\n  z: int\n"

theorem places_follow_document_branched :
    ∃ stmts tree, WellPlaced stmts ∧ declarationsOf "m.pyi" "m" stmts = .ok tree ∧
      parseSource branchedText "m.pyi" "m" = .ok tree ∧
      tree.walk.map (fun d => (d.name, d.location.render)) =
        [("m.C", "m.pyi:1:0-5:33"), ("m.C#f", "m.pyi:3:2-5:33"), ("m#x", "m.pyi:7:2-7:10"),
          ("m#y", "m.pyi:7:2-7:10"), ("m#z", "m.pyi:9:2-9:8")] ∧
      tree.FollowsDocument (visited stmts) := by
  have hplaces : (parseSource branchedText "m.pyi" "m").toOption.map (fun tree =>
      tree.walk.map fun d => (d.name, d.location.render)) =
        some [("m.C", "m.pyi:1:0-5:33"), ("m.C#f", "m.pyi:3:2-5:33"), ("m#x", "m.pyi:7:2-7:10"),
          ("m#y", "m.pyi:7:2-7:10"), ("m#z", "m.pyi:9:2-9:8")] := by
    decide +kernel
  obtain ⟨tree, htree, hplaces⟩ := Option.map_eq_some_iff.mp hplaces
  have hread : parseSource branchedText "m.pyi" "m" = .ok tree := by
    cases hresult : parseSource branchedText "m.pyi" "m" with
    | ok found =>
      rw [hresult] at htree
      rw [Option.some.inj htree]
    | error e =>
      rw [hresult] at htree
      exact nomatch htree
  obtain ⟨stmts, hparse, hplaced, -⟩ := (places_follow_document "m.pyi" "m" tree).2 _ hread
  have hdeclared : declarationsOf "m.pyi" "m" stmts = .ok tree := by
    rw [← hread, parseSource, hparse]
  exact ⟨stmts, tree, hplaced, hdeclared, hread, hplaces,
    (places_follow_document "m.pyi" "m" tree).1 stmts hplaced hdeclared⟩

end StubLayers
