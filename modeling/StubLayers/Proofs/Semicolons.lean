import StubLayers.Proofs.Origin
import StubLayers.Proofs.Places
import StubLayers.Proofs.Refusals

/-!
# Statements on one line

Simple statements may stand on one line with semicolons between them.  A semicolon is kept in the
body beside the statements that it divides, and no declaration is made of it: it is refused as a
statement of its own.  This file compares a text with one that has the same statements on lines of
their own.

* `unjoined`: a body without its semicolons, at every depth.
* `visited_unjoined`: its statements are those of the body, the semicolons left out.
* `outline_congr`: bodies that differ in places only declare the same.
* `joined_refused_iff` says which texts are refused for their semicolons alone.
-/

namespace StubLayers

/-! ### Bodies without semicolons -/

/-- The mark between two statements on one line. -/
def Stmt.isSemicolon : Stmt → Bool
  | plain .semicolon _ => true
  | _ => false

mutual

/-- A body without its semicolons, at every depth. -/
def unjoined : List Stmt → List Stmt
  | [] => []
  | stmt :: rest => if stmt.isSemicolon then unjoined rest else unjoinedIn stmt :: unjoined rest

def unjoinedIn : Stmt → Stmt
  | .classDef decorators span name body => .classDef decorators span name (unjoined body)
  | .conditional span branches => .conditional span (unjoinedBranches branches)
  | stmt => stmt

def unjoinedBranches : List (List Stmt) → List (List Stmt)
  | [] => []
  | branch :: rest => unjoined branch :: unjoinedBranches rest

end

/-- The statements without semicolons, each without those inside it. -/
def divided (stmts : List Stmt) : List Stmt :=
  (stmts.filter fun stmt => !stmt.isSemicolon).map unjoinedIn

theorem divided_append (ss ts : List Stmt) : divided (ss ++ ts) = divided ss ++ divided ts := by
  rw [divided, List.filter_append, List.map_append, divided, divided]

theorem divided_cons (stmt : Stmt) (rest : List Stmt) :
    divided (stmt :: rest) =
      if stmt.isSemicolon then divided rest else unjoinedIn stmt :: divided rest := by
  cases h : stmt.isSemicolon <;> simp [divided, h]

/-- A semicolon has nothing inside and is always refused. -/
theorem Stmt.of_isSemicolon {stmt : Stmt} (h : stmt.isSemicolon = true) :
    visitedIn stmt = [] ∧ offence? stmt = some ⟨.statement ";", stmt.span⟩ := by
  rw [isSemicolon.eq_def] at h
  split at h
  · exact ⟨rfl, rfl⟩
  · exact absurd h (by simp)

mutual

/-- **The statements that are left** are visited in the same order. -/
theorem visited_unjoined : (body : List Stmt) → visited (unjoined body) = divided (visited body)
  | [] => rfl
  | stmt :: rest => by
    have hrest := visited_unjoined rest
    have hinside := visitedIn_unjoinedIn stmt
    rw [unjoined, visited, divided_cons]
    split
    · rename_i hmark
      rw [(Stmt.of_isSemicolon hmark).1, List.nil_append, hrest]
    · rw [visited, hinside, hrest, divided_append]

theorem visitedIn_unjoinedIn : (stmt : Stmt) →
    visitedIn (unjoinedIn stmt) = divided (visitedIn stmt)
  | .classDef _ _ _ body => by
    rw [unjoinedIn, visitedIn, visitedIn, visited_unjoined body]
  | .conditional _ branches => by
    rw [unjoinedIn, visitedIn, visitedIn, visitedBranches_unjoined branches]
  | .plain _ _ | .expression _ _ | .augmented _ | .assignment _ _ | .typeAlias _ _
  | .function _ _ => rfl

theorem visitedBranches_unjoined : (branches : List (List Stmt)) →
    visitedBranches (unjoinedBranches branches) = divided (visitedBranches branches)
  | [] => rfl
  | branch :: rest => by
    rw [unjoinedBranches, visitedBranches, visitedBranches, visited_unjoined branch,
      visitedBranches_unjoined rest, divided_append]

end

mutual

/-- Nothing is taken from a body without semicolons. -/
theorem unjoined_eq_self : (body : List Stmt) →
    (∀ stmt ∈ visited body, stmt.isSemicolon = false) → unjoined body = body
  | [], _ => rfl
  | stmt :: rest, h => by
    rw [visited, List.forall_mem_cons, List.forall_mem_append] at h
    obtain ⟨hstmt, hinside, hrest⟩ := h
    rw [unjoined, hstmt, if_neg Bool.false_ne_true, unjoinedIn_eq_self stmt hinside,
      unjoined_eq_self rest hrest]

theorem unjoinedIn_eq_self : (stmt : Stmt) →
    (∀ inner ∈ visitedIn stmt, inner.isSemicolon = false) → unjoinedIn stmt = stmt
  | .classDef decorators span name body, h => by
    rw [unjoinedIn, unjoined_eq_self body h]
  | .conditional span branches, h => by
    rw [unjoinedIn, unjoinedBranches_eq_self branches h]
  | .plain _ _, _ | .expression _ _, _ | .augmented _, _ | .assignment _ _, _
  | .typeAlias _ _, _ | .function _ _, _ => rfl

theorem unjoinedBranches_eq_self : (branches : List (List Stmt)) →
    (∀ inner ∈ visitedBranches branches, inner.isSemicolon = false) →
      unjoinedBranches branches = branches
  | [], _ => rfl
  | branch :: rest, h => by
    rw [visitedBranches, List.forall_mem_append] at h
    rw [unjoinedBranches, unjoined_eq_self branch h.1, unjoinedBranches_eq_self rest h.2]

end

theorem offence?_unjoinedIn (stmt : Stmt) : offence? (unjoinedIn stmt) = offence? stmt := by
  cases stmt <;> rfl

/-! ### Declarations -/

/-- Bodies that differ in places only declare the same. -/
theorem outline_congr {ss ts : List Stmt} (h : Stmt.unplacedAll ss = Stmt.unplacedAll ts)
    (s : Scope) : outline (bodyDeclarations s none ss) = outline (bodyDeclarations s none ts) := by
  rw [outline_bodyDeclarations, h, ← outline_bodyDeclarations]

theorem refusal?_eq_none_iff {α : Type} {x : Except Refused α} :
    refusal? x = none ↔ ∃ a, x = .ok a := by
  cases x <;> simp [refusal?]

theorem exists_ok_iff_offence? (s : Scope) (body : List Stmt) :
    (∃ ds, bodyDeclarations s none body = .ok ds) ↔ ∀ stmt ∈ visited body, offence? stmt = none := by
  rw [← refusal?_eq_none_iff, refusal?_bodyDeclarations, List.findSome?_eq_none_iff]

/-- Statements that are accepted one by one are accepted together. -/
theorem exists_ok_of_alone {s : Scope} {body : List Stmt}
    (h : ∀ stmt ∈ body, ∃ ds, bodyDeclarations s none [stmt] = .ok ds) :
    ∃ ds, bodyDeclarations s none body = .ok ds := by
  rw [exists_ok_iff_offence?]
  induction body with
  | nil => exact fun _ hstmt => absurd hstmt List.not_mem_nil
  | cons stmt rest ih =>
    rw [List.forall_mem_cons] at h
    have hfirst := (exists_ok_iff_offence? s [stmt]).mp h.1
    rw [visited, visited, List.append_nil, List.forall_mem_cons] at hfirst
    rw [visited, List.forall_mem_cons, List.forall_mem_append]
    exact ⟨hfirst.1, hfirst.2, ih h.2⟩

theorem exists_ok_of_outline_eq {x y : Except Refused (List Declaration)} (h : outline x = outline y)
    {ds : List Declaration} (hx : x = .ok ds) :
    ∃ es, y = .ok es ∧ Declaration.unplacedAll es = Declaration.unplacedAll ds := by
  cases y with
  | error e => exact absurd h (by simp [hx, outline])
  | ok es =>
    rw [hx, outline, outline, Except.ok.injEq] at h
    exact ⟨es, rfl, h.symm⟩

/-- Only semicolons can be refused in a body that is accepted without them. -/
theorem offence?_of_unjoined_ok {s : Scope} {body : List Stmt} {ds : List Declaration}
    (h : bodyDeclarations s none (unjoined body) = .ok ds) :
    ∀ stmt ∈ visited body, stmt.isSemicolon = false → offence? stmt = none := by
  intro stmt hstmt hmark
  have hnone := (exists_ok_iff_offence? s (unjoined body)).mp ⟨ds, h⟩
  rw [visited_unjoined] at hnone
  have hleft : unjoinedIn stmt ∈ divided (visited body) :=
    List.mem_map_of_mem (List.mem_filter.mpr ⟨hstmt, by rw [hmark]; rfl⟩)
  rw [← offence?_unjoinedIn]
  exact hnone _ hleft

/-! ### Texts -/

theorem exists_parseSource_iff {text file module : String} {stmts : List Stmt}
    (parses : Stub.parse? text = some stmts) :
    (∃ tree, parseSource text file module = .ok tree) ↔
      ∀ stmt ∈ visited stmts, offence? stmt = none := by
  rw [← exists_ok_iff_offence? ⟨file, module, false⟩]
  constructor
  · rintro ⟨tree, h⟩
    exact ⟨tree.nodes, (bodyDeclarations_of_parseSource parses h).1⟩
  · rintro ⟨ds, h⟩
    exact ⟨⟨file, module, ds⟩, parseSource_eq_ok_iff.mpr ⟨stmts, parses, h, rfl⟩⟩

/-- **Statements joined by semicolons are refused.**  Let a text have, its semicolons left out, the
statements of another text whose statements are all accepted alone.  The other text is accepted.
The first one is accepted exactly if it has no semicolon, and then it declares the same, in the same
order; otherwise it is refused at its first semicolon, in whatever class or branch that stands. -/
theorem joined_refused_iff (joined lines file module : String) (ts ss : List Stmt)
    (parses : Stub.parse? joined = some ts) (parses' : Stub.parse? lines = some ss)
    (same : Stmt.unplacedAll (unjoined ts) = Stmt.unplacedAll ss)
    (alone : ∀ stmt ∈ ss, ∃ ds, bodyDeclarations ⟨file, module, false⟩ none [stmt] = .ok ds) :
    ∃ tree, parseSource lines file module = .ok tree ∧
      ((∃ tree', parseSource joined file module = .ok tree') ↔
        ∀ stmt ∈ visited ts, stmt.isSemicolon = false) ∧
      (∀ tree', parseSource joined file module = .ok tree' →
        tree'.walk.map Declaration.unplaced = tree.walk.map Declaration.unplaced) ∧
      ∀ before mark after, visited ts = before ++ mark :: after → mark.isSemicolon = true →
        (∀ stmt ∈ before, stmt.isSemicolon = false) →
        parseSource joined file module =
          .error ⟨.statement ";", Location.ofSpan file mark.span⟩ := by
  obtain ⟨ds, hlines⟩ := exists_ok_of_alone alone
  obtain ⟨es, hunjoined, hsame⟩ := exists_ok_of_outline_eq (outline_congr same _).symm hlines
  have hothers := offence?_of_unjoined_ok hunjoined
  have haccepted : (∃ tree', parseSource joined file module = .ok tree') ↔
      ∀ stmt ∈ visited ts, stmt.isSemicolon = false := by
    rw [exists_parseSource_iff parses]
    refine forall₂_congr fun stmt hstmt => ⟨fun hnone => ?_, hothers stmt hstmt⟩
    by_contra hmark
    rw [Bool.not_eq_false] at hmark
    exact absurd hnone (by simp [(Stmt.of_isSemicolon hmark).2])
  refine ⟨⟨file, module, ds⟩, parseSource_eq_ok_iff.mpr ⟨ss, parses', hlines, rfl⟩, haccepted,
    fun tree' hread => ?_, fun before mark after hsplit hmark hbefore => ?_⟩
  · have hnodes := (bodyDeclarations_of_parseSource parses hread).1
    rw [unjoined_eq_self ts (haccepted.mp ⟨tree', hread⟩), hnodes] at hunjoined
    rw [DeclarationTree.walk, DeclarationTree.walk, ← Declaration.walkAll_unplacedAll,
      ← Declaration.walkAll_unplacedAll, Except.ok.inj hunjoined, hsame]
  · have hfirst : (visited ts).findSome? offence? = some ⟨.statement ";", mark.span⟩ := by
      refine List.findSome?_eq_some_iff.mpr
        ⟨before, mark, after, hsplit, (Stmt.of_isSemicolon hmark).2, fun stmt hstmt => ?_⟩
      exact hothers stmt (by simp [hsplit, hstmt]) (hbefore stmt hstmt)
    exact (parseSource_eq_error_iff parses).mpr ⟨_, hfirst, rfl⟩

/-! ### A class on one line -/

/-- A value of a plain type by name and type, or a semicolon. -/
abbrev Field := Option (String × String)

def Stmt.ofField : Field → Stmt
  | none => .plain .semicolon default
  | some (name, type) =>
    .assignment default (.declare (.leaf .name default name)
      (.form .type default [.leaf .name default type]))

def Stmt.field? : Stmt → Option Field
  | plain .semicolon _ => some none
  | assignment _ (.declare (.leaf .name _ name) (.form .type _ [.leaf .name _ type])) =>
    some (some (name, type))
  | _ => none

theorem Stmt.of_field?_some {stmt : Stmt} {field : String × String}
    (h : stmt.field? = some (some field)) :
    stmt.isSemicolon = false ∧ (unjoinedIn stmt).unplaced = ofField (some field) := by
  rw [field?.eq_def] at h
  split at h
  · exact absurd h (by simp)
  · obtain rfl := Option.some.inj (Option.some.inj h)
    exact ⟨rfl, rfl⟩
  · exact absurd h (by simp)

theorem Stmt.of_field?_none {stmt : Stmt} (h : stmt.field? = some none) :
    stmt.isSemicolon = true := by
  rw [field?.eq_def] at h
  split at h
  · rfl
  · exact absurd h (by simp)
  · exact absurd h (by simp)

theorem unplacedAll_unjoined_fields {body : List Stmt} {fields : List Field}
    (h : body.mapM Stmt.field? = some fields) :
    Stmt.unplacedAll (unjoined body) = (fields.filter Option.isSome).map Stmt.ofField := by
  induction body generalizing fields with
  | nil =>
    obtain rfl := Option.some.inj h
    rfl
  | cons stmt rest ih =>
    rw [List.mapM_cons] at h
    obtain ⟨field, hfield, h⟩ := Option.bind_eq_some_iff.mp h
    obtain ⟨more, hmore, h⟩ := Option.bind_eq_some_iff.mp h
    obtain rfl := Option.some.inj h
    rw [unjoined]
    cases field with
    | none => rw [if_pos (Stmt.of_field?_none hfield), ih hmore]; rfl
    | some field =>
      obtain ⟨hmark, hunplaced⟩ := Stmt.of_field?_some hfield
      rw [hmark, if_neg Bool.false_ne_true, Stmt.unplacedAll, hunplaced, ih hmore]
      rfl

/-- The fields of a class that is all of a body. -/
def fieldsIn? : List Stmt → Option (List Field)
  | [.classDef [] _ "A" body] => body.mapM Stmt.field?
  | _ => none

theorem unplacedAll_unjoined_class {body : List Stmt} {fields : List Field}
    (h : fieldsIn? body = some fields) :
    Stmt.unplacedAll (unjoined body) =
      [.classDef [] default "A" ((fields.filter Option.isSome).map Stmt.ofField)] := by
  rw [fieldsIn?.eq_def] at h
  split at h
  · rw [← unplacedAll_unjoined_fields h]
    rfl
  · exact absurd h (by simp)

/-- A class with its fields on one line, and with each on its own. -/
def joinedText : String := "class A: x: int; y: str;\n"

def linesText : String := "class A:\n x: int\n y: str\n"

theorem joined_refused_iff_class : ∃ ts ss, Stub.parse? joinedText = some ts ∧
    Stub.parse? linesText = some ss ∧ Stmt.unplacedAll (unjoined ts) = Stmt.unplacedAll ss ∧
    (∃ tree, parseSource linesText "m.pyi" "m" = .ok tree) ∧
    parseSource joinedText "m.pyi" "m" =
      .error ⟨.statement ";", ⟨"m.pyi", 1, 15, 1, 16⟩⟩ := by
  have hjoined : (Stub.parse? joinedText).map (fun ts =>
      (fieldsIn? ts, ((visited ts).find? Stmt.isSemicolon).map Stmt.span)) =
      some (some [some ("x", "int"), none, some ("y", "str"), none],
        some ⟨⟨0, 15⟩, ⟨0, 16⟩⟩) := by decide +kernel
  have hlines : (Stub.parse? linesText).map (fun ss =>
      (fieldsIn? ss, (visited ss).all (fun stmt => !stmt.isSemicolon), ss.all fun stmt =>
        (refusal? (bodyDeclarations ⟨"m.pyi", "m", false⟩ none [stmt])).isNone)) =
      some (some [some ("x", "int"), some ("y", "str")], true, true) := by decide +kernel
  obtain ⟨ts, parses, hts⟩ := Option.map_eq_some_iff.mp hjoined
  obtain ⟨ss, parses', hss⟩ := Option.map_eq_some_iff.mp hlines
  simp only [Prod.mk.injEq, List.all_eq_true, Bool.not_eq_true', Option.isNone_iff_eq_none,
    refusal?_eq_none_iff, Option.map_eq_some_iff] at hts hss
  obtain ⟨hfields, mark, hmark, hspan⟩ := hts
  obtain ⟨hfields', hfree, alone⟩ := hss
  have same : Stmt.unplacedAll (unjoined ts) = Stmt.unplacedAll ss := by
    rw [← unjoined_eq_self ss hfree, unplacedAll_unjoined_class hfields,
      unplacedAll_unjoined_class hfields']
    rfl
  obtain ⟨tree, hread, -, -, hrefused⟩ :=
    joined_refused_iff joinedText linesText "m.pyi" "m" ts ss parses parses' same alone
  obtain ⟨hisMark, before, after, hsplit, hbefore⟩ := List.find?_eq_some_iff_append.mp hmark
  refine ⟨ts, ss, parses, parses', same, ⟨tree, hread⟩, ?_⟩
  rw [hrefused before mark after hsplit hisMark (by simpa using hbefore), hspan]
  rfl

/-- What is accepted line by line is refused on one line. -/
theorem semicolon_refused :
    (parseSource "x: int\ny: str\n" "m.pyi" "m").toOption.map (fun tree =>
      tree.walk.map (·.name)) = some ["m#x", "m#y"] ∧
    (parseSource "x: int; y: str\n" "m.pyi" "m").toOption.map (fun tree =>
      tree.walk.map (·.name)) = none := by
  decide +kernel

end StubLayers
