import Mathlib.Data.List.Basic
import StubLayers.Layer.Load
import StubLayers.Proofs.Places
import StubLayers.Proofs.Stubs

/-!
# Declarations and their file

What is declared carries the name of its file at every depth, and nothing else of it depends on
that name.

* `Every P`: all declarations of a result, nested ones included, satisfy `P`; the lemmas follow the
  ways in which results are put together.
* `every_file_bodyDeclarations`: every declaration of a body is located in the file of its scope.
* `place_parseSource`, `place_loadFile`: and so is whatever a text or a file is refused for.
* `parseSource_renamed`: one text under two file names gives the same declarations, locations
  aside.
* `loadFile_copy`: so does one text in two layers, at the same way down from each.
-/

namespace StubLayers

/-! ### All declarations of a result -/

/-- Every declaration of a result, nested ones included, satisfies `P`. -/
def Every (P : Declaration → Prop) : Except Refused (List Declaration) → Prop
  | .ok ds => ∀ d ∈ Declaration.walkAll ds, P d
  | .error _ => True

namespace Every

variable {P : Declaration → Prop}

theorem nil : Every P (.ok []) := fun _ hd => absurd hd List.not_mem_nil

theorem of_flat {ds : List Declaration} (hflat : ∀ d ∈ ds, d.children = [])
    (h : ∀ d ∈ ds, P d) : ∀ d ∈ Declaration.walkAll ds, P d := by
  intro d hd
  rw [Declaration.walkAll_eq_flatMap, List.mem_flatMap] at hd
  obtain ⟨e, he, hd⟩ := hd
  obtain ⟨kind, name, location, signatures, children⟩ := e
  obtain rfl : children = [] := hflat _ he
  rw [Declaration.walk, Declaration.walkAll, List.mem_singleton] at hd
  rw [hd]
  exact h _ he

theorem append {pre : List Declaration} {x y : Except Refused (List Declaration)}
    (hpre : ∀ d ∈ Declaration.walkAll pre, P d) (hx : Every P x) (hy : Every P y) :
    Every P (do let here ← x; let more ← y; return pre ++ here ++ more) := by
  cases x with
  | error e => trivial
  | ok here =>
    cases y with
    | error e => trivial
    | ok more =>
      intro d hd
      rw [Declaration.walkAll_append, Declaration.walkAll_append, List.mem_append,
        List.mem_append] at hd
      rcases hd with (hd | hd) | hd
      · exact hpre d hd
      · exact hx d hd
      · exact hy d hd

theorem cons {d : Declaration} {y : Except Refused (List Declaration)}
    (hd : ∀ e ∈ Declaration.walkAll [d], P e) (hy : Every P y) :
    Every P (do let more ← y; return d :: more) := by
  cases y with
  | error e => trivial
  | ok more =>
    intro e he
    rw [← List.singleton_append, Declaration.walkAll_append, List.mem_append] at he
    exact he.elim (hd e) (hy e)

theorem classDef {name : String} {location : Location} {x : Except Refused (List Declaration)}
    (hclass : ∀ children, P ⟨.typeScope, name, location, [], children⟩) (hx : Every P x) :
    Every P (do let children ← x; return [⟨.typeScope, name, location, [], children⟩]) := by
  cases x with
  | error e => trivial
  | ok children =>
    intro d hd
    rw [Declaration.walkAll, Declaration.walk, Declaration.walkAll, List.append_nil,
      List.mem_cons] at hd
    rcases hd with rfl | hd
    · exact hclass children
    · exact hx d hd

end Every

/-! ### The file of a declaration -/

theorem file_flush (pending : Option OverloadGroup) (s : Scope) :
    ∀ d ∈ Declaration.walkAll (pending.map (·.declaration s)).toList, d.location.file = s.file := by
  apply Every.of_flat <;> cases pending <;> simp [OverloadGroup.declaration, Scope.locate,
    Location.ofSpan]

theorem file_functionDeclarations (s : Scope) (decorators : List Expr) (head : FunctionHead) :
    ∀ d ∈ Declaration.walkAll (functionDeclarations s decorators head),
      d.location.file = s.file := by
  rw [functionDeclarations]
  split_ifs <;> apply Every.of_flat <;> simp [Scope.locate, Location.ofSpan]

theorem every_file_assignmentDeclarations (s : Scope) (span : Span) (body : Assignment) :
    Every (·.location.file = s.file) (assignmentDeclarations s span body) := by
  rw [assignmentDeclarations]
  cases body.names with
  | error e => trivial
  | ok names =>
    apply Every.of_flat
    · intro d hd
      obtain ⟨name, -, rfl⟩ := List.mem_map.mp hd
      rfl
    · intro d hd
      obtain ⟨name, -, rfl⟩ := List.mem_map.mp hd
      rfl

mutual

/-- **Every declaration of a body is located in the file of the body.** -/
theorem every_file_bodyDeclarations (s : Scope) (pending : Option OverloadGroup) :
    (body : List Stmt) → Every (·.location.file = s.file) (bodyDeclarations s pending body)
  | [] => file_flush pending s
  | stmt :: rest => by
    rw [bodyDeclarations]
    cases overload? stmt with
    | some found =>
      obtain ⟨decorators, head⟩ := found
      dsimp only
      cases pending with
      | none => exact every_file_bodyDeclarations s _ rest
      | some group =>
        dsimp only
        split_ifs
        · exact every_file_bodyDeclarations s _ rest
        · exact Every.cons (file_flush (some group) s) (every_file_bodyDeclarations s _ rest)
    | none =>
      exact Every.append (file_flush pending s) (every_file_statementDeclarations s stmt)
        (every_file_bodyDeclarations s none rest)

theorem every_file_statementDeclarations (s : Scope) :
    (stmt : Stmt) → Every (·.location.file = s.file) (statementDeclarations s stmt)
  | .plain kind _ => by
    rw [statementDeclarations]
    split_ifs
    · exact Every.nil
    · trivial
  | .augmented _ => Every.nil
  | .expression _ first => by
    rw [statementDeclarations]
    split_ifs
    · exact Every.nil
    · trivial
  | .assignment span body => by
    rw [statementDeclarations]
    exact every_file_assignmentDeclarations s span body
  | .typeAlias _ left => by
    rw [statementDeclarations]
    cases left.firstName with
    | none => trivial
    | some name => exact Every.of_flat (by simp) (by simp [Scope.locate, Location.ofSpan])
  | .function decorators head => by
    rw [statementDeclarations]
    exact file_functionDeclarations s decorators head
  | .classDef _ _ name body => by
    rw [statementDeclarations]
    exact Every.classDef (fun _ => rfl) (every_file_bodyDeclarations (s.nested name) none body)
  | .conditional _ branches => by
    rw [statementDeclarations]
    exact every_file_branchDeclarations s branches

theorem every_file_branchDeclarations (s : Scope) :
    (branches : List (List Stmt)) → Every (·.location.file = s.file) (branchDeclarations s branches)
  | [] => Every.nil
  | branch :: rest => by
    rw [branchDeclarations]
    have hnil : ∀ d ∈ Declaration.walkAll [], d.location.file = s.file := Every.nil
    exact Every.append hnil (every_file_bodyDeclarations s none branch)
      (every_file_branchDeclarations s rest)

end

/-! ### Texts -/

theorem parseSource_eq_ok_iff {text file module : String} {tree : DeclarationTree} :
    parseSource text file module = .ok tree ↔
      ∃ stmts, Stub.parse? text = some stmts ∧
        bodyDeclarations ⟨file, module, false⟩ none stmts = .ok tree.nodes ∧
        tree = ⟨file, module, tree.nodes⟩ := by
  rw [parseSource]
  cases Stub.parse? text with
  | none => simp
  | some stmts =>
    simp only [Option.some.injEq, exists_eq_left', declarationsOf]
    cases bodyDeclarations ⟨file, module, false⟩ none stmts with
    | error refused => simp
    | ok nodes =>
      constructor
      · intro h
        obtain rfl := Except.ok.inj h
        exact ⟨rfl, rfl⟩
      · rintro ⟨hnodes, htree⟩
        rw [htree, Except.ok.inj hnodes]

/-- The declarations of a text whose statements are known. -/
theorem bodyDeclarations_of_parseSource {text file module : String} {tree : DeclarationTree}
    {stmts : List Stmt} (hparse : Stub.parse? text = some stmts)
    (h : parseSource text file module = .ok tree) :
    bodyDeclarations ⟨file, module, false⟩ none stmts = .ok tree.nodes ∧
      tree = ⟨file, module, tree.nodes⟩ := by
  obtain ⟨stmts', hparse', hread⟩ := parseSource_eq_ok_iff.mp h
  obtain rfl := Option.some.inj (hparse.symm.trans hparse')
  exact hread

theorem file_parseSource {text file module : String} {tree : DeclarationTree}
    (h : parseSource text file module = .ok tree) : ∀ d ∈ tree.walk, d.location.file = file := by
  obtain ⟨stmts, -, hnodes, -⟩ := parseSource_eq_ok_iff.mp h
  have hevery := every_file_bodyDeclarations ⟨file, module, false⟩ none stmts
  rw [hnodes] at hevery
  exact hevery

/-- **A refusal names the file**, whether the text is outside the grammar or holds what a stub may
not hold. -/
theorem place_parseSource {text file module : String} {e : ParseError}
    (h : parseSource text file module = .error e) : e.place.file = file := by
  rw [parseSource] at h
  cases hparse : Stub.parse? text with
  | none =>
    rw [hparse] at h
    obtain rfl := Except.error.inj h
    rfl
  | some stmts =>
    rw [hparse] at h
    dsimp only [declarationsOf] at h
    cases hbody : bodyDeclarations ⟨file, module, false⟩ none stmts with
    | ok nodes =>
      rw [hbody] at h
      exact absurd h (by simp)
    | error refused =>
      rw [hbody] at h
      obtain rfl := Except.error.inj h
      rfl

/-- **The name of a file is nothing but a place.** -/
theorem parseSource_renamed {text file module : String} {tree : DeclarationTree} (file' : String)
    (h : parseSource text file module = .ok tree) :
    ∃ tree', parseSource text file' module = .ok tree' ∧
      tree'.walk.map Declaration.unplaced = tree.walk.map Declaration.unplaced := by
  obtain ⟨stmts, hparse, hnodes, -⟩ := parseSource_eq_ok_iff.mp h
  have houtline : outline (bodyDeclarations ⟨file', module, false⟩ none stmts) =
      outline (.ok tree.nodes) := by
    rw [← hnodes, outline_bodyDeclarations, outline_bodyDeclarations ⟨file, module, false⟩]
    rfl
  cases hnodes' : bodyDeclarations ⟨file', module, false⟩ none stmts with
  | error refused =>
    rw [hnodes'] at houtline
    exact absurd houtline (by simp [outline])
  | ok nodes =>
    rw [hnodes'] at houtline
    refine ⟨⟨file', module, nodes⟩, parseSource_eq_ok_iff.mpr ⟨stmts, hparse, hnodes', rfl⟩, ?_⟩
    rw [DeclarationTree.walk, DeclarationTree.walk, ← Declaration.walkAll_unplacedAll,
      ← Declaration.walkAll_unplacedAll, Except.ok.inj houtline]

/-! ### Files of a layer -/

theorem loadFile_eq_ok_iff {host : Host} {dir path : Path} {base : Option Path}
    {tree : DeclarationTree} :
    loadFile host dir base path = .ok tree ↔
      ∃ text, host.readText path = .ok text ∧
        parseSource text (shownPath path base) ((moduleName? path dir).getD "") = .ok tree := by
  rw [loadFile, parseFile]
  cases host.readText path with
  | error fault => simp
  | ok text =>
    simp only [Except.ok.injEq, exists_eq_left']
    cases parseSource text (shownPath path base) ((moduleName? path dir).getD "") with
    | error e => simp
    | ok loaded => simp

/-- Declarations are located in their file as it is shown. -/
theorem file_loadFile {host : Host} {dir path : Path} {base : Option Path} {tree : DeclarationTree}
    (h : loadFile host dir base path = .ok tree) :
    ∀ d ∈ tree.walk, d.location.file = shownPath path base := by
  obtain ⟨text, -, hparse⟩ := loadFile_eq_ok_iff.mp h
  exact file_parseSource hparse

/-- Warnings speak of their file as it is shown. -/
theorem place_loadFile {host : Host} {dir path : Path} {base : Option Path} {w : Warning}
    (h : loadFile host dir base path = .error w) : w.place.file = shownPath path base := by
  rw [loadFile, parseFile] at h
  cases hread : host.readText path with
  | error fault =>
    rw [hread] at h
    obtain rfl := Except.error.inj h
    rfl
  | ok text =>
    rw [hread] at h
    dsimp only at h
    cases hparse : parseSource text (shownPath path base) ((moduleName? path dir).getD "") with
    | ok tree =>
      rw [hparse] at h
      exact absurd h (by simp)
    | error e =>
      rw [hparse] at h
      obtain rfl := Except.error.inj h
      exact place_parseSource hparse

/-- The name of a module depends on the way down from its layer only. -/
theorem moduleName?_join (dir dir' : Path) (p : List String) :
    moduleName? (dir.join ⟨.relative, p⟩) dir = moduleName? (dir'.join ⟨.relative, p⟩) dir' := by
  rw [moduleName?, dir.relativeTo?_join, moduleName?, dir'.relativeTo?_join]

/-- **A copy declares the same.** -/
theorem loadFile_copy {host : Host} {dir dir' : Path} {base : Option Path} {p : List String}
    {text : String} {tree : DeclarationTree}
    (hfile : host.readText (dir.join ⟨.relative, p⟩) = .ok text)
    (hcopy : host.readText (dir'.join ⟨.relative, p⟩) = .ok text)
    (h : loadFile host dir base (dir.join ⟨.relative, p⟩) = .ok tree) :
    ∃ tree', loadFile host dir' base (dir'.join ⟨.relative, p⟩) = .ok tree' ∧
      tree'.walk.map Declaration.unplaced = tree.walk.map Declaration.unplaced := by
  obtain ⟨text', hread, hparse⟩ := loadFile_eq_ok_iff.mp h
  rw [hfile] at hread
  obtain rfl := Except.ok.inj hread
  rw [moduleName?_join dir dir' p] at hparse
  obtain ⟨tree', hparse', hwalk⟩ :=
    parseSource_renamed (shownPath (dir'.join ⟨.relative, p⟩) base) hparse
  exact ⟨tree', loadFile_eq_ok_iff.mpr ⟨text, hcopy, hparse'⟩, hwalk⟩

end StubLayers
