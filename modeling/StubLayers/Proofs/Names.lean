import StubLayers.Proofs.Identifiers
import StubLayers.Proofs.Shapes

/-!
# Names do not collide

The name of a class is its own behind that of its owner and a point, the name of anything else
behind a sharp.  Nothing is escaped, and the name of a module may hold either sign.  But what
follows the last of them is a word, and a word holds neither.

* `Stmt.WellNamed`: the names that a statement declares are words; `wellNamed_of_parse?` says so of
  all statements of a text.
* `append_cons_inj`: what stands in front of the last sign and behind it can be told apart.
* `Owner.memberName_inj`, `Owner.className_ne_memberName`: so can owner and name.
* `ParsedStub`: a text with its statements and declarations.
* `names_told_apart` is about all declarations of any two of them.
-/

namespace StubLayers

open Text

/-! ### Names that statements declare -/

namespace Expr

mutual

/-- What a target is made of has no names but its own. -/
theorem allWords_of_mem_targets {e t : Expr} (h : AllWords e.names) (ht : t ∈ e.targets) :
    AllWords t.names := by
  rw [targets.eq_def] at ht
  split at ht
  · exact allWords_of_mem_targetsAll (by simpa using h) ht
  · exact allWords_of_mem_targetsAll (by simpa using h) ht
  · exact allWords_of_mem_targetsAll (by simpa using h) ht
  · rwa [List.mem_singleton.mp ht]

theorem allWords_of_mem_targetsAll {es : List Expr} {t : Expr} (h : AllWords (namesAll es))
    (ht : t ∈ targetsAll es) : AllWords t.names := by
  rw [targetsAll.eq_def] at ht
  split at ht
  · exact absurd ht List.not_mem_nil
  · rw [namesAll_cons, allWords_append] at h
    exact allWords_of_mem_targetsAll h.2 ht
  · rw [namesAll_cons, allWords_append] at h
    rcases List.mem_append.mp ht with ht | ht
    · exact allWords_of_mem_targets h.1 ht
    · exact allWords_of_mem_targetsAll h.2 ht

end

end Expr

/-- The names in the targets are words. -/
def Assignment.WellNamed (body : Assignment) : Prop := ∀ t ∈ body.targets, AllWords t.names

/-- The names in the targets of an assignment are words. -/
def Assigned.WellNamed : Assigned → Prop
  | assignment body => body.WellNamed
  | _ => True

/-- The name of a class or function is a word, and so are those in targets and aliases. -/
def Stmt.WellNamed : Stmt → Prop
  | function _ head => IsWord head.name
  | classDef _ _ name _ => IsWord name
  | assignment _ body => body.WellNamed
  | typeAlias _ left => AllWords left.names
  | _ => True

theorem Stmt.WellNamed.isWord {stmt : Stmt} {name : String} (h : stmt.WellNamed)
    (hname : Declares stmt name) : IsWord name := by
  cases hname with
  | function => exact h
  | target span place hmem => exact h _ hmem name (List.mem_singleton_self name)
  | typeAlias span hfirst =>
    rw [Expr.firstName_eq_head?_names] at hfirst
    exact h name (List.mem_of_mem_head? hfirst)

namespace Stub

open Rule

theorem wellNamed_assign {left : Expr} (hleft : AllWords left.names) (type : Option Expr)
    {right : Assigned} (hright : right.WellNamed) :
    (Assigned.assign left type right).WellNamed := by
  have htargets : ∀ t ∈ left.targets, AllWords t.names :=
    fun t ht => Expr.allWords_of_mem_targets hleft ht
  cases right with
  | expression first whole => exact htargets
  | assignment body => exact List.forall_mem_append.mpr ⟨htargets, hright⟩
  | augmented => exact htargets

theorem worded_target? {whole : Expr} (h : AllWords whole.names) :
    Worded (liftM (target? whole)) := by
  intro r left s hr
  obtain ⟨target, htarget, hread⟩ := Option.bind_eq_some_iff.mp hr
  obtain ⟨rfl, -⟩ := Prod.mk.inj (Option.some.inj hread)
  rwa [names_of_target? htarget]

theorem yields_wellNamed {g : Grammar} (hg : ReadsWords g)
    (hassigned : ∀ e, Yields Assigned.WellNamed (g.assigned e)) (start : Expect) :
    Yields Assigned.WellNamed (assignedRule g start) := by
  have hright : Yields Assigned.WellNamed (rightSide g) := .bind_any fun _ => hassigned _
  refine .bind_any fun p => ?_
  split
  · exact .bind_any fun _ => .pure trivial
  · refine (worded_expressions hg start .line).bind fun found hfound => .bind_any fun q => ?_
    have htarget := worded_target? hfound
    split
    · refine .bind_any fun _ => htarget.bind fun left hleft => hright.bind fun right hright => ?_
      exact .pure (wellNamed_assign hleft none hright)
    · refine .bind_any fun _ => htarget.bind fun left hleft => .bind_any fun _ =>
        .bind_any fun type => .bind_any fun q => ?_
      split
      · refine .bind_any fun _ => hright.bind fun right hright => ?_
        exact .pure (wellNamed_assign hleft (some type) hright)
      · exact .pure fun t ht => Expr.allWords_of_mem_targets hleft ht
    · split
      · exact .bind_any fun _ => .bind_any fun _ => .bind_any fun _ => .pure trivial
      · exact .pure trivial
    · exact .pure trivial

theorem yields_wellNamed_grammar (depth : Nat) (start : Expect) :
    Yields Assigned.WellNamed ((grammar depth).assigned start) := by
  induction depth generalizing start with
  | zero => exact .failure
  | succ depth ih => exact yields_wellNamed (readsWords_grammar depth) ih start

theorem readsSo_wellNamed (depth : Nat) : ReadsSo Stmt.WellNamed (grammar depth) where
  plain stmt h := by
    cases stmt with
    | assignment => exact absurd h id
    | typeAlias => exact absurd h id
    | function => exact absurd h id
    | classDef => exact absurd h id
    | _ => trivial
  assignment start span r found s hfound body hbody := by
    have h := yields_wellNamed (readsWords_grammar depth) (yields_wellNamed_grammar depth) start
      r found s hfound
    rwa [hbody] at h
  typeAlias r left s hleft span :=
    (readsWords_grammar depth).type true .operand .inner r left s hleft
  function _ p := yields_functionStatement_of_isWord (fun _ hname => hname) p
  classDef _ _ _ _ hname := hname

/-- **The names of a text are words**: those of its classes and those that its statements
declare. -/
theorem wellNamed_of_parse? {text : String} {stmts : List Stmt} (h : parse? text = some stmts) :
    ∀ stmt ∈ visited stmts, stmt.WellNamed :=
  forall_visited_of_parse? readsSo_wellNamed h

end Stub

/-! ### The last sign -/

theorem cons_eq_append_cons {c d : Char} {back more back' : List Char} (hd : d ∉ back)
    (h : c :: back = more ++ d :: back') : more = [] ∧ c = d ∧ back = back' := by
  cases more with
  | nil =>
    obtain ⟨rfl, rfl⟩ := List.cons.inj h
    exact ⟨rfl, rfl, rfl⟩
  | cons e more =>
    obtain ⟨-, rfl⟩ := List.cons.inj h
    exact absurd (List.mem_append_right more List.mem_cons_self) hd

/-- Of two ways to split a text at a sign, neither of which has the sign of the other one behind it,
both are the same. -/
theorem append_cons_inj {c d : Char} {front front' back back' : List Char} (hd : d ∉ back)
    (hc : c ∉ back') (h : front ++ c :: back = front' ++ d :: back') :
    front = front' ∧ c = d ∧ back = back' := by
  -- one front is a beginning of the other, and what is left of that one is nothing
  rcases List.append_eq_append_iff.mp h with ⟨more, rfl, hback⟩ | ⟨more, rfl, hback⟩
  · obtain ⟨rfl, hsign, hsame⟩ := cons_eq_append_cons hd hback
    exact ⟨(List.append_nil front).symm, hsign, hsame⟩
  · obtain ⟨rfl, hsign, hsame⟩ := cons_eq_append_cons hc hback
    exact ⟨List.append_nil front', hsign.symm, hsame.symm⟩

theorem IsWord.not_mem {text : String} (h : IsWord text) {c : Char}
    (hc : isNameContinue c = false) : c ∉ text.toList := by
  obtain ⟨d, ds, htext, hd, hds⟩ := h
  have hcontinue : ∀ d ∈ text.toList, isNameContinue d = true := by
    rw [htext, List.forall_mem_cons]
    exact ⟨by simp [isNameContinue, hd], hds⟩
  intro hmem
  exact absurd (hcontinue c hmem) (by simp [hc])

theorem isNameContinue_point : isNameContinue '.' = false := by decide

theorem isNameContinue_sharp : isNameContinue '#' = false := by decide

namespace Owner

variable {owner owner' : Owner} {name name' : String}

theorem toList_memberName (owner : Owner) (name : String) :
    (owner.memberName name).toList = owner.name.toList ++ '#' :: name.toList := by
  simp [memberName]

/-- **A name that is not that of a class** tells its owner and what is declared there. -/
theorem memberName_inj (hname : IsWord name) (hname' : IsWord name') :
    owner.memberName name = owner'.memberName name' ↔ owner.name = owner'.name ∧ name = name' := by
  constructor
  · intro h
    have hlist := congrArg String.toList h
    rw [toList_memberName, toList_memberName] at hlist
    obtain ⟨hfront, -, hback⟩ := append_cons_inj (hname.not_mem isNameContinue_sharp)
      (hname'.not_mem isNameContinue_sharp) hlist
    exact ⟨String.toList_inj.mp hfront, String.toList_inj.mp hback⟩
  · rintro ⟨howner, rfl⟩
    rw [memberName, memberName, howner]

/-- The name of a class is a word, or one behind a point. -/
theorem toList_className (owner : Owner) (name : String) :
    (owner.className name).toList = name.toList ∨
      (owner.className name).toList = owner.name.toList ++ '.' :: name.toList := by
  cases owner with
  | module owner =>
    by_cases hempty : owner = ""
    · exact .inl (by simp [className, hempty])
    · exact .inr (by simp [className, Owner.name, hempty])
  | type owner => exact .inr (by simp [className, Owner.name])

/-- **The name of a class is that of nothing else.** -/
theorem className_ne_memberName (hname : IsWord name) (hname' : IsWord name') :
    owner.className name ≠ owner'.memberName name' := by
  intro h
  have hlist := congrArg String.toList h
  rw [toList_memberName] at hlist
  rcases owner.toList_className name with hclass | hclass
  · rw [hclass] at hlist
    refine hname.not_mem isNameContinue_sharp ?_
    rw [hlist]
    exact List.mem_append_right _ List.mem_cons_self
  · rw [hclass] at hlist
    obtain ⟨-, hsign, -⟩ := append_cons_inj (hname.not_mem isNameContinue_sharp)
      (hname'.not_mem isNameContinue_point) hlist
    exact absurd hsign (by decide)

end Owner

/-! ### Statements in bodies -/

/-- What holds of all statements in a body holds of one that stands there and of all in it. -/
theorem InBody.forall_visited {P : Stmt → Prop} {stmt : Stmt} {body : List Stmt}
    (h : InBody stmt body) (hP : ∀ inner ∈ visited body, P inner) :
    ∀ inner ∈ stmt :: visitedIn stmt, P inner := by
  induction h with
  | here hmem => exact forall_visited_iff.mp hP stmt hmem
  | branch hconditional hbranch _ ih =>
    have hall := forall_visited_iff.mp hP _ hconditional
    rw [List.forall_mem_cons, visitedIn, forall_visitedBranches_iff] at hall
    exact ih (hall.2 _ hbranch)

theorem BodyIn.forall_visited {P : Stmt → Prop} {owner owner' : Owner} {body inner : List Stmt}
    (h : BodyIn owner body owner' inner) (hP : ∀ stmt ∈ visited body, P stmt) :
    ∀ stmt ∈ visited inner, P stmt := by
  induction h with
  | self => exact hP
  | nested _ hstmt ih =>
    have hall := hstmt.forall_visited ih
    rw [List.forall_mem_cons, visitedIn] at hall
    exact hall.2

/-! ### Declarations -/

/-- A text in the grammar with its statements and what it declares in the given file and module. -/
structure ParsedStub where
  text : String
  file : String
  module : String
  stmts : List Stmt
  tree : DeclarationTree
  read : Stub.parse? text = some stmts
  parsed : parseSource text file module = .ok tree

namespace ParsedStub

variable (s : ParsedStub)

/-- The declaration is that of `name`: a statement in the body of its owner declares the name, and
it is called so there. -/
def DeclaredAs (p : Owner × Declaration) (name : String) : Prop :=
  p.2.name = p.1.memberName name ∧ ∃ body stmt,
    BodyIn (.module s.module) s.stmts p.1 body ∧ InBody stmt body ∧ Declares stmt name

/-- Statements in the bodies of a text have words for names. -/
theorem wellNamed {owner : Owner} {body : List Stmt} {stmt : Stmt}
    (hbody : BodyIn (.module s.module) s.stmts owner body) (hstmt : InBody stmt body) :
    stmt.WellNamed :=
  hstmt.forall_visited (hbody.forall_visited (Stub.wellNamed_of_parse? s.read)) stmt
    List.mem_cons_self

variable {s}

theorem DeclaredAs.isWord {p : Owner × Declaration} {name : String} (h : s.DeclaredAs p name) :
    IsWord name := by
  obtain ⟨-, body, stmt, hbody, hstmt, hname⟩ := h
  exact (s.wellNamed hbody hstmt).isWord hname

theorem DeclaredAs.unique {p : Owner × Declaration} {name name' : String}
    (h : s.DeclaredAs p name) (h' : s.DeclaredAs p name') : name' = name :=
  ((Owner.memberName_inj h'.isWord h.isWord).mp (h'.1.symm.trans h.1)).2

/-- Every declaration is a class, with a word behind the name of its owner, or is that of a name. -/
theorem className_or_declaredAs {p : Owner × Declaration} (hp : p ∈ s.tree.owned) :
    (p.2.kind = .typeScope ∧ ∃ name, IsWord name ∧ p.2.name = p.1.className name) ∨
      (p.2.kind ≠ .typeScope ∧ ∃ name, s.DeclaredAs p name) := by
  obtain ⟨body, hbody, hstems⟩ := stemsFrom_of_mem_owned s.read s.parsed p hp
  obtain ⟨owner, d⟩ := p
  dsimp only at hstems
  cases hstems with
  | type hstmt hfile hchildren => exact .inl ⟨rfl, _, s.wellNamed hbody hstmt, rfl⟩
  | method hstmt hname hfile hannotated =>
    exact .inr ⟨nofun, _, rfl, body, _, hbody, hstmt, hname⟩
  | value hstmt hname hkind hfile hlength hvalue =>
    refine .inr ⟨?_, _, rfl, body, _, hbody, hstmt, hname⟩
    rcases hkind with rfl | rfl <;> nofun

end ParsedStub

/-- **Names tell declarations apart.**  Whatever the modules of two stubs are called, a class of one
and a declaration of the other one that is no class have different names.  Every declaration that is
no class is that of one name, and two of them have the same name if and only if they stand in owners
of the same name and are declared by the same name. -/
theorem names_told_apart (s s' : ParsedStub) :
    (∀ p ∈ s.tree.owned, ∀ p' ∈ s'.tree.owned, p.2.kind = .typeScope → p'.2.kind ≠ .typeScope →
      p.2.name ≠ p'.2.name) ∧
    (∀ p ∈ s.tree.owned, p.2.kind ≠ .typeScope → ∃! name, s.DeclaredAs p name) ∧
    (∀ p ∈ s.tree.owned, ∀ p' ∈ s'.tree.owned, p.2.kind ≠ .typeScope → p'.2.kind ≠ .typeScope →
      ∀ name name', s.DeclaredAs p name → s'.DeclaredAs p' name' →
        (p.2.name = p'.2.name ↔ p.1.name = p'.1.name ∧ name = name')) := by
  refine ⟨fun p hp p' hp' hkind hkind' => ?_, fun p hp hkind => ?_, ?_⟩
  · rcases ParsedStub.className_or_declaredAs hp with ⟨-, name, hword, hname⟩ | ⟨hother, -⟩
    · rcases ParsedStub.className_or_declaredAs hp' with ⟨hclass, -⟩ | ⟨-, name', hname'⟩
      · exact absurd hclass hkind'
      · rw [hname, hname'.1]
        exact Owner.className_ne_memberName hword hname'.isWord
    · exact absurd hkind hother
  · rcases ParsedStub.className_or_declaredAs hp with ⟨hclass, -⟩ | ⟨-, name, hname⟩
    · exact absurd hclass hkind
    · exact ⟨name, hname, fun _ h => hname.unique h⟩
  · intro p _ p' _ _ _ name name' hname hname'
    rw [hname.1, hname'.1]
    exact Owner.memberName_inj hname.isWord hname'.isWord

namespace ParsedStub

/-- Owners, kinds and names of all that a stub declares. -/
def named (tree : DeclarationTree) : List (String × DeclarationKind × String) :=
  tree.owned.map fun p => (p.1.name, p.2.kind, p.2.name)

theorem exists_of_named {text file module : String}
    {names : List (String × DeclarationKind × String)}
    (h : (parseSource text file module).toOption.map named = some names) :
    ∃ s : ParsedStub, s.module = module ∧ named s.tree = names := by
  cases parses : parseSource text file module with
  | error e => exact absurd h (by simp [parses, Except.toOption])
  | ok tree =>
    obtain ⟨stmts, hread, -⟩ := parseSource_eq_ok_iff.mp parses
    rw [parses] at h
    exact ⟨⟨text, file, module, stmts, tree, hread, parses⟩, rfl, Option.some.inj h⟩

end ParsedStub

/-- A module may be called like a class in another one.  What stands in both of them by the same
name has the same name, but the class has one of its own. -/
theorem names_told_apart_modules : ∃ s s' : ParsedStub, s.module = "a#b" ∧ s'.module = "a#b.c" ∧
    ∃ p ∈ s.tree.owned, ∃ p' ∈ s'.tree.owned, ∃ q ∈ s.tree.owned,
      p.2.name = "a#b.c#d" ∧ p'.2.name = "a#b.c#d" ∧ q.2.name ≠ p'.2.name ∧
      ∃ name, s.DeclaredAs p name ∧ s'.DeclaredAs p' name := by
  obtain ⟨s, hmodule, hnamed⟩ := ParsedStub.exists_of_named (show
    (parseSource "class c:\n    d: int\n" "f.pyi" "a#b").toOption.map ParsedStub.named =
      some [("a#b", .typeScope, "a#b.c"), ("a#b.c", .attr, "a#b.c#d")] by decide +kernel)
  obtain ⟨s', hmodule', hnamed'⟩ := ParsedStub.exists_of_named (show
    (parseSource "d: int\n" "g.pyi" "a#b.c").toOption.map ParsedStub.named =
      some [("a#b.c", .attr, "a#b.c#d")] by decide +kernel)
  have hq : ("a#b", DeclarationKind.typeScope, "a#b.c") ∈ ParsedStub.named s.tree := by
    simp [hnamed]
  have hp : ("a#b.c", DeclarationKind.attr, "a#b.c#d") ∈ ParsedStub.named s.tree := by
    simp [hnamed]
  have hp' : ("a#b.c", DeclarationKind.attr, "a#b.c#d") ∈ ParsedStub.named s'.tree := by
    simp [hnamed']
  obtain ⟨q, hq, hqnamed⟩ := List.mem_map.mp hq
  obtain ⟨p, hp, hpnamed⟩ := List.mem_map.mp hp
  obtain ⟨p', hp', hpnamed'⟩ := List.mem_map.mp hp'
  simp only [Prod.mk.injEq] at hqnamed hpnamed hpnamed'
  have hkind : p.2.kind ≠ .typeScope := by simp [hpnamed.2.1]
  have hkind' : p'.2.kind ≠ .typeScope := by simp [hpnamed'.2.1]
  obtain ⟨hclass, hdeclared, hsame⟩ := names_told_apart s s'
  obtain ⟨name, hname, -⟩ := hdeclared p hp hkind
  obtain ⟨name', hname', -⟩ := (names_told_apart s' s).2.1 p' hp' hkind'
  have hnames := hsame p hp p' hp' hkind hkind' name name' hname hname'
  obtain ⟨-, rfl⟩ := hnames.mp (hpnamed.2.2.trans hpnamed'.2.2.symm)
  exact ⟨s, s', hmodule, hmodule', p, hp, p', hp', q, hq, hpnamed.2.2, hpnamed'.2.2,
    hclass q hq p' hp' hqnamed.2.1 hkind', name, hname, hname'⟩

end StubLayers
