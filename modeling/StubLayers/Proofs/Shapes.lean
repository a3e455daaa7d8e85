import StubLayers.Proofs.Statements
import StubLayers.Proofs.Origin

/-!
# The shape of declarations

Declarations are made in several places: for classes, functions, properties, groups of overloads,
assignments and aliases, in modules and classes and in branches of conditionals.  This file says
what all of them have in common.

* `Owner`: a module or a class, and how it names what stands in it.
* `InBody`: a statement stands in a body, whatever branches lie in between.
* `StemsFrom file owner body d`: the declaration is what a statement of the body gives rise to; its
  kind settles its name, its children and what signatures it may have, at every depth.
* `stemsFrom_bodyDeclarations`: all declarations of a body stem from it.
* `DeclarationTree.owned`: all declarations of a file, each with what it stands in; nested ones stem
  from the body of their class.
* `parsed_stemsFrom` says so of whole texts.
-/

namespace StubLayers

/-! ### Owners and bodies -/

/-- What a declaration stands in, by its name. -/
inductive Owner where
  | module (name : String)
  | type (name : String)
deriving DecidableEq

namespace Owner

def name : Owner → String
  | module name => name
  | type name => name

/-- The name of a class of the owner; that of a class in a module without a name stands alone. -/
def className : Owner → String → String
  | module owner, name => if owner = "" then name else owner ++ "." ++ name
  | type owner, name => owner ++ "." ++ name

/-- The name of anything else of the owner. -/
def memberName (owner : Owner) (name : String) : String := owner.name ++ "#" ++ name

end Owner

/-- The statement stands in the body or in a branch of a conditional there. -/
inductive InBody (stmt : Stmt) : List Stmt → Prop
  | here {body : List Stmt} : stmt ∈ body → InBody stmt body
  | branch {body branch : List Stmt} {span : Span} {branches : List (List Stmt)} :
      .conditional span branches ∈ body → branch ∈ branches → InBody stmt branch →
      InBody stmt body

/-- A statement other than a class declares the name. -/
inductive Declares : Stmt → String → Prop
  | function (decorators : List Expr) (head : FunctionHead) :
      Declares (.function decorators head) head.name
  | target {body : Assignment} {name : String} (span place : Span) :
      .leaf .name place name ∈ body.targets → Declares (.assignment span body) name
  | typeAlias {left : Expr} {name : String} (span : Span) :
      left.firstName = some name → Declares (.typeAlias span left) name

/-! ### Shapes -/

namespace Signature

/-- A parameter or the result has a type. -/
def IsAnnotated (s : Signature) : Prop := s.returns.isSome ∨ ∃ p ∈ s.parameters, p.type.isSome

/-- Nothing but the type of a value. -/
def IsValueType (s : Signature) : Prop := s.parameters = [] ∧ s.returns.isSome

end Signature

/-- The declaration is located in `file` and stems from a statement of `body`, whose owner names
it. -/
inductive StemsFrom (file : String) : Owner → List Stmt → Declaration → Prop
  /-- A class has no signatures, and its children stem from its own body. -/
  | type {owner : Owner} {body inner : List Stmt} {decorators : List Expr} {span : Span}
      {name : String} {location : Location} {children : List Declaration} :
      InBody (.classDef decorators span name inner) body → location.file = file →
      (∀ child ∈ children, StemsFrom file (.type (owner.className name)) inner child) →
      StemsFrom file owner body ⟨.typeScope, owner.className name, location, [], children⟩
  | method {owner : Owner} {body : List Stmt} {stmt : Stmt} {name : String} {location : Location}
      {signatures : List Signature} :
      InBody stmt body → Declares stmt name → location.file = file →
      (∀ s ∈ signatures, s.IsAnnotated) →
      StemsFrom file owner body ⟨.method, owner.memberName name, location, signatures, []⟩
  | value {owner : Owner} {body : List Stmt} {stmt : Stmt} {name : String} {location : Location}
      {signatures : List Signature} {kind : DeclarationKind} :
      InBody stmt body → Declares stmt name → kind = .attr ∨ kind = .other →
      location.file = file → signatures.length ≤ 1 → (∀ s ∈ signatures, s.IsValueType) →
      StemsFrom file owner body ⟨kind, owner.memberName name, location, signatures, []⟩

/-! ### Results -/

/-- What the result holds, if it is no refusal, satisfies `P`. -/
def Gives {α : Type} (P : α → Prop) (x : Except Refused α) : Prop := ∀ a, x = .ok a → P a

namespace Gives

variable {α β : Type} {P : α → Prop} {Q : β → Prop}

theorem ok {a : α} (h : P a) : Gives P (.ok a) := by
  intro b hb
  obtain rfl := Except.ok.inj hb
  exact h

theorem error (e : Refused) : Gives P (.error e) := fun _ h => nomatch h

theorem bind {x : Except Refused α} {f : α → Except Refused β} (hx : Gives P x)
    (hf : ∀ a, P a → Gives Q (f a)) : Gives Q (x >>= f) := by
  cases x with
  | error e => exact error e
  | ok a => exact hf a (hx a rfl)

end Gives

/-! ### Signatures -/

theorem FunctionHead.isAnnotated_of_signature? {head : FunctionHead} {hasReceiver : Bool}
    {s : Signature} (h : head.signature? hasReceiver = some s) : s.IsAnnotated := by
  rw [signature?] at h
  generalize (if hasReceiver then dropReceiver (parametersOf head.params)
    else parametersOf head.params) = parameters at h
  split at h
  · exact absurd h (by simp)
  · rename_i hsome
    obtain rfl := Option.some.inj h
    by_contra hnone
    apply hsome
    simpa [Signature.IsAnnotated, not_or] using hnone

theorem isAnnotated_signatures (s : Scope) (decorators : List Expr) (head : FunctionHead) :
    ∀ signature ∈ (s.signature? decorators head).toList, signature.IsAnnotated := by
  intro signature hmem
  exact FunctionHead.isAnnotated_of_signature? (Option.mem_toList.mp hmem)

/-- The types of values make at most one signature. -/
theorem isValueType_signatures (type : Option String) :
    (type.map fun text => (⟨[], some text⟩ : Signature)).toList.length ≤ 1 ∧
      ∀ s ∈ (type.map fun text => (⟨[], some text⟩ : Signature)).toList, s.IsValueType := by
  cases type <;> simp [Signature.IsValueType]

theorem assignmentShape_spec (body : Assignment) :
    ((assignmentShape body).1 = .attr ∨ (assignmentShape body).1 = .other) ∧
      (assignmentShape body).2.length ≤ 1 ∧ ∀ s ∈ (assignmentShape body).2, s.IsValueType := by
  have hwritten := isValueType_signatures (body.type?.map Expr.typeText)
  rw [assignmentShape]
  split
  · exact ⟨Or.inr rfl, by simp, by simp⟩
  · split
    · exact ⟨Or.inr rfl, hwritten⟩
    · exact ⟨Or.inl rfl, hwritten⟩

/-! ### Names of targets -/

/-- The names are those of targets among `es`. -/
def NamesOf (es : List Expr) (names : List String) : Prop :=
  ∀ name ∈ names, ∃ place, .leaf .name place name ∈ es

theorem NamesOf.append {es es' : List Expr} {names names' : List String} (h : NamesOf es names)
    (h' : NamesOf es' names') : NamesOf (es ++ es') (names ++ names') := by
  intro name hname
  rcases List.mem_append.mp hname with hname | hname
  · obtain ⟨place, hplace⟩ := h name hname
    exact ⟨place, List.mem_append_left es' hplace⟩
  · obtain ⟨place, hplace⟩ := h' name hname
    exact ⟨place, List.mem_append_right es hplace⟩

theorem gives_append {es es' : List Expr} {x y : Except Refused (List String)}
    (hx : Gives (NamesOf es) x) (hy : Gives (NamesOf es') y) :
    Gives (NamesOf (es ++ es')) (do let names ← x; let more ← y; return names ++ more) :=
  hx.bind fun _ h => hy.bind fun _ h' => .ok (h.append h')

mutual

theorem gives_targetNames : (e : Expr) → Gives (NamesOf e.targets) (targetNames e)
  | .leaf kind span text => by
    cases kind with
    | name =>
      refine .ok fun name hname => ⟨span, ?_⟩
      rw [List.mem_singleton.mp hname]
      exact List.mem_singleton.mpr rfl
    | _ => exact .error _
  | .literal _ _ _ => .error _
  | .form kind _ children => by
    have hchildren := gives_targetNamesAll children
    cases kind with
    | patternList => exact hchildren
    | tuplePattern => exact hchildren
    | listPattern => exact hchildren
    | _ => exact .error _

theorem gives_targetNamesAll : (es : List Expr) →
    Gives (NamesOf (Expr.targetsAll es)) (targetNamesAll es)
  | [] => .ok fun _ hname => absurd hname List.not_mem_nil
  | e :: rest => by
    have hrest := gives_targetNamesAll rest
    have hboth := gives_append (gives_targetNames e) hrest
    cases e with
    | leaf kind span text =>
      cases kind with
      | mark => exact hrest
      | _ => exact hboth
    | literal span text parts => exact hboth
    | form kind span children => exact hboth

end

theorem Assignment.gives_names (body : Assignment) : Gives (NamesOf body.targets) body.names := by
  induction body with
  | declare left type => exact gives_targetNames left
  | value left type right => exact gives_targetNames left
  | chain left type right ih => exact gives_append (gives_targetNames left) ih

/-! ### Bodies -/

namespace Scope

/-- What the declarations of the scope stand in. -/
def toOwner (s : Scope) : Owner := if s.inClass then .type s.owner else .module s.owner

/-- Only a module may be without a name. -/
def Titled (s : Scope) : Prop := s.inClass = true → s.owner ≠ ""

theorem name_toOwner (s : Scope) : s.toOwner.name = s.owner := by
  rw [toOwner]
  split <;> rfl

theorem memberName_toOwner (s : Scope) (name : String) :
    s.toOwner.memberName name = s.memberName name := by
  rw [Owner.memberName, name_toOwner, memberName]

theorem Titled.className_toOwner {s : Scope} (h : s.Titled) (name : String) :
    s.toOwner.className name = s.className name := by
  rw [toOwner, className]
  by_cases hclass : s.inClass = true
  · rw [if_pos hclass, if_neg (h hclass), Owner.className]
  · rw [if_neg hclass, Owner.className]

theorem className_ne_empty (s : Scope) {name : String} (h : name ≠ "") : s.className name ≠ "" := by
  rw [className]
  split
  · exact h
  · simp [String.append_eq_empty_iff, h]

theorem titled_nested (s : Scope) {name : String} (h : name ≠ "") : (s.nested name).Titled :=
  fun _ => s.className_ne_empty h

end Scope

theorem InBody.tail {stmt first : Stmt} {rest : List Stmt} (h : InBody stmt rest) :
    InBody stmt (first :: rest) := by
  cases h with
  | here h => exact .here (List.mem_cons_of_mem first h)
  | branch hmem hbranch h => exact .branch (List.mem_cons_of_mem first hmem) hbranch h

/-- What stands in a branch of a conditional stands in the body around it. -/
theorem InBody.of_conditional {stmt : Stmt} {span : Span} {branches : List (List Stmt)}
    {body branch : List Stmt} (h : InBody (.conditional span branches) body)
    (hbranch : branch ∈ branches) (hstmt : InBody stmt branch) : InBody stmt body := by
  induction h with
  | here hmem => exact .branch hmem hbranch hstmt
  | branch hmem houter _ ih => exact .branch hmem houter ih

section

variable {all : List Stmt} {s : Scope}

theorem stemsFrom_functionDeclarations {decorators : List Expr} {head : FunctionHead}
    (h : InBody (.function decorators head) all) :
    ∀ d ∈ functionDeclarations s decorators head, StemsFrom s.file s.toOwner all d := by
  have hname := Declares.function decorators head
  rw [functionDeclarations]
  split
  · exact fun _ hd => absurd hd List.not_mem_nil
  · split
    · intro d hd
      obtain ⟨hlength, hvalue⟩ := isValueType_signatures (head.returns.map Expr.typeText)
      rw [List.mem_singleton.mp hd, ← Scope.memberName_toOwner]
      rw [Option.map_map] at hlength hvalue
      exact .value h hname (Or.inl rfl) rfl hlength hvalue
    · intro d hd
      rw [List.mem_singleton.mp hd, ← Scope.memberName_toOwner]
      exact .method h hname rfl (isAnnotated_signatures s decorators head)

theorem stemsFrom_assignmentDeclarations {span : Span} {body : Assignment}
    (h : InBody (.assignment span body) all) :
    Gives (fun ds => ∀ d ∈ ds, StemsFrom s.file s.toOwner all d)
      (assignmentDeclarations s span body) := by
  obtain ⟨hkind, hlength, hvalue⟩ := assignmentShape_spec body
  refine body.gives_names.bind fun names hnames => .ok fun d hd => ?_
  obtain ⟨name, hname, rfl⟩ := List.mem_map.mp hd
  obtain ⟨place, hplace⟩ := hnames name (List.mem_filter.mp hname).1
  rw [← Scope.memberName_toOwner]
  exact .value h (.target span place hplace) hkind rfl hlength hvalue

/-- The group comes from overloads of the body. -/
structure OverloadGroup.ComesFrom (g : OverloadGroup) (all : List Stmt) : Prop where
  declared : ∃ stmt, InBody stmt all ∧ Declares stmt g.name
  annotated : ∀ signature ∈ g.signatures, signature.IsAnnotated

namespace OverloadGroup

theorem comesFrom_start {decorators : List Expr} {head : FunctionHead}
    (h : InBody (.function decorators head) all) : (start s decorators head).ComesFrom all :=
  ⟨⟨_, h, .function decorators head⟩, isAnnotated_signatures s decorators head⟩

theorem ComesFrom.extend {g : OverloadGroup} (hg : g.ComesFrom all) (decorators : List Expr)
    (head : FunctionHead) : (g.extend s decorators head).ComesFrom all :=
  ⟨hg.declared, List.forall_mem_append.mpr
    ⟨hg.annotated, isAnnotated_signatures s decorators head⟩⟩

theorem ComesFrom.stemsFrom {g : OverloadGroup} (hg : g.ComesFrom all) :
    StemsFrom s.file s.toOwner all (g.declaration s) := by
  obtain ⟨stmt, hstmt, hname⟩ := hg.declared
  rw [declaration, ← Scope.memberName_toOwner]
  exact .method hstmt hname rfl hg.annotated

/-- What a pending group gives when it is closed. -/
theorem stemsFrom_flush {pending : Option OverloadGroup} (h : ∀ g ∈ pending, g.ComesFrom all) :
    ∀ d ∈ (pending.map (·.declaration s)).toList, StemsFrom s.file s.toOwner all d := by
  intro d hd
  obtain ⟨g, hg, rfl⟩ := Option.map_eq_some_iff.mp (Option.mem_toList.mp hd)
  exact (h g hg).stemsFrom

end OverloadGroup

end

theorem function_of_overload? {stmt : Stmt} {decorators : List Expr} {head : FunctionHead}
    (h : overload? stmt = some (decorators, head)) : stmt = .function decorators head := by
  cases stmt with
  | function decorators' head' =>
    rw [overload?] at h
    split at h
    · cases h
      rfl
    · exact absurd h (by simp)
  | _ => exact absurd h (by simp [overload?])

mutual

/-- **All declarations of a body stem from it.**  `all` is the whole body of the owner, of which
`body` may be what is left or the rest of a branch. -/
theorem stemsFrom_bodyDeclarations {all : List Stmt} (s : Scope) (hs : s.Titled)
    (pending : Option OverloadGroup) (hpending : ∀ g ∈ pending, g.ComesFrom all) :
    (body : List Stmt) → (∀ stmt ∈ visited body, stmt.HasTitle) →
      (∀ stmt, InBody stmt body → InBody stmt all) →
      Gives (fun ds => ∀ d ∈ ds, StemsFrom s.file s.toOwner all d)
        (bodyDeclarations s pending body)
  | [], _, _ => .ok (OverloadGroup.stemsFrom_flush hpending)
  | stmt :: rest, htitles, hin => by
    rw [visited, List.forall_mem_cons, List.forall_mem_append] at htitles
    have hrest := fun inner h => hin inner (InBody.tail h)
    have hstmt := hin stmt (.here List.mem_cons_self)
    rw [bodyDeclarations]
    cases hfound : overload? stmt with
    | some found =>
      obtain ⟨decorators, head⟩ := found
      rw [function_of_overload? hfound] at hstmt
      have hstart : ∀ g ∈ some (OverloadGroup.start s decorators head), g.ComesFrom all := by
        rintro g ⟨rfl⟩
        exact OverloadGroup.comesFrom_start hstmt
      have hstarted := stemsFrom_bodyDeclarations s hs _ hstart rest htitles.2.2 hrest
      dsimp only
      cases pending with
      | none => exact hstarted
      | some group =>
        have hgroup := hpending group rfl
        dsimp only
        split
        · refine stemsFrom_bodyDeclarations s hs _ ?_ rest htitles.2.2 hrest
          rintro g ⟨rfl⟩
          exact hgroup.extend decorators head
        · exact hstarted.bind fun more hmore =>
            .ok (List.forall_mem_cons.mpr ⟨hgroup.stemsFrom, hmore⟩)
    | none =>
      dsimp only
      have hhere := stemsFrom_statementDeclarations s hs stmt ⟨htitles.1, htitles.2.1⟩ hstmt
      have hmore := stemsFrom_bodyDeclarations s hs none (fun _ hg => nomatch hg) rest
        htitles.2.2 hrest
      refine hhere.bind fun here hhere => hmore.bind fun more hmore => .ok ?_
      rw [List.forall_mem_append, List.forall_mem_append]
      exact ⟨⟨OverloadGroup.stemsFrom_flush hpending, hhere⟩, hmore⟩

theorem stemsFrom_statementDeclarations {all : List Stmt} (s : Scope) (hs : s.Titled) :
    (stmt : Stmt) → (stmt.HasTitle ∧ ∀ inner ∈ visitedIn stmt, inner.HasTitle) →
      InBody stmt all →
      Gives (fun ds => ∀ d ∈ ds, StemsFrom s.file s.toOwner all d) (statementDeclarations s stmt)
  | .plain kind _, _, _ => by
    rw [statementDeclarations]
    split
    · exact .ok fun _ hd => absurd hd List.not_mem_nil
    · exact .error _
  | .augmented _, _, _ => .ok fun _ hd => absurd hd List.not_mem_nil
  | .expression _ first, _, _ => by
    rw [statementDeclarations]
    split
    · exact .ok fun _ hd => absurd hd List.not_mem_nil
    · exact .error _
  | .assignment span body, _, h => by
    rw [statementDeclarations]
    exact stemsFrom_assignmentDeclarations h
  | .typeAlias span left, _, h => by
    rw [statementDeclarations]
    cases hname : left.firstName with
    | none => exact .error _
    | some name =>
      refine .ok fun d hd => ?_
      rw [List.mem_singleton.mp hd, ← Scope.memberName_toOwner]
      exact .value h (.typeAlias span hname) (Or.inr rfl) rfl (by simp) (by simp)
  | .function decorators head, _, h => by
    rw [statementDeclarations]
    exact .ok (stemsFrom_functionDeclarations h)
  | .classDef decorators span name body, ⟨hname, hinside⟩, h => by
    rw [statementDeclarations]
    have hbody := stemsFrom_bodyDeclarations (s.nested name) (s.titled_nested hname) none
      (fun _ hg => nomatch hg) body hinside (fun _ h => h)
    refine hbody.bind fun children hchildren => .ok fun d hd => ?_
    rw [List.mem_singleton.mp hd, ← hs.className_toOwner]
    refine .type h rfl ?_
    rw [hs.className_toOwner]
    exact hchildren
  | .conditional span branches, ⟨_, hinside⟩, h => by
    rw [statementDeclarations]
    exact stemsFrom_branchDeclarations s hs branches hinside fun branch hbranch stmt hstmt =>
      h.of_conditional hbranch hstmt

theorem stemsFrom_branchDeclarations {all : List Stmt} (s : Scope) (hs : s.Titled) :
    (branches : List (List Stmt)) → (∀ stmt ∈ visitedBranches branches, stmt.HasTitle) →
      (∀ branch ∈ branches, ∀ stmt, InBody stmt branch → InBody stmt all) →
      Gives (fun ds => ∀ d ∈ ds, StemsFrom s.file s.toOwner all d) (branchDeclarations s branches)
  | [], _, _ => .ok fun _ hd => absurd hd List.not_mem_nil
  | branch :: rest, htitles, hin => by
    rw [visitedBranches, List.forall_mem_append] at htitles
    rw [List.forall_mem_cons] at hin
    rw [branchDeclarations]
    have hhere := stemsFrom_bodyDeclarations s hs none (fun _ hg => nomatch hg) branch htitles.1
      hin.1
    have hmore := stemsFrom_branchDeclarations s hs rest htitles.2 hin.2
    exact hhere.bind fun here hhere => hmore.bind fun more hmore =>
      .ok (List.forall_mem_append.mpr ⟨hhere, hmore⟩)

end

/-! ### Nested declarations -/

/-- `inner` is the body of `owner'`, which is `owner` itself or a class at some depth in its body. -/
inductive BodyIn (owner : Owner) (body : List Stmt) : Owner → List Stmt → Prop
  | self : BodyIn owner body owner body
  | nested {owner' : Owner} {outer inner : List Stmt} {decorators : List Expr} {span : Span}
      {name : String} : BodyIn owner body owner' outer →
      InBody (.classDef decorators span name inner) outer →
      BodyIn owner body (.type (owner'.className name)) inner

namespace Declaration

mutual

/-- A declaration and all that is nested in it, each with what it stands in. -/
def owned (owner : Owner) : Declaration → List (Owner × Declaration)
  | ⟨kind, name, location, signatures, children⟩ =>
    (owner, ⟨kind, name, location, signatures, children⟩) :: ownedAll (.type name) children

def ownedAll (owner : Owner) : List Declaration → List (Owner × Declaration)
  | [] => []
  | d :: rest => owned owner d ++ ownedAll owner rest

end

mutual

theorem map_snd_owned (owner : Owner) : (d : Declaration) → (d.owned owner).map Prod.snd = d.walk
  | ⟨kind, name, location, signatures, children⟩ => by
    rw [owned, walk, List.map_cons, map_snd_ownedAll]

theorem map_snd_ownedAll (owner : Owner) : (ds : List Declaration) →
    (ownedAll owner ds).map Prod.snd = walkAll ds
  | [] => rfl
  | d :: rest => by
    rw [ownedAll, walkAll, List.map_append, map_snd_owned, map_snd_ownedAll]

end

theorem mem_ownedAll {owner : Owner} {ds : List Declaration} {p : Owner × Declaration} :
    p ∈ ownedAll owner ds ↔ ∃ d ∈ ds, p ∈ d.owned owner := by
  induction ds with
  | nil => simp [ownedAll]
  | cons d rest ih => rw [ownedAll, List.mem_append, ih, List.exists_mem_cons_iff]

end Declaration

/-- All declarations of a file, each with what it stands in. -/
def DeclarationTree.owned (t : DeclarationTree) : List (Owner × Declaration) :=
  Declaration.ownedAll (.module t.module) t.nodes

theorem DeclarationTree.map_snd_owned (t : DeclarationTree) : t.owned.map Prod.snd = t.walk :=
  Declaration.map_snd_ownedAll (.module t.module) t.nodes

/-- What is nested in a declaration stems from the body of the class that it stands in. -/
theorem StemsFrom.of_mem_owned {file : String} {root owner : Owner} {whole body : List Stmt}
    {d : Declaration} (h : StemsFrom file owner body d) (hbody : BodyIn root whole owner body) :
    ∀ p ∈ d.owned owner, ∃ inner, BodyIn root whole p.1 inner ∧ StemsFrom file p.1 inner p.2 := by
  induction h with
  | @type owner body inner decorators span name location children hstmt hfile hchildren ih =>
    intro p hp
    rw [Declaration.owned, List.mem_cons, Declaration.mem_ownedAll] at hp
    rcases hp with rfl | ⟨child, hchild, hp⟩
    · exact ⟨body, hbody, .type hstmt hfile hchildren⟩
    · exact ih child hchild (hbody.nested hstmt) p hp
  | @method owner body stmt name location signatures hstmt hname hfile hannotated =>
    intro p hp
    rw [Declaration.owned, Declaration.ownedAll, List.mem_singleton] at hp
    rw [hp]
    exact ⟨body, hbody, .method hstmt hname hfile hannotated⟩
  | @value owner body stmt name location signatures kind hstmt hname hkind hfile hlength hvalue =>
    intro p hp
    rw [Declaration.owned, Declaration.ownedAll, List.mem_singleton] at hp
    rw [hp]
    exact ⟨body, hbody, .value hstmt hname hkind hfile hlength hvalue⟩

/-- Every declaration of a text, nested ones included, stems from the body of what it stands in. -/
theorem stemsFrom_of_mem_owned {text file module : String} {tree : DeclarationTree}
    {stmts : List Stmt} (hparse : Stub.parse? text = some stmts)
    (h : parseSource text file module = .ok tree) :
    ∀ p ∈ tree.owned, ∃ body, BodyIn (.module module) stmts p.1 body ∧
      StemsFrom file p.1 body p.2 := by
  obtain ⟨hnodes, htree⟩ := bodyDeclarations_of_parseSource hparse h
  have hmodule : tree.module = module := by rw [htree]
  have hall := stemsFrom_bodyDeclarations ⟨file, module, false⟩ (fun h => nomatch h) none
    (fun _ hg => nomatch hg) stmts (Stub.titled_of_parse? hparse) (fun _ h => h) _ hnodes
  intro p hp
  rw [DeclarationTree.owned, hmodule, Declaration.mem_ownedAll] at hp
  obtain ⟨d, hd, hp⟩ := hp
  exact (hall d hd).of_mem_owned .self p hp

/-- **The shape of all that a text declares.**  Every declaration stems from a statement of the text:
it is located in the given file; only a class has children, and it has no signatures; a class is
named after its owner and itself with a point between them, anything else with a sharp; the
signatures of a method annotate something, and an attribute or alias has at most one, with the type
of a value. -/
theorem parsed_stemsFrom (text file module : String) (tree : DeclarationTree)
    (parses : parseSource text file module = .ok tree) :
    ∃ stmts, Stub.parse? text = some stmts ∧
      ∀ d ∈ tree.nodes, StemsFrom file (.module module) stmts d := by
  obtain ⟨stmts, hparse, hnodes, -⟩ := parseSource_eq_ok_iff.mp parses
  refine ⟨stmts, hparse, ?_⟩
  exact stemsFrom_bodyDeclarations ⟨file, module, false⟩ (fun h => nomatch h) none
    (fun _ hg => nomatch hg) stmts (Stub.titled_of_parse? hparse) (fun _ h => h) _ hnodes

/-- Classes in branches, in a module without a name. -/
def nestedText : String :=
  "if v:\n class A:\n  if w: pass\n  else:\n   class B:\n    x, y = 1\n" ++
    "   @property\n   def p(self) -> int: ...\n"

theorem parsed_stemsFrom_nested :
    ∃ tree, parseSource nestedText "m.pyi" "" = .ok tree ∧
      tree.walk.map (·.name) = ["A", "A.B", "A.B#x", "A.B#y", "A#p"] ∧
      ∃ stmts, Stub.parse? nestedText = some stmts ∧
        ∀ d ∈ tree.nodes, StemsFrom "m.pyi" (.module "") stmts d := by
  have hnames : (parseSource nestedText "m.pyi" "").toOption.map (fun tree =>
      tree.walk.map (·.name)) = some ["A", "A.B", "A.B#x", "A.B#y", "A#p"] := by decide +kernel
  cases parses : parseSource nestedText "m.pyi" "" with
  | error e =>
    rw [parses] at hnames
    exact absurd hnames (by simp [Except.toOption])
  | ok tree =>
    rw [parses] at hnames
    exact ⟨tree, rfl, Option.some.inj hnames, parsed_stemsFrom nestedText "m.pyi" "" tree parses⟩

end StubLayers
