import StubLayers.Proofs.Copies
import StubLayers.Proofs.Provenance
import StubLayers.Proofs.Shapes
import StubLayers.Proofs.Verdict

/-!
# Shims repeated by another kind of declaration

The verdict on a shim compares signatures and never kinds, and the type of a value is kept as a
signature without parameters.  A method that takes nothing and a value of the type that it gives are
therefore taken for the same thing; this file says that nothing else is.

* `Signature.ofType`: what the two have in common.
* `Declaration.Repeats`: the ways in which a declaration can repeat a shim, by kinds.
* `repeats_iff`: for what stems from a text, they are all the ways to have its signatures.
* `reported_iff_repeats` is the result on an index of parsed trees.
-/

namespace StubLayers

/-- The signature of a value of the type, and of a method without parameters that gives it. -/
def Signature.ofType (type : String) : Signature := ⟨[], some type⟩

namespace Declaration

/-- The declaration repeats the shim. -/
inductive Repeats (shim d : Declaration) : Prop
  /-- It is of the same kind and has all signatures of the shim. -/
  | kindred : d.kind = shim.kind → shim.signatures ⊆ d.signatures → Repeats shim d
  /-- The shim is a method of which nothing is known but what it gives, and that is the type of a
  value. -/
  | value {type : String} : shim.kind = .method → d.kind = .attr →
      (∀ s ∈ shim.signatures, s = .ofType type) → d.signatures = [.ofType type] → Repeats shim d
  /-- The shim is a value, and a method gives its type without parameters. -/
  | method {type : String} : shim.kind = .attr → d.kind = .method →
      shim.signatures = [.ofType type] → .ofType type ∈ d.signatures → Repeats shim d

/-- If it is a value, it has no signature but that of its type. -/
def TypedAsValue (d : Declaration) : Prop :=
  d.kind = .attr → d.signatures = [] ∨ ∃ type, d.signatures = [.ofType type]

end Declaration

/-! ### What stems from a text -/

theorem Signature.IsValueType.eq_ofType {s : Signature} (h : s.IsValueType) :
    ∃ type, s = .ofType type := by
  obtain ⟨hparameters, hreturns⟩ := h
  obtain ⟨type, htype⟩ := Option.isSome_iff_exists.mp hreturns
  exact ⟨type, by rw [Signature.ofType, ← hparameters, ← htype]⟩

theorem StemsFrom.typedAsValue {file : String} {owner : Owner} {body : List Stmt} {d : Declaration}
    (h : StemsFrom file owner body d) : d.TypedAsValue := by
  intro hkind
  cases h with
  | type => exact nomatch hkind
  | method => exact nomatch hkind
  | @value _ _ _ _ _ signatures _ _ _ _ _ hlength hvalue =>
    match signatures with
    | [] => exact Or.inl rfl
    | [s] =>
      obtain ⟨type, rfl⟩ := (hvalue s List.mem_cons_self).eq_ofType
      exact Or.inr ⟨type, rfl⟩
    | _ :: _ :: _ => exact absurd hlength (by simp)

theorem typedAsValue_of_parseSource {text file module : String} {tree : DeclarationTree}
    (h : parseSource text file module = .ok tree) : ∀ d ∈ tree.walk, d.TypedAsValue := by
  intro d hd
  obtain ⟨stmts, hparse, -⟩ := parseSource_eq_ok_iff.mp h
  rw [← tree.map_snd_owned] at hd
  obtain ⟨p, hp, rfl⟩ := List.mem_map.mp hd
  obtain ⟨body, -, hstems⟩ := stemsFrom_of_mem_owned hparse h p hp
  exact hstems.typedAsValue

/-- **The ways to have all signatures of a shim.** -/
theorem repeats_iff {shim o : Occurrence} (hshim : shim.declaration.TypedAsValue)
    (ho : o.declaration.TypedAsValue) (hcompared : shim.IsCompared) (hsigned : shim.IsSigned) :
    shim.declaration.Repeats o.declaration ↔
      o.IsCompared ∧ shim.declaration.signatures ⊆ o.declaration.signatures := by
  constructor
  · intro h
    cases h with
    | kindred hkind hsubset => exact ⟨by rwa [Occurrence.IsCompared, hkind], hsubset⟩
    | value _ hkind hall hsignatures =>
      refine ⟨Or.inr hkind, fun s hs => ?_⟩
      rw [hsignatures, hall s hs]
      exact List.mem_singleton.mpr rfl
    | method _ hkind hsignatures hmem =>
      refine ⟨Or.inl hkind, ?_⟩
      rw [hsignatures]
      exact List.cons_subset.mpr ⟨hmem, List.nil_subset _⟩
  · rintro ⟨hother, hsubset⟩
    rcases hcompared with hmethod | hattr <;> rcases hother with hmethod' | hattr'
    · exact .kindred (hmethod'.trans hmethod.symm) hsubset
    · rcases ho hattr' with hnone | ⟨type, hone⟩
      · rw [hnone] at hsubset
        exact absurd (List.subset_nil.mp hsubset) hsigned
      · rw [hone] at hsubset
        exact .value hmethod hattr' (fun s hs => List.mem_singleton.mp (hsubset hs)) hone
    · rcases hshim hattr with hnone | ⟨type, hone⟩
      · exact absurd hnone hsigned
      · rw [hone] at hsubset
        exact .method hattr hmethod' hone (List.cons_subset.mp hsubset).1
    · exact .kindred (hattr'.trans hattr.symm) hsubset

/-! ### The index -/

/-- An index of several lists of trees. -/
def Index.ofBatches (batches : List (List DeclarationTree)) : Index :=
  batches.foldl Index.addTrees Index.empty

theorem Index.lists_ofBatches (batches : List (List DeclarationTree)) :
    (Index.ofBatches batches).Lists (numbered 0 (batches.flatten.flatMap (·.walk))) := by
  have hflat : Index.ofBatches batches = Index.empty.addTrees batches.flatten := by
    rw [Index.ofBatches, Index.addTrees, List.foldl_flatten]
    rfl
  rw [hflat]
  exact Index.lists_empty.addTrees batches.flatten

theorem typedAsValue_of_mem_items {batches : List (List DeclarationTree)}
    (hparsed : ∀ trees ∈ batches, ∀ tree ∈ trees, ∃ text file module,
      parseSource text file module = .ok tree)
    {entry : String × List Occurrence} (hentry : entry ∈ (Index.ofBatches batches).items) :
    ∀ o ∈ entry.2, o.declaration.TypedAsValue := by
  intro o ho
  have hmem := (Index.lists_ofBatches batches).mem_items_iff.mp ⟨entry, hentry, ho⟩
  obtain ⟨tree, htree, hwalk⟩ := List.mem_flatMap.mp (mem_of_mem_numbered hmem)
  obtain ⟨trees, htrees, htree⟩ := List.mem_flatten.mp htree
  obtain ⟨text, file, module, hread⟩ := hparsed trees htrees tree htree
  exact typedAsValue_of_parseSource hread o.declaration hwalk

theorem mem_findDuplicates_iff {index : Index} {shims : String} {entry : String × List Occurrence}
    {shim : Occurrence} (hentry : entry ∈ index.items) (hdecides : Decides shims entry.2 shim) :
    entry ∈ findDuplicates index shims ↔
      ∃ o ∈ entry.2, o.number ≠ shim.number ∧ o.IsCompared ∧
        shim.declaration.signatures ⊆ o.declaration.signatures := by
  rw [findDuplicates, List.mem_filter, and_iff_right hentry, redundant_iff]
  have hfound := decidingShim_eq_some_iff.mpr hdecides
  constructor
  · rintro ⟨-, -, hunsigned | ⟨shim', hdecides', o, ho, hcompared, hnumber, hsubset⟩⟩
    · rw [decidingShim_eq_none_iff.mpr hunsigned] at hfound
      exact absurd hfound (by simp)
    · rw [decidingShim_eq_some_iff.mpr hdecides'] at hfound
      obtain rfl := Option.some.inj hfound
      exact ⟨o, ho, hnumber, hcompared, hsubset⟩
  · rintro ⟨o, ho, hnumber, hcompared, hsubset⟩
    have hmem := hdecides.mem
    have hne : o ≠ shim := fun heq => hnumber (by rw [heq])
    have hcovered : ∃ o ∈ entry.2, o.IsCompared ∧ o.number ≠ shim.number ∧
        shim.declaration.signatures ⊆ o.declaration.signatures :=
      ⟨o, ho, hcompared, hnumber, hsubset⟩
    refine ⟨two_le_length_of_ne ho hmem hne, ⟨shim, hmem, ?_⟩, Or.inr ⟨shim, hdecides, hcovered⟩⟩
    obtain ⟨_, _, _, hshim, -⟩ := hdecides
    exact hshim

/-- A method with a parameter is no value. -/
theorem Declaration.Repeats.kind_eq {shim d : Declaration} (h : shim.Repeats d)
    (hparameters : ∃ s ∈ shim.signatures, s.parameters ≠ []) :
    d.kind = shim.kind ∧ shim.signatures ⊆ d.signatures := by
  obtain ⟨s, hs, hparameters⟩ := hparameters
  cases h with
  | kindred hkind hsubset => exact ⟨hkind, hsubset⟩
  | value _ _ hall _ => exact absurd (by rw [hall s hs, Signature.ofType]) hparameters
  | method _ _ hsignatures _ =>
    rw [hsignatures, List.mem_singleton] at hs
    exact absurd (by rw [hs, Signature.ofType]) hparameters

/-- **What a reported shim repeats.**  In an index of parsed trees, a name whose first signed shim is
`shim` is reported exactly if another declaration of the name repeats this shim: one of the same
kind that has all its signatures, or, if the shim is a method of which only the type that it gives
is known, a value of this type, or, if the shim is a value, a method that gives its type without
parameters.  So a shim with a parameter is only ever reported for one of the same kind. -/
theorem reported_iff_repeats (batches : List (List DeclarationTree))
    (parsed : ∀ trees ∈ batches, ∀ tree ∈ trees, ∃ text file module,
      parseSource text file module = .ok tree)
    (shims key : String) (os : List Occurrence)
    (indexed : (key, os) ∈ (Index.ofBatches batches).items) (shim : Occurrence)
    (decides : decidingShim os shims = some shim) :
    ((key, os) ∈ findDuplicates (Index.ofBatches batches) shims ↔
      ∃ o ∈ os, o.number ≠ shim.number ∧ shim.declaration.Repeats o.declaration) ∧
    ((∃ s ∈ shim.declaration.signatures, s.parameters ≠ []) →
      (key, os) ∈ findDuplicates (Index.ofBatches batches) shims →
      ∃ o ∈ os, o.number ≠ shim.number ∧ o.declaration.kind = shim.declaration.kind ∧
        shim.declaration.signatures ⊆ o.declaration.signatures) := by
  have hdecides := decidingShim_eq_some_iff.mp decides
  have htyped := typedAsValue_of_mem_items parsed indexed
  have hreported : (key, os) ∈ findDuplicates (Index.ofBatches batches) shims ↔
      ∃ o ∈ os, o.number ≠ shim.number ∧ shim.declaration.Repeats o.declaration := by
    rw [mem_findDuplicates_iff indexed hdecides]
    have hshim := htyped shim hdecides.mem
    obtain ⟨_, _, _, hisShim, hsigned, -⟩ := hdecides
    refine exists_congr fun o => and_congr_right fun ho => and_congr_right fun _ => ?_
    exact (repeats_iff hshim (htyped o ho) hisShim.1 hsigned).symm
  refine ⟨hreported, fun hparameters h => ?_⟩
  obtain ⟨o, ho, hnumber, hrepeats⟩ := hreported.mp h
  exact ⟨o, ho, hnumber, hrepeats.kind_eq hparameters⟩

/-- A shim with methods, and a stub in which one of them is a value of the type that it gives. -/
def mixedTrees : List DeclarationTree :=
  [("shims/a.pyi", "def f() -> int: ...\ndef g(a: int) -> int: ...\n"),
    ("gen/a.pyi", "f: int\ndef g(a: int) -> int: ...\n")].filterMap fun (file, text) =>
      (parseSource text file "a").toOption

theorem parsed_mixedTrees : ∀ trees ∈ [mixedTrees], ∀ tree ∈ trees, ∃ text file module,
    parseSource text file module = .ok tree := by
  intro trees htrees tree htree
  rw [List.mem_singleton.mp htrees, mixedTrees] at htree
  obtain ⟨⟨file, text⟩, -, hread⟩ := List.mem_filterMap.mp htree
  refine ⟨text, file, "a", ?_⟩
  cases parses : parseSource text file "a" with
  | error e => exact absurd hread (by simp [parses, Except.toOption])
  | ok read =>
    simp only [parses, Except.toOption, Option.some.injEq] at hread
    rw [hread]

/-- The numbers and kinds of occurrences. -/
def kindsOf (os : List Occurrence) : List (Nat × DeclarationKind) :=
  os.map fun o => (o.number, o.declaration.kind)

/-- The method `f` is reported, with a value as the only other declaration of its name. -/
theorem exists_mixed : ∃ os shim,
    ("a#f", os) ∈ findDuplicates (Index.ofBatches [mixedTrees]) "shims/" ∧
      decidingShim os "shims/" = some shim ∧ shim.number = 0 ∧
      shim.declaration.kind = .method ∧ kindsOf os = [(0, .method), (2, .attr)] := by
  have htable : (findDuplicates (Index.ofBatches [mixedTrees]) "shims/").map (fun entry =>
      (entry.1, kindsOf (decidingShim entry.2 "shims/").toList, kindsOf entry.2)) =
      [("a#f", [(0, .method)], [(0, .method), (2, .attr)]),
        ("a#g", [(1, .method)], [(1, .method), (3, .method)])] := by decide +kernel
  have hfirst : ("a#f", [(0, .method)], [(0, .method), (2, .attr)]) ∈
      (findDuplicates (Index.ofBatches [mixedTrees]) "shims/").map (fun entry =>
        (entry.1, kindsOf (decidingShim entry.2 "shims/").toList, kindsOf entry.2)) := by
    rw [htable]
    exact List.mem_cons_self
  obtain ⟨⟨key, os⟩, hentry, hkinds⟩ := List.mem_map.mp hfirst
  simp only [Prod.mk.injEq] at hkinds
  obtain ⟨rfl, hshim, hos⟩ := hkinds
  cases decides : decidingShim os "shims/" with
  | none => exact absurd hshim (by simp [decides, kindsOf])
  | some shim =>
    simp only [decides, kindsOf, Option.toList_some, List.map_cons, List.map_nil,
      List.cons.injEq, Prod.mk.injEq, and_true] at hshim
    exact ⟨os, shim, hentry, decides, hshim.1, hshim.2, hos⟩

theorem reported_iff_repeats_mixed : ∃ os shim,
    ("a#f", os) ∈ (Index.ofBatches [mixedTrees]).items ∧
      decidingShim os "shims/" = some shim ∧ shim.declaration.kind = .method ∧
      ∃ o ∈ os, o.number ≠ shim.number ∧ shim.declaration.Repeats o.declaration := by
  obtain ⟨os, shim, hreported, decides, -, hkind, -⟩ := exists_mixed
  have indexed := (List.mem_filter.mp hreported).1
  have hiff := reported_iff_repeats [mixedTrees] parsed_mixedTrees "shims/" "a#f" os indexed shim
    decides
  exact ⟨os, shim, indexed, decides, hkind, hiff.1.mp hreported⟩

/-- A reported method need not be repeated by a method. -/
theorem method_repeated_by_value : ∃ os shim,
    ("a#f", os) ∈ findDuplicates (Index.ofBatches [mixedTrees]) "shims/" ∧
      decidingShim os "shims/" = some shim ∧
      ¬ ∃ o ∈ os, o.number ≠ shim.number ∧ o.declaration.kind = shim.declaration.kind ∧
        shim.declaration.signatures ⊆ o.declaration.signatures := by
  obtain ⟨os, shim, hreported, decides, hnumber, hkind, hos⟩ := exists_mixed
  refine ⟨os, shim, hreported, decides, ?_⟩
  rintro ⟨o, ho, hother, hsame, -⟩
  have hmem : (o.number, o.declaration.kind) ∈ kindsOf os := List.mem_map_of_mem ho
  rw [hos, hsame, hkind] at hmem
  simp only [List.mem_cons, List.not_mem_nil, or_false, Prod.mk.injEq, and_true, reduceCtorEq,
    and_false] at hmem
  exact hother (hmem.trans hnumber.symm)

end StubLayers
