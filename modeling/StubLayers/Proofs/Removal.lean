import StubLayers.Proofs.IndexRuns
import StubLayers.Proofs.Interleaving
import StubLayers.Proofs.Verdict

/-!
# Removing what is reported

A report ends with the advice to remove the duplicated definitions from the shim directory.  This
file says that following it once is enough: when the shims of all reported names are gone, a second
search finds nothing.

* `isAdvised`: the declaration is a shim under a reported name.
* `named_unadvised`: what is left of a name.  A reported name loses its shims, any other name loses
  nothing.
* `not_redundant_unadvised`: so no name has redundant shims any more.
* `exists_renumbering_filter`: an index of its own numbers what is left anew, but keeps it apart.
* `advice_followed_once`: the second search finds nothing.
-/

namespace StubLayers

/-- A shim under a name that is reported: what the advice is about. -/
def isAdvised (index : Index) (shims : String) (d : Declaration) : Bool :=
  d.isShim shims && decide (d.name ∈ (findDuplicates index shims).map (·.1))

/-! ### What is left -/

/-- Without shims there is nothing redundant. -/
theorem not_redundant_of_no_shims {os : List Occurrence} {shims : String}
    (h : ∀ o ∈ os, o.isOverride shims = false) : shimsAreRedundant os shims = false := by
  rw [Bool.eq_false_iff, ne_eq, redundant_iff]
  rintro ⟨-, ⟨o, ho, -, hshim⟩, -⟩
  rw [← Occurrence.isOverride_iff, h o ho] at hshim
  exact absurd hshim (by decide)

/-- **A reported name loses its shims, any other name loses nothing.** -/
theorem named_unadvised (index : Index) (shims key : String) (os : List Occurrence) :
    named key (os.filter fun o => !isAdvised index shims o.declaration) =
      if key ∈ (findDuplicates index shims).map (·.1) then
        (named key os).filter fun o => !o.isOverride shims
      else named key os := by
  rw [named, List.filter_filter]
  split
  · rename_i hkey
    rw [named, List.filter_filter]
    refine List.filter_congr fun o _ => ?_
    by_cases hname : o.declaration.name = key
    · simp [isAdvised, hname, hkey, Occurrence.isOverride]
    · simp [hname]
  · rename_i hkey
    rw [named]
    refine List.filter_congr fun o _ => ?_
    by_cases hname : o.declaration.name = key
    · simp [isAdvised, hname, hkey]
    · simp [hname]

/-- **No name is left with redundant shims.** -/
theorem not_redundant_unadvised {index : Index} {os : List Occurrence} (h : index.Lists os)
    (shims key : String) :
    shimsAreRedundant
      (named key (os.filter fun o => !isAdvised index shims o.declaration)) shims = false := by
  rw [named_unadvised]
  split
  · refine not_redundant_of_no_shims fun o ho => ?_
    simpa using (List.mem_filter.mp ho).2
  · rename_i hkey
    rw [h.mem_duplicates_iff] at hkey
    exact Bool.eq_false_iff.mpr hkey

/-! ### Searching again -/

theorem duplicates_eq_nil {index : Index} {os : List Occurrence} (h : index.Lists os)
    {shims : String} (hnone : ∀ key, shimsAreRedundant (named key os) shims = false) :
    findDuplicates index shims = [] := by
  have hkeys : (findDuplicates index shims).map (·.1) = [] := by
    refine List.eq_nil_iff_forall_not_mem.mpr fun key hkey => ?_
    rw [h.mem_duplicates_iff, hnone key] at hkey
    exact absurd hkey (by decide)
  exact List.map_eq_nil_iff.mp hkeys

theorem Interleaved.of_filter {α : Type} (p : α → Bool) (as : List α) :
    Interleaved (fun a => p a = false) (as.filter p) as := by
  induction as with
  | nil => exact .nil
  | cons a as ih =>
    cases hp : p a with
    | true =>
      rw [List.filter_cons_of_pos hp]
      exact .kept a ih
    | false =>
      rw [List.filter_cons_of_neg (by simp [hp])]
      exact .added hp ih

/-- What passes a test, numbered on its own, is what passes it of the whole with other numbers. -/
theorem exists_renumbering_filter (p : Declaration → Bool) (ds : List Declaration) :
    ∃ f : Nat → Nat, (∀ i j, f i = f j → i = j) ∧
      (numbered 0 (ds.filter p)).map (Occurrence.renumbered f) =
        (numbered 0 ds).filter fun o => p o.declaration := by
  obtain ⟨f, -, hinj, hall⟩ := exists_renumbering (Interleaved.of_filter p ds) 0 0
  refine ⟨f, fun i j => hinj i j (Nat.zero_le i) (Nat.zero_le j), ?_⟩
  rw [hall.filter_eq (p := fun o => p o.declaration) fun _ hremoved => hremoved]
  refine (List.filter_eq_self.mpr fun renumbered hmem => ?_).symm
  obtain ⟨o, ho, rfl⟩ := List.mem_map.mp hmem
  exact (List.mem_filter.mp (mem_of_mem_numbered ho)).2

/-- **The advice has to be followed once.**  When every shim under a reported name is removed and
what is left is indexed again in its order, nothing is reported any more.  This holds for
occurrences that keep their numbers, where a reported name is left with all but its shims and any
other name with all it had, and for declarations that are numbered anew. -/
theorem advice_followed_once (shims : String) :
    (∀ (os : List Occurrence) (index rebuilt : Index), index.Lists os →
      rebuilt.Lists (os.filter fun o => !isAdvised index shims o.declaration) →
      findDuplicates rebuilt shims = [] ∧
      ∀ key, rebuilt.nodes key =
        if key ∈ (findDuplicates index shims).map (·.1) then
          (index.nodes key).filter fun o => !o.isOverride shims
        else index.nodes key) ∧
    ∀ ds : List Declaration,
      findDuplicates (Index.empty.addAll
        (ds.filter fun d => !isAdvised (Index.empty.addAll ds) shims d)) shims = [] := by
  refine ⟨fun os index rebuilt hindex hrebuilt => ⟨?_, fun key => ?_⟩, fun ds => ?_⟩
  · exact duplicates_eq_nil hrebuilt (not_redundant_unadvised hindex shims)
  · rw [hrebuilt.nodes_eq, hindex.nodes_eq, named_unadvised]
  · have hindex := Index.lists_addAll ds
    obtain ⟨f, hinj, hleft⟩ :=
      exists_renumbering_filter (fun d => !isAdvised (Index.empty.addAll ds) shims d) ds
    refine duplicates_eq_nil (Index.lists_addAll _) fun key => ?_
    rw [← shimsAreRedundant_renumbered shims fun o _ o' _ => hinj o.number o'.number,
      ← named_renumbered, hleft]
    exact not_redundant_unadvised hindex shims key

/-- A shim with its generated copy, a function without signature in both layers, and a value whose
two types differ. -/
def advisedSequence : List Declaration :=
  let generated (d : Declaration) : Declaration :=
    { d with location := { d.location with file := "gen/a.pyi" } }
  let bare : Declaration := { signedShim with kind := .method, name := "a#f", signatures := [] }
  let other : Declaration := { signedShim with name := "a#z" }
  [signedShim, bare, other, generated signedShim, generated bare,
    { generated other with signatures := [⟨[], some "str"⟩] }]

theorem advice_followed_once_mixed :
    (findDuplicates (Index.empty.addAll advisedSequence) "shims/").map (·.1) = ["a#x", "a#f"] ∧
    (advisedSequence.filter fun d =>
        !isAdvised (Index.empty.addAll advisedSequence) "shims/" d).map
      (fun d => (d.name, d.location.file)) =
        [("a#z", "shims/a.pyi"), ("a#x", "gen/a.pyi"), ("a#f", "gen/a.pyi"),
          ("a#z", "gen/a.pyi")] ∧
    findDuplicates (Index.empty.addAll (advisedSequence.filter fun d =>
      !isAdvised (Index.empty.addAll advisedSequence) "shims/" d)) "shims/" = [] :=
  ⟨by decide, by decide, (advice_followed_once "shims/").2 advisedSequence⟩

end StubLayers
