import Mathlib.Data.List.Perm.Subperm
import StubLayers.Proofs.Tags

/-!
# The order of stub files

The stub files of a directory are listed by the texts of their paths.  No file is listed twice and
no two files have one text, so the files alone decide the list.

* `render_injective_stubs`: paths of stub files of one directory are told apart by their texts.
* `nodup_findStubFiles`, `pairwise_findStubFiles`: no path is listed twice, and the texts ascend.
  No other arrangement of these paths does (`eq_findStubFiles`).
* `findStubFiles_sublist`: a listing that has all paths of another one has them in the same order.
* `findStubFiles_eq`: the listing is any ordered arrangement of the files below the directory.
-/

namespace StubLayers

/-! ### Texts -/

theorem Path.render_of_ne_nil {p : Path} (h : p.parts ≠ []) :
    p.render = p.anchor.text ++ "/".intercalate p.parts := by
  rw [Path.render, if_neg]
  rintro rfl
  exact h rfl

theorem joined_injective {ps qs : List String} (hp : ps ≠ []) (hq : qs ≠ [])
    (hps : ∀ p ∈ ps, '/' ∉ p.toList) (hqs : ∀ q ∈ qs, '/' ∉ q.toList)
    (h : "/".intercalate ps = "/".intercalate qs) : ps = qs := by
  have hsplit := congrArg (fun s => s.toList.splitOn '/') h
  rw [splitOn_joined hp hps, splitOn_joined hq hqs] at hsplit
  exact map_toList_injective hsplit

/-- **The text of a stub file tells its path**, within one directory. -/
theorem render_injective_stubs {host host' : Host} {dir p q : Path}
    (hp : p ∈ findStubFiles host dir) (hq : q ∈ findStubFiles host' dir)
    (h : p.render = q.render) : p = q := by
  obtain ⟨top, rel, -, hrel, hfile, -, rfl⟩ := mem_findStubFiles.mp hp
  obtain ⟨top', rel', -, hrel', hfile', -, rfl⟩ := mem_findStubFiles.mp hq
  have hne : ∀ {way : Components}, way ≠ [] → dir.parts ++ way ≠ [] :=
    fun hway hnil => hway (List.append_eq_nil_iff.mp hnil).2
  rw [Path.render_of_ne_nil (hne hrel), Path.render_of_ne_nil (hne hrel'),
    String.append_right_inj] at h
  have hjoined : "/".intercalate rel = "/".intercalate rel' := by
    by_cases hnil : dir.parts = []
    · simpa [hnil] using h
    · rw [String.intercalate_append_of_ne_nil hnil hrel,
        String.intercalate_append_of_ne_nil hnil hrel', String.append_right_inj] at h
      exact h
  rw [joined_injective hrel hrel' (slash_notMem_of_isFile hfile) (slash_notMem_of_isFile hfile')
    hjoined]

/-! ### Listings -/

theorem Path.join_relative_injective (dir : Path) :
    Function.Injective fun way : Components => dir.join ⟨.relative, way⟩ :=
  fun _ _ he => List.append_cancel_left (Path.mk.inj he).2

theorem FileTree.nodup_filesBelow (t : FileTree) (top : Components) : (t.filesBelow top).Nodup := by
  rw [filesBelow]
  refine List.Nodup.map_on ?_ (t.distinct.filter _)
  intro place hplace place' hplace' he
  rw [List.mem_filter, Bool.and_eq_true, isBelow_iff] at hplace hplace'
  obtain ⟨-, ⟨rel, -, rfl⟩, -⟩ := hplace
  obtain ⟨-, ⟨rel', -, rfl⟩, -⟩ := hplace'
  rw [List.drop_left, List.drop_left] at he
  rw [he]

theorem nodup_findStubFiles (host : Host) (dir : Path) : (findStubFiles host dir).Nodup := by
  rw [findStubFiles]
  split
  · exact List.nodup_nil
  · rename_i top _
    split_ifs
    · rw [sortPaths, (List.mergeSort_perm _ _).nodup_iff]
      exact ((host.tree.nodup_filesBelow top).filter _).map dir.join_relative_injective
    · exact List.nodup_nil

theorem pairwise_sortPaths (paths : List Path) :
    (sortPaths paths).Pairwise fun p q => p.render ≤ q.render := by
  have h : (sortPaths paths).Pairwise fun p q => decide (p.render ≤ q.render) = true := by
    refine List.pairwise_mergeSort ?_ ?_ paths
    · intro p q r hpq hqr
      rw [decide_eq_true_eq] at hpq hqr ⊢
      exact String.le_trans hpq hqr
    · intro p q
      simpa using String.le_total p.render q.render
  exact h.imp of_decide_eq_true

theorem pairwise_findStubFiles (host : Host) (dir : Path) :
    (findStubFiles host dir).Pairwise fun p q => p.render ≤ q.render := by
  rw [findStubFiles]
  split
  · exact List.Pairwise.nil
  · split_ifs
    · exact pairwise_sortPaths _
    · exact List.Pairwise.nil

/-- An ordered arrangement of the stub files is their listing. -/
theorem eq_findStubFiles {host : Host} {dir : Path} {paths : List Path}
    (hperm : paths.Perm (findStubFiles host dir))
    (hsorted : paths.Pairwise fun p q => p.render ≤ q.render) : paths = findStubFiles host dir := by
  refine hperm.eq_of_pairwise ?_ hsorted (pairwise_findStubFiles host dir)
  intro p q hp hq hpq hqp
  exact render_injective_stubs (hperm.subset hp) hq (String.le_antisymm hpq hqp)

/-- **The files decide their order.** -/
theorem findStubFiles_sublist {host host' : Host} {dir : Path}
    (h : findStubFiles host dir ⊆ findStubFiles host' dir) :
    (findStubFiles host dir).Sublist (findStubFiles host' dir) := by
  obtain ⟨paths, hperm, hsub⟩ := List.subperm_of_subset (nodup_findStubFiles host dir) h
  have heq : paths = findStubFiles host dir :=
    eq_findStubFiles hperm ((pairwise_findStubFiles host' dir).sublist hsub)
  rw [← heq]
  exact hsub

/-- The ways down to the stub files, in order, make the listing. -/
theorem findStubFiles_eq {host : Host} {dir : Path} (top : Components) (ways : List Components)
    (htop : host.locate dir = .ok top)
    (hways : ways.Perm ((host.tree.filesBelow top).filter fun way => isStubName (way.getLastD "")))
    (hsorted : (ways.map (dir.join ⟨.relative, ·⟩)).Pairwise fun p q => p.render ≤ q.render) :
    findStubFiles host dir = ways.map (dir.join ⟨.relative, ·⟩) := by
  have hnodup : (ways.map (dir.join ⟨.relative, ·⟩)).Nodup := by
    have hdistinct := hways.nodup_iff.mpr ((host.tree.nodup_filesBelow top).filter _)
    exact hdistinct.map dir.join_relative_injective
  have hperm : (findStubFiles host dir).Perm (ways.map (dir.join ⟨.relative, ·⟩)) := by
    refine (List.perm_ext_iff_of_nodup (nodup_findStubFiles host dir) hnodup).mpr fun path => ?_
    simp only [mem_findStubFiles, htop, List.mem_map, hways.mem_iff, List.mem_filter,
      FileTree.mem_filesBelow, Path.join_relative, Except.ok.injEq, exists_and_left, exists_eq_left']
    constructor
    · rintro ⟨way, hway, hfile, hstub, rfl⟩
      exact ⟨way, ⟨⟨hway, hfile⟩, hstub⟩, rfl⟩
    · rintro ⟨way, ⟨⟨hway, hfile⟩, hstub⟩, rfl⟩
      exact ⟨way, hway, hfile, hstub, rfl⟩
  exact (eq_findStubFiles hperm.symm hsorted).symm

end StubLayers
