import Mathlib.Data.List.Basic
import StubLayers.Proofs.Overlap

/-!
# Which files count as shims

A declaration counts as a shim if the text of its file begins with the text of the shim directory
and a slash.  This file goes back from texts to components, for directories that are given
relative to the project.

* `prefix_slash_iff`: a joined text with a slash begins another joined text exactly if its
  components begin the other's and are fewer.
* `shimPrefix_relative`, `shimPrefix_project`: what the text of a shim directory is.
* `shownPath_layer`: how a file of a layer is shown.
* `CheckConfig.tags_iff`: in a check that is not refused, a file of a layer is tagged exactly if
  the layer is that of the shims.
-/

namespace StubLayers

/-! ### Components of a path that was read -/

namespace Path

theorem slash_notMem_pieces (cs : List Char) : ∀ piece ∈ pieces cs, '/' ∉ piece := by
  induction cs with
  | nil => simp [pieces]
  | cons c cs ih =>
    intro piece hpiece
    rw [pieces] at hpiece
    by_cases hc : c = '/'
    · rw [if_pos hc, List.mem_cons] at hpiece
      rcases hpiece with rfl | hpiece
      · exact List.not_mem_nil
      · exact ih piece hpiece
    · rw [if_neg hc] at hpiece
      cases hcs : pieces cs with
      | nil =>
        rw [hcs] at hpiece
        obtain rfl : piece = [c] := by simpa using hpiece
        simpa using Ne.symm hc
      | cons first rest =>
        rw [hcs] at ih hpiece
        rcases List.mem_cons.mp hpiece with rfl | hpiece
        · rw [List.mem_cons, not_or]
          exact ⟨Ne.symm hc, ih first List.mem_cons_self⟩
        · exact ih piece (List.mem_cons_of_mem first hpiece)

/-- Every component of a path that was read can stand between slashes, and `.` is none. -/
theorem part_of_ofString {s part : String} (h : part ∈ (ofString s).parts) :
    part ≠ "" ∧ part ≠ "." ∧ '/' ∉ part.toList := by
  obtain ⟨piece, hpiece, rfl⟩ := List.mem_map.mp h
  rw [List.mem_filter, isComponent] at hpiece
  obtain ⟨hmem, hcomponent⟩ := hpiece
  rw [Bool.and_eq_true, Bool.not_eq_true', List.isEmpty_eq_false_iff, bne_iff_ne] at hcomponent
  refine ⟨fun he => hcomponent.1 ?_, fun he => hcomponent.2 ?_, ?_⟩
  · simpa using congrArg String.toList he
  · simpa using congrArg String.toList he
  · rw [String.toList_ofList]
    exact slash_notMem_pieces s.toList piece hmem

end Path

/-! ### Joined texts -/

theorem map_toList_injective {ps qs : List String}
    (h : ps.map String.toList = qs.map String.toList) : ps = qs :=
  List.map_injective_iff.mpr (fun _ _ he => String.toList_inj.mp he) h

/-- Texts that hold no `c` are found again between the signs `c` that join them. -/
theorem splitOn_joined_by {sep : String} {c : Char} (hsep : sep.toList = [c]) {texts : List String}
    (hne : texts ≠ []) (htexts : ∀ text ∈ texts, c ∉ text.toList) :
    (sep.intercalate texts).toList.splitOn c = texts.map String.toList := by
  rw [String.toList_intercalate, hsep]
  refine List.splitOn_intercalate c ?_ (by simpa using hne)
  intro cs hcs
  obtain ⟨text, htext, rfl⟩ := List.mem_map.mp hcs
  exact htexts text htext

theorem splitOn_joined {ps : List String} (hne : ps ≠ []) (hps : ∀ p ∈ ps, '/' ∉ p.toList) :
    ("/".intercalate ps).toList.splitOn '/' = ps.map String.toList :=
  splitOn_joined_by rfl hne hps

/-- **A slash keeps components apart.** -/
theorem prefix_slash_iff {ps qs : List String} (hp : ps ≠ []) (hps : ∀ p ∈ ps, '/' ∉ p.toList)
    (hqs : ∀ q ∈ qs, '/' ∉ q.toList) :
    ("/".intercalate ps ++ "/").toList <+: ("/".intercalate qs).toList ↔
      ∃ rest, rest ≠ [] ∧ qs = ps ++ rest := by
  constructor
  · rintro ⟨more, hmore⟩
    have hq : qs ≠ [] := by
      rintro rfl
      simp at hmore
    have hsplit := congrArg (List.splitOn '/') hmore
    rw [splitOn_joined hq hqs, String.toList_append, List.append_assoc,
      show "/".toList ++ more = '/' :: more from rfl, List.splitOn_append_cons_self,
      splitOn_joined hp hps] at hsplit
    obtain ⟨front, rest, rfl, hfront, hrest⟩ := List.map_eq_append_iff.mp hsplit.symm
    obtain rfl := map_toList_injective hfront
    refine ⟨rest, ?_, rfl⟩
    rintro rfl
    exact List.splitOn_ne_nil '/' more hrest.symm
  · rintro ⟨rest, hrest, rfl⟩
    refine ⟨("/".intercalate rest).toList, ?_⟩
    rw [String.intercalate_append_of_ne_nil hp hrest, ← String.toList_append]

theorem getLast?_joined {ps : List String} (hp : ps ≠ [])
    (hps : ∀ p ∈ ps, p ≠ "" ∧ p ≠ "." ∧ '/' ∉ p.toList) :
    ("/".intercalate ps).toList.getLast? ≠ some '/' := by
  obtain ⟨front, last, rfl⟩ : ∃ front last, ps = front ++ [last] :=
    ⟨ps.dropLast, ps.getLast hp, (List.dropLast_append_getLast hp).symm⟩
  obtain ⟨hne, -, hslash⟩ := hps last (by simp)
  have hnil : last.toList ≠ [] := fun he => hne (String.toList_inj.mp he)
  have hend : ∃ start, ("/".intercalate (front ++ [last])).toList = start ++ last.toList := by
    by_cases hf : front = []
    · exact ⟨[], by rw [hf]; simp⟩
    · rw [String.intercalate_append_of_ne_nil hf (List.cons_ne_nil _ _),
        String.intercalate_singleton, String.toList_append]
      exact ⟨_, rfl⟩
  obtain ⟨start, hstart⟩ := hend
  rw [hstart, List.getLast?_append_of_ne_nil _ hnil]
  exact fun he => hslash (List.mem_of_getLast? he)

theorem dropTrailingSlashes_of_getLast? {s : String} (h : s.toList.getLast? ≠ some '/') :
    dropTrailingSlashes s = s := by
  rw [dropTrailingSlashes]
  have hkeep : s.toList.reverse.dropWhile (· = '/') = s.toList.reverse := by
    cases hr : s.toList.reverse with
    | nil => rfl
    | cons c cs =>
      rw [List.dropWhile_cons_of_neg]
      intro hc
      apply h
      rw [List.getLast?_eq_head?_reverse, hr]
      simpa using hc
  rw [hkeep, List.reverse_reverse, String.ofList_toList]

/-! ### Shown paths -/

theorem Path.render_relative {parts : List String} (h : parts ≠ []) :
    Path.render ⟨.relative, parts⟩ = "/".intercalate parts := by
  rw [Path.render, if_neg (by simpa [Path.here] using h), Anchor.text, String.empty_append]

theorem Path.anchor_of_relative {p : Path} (h : p.isAbsolute = false) : p.anchor = .relative := by
  simpa [Path.isAbsolute] using h

/-- The paths of shims in a directory other than the project itself. -/
theorem shimPrefix_relative {dir : String} (root : Path)
    (hrel : (Path.ofString dir).isAbsolute = false) (hne : (Path.ofString dir).parts ≠ []) :
    shimPrefix dir root = "/".intercalate (Path.ofString dir).parts ++ "/" := by
  have hparts : ∀ p ∈ (Path.ofString dir).parts, p ≠ "" ∧ p ≠ "." ∧ '/' ∉ p.toList :=
    fun p hp => Path.part_of_ofString hp
  have hshown : projectRelative dir root = "/".intercalate (Path.ofString dir).parts := by
    have hpath : Path.ofString dir = ⟨.relative, (Path.ofString dir).parts⟩ := by
      rw [← Path.anchor_of_relative hrel]
    rw [projectRelative, if_neg (by simp [hrel])]
    conv_lhs => rw [hpath]
    exact Path.render_relative hne
  have hdot : "/".intercalate (Path.ofString dir).parts ≠ "." := by
    intro he
    have hsplit := splitOn_joined hne fun p hp => (hparts p hp).2.2
    rw [he, show ".".toList.splitOn '/' = [".".toList] from by decide] at hsplit
    have hsingle : ["."] = (Path.ofString dir).parts := map_toList_injective hsplit
    exact (hparts "." (by rw [← hsingle]; exact List.mem_cons_self)).2.1 rfl
  rw [shimPrefix, hshown, dropTrailingSlashes_of_getLast? (getLast?_joined hne hparts),
    if_neg hdot]

theorem shimPrefix_project {dir : String} (root : Path)
    (hrel : (Path.ofString dir).isAbsolute = false) (hnil : (Path.ofString dir).parts = []) :
    shimPrefix dir root = "" := by
  have hpath : Path.ofString dir = ⟨.relative, []⟩ := by
    rw [← Path.anchor_of_relative hrel, ← hnil]
  have hshown : projectRelative dir root = "." := by
    rw [projectRelative, if_neg (by simp [hrel]), hpath]
    decide
  rw [shimPrefix, hshown, if_pos (by decide)]

open Check

/-- A file of a layer is shown by the components below the project. -/
theorem shownPath_layer (root : Path) {dir : String} (hrel : (Path.ofString dir).isAbsolute = false)
    {rel : Components} (hne : rel ≠ []) :
    shownPath ⟨(layerPath root dir).anchor, (layerPath root dir).parts ++ rel⟩ (some root) =
      "/".intercalate ((Path.ofString dir).parts ++ rel) := by
  have hseen : Path.seenFrom
      ⟨root.anchor, root.parts ++ (Path.ofString dir).parts ++ rel⟩ root =
      ⟨.relative, (Path.ofString dir).parts ++ rel⟩ := by
    rw [Path.seenFrom, Path.relativeTo?, List.append_assoc, if_pos ⟨rfl, by simp⟩,
      Option.getD_some, List.drop_left]
  rw [shownPath, layerPath_relative (Path.anchor_of_relative hrel)]
  dsimp only
  rw [hseen]
  exact Path.render_relative fun h => hne (List.append_eq_nil_iff.mp h).2

/-! ### Tags -/

theorem slash_notMem_of_isFile {t : FileTree} {top rel : Components} (h : t.IsFile (top ++ rel)) :
    ∀ name ∈ rel, '/' ∉ name.toList := by
  intro name hname
  have hentry := h.entryName (List.mem_append_right top hname)
  rw [isEntryName, Bool.and_eq_true] at hentry
  simpa using hentry.2

/-- The shim directory is not the project if there is another layer in the project. -/
theorem shimDir_parts_ne_nil {config : CheckConfig} (accepted : config.obstacle? = none)
    (hshim : (Path.ofString config.shimDir).isAbsolute = false) {other : String}
    (hother : other ∈ config.otherDirs) (hrel : (Path.ofString other).isAbsolute = false) :
    (Path.ofString config.shimDir).parts ≠ [] := by
  intro hnil
  have hnot := CheckConfig.not_overlaps_of_accepted accepted hother
  have hover : overlaps config.shimDir other = true := by
    refine overlaps_iff.mpr ⟨?_, Or.inl (by rw [hnil]; exact List.nil_prefix)⟩
    rw [Path.anchor_of_relative hshim, Path.anchor_of_relative hrel]
  rw [hover] at hnot
  exact absurd hnot (by simp)

/-- A stub file of a layer is shown by names that no slash divides. -/
theorem exists_shown {host : Host} (root : Path) {dir : String}
    (hrel : (Path.ofString dir).isAbsolute = false) {path : Path}
    (h : path ∈ findStubFiles host (layerPath root dir)) :
    ∃ rel, rel ≠ [] ∧ (∀ name ∈ (Path.ofString dir).parts ++ rel, '/' ∉ name.toList) ∧
      shownPath path (some root) = "/".intercalate ((Path.ofString dir).parts ++ rel) := by
  obtain ⟨top, rel, -, hne, hfile, -, rfl⟩ := mem_findStubFiles.mp h
  refine ⟨rel, hne, ?_, shownPath_layer root hrel hne⟩
  intro name hname
  rcases List.mem_append.mp hname with hname | hname
  · exact (Path.part_of_ofString hname).2.2
  · exact slash_notMem_of_isFile hfile name hname

/-- The file is shown as one of the shim directory. -/
def CheckConfig.tags (config : CheckConfig) (file : String) : Bool :=
  (shimPrefix config.shimDir config.root).toList.isPrefixOf file.toList

namespace CheckConfig

variable {config : CheckConfig} (hshim : (Path.ofString config.shimDir).isAbsolute = false)

include hshim

theorem tags_joined_iff (hne : (Path.ofString config.shimDir).parts ≠ []) {names : List String}
    (hnames : ∀ name ∈ names, '/' ∉ name.toList) :
    config.tags ("/".intercalate names) = true ↔
      ∃ rest, rest ≠ [] ∧ names = (Path.ofString config.shimDir).parts ++ rest := by
  rw [tags, List.isPrefixOf_iff_prefix, shimPrefix_relative config.root hshim hne]
  exact prefix_slash_iff hne (fun p hp => (Path.part_of_ofString hp).2.2) hnames

/-- Files of the shim layer are tagged. -/
theorem tags_shim {host : Host} {path : Path}
    (h : path ∈ findStubFiles host (layerPath config.root config.shimDir)) :
    config.tags (shownPath path (some config.root)) = true := by
  by_cases hne : (Path.ofString config.shimDir).parts = []
  · rw [tags, shimPrefix_project config.root hshim hne]
    rfl
  · obtain ⟨rel, hrel, hnames, hshown⟩ := exists_shown config.root hshim h
    rw [hshown, tags_joined_iff hshim hne hnames]
    exact ⟨rel, hrel, rfl⟩

/-- Files of other layers are not tagged. -/
theorem not_tags_other (accepted : config.obstacle? = none) {host : Host} {other : String}
    (hother : other ∈ config.otherDirs) (hrel : (Path.ofString other).isAbsolute = false)
    {path : Path} (h : path ∈ findStubFiles host (layerPath config.root other)) :
    ¬ config.tags (shownPath path (some config.root)) = true := by
  have hne := shimDir_parts_ne_nil accepted hshim hother hrel
  obtain ⟨rel, -, hnames, hshown⟩ := exists_shown config.root hrel h
  rw [hshown, tags_joined_iff hshim hne hnames]
  rintro ⟨rest, -, hparts⟩
  -- both component lists begin one list, so one begins the other
  have hover : overlaps config.shimDir other = true := by
    refine overlaps_iff.mpr ⟨?_, List.prefix_or_prefix_of_prefix ⟨rest, hparts.symm⟩ ⟨rel, rfl⟩⟩
    rw [Path.anchor_of_relative hshim, Path.anchor_of_relative hrel]
  rw [not_overlaps_of_accepted accepted hother] at hover
  exact absurd hover (by simp)

omit hshim

/-- **Tags are exact.**  A file of a layer is tagged exactly if the layer is that of the shims. -/
theorem tags_iff (accepted : config.obstacle? = none)
    (relative : ∀ dir ∈ config.shimDir :: config.otherDirs, (Path.ofString dir).isAbsolute = false)
    {host : Host} {dir : String} (hdir : dir ∈ config.shimDir :: config.otherDirs) {path : Path}
    (h : path ∈ findStubFiles host (layerPath config.root dir)) :
    config.tags (shownPath path (some config.root)) = true ↔ dir = config.shimDir := by
  have hshim := relative config.shimDir List.mem_cons_self
  constructor
  · intro htag
    rcases List.mem_cons.mp hdir with hdir' | hother
    · exact hdir'
    · exact absurd htag (not_tags_other hshim accepted hother (relative dir hdir) h)
  · rintro rfl
    exact tags_shim hshim h

end CheckConfig

end StubLayers
