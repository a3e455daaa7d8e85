import StubLayers.Proofs.Tags

/-!
# Spellings of directories

A directory of a configuration is a text, and the text is read in several places: to find the stub
files, to show them, to tell shims from the rest, and to tell which files are published.  This file
says that none of them sees more of it than the path it denotes from the project.

* `projectRelative_eq`: the text of a directory in reports is that of its path, as seen from the
  project.
* `shimPrefix_eq`, `CheckConfig.basePrefix_eq`: so are the two prefixes.
* `Check.declared_eq`, `Check.refused_eq`: layers declare what the paths of their directories hold.
* `check_respelled`: two spellings of one configuration give the same findings.
-/

namespace StubLayers

open Check

/-! ### Prefixes -/

theorem Path.seenFrom_join_relative (root : Path) {q : Path} (h : q.isAbsolute = false) :
    (root.join q).seenFrom root = q := by
  rw [join, if_neg (by simp [h]), seenFrom, relativeTo?, if_pos ⟨rfl, by simp⟩, Option.getD_some,
    List.drop_left, ← anchor_of_relative h]

/-- **A directory is shown by its path**, whether it is written from the project or in full. -/
theorem projectRelative_eq (dir : String) (root : Path) :
    projectRelative dir root = ((layerPath root dir).seenFrom root).render := by
  rw [projectRelative, layerPath]
  by_cases h : (Path.ofString dir).isAbsolute = true
  · rw [if_pos h, Path.join, if_pos h]
  · rw [if_neg h, Path.seenFrom_join_relative root (by simpa using h)]

theorem shimPrefix_eq {root : Path} {dir dir' : String}
    (h : layerPath root dir' = layerPath root dir) :
    shimPrefix dir' root = shimPrefix dir root := by
  rw [shimPrefix, projectRelative_eq, h, ← projectRelative_eq, shimPrefix]

/-- An empty prefix is as good as none. -/
theorem BaseLayer.effectivePrefix_eq (b : BaseLayer) :
    b.effectivePrefix =
      if b.pathPrefix.getD "" = "" then b.dir else some (b.pathPrefix.getD "") := by
  rw [effectivePrefix]
  cases b.pathPrefix with
  | none => rfl
  | some text => rfl

namespace CheckConfig

/-- What is published: below the prefix that is set, else below the base directory. -/
theorem basePrefix_eq (c : CheckConfig) :
    c.basePrefix =
      if c.base.pathPrefix.getD "" = "" then
        (c.baseDirs.map (layerPath c.root)).head?.map fun path => (path.seenFrom c.root).render
      else some (projectRelative (c.base.pathPrefix.getD "") c.root) := by
  rw [basePrefix, BaseLayer.effectivePrefix_eq]
  by_cases hset : c.base.pathPrefix.getD "" = ""
  · rw [if_pos hset, if_pos hset, baseDirs]
    cases c.base.dir with
    | none => rfl
    | some dir =>
      dsimp only
      split
      · rfl
      · rw [projectRelative_eq]
        rfl
  · rw [if_neg hset, if_neg hset]
    dsimp only
    rw [if_neg hset]

end CheckConfig

/-- An address that is empty publishes as little as none. -/
theorem Location.resolve_eq (l : Location) (base : Option String) {url url' : Option String}
    (h : url'.getD "" = url.getD "") : l.resolve base url' = l.resolve base url := by
  cases base with
  | none => rfl
  | some base => cases url <;> cases url' <;> simp_all [resolve]

/-! ### Layers -/

namespace Check

/-- What the stub files below a path give, as seen from the project. -/
def pathOutcomes (host : Host) (root dir : Path) : List (Except Warning DeclarationTree) :=
  (findStubFiles host dir).map (loadFile host dir (some root))

theorem declared_eq (host : Host) (root : Path) (layers : List Layer) :
    declared host root layers =
      (layers.map fun layer => layerPath root layer.dir).flatMap fun dir =>
        (pathOutcomes host root dir).flatMap outcomeDeclarations := by
  rw [List.flatMap_map]
  rfl

theorem refused_eq (host : Host) (root : Path) (layers : List Layer) :
    refused host root layers =
      (layers.map fun layer => layerPath root layer.dir).flatMap fun dir =>
        (pathOutcomes host root dir).flatMap outcomeWarnings := by
  rw [List.flatMap_map]
  rfl

end Check

namespace CheckConfig

theorem layerPaths_eq (c : CheckConfig) :
    (c.layers.map fun layer => layerPath c.root layer.dir) =
      c.baseDirs.map (layerPath c.root) ++ layerPath c.root c.shimDir ::
        c.generatedDirs.map (layerPath c.root) := by
  simp only [layers, List.map_append, List.map_cons, List.map_map]
  rfl

/-- The two configurations have the same directories, however these are spelled.  An empty prefix
or address counts as none. -/
structure Respells (c' c : CheckConfig) : Prop where
  root : c'.root = c.root
  shim : layerPath c.root c'.shimDir = layerPath c.root c.shimDir
  generated : c'.generatedDirs.map (layerPath c.root) = c.generatedDirs.map (layerPath c.root)
  base : c'.baseDirs.map (layerPath c.root) = c.baseDirs.map (layerPath c.root)
  pathPrefix : c'.base.pathPrefix.getD "" = c.base.pathPrefix.getD ""
  url : c'.base.url.getD "" = c.base.url.getD ""

namespace Respells

variable {c' c : CheckConfig} (h : Respells c' c)

include h

theorem layerPaths_eq :
    (c'.layers.map fun layer => layerPath c.root layer.dir) =
      c.layers.map fun layer => layerPath c.root layer.dir := by
  have h' := c'.layerPaths_eq
  rw [h.root] at h'
  rw [h', c.layerPaths_eq, h.base, h.shim, h.generated]

theorem basePrefix_eq : c'.basePrefix = c.basePrefix := by
  rw [c'.basePrefix_eq, c.basePrefix_eq, h.root, h.base, h.pathPrefix]

/-- Every location is shown alike. -/
theorem resolve_eq (l : Location) :
    l.resolve c'.basePrefix c'.base.url = l.resolve c.basePrefix c.base.url := by
  rw [h.basePrefix_eq]
  exact l.resolve_eq c.basePrefix h.url

end Respells

end CheckConfig

/-- **Spelling does not matter.**  Two configurations that are not refused and whose directories
denote the same paths from the project find the same duplicates, give the same warnings, and show
every location by the same text. -/
theorem check_respelled (host : Host) (c c' : CheckConfig) (respells : c'.Respells c)
    (accepted : c.obstacle? = none) (accepted' : c'.obstacle? = none) :
    ∃ report report', check host c c.layers = .ok report ∧
      check host c' c'.layers = .ok report' ∧
      report'.shimsChecked = report.shimsChecked ∧
      report'.duplicates = report.duplicates ∧ report'.warnings = report.warnings ∧
      ∀ entry ∈ report.duplicates, ∀ d ∈ entry.2,
        d.location.resolve c'.basePrefix c'.base.url =
          d.location.resolve c.basePrefix c.base.url := by
  refine ⟨_, _, check_of_accepted host c.layers accepted,
    check_of_accepted host c'.layers accepted', ?_⟩
  have hpaths := respells.layerPaths_eq
  have hshims : hasShims host c' = hasShims host c := by
    rw [hasShims, respells.root, respells.shim, hasShims]
  rw [report, report, hshims]
  split_ifs with hsome
  · refine ⟨rfl, ?_, ?_, fun _ _ d _ => respells.resolve_eq d.location⟩
    · rw [duplicates_reportOf, duplicates_reportOf, respells.root, shimPrefix_eq respells.shim,
        declared_eq, hpaths, ← declared_eq]
    · rw [warnings_reportOf, warnings_reportOf, respells.root, refused_eq, hpaths, ← refused_eq]
  · exact ⟨rfl, rfl, rfl, fun _ _ d _ => respells.resolve_eq d.location⟩

/-- A project whose shim is generated and published too. -/
def publishedHost : Host :=
  { sampleHost with
    tree := ((FileTree.empty.write ["p", "base", "a.pyi"] (Utf8.encode "x: int\n")).write
      ["p", "shims", "a.pyi"] (Utf8.encode "x: int\n")).write
      ["p", "made", "a.pyi"] (Utf8.encode "x: int\n") }

def publishedConfig : CheckConfig :=
  ⟨⟨.slash, ["p"]⟩, "shims", ["made"], ⟨some "base", none, some "u"⟩, 1⟩

/-- The same directories with needless slashes and points, or in full. -/
def spelledConfig : CheckConfig :=
  ⟨⟨.slash, ["p"]⟩, "./shims//", ["/p/made/"], ⟨some "/p//./base", some "", some "u"⟩, 1⟩

theorem check_respelled_in_full :
    spelledConfig.Respells publishedConfig ∧ publishedConfig.obstacle? = none ∧
    spelledConfig.obstacle? = none ∧
    ∃ report, check publishedHost spelledConfig spelledConfig.layers = .ok report ∧
      report.shimsChecked = true ∧
      (report.duplicates.map fun entry => (entry.1, entry.2.map fun d =>
          d.location.resolve spelledConfig.basePrefix spelledConfig.base.url)) =
        [("a#x", ["u/a.pyi#L1", "shims/a.pyi:1:0-1:6", "made/a.pyi:1:0-1:6"])] := by
  have respells : spelledConfig.Respells publishedConfig :=
    ⟨rfl, by decide +kernel, by decide +kernel, by decide +kernel, rfl, rfl⟩
  have accepted : publishedConfig.obstacle? = none := by decide +kernel
  have accepted' : spelledConfig.obstacle? = none := by decide +kernel
  obtain ⟨plain, report, hplain, hreport, hchecked, hduplicates, -, hshown⟩ :=
    check_respelled publishedHost publishedConfig spelledConfig respells accepted accepted'
  rw [check_of_accepted publishedHost _ accepted] at hplain
  obtain rfl := Except.ok.inj hplain
  refine ⟨respells, accepted, accepted', report, hreport, ?_, ?_⟩
  · rw [hchecked]
    decide +kernel
  · rw [hduplicates]
    refine (List.map_congr_left fun entry hentry => Prod.ext rfl
      (List.map_congr_left (hshown entry hentry))).trans ?_
    decide +kernel

end StubLayers
