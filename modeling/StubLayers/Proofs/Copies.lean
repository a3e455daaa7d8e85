import StubLayers.Proofs.Origin
import StubLayers.Proofs.Tags
import StubLayers.Proofs.Verdict

/-!
# Copied shims

A shim file that stands in another layer too, at the same way down, is wholly redundant: all its
methods and values are reported, whatever else the project declares.

* `shimsAreRedundant_of_covered`: shims are redundant if each of them is covered by another
  occurrence; it does not matter which of them decides.
* `exists_shim_of_tagged`: a declaration that counts as a shim stems from a shim file.
* `exists_copied`: every declaration of a copied shim file has a copy that does not count as one.
* `copied_shim_reported` puts them together.
-/

namespace StubLayers

/-! ### Covered shims -/

theorem two_le_length_of_ne {os : List Occurrence} {o o' : Occurrence} (h : o ∈ os) (h' : o' ∈ os)
    (hne : o ≠ o') : 2 ≤ os.length := by
  match os with
  | [] => exact absurd h List.not_mem_nil
  | [only] =>
    rw [List.mem_singleton] at h h'
    exact absurd (h.trans h'.symm) hne
  | _ :: _ :: rest => exact Nat.le_add_left 2 rest.length

/-- **Covered shims are redundant.** -/
theorem shimsAreRedundant_of_covered {os : List Occurrence} {shims : String}
    (hsome : ∃ o ∈ os, o.IsShim shims)
    (hcovered : ∀ shim ∈ os, shim.IsShim shims → ∃ o ∈ os, o.IsCompared ∧
      o.number ≠ shim.number ∧ shim.declaration.signatures ⊆ o.declaration.signatures) :
    shimsAreRedundant os shims = true := by
  rw [redundant_iff]
  refine ⟨?_, hsome, ?_⟩
  · obtain ⟨shim, hmem, hshim⟩ := hsome
    obtain ⟨o, ho, -, hnumber, -⟩ := hcovered shim hmem hshim
    exact two_le_length_of_ne ho hmem fun he => hnumber (congrArg Occurrence.number he)
  · cases hdeciding : decidingShim os shims with
    | none => exact Or.inl (decidingShim_eq_none_iff.mp hdeciding)
    | some shim =>
      have hdecides : Decides shims os shim := decidingShim_eq_some_iff.mp hdeciding
      exact Or.inr ⟨shim, hdecides, hcovered shim hdecides.mem hdecides.isShim⟩

/-- A copy of a shim that is none itself covers the shim. -/
theorem exists_covering {ds : List Declaration} {shims : String} {o : Occurrence}
    (ho : o ∈ numbered 0 ds) (hshim : o.IsShim shims) {d : Declaration} (hd : d ∈ ds)
    (hsame : d.unplaced = o.declaration.unplaced)
    (huntagged : ¬ shims.toList.isPrefixOf d.location.file.toList = true) :
    ∃ o' ∈ numbered 0 ds, o'.declaration.name = o.declaration.name ∧ o'.IsCompared ∧
      o'.number ≠ o.number ∧ o.declaration.signatures ⊆ o'.declaration.signatures := by
  obtain ⟨o', ho', rfl⟩ := exists_mem_numbered 0 hd
  have hkind : o'.declaration.kind = o.declaration.kind := by
    simpa using congrArg Declaration.kind hsame
  have hsignatures : o'.declaration.signatures = o.declaration.signatures := by
    simpa using congrArg Declaration.signatures hsame
  refine ⟨o', ho', ?_, ?_, ?_, ?_⟩
  · simpa using congrArg Declaration.name hsame
  · rw [Occurrence.IsCompared, hkind]
    exact hshim.1
  · intro hnumber
    rw [eq_of_number_eq ho' ho hnumber] at huntagged
    exact huntagged (List.isPrefixOf_iff_prefix.mpr hshim.2)
  · rw [hsignatures]
    exact List.Subset.refl _

/-! ### A file and its copy -/

open Check

theorem mem_declared_layers {host : Host} {config : CheckConfig} {d : Declaration} :
    d ∈ declared host config.root config.layers ↔
      ∃ dir ∈ config.shimDir :: config.otherDirs,
        ∃ path ∈ findStubFiles host (layerPath config.root dir), ∃ tree,
          loadFile host (layerPath config.root dir) (some config.root) path = .ok tree ∧
            d ∈ tree.walk := by
  simp only [mem_declared, ← CheckConfig.mem_dirs_layers, List.mem_map, exists_exists_and_eq_and]

section

variable {host : Host} {config : CheckConfig} (accepted : config.obstacle? = none)
  (relative : ∀ dir ∈ config.shimDir :: config.otherDirs, (Path.ofString dir).isAbsolute = false)

include accepted relative

/-- What is tagged is declared in the shim layer. -/
theorem exists_shim_of_tagged {d : Declaration}
    (hd : d ∈ declared host config.root config.layers)
    (htag : config.tags d.location.file = true) :
    ∃ path ∈ findStubFiles host (layerPath config.root config.shimDir), ∃ tree,
      loadFile host (layerPath config.root config.shimDir) (some config.root) path = .ok tree ∧
        d ∈ tree.walk := by
  obtain ⟨dir, hdir, path, hpath, tree, hload, hd⟩ := mem_declared_layers.mp hd
  rw [file_loadFile hload d hd] at htag
  obtain rfl := (CheckConfig.tags_iff accepted relative hdir hpath).mp htag
  exact ⟨path, hpath, tree, hload, hd⟩

/-- The declarations of a shim file are tagged. -/
theorem tags_of_shim {path : Path}
    (hpath : path ∈ findStubFiles host (layerPath config.root config.shimDir))
    {tree : DeclarationTree} (hload : loadFile host (layerPath config.root config.shimDir)
      (some config.root) path = .ok tree) {d : Declaration} (hd : d ∈ tree.walk) :
    config.tags d.location.file = true := by
  rw [file_loadFile hload d hd]
  exact (CheckConfig.tags_iff accepted relative List.mem_cons_self hpath).mpr rfl

/-- Every declaration of a shim file with a copy has an untagged copy. -/
theorem exists_copied {p : Components} (down : ".." ∉ p)
    (stub : isStubName (p.getLastD "") = true) {text : String}
    (shim : host.readText ((layerPath config.root config.shimDir).join ⟨.relative, p⟩) = .ok text)
    {other : String} (hother : other ∈ config.otherDirs)
    (copy : host.readText ((layerPath config.root other).join ⟨.relative, p⟩) = .ok text)
    {tree : DeclarationTree} (hload : loadFile host (layerPath config.root config.shimDir)
      (some config.root) ((layerPath config.root config.shimDir).join ⟨.relative, p⟩) = .ok tree)
    {d : Declaration} (hd : d ∈ tree.walk) :
    ∃ d' ∈ declared host config.root config.layers,
      d'.unplaced = d.unplaced ∧ ¬ config.tags d'.location.file = true := by
  have hlayer : other ∈ config.shimDir :: config.otherDirs := List.mem_cons_of_mem _ hother
  obtain ⟨tree', hload', hwalk⟩ := loadFile_copy shim copy hload
  have hmem : d.unplaced ∈ tree'.walk.map Declaration.unplaced := by
    rw [hwalk]
    exact List.mem_map_of_mem hd
  obtain ⟨d', hd', hsame⟩ := List.mem_map.mp hmem
  have hfound := mem_findStubFiles_of_readText down stub copy
  refine ⟨d', mem_declared_layers.mpr ⟨other, hlayer, _, hfound, tree', hload', hd'⟩, hsame, ?_⟩
  rw [file_loadFile hload' d' hd']
  exact CheckConfig.not_tags_other (relative _ List.mem_cons_self) accepted hother
    (relative other hlayer) hfound

end

/-- **Copied shims are reported.**  If a shim file has a copy in another layer, at the same way `p`
down from its directory, then every method and value of it is reported, as long as no other shim
file declares the name. -/
theorem copied_shim_reported (host : Host) (config : CheckConfig)
    (accepted : config.obstacle? = none)
    (relative : ∀ dir ∈ config.shimDir :: config.otherDirs,
      (Path.ofString dir).isAbsolute = false)
    (p : Components) (down : ".." ∉ p) (stub : isStubName (p.getLastD "") = true) (text : String)
    (shim : host.readText ((layerPath config.root config.shimDir).join ⟨.relative, p⟩) = .ok text)
    (other : String) (hother : other ∈ config.otherDirs)
    (copy : host.readText ((layerPath config.root other).join ⟨.relative, p⟩) = .ok text)
    (tree : DeclarationTree)
    (parses : loadFile host (layerPath config.root config.shimDir) (some config.root)
      ((layerPath config.root config.shimDir).join ⟨.relative, p⟩) = .ok tree)
    (d : Declaration) (hd : d ∈ tree.walk) (compared : d.kind = .method ∨ d.kind = .attr)
    (alone : ∀ path ∈ findStubFiles host (layerPath config.root config.shimDir),
      path ≠ (layerPath config.root config.shimDir).join ⟨.relative, p⟩ →
      ∀ tree', loadFile host (layerPath config.root config.shimDir) (some config.root) path =
        .ok tree' → ∀ d' ∈ tree'.walk, d'.name ≠ d.name) :
    ∃ report, check host config config.layers = .ok report ∧
      d.name ∈ report.duplicates.map (·.1) := by
  have hfound := mem_findStubFiles_of_readText down stub shim
  have hdeclared : d ∈ declared host config.root config.layers :=
    mem_declared_layers.mpr ⟨config.shimDir, List.mem_cons_self, _, hfound, tree, parses, hd⟩
  have hshims : hasShims host config = true := hasShims_iff.mpr (List.ne_nil_of_mem hfound)
  refine ⟨_, check_of_accepted host config.layers accepted, ?_⟩
  rw [report, if_pos hshims, duplicates_reportOf, mem_redundantNames]
  refine ⟨List.mem_map_of_mem hdeclared, shimsAreRedundant_of_covered ?_ ?_⟩
  · obtain ⟨o, ho, rfl⟩ := exists_mem_numbered 0 hdeclared
    have htag := tags_of_shim accepted relative hfound parses hd
    rw [CheckConfig.tags, List.isPrefixOf_iff_prefix] at htag
    exact ⟨o, mem_named.mpr ⟨ho, rfl⟩, compared, htag⟩
  · intro o ho hshim
    have htag : config.tags o.declaration.location.file = true := by
      rw [CheckConfig.tags, List.isPrefixOf_iff_prefix]
      exact hshim.2
    obtain ⟨hmem, hname⟩ := mem_named.mp ho
    -- no other shim file has the name, so the shim stems from the copied file
    have hwalk : o.declaration ∈ tree.walk := by
      obtain ⟨path, hpath, tree', hload', hwalk'⟩ :=
        exists_shim_of_tagged accepted relative (mem_of_mem_numbered hmem) htag
      by_cases hfile : path = (layerPath config.root config.shimDir).join ⟨.relative, p⟩
      · rw [hfile, parses] at hload'
        rw [Except.ok.inj hload']
        exact hwalk'
      · exact absurd hname (alone path hpath hfile tree' hload' _ hwalk')
    obtain ⟨d', hd', hsame, huntagged⟩ :=
      exists_copied accepted relative down stub shim hother copy parses hwalk
    obtain ⟨o', ho', hname', hcovering⟩ := exists_covering hmem hshim hd' hsame huntagged
    exact ⟨o', mem_named.mpr ⟨ho', hname'.trans hname⟩, hcovering⟩

/-- A class that declares one name as a value and as a group of overloads. -/
def copiedText : String :=
  "class C:\n if v:\n  f: int\n else:\n" ++
    "  @overload\n  def f(a: int): ...\n  @overload\n  def f(): ...\n"

def copiedHost : Host :=
  { sampleHost with
    tree := (FileTree.empty.write ["p", "shims", "q-stubs", "a.pyi"] (Utf8.encode copiedText)).write
      ["p", "made", "q-stubs", "a.pyi"] (Utf8.encode copiedText) }

theorem copied_shim_reported_class :
    sampleConfig.obstacle? = none ∧
    ∃ report, check copiedHost sampleConfig sampleConfig.layers = .ok report ∧
      "q.a.C#f" ∈ report.duplicates.map (·.1) := by
  have accepted : sampleConfig.obstacle? = none := by decide
  have hfiles : findStubFiles copiedHost (layerPath sampleConfig.root sampleConfig.shimDir) =
      [(layerPath sampleConfig.root sampleConfig.shimDir).join
        ⟨.relative, ["q-stubs", "a.pyi"]⟩] := by
    decide +kernel
  have hany : (outcomeDeclarations (loadFile copiedHost
      (layerPath sampleConfig.root sampleConfig.shimDir) (some sampleConfig.root)
      ((layerPath sampleConfig.root sampleConfig.shimDir).join
        ⟨.relative, ["q-stubs", "a.pyi"]⟩))).any
      (fun d => d.name = "q.a.C#f" && d.kind = .method) = true := by
    decide +kernel
  obtain ⟨d, hd, hprop⟩ := List.any_eq_true.mp hany
  obtain ⟨hname, hkind⟩ : d.name = "q.a.C#f" ∧ d.kind = .method := by simpa using hprop
  obtain ⟨tree, parses, hd⟩ := mem_outcomeDeclarations.mp hd
  obtain ⟨report, hreport, hreported⟩ := copied_shim_reported copiedHost sampleConfig accepted
    (by decide +kernel) ["q-stubs", "a.pyi"] (by decide) (by decide) copiedText
    (by decide +kernel) "made" (by decide) (by decide +kernel) tree parses d hd (Or.inl hkind)
    (by
      intro path hpath hne
      rw [hfiles, List.mem_singleton] at hpath
      exact absurd hpath hne)
  exact ⟨accepted, report, hreport, hname ▸ hreported⟩

end StubLayers
