import StubLayers.Proofs.Interleaving
import StubLayers.Proofs.Listing
import StubLayers.Proofs.Provenance

/-!
# Projects that grow

Files are added to a project and further layers are generated.  This file says what a check finds
then: as long as the shims stay what they are, nothing that was reported is lost.

* `Host.Grows`: all files and directories are kept.  Then paths lead where they led, and old files
  give what they gave (`Grows.locate`, `Grows.loadFile_eq`).
* `Check.interleaved_declared`: what the layers declare afterwards is what they declared before,
  with declarations of other files in between that are no shims.
* `duplicates_kept`: additions that are no shims take no finding back, in an index and in a check.
* `added_stub_hides_duplicate`: a directory that is spelled with `..` can lead into the shims; a
  stub that is added there is a shim as well, and a finding is lost.
-/

namespace StubLayers

/-! ### Files that stay -/

theorem FileTree.IsFile.exists_bytes {t : FileTree} {place : Components} (h : t.IsFile place) :
    ∃ bytes, t.bytes? place = some bytes := by
  obtain ⟨hmem, hdir⟩ := h
  obtain ⟨entry, hentry, rfl⟩ := List.mem_map.mp hmem
  have hfound : (t.files.find? (·.1 = entry.1)).isSome = true :=
    List.find?_isSome.mpr ⟨entry, hentry, by simp⟩
  obtain ⟨found, hfound⟩ := Option.isSome_iff_exists.mp hfound
  exact ⟨found.2, by rw [bytes?, hdir, if_neg (by simp), hfound, Option.map_some]⟩

/-- The second host has all files and directories of the first one. -/
structure Host.Grows (host host' : Host) : Prop where
  cwd_eq : host'.cwd = host.cwd
  bytes_eq : ∀ place bytes, host.tree.bytes? place = some bytes →
    host'.tree.bytes? place = some bytes
  isDirectory : ∀ place, host.tree.isDirectory place = true → host'.tree.isDirectory place = true

namespace Host.Grows

variable {host host' : Host} (grows : host.Grows host')

include grows

theorem isFile {place : Components} (h : host.tree.IsFile place) : host'.tree.IsFile place := by
  obtain ⟨bytes, hbytes⟩ := h.exists_bytes
  exact FileTree.isFile_of_bytes? (grows.bytes_eq place bytes hbytes)

theorem follow {place final : Components} {parts : List String}
    (h : Host.follow host.tree place parts = .ok final) :
    Host.follow host'.tree place parts = .ok final := by
  induction parts generalizing place with
  | nil => exact h
  | cons part rest ih =>
    rw [Host.follow] at h ⊢
    by_cases hd : host.tree.isDirectory place = true
    · rw [if_pos hd] at h
      rw [if_pos (grows.isDirectory place hd)]
      exact ih h
    · rw [if_neg hd] at h
      split at h <;> exact absurd h (by simp)

/-- **Paths lead where they led.** -/
theorem locate {path : Path} {place : Components} (h : host.locate path = .ok place) :
    host'.locate path = .ok place := by
  rw [Host.locate, Host.start] at h ⊢
  rw [grows.cwd_eq]
  exact grows.follow h

theorem findStubFiles_sublist (dir : Path) :
    (findStubFiles host dir).Sublist (findStubFiles host' dir) := by
  refine StubLayers.findStubFiles_sublist fun path hpath => ?_
  obtain ⟨top, rel, htop, hrel, hfile, hstub, rfl⟩ := mem_findStubFiles.mp hpath
  exact mem_findStubFiles.mpr
    ⟨top, rel, grows.locate htop, hrel, grows.isFile hfile, hstub, rfl⟩

theorem readText_eq {path : Path} {place : Components} (hplace : host.locate path = .ok place)
    (hfile : host.tree.IsFile place) : host'.readText path = host.readText path := by
  obtain ⟨bytes, hbytes⟩ := hfile.exists_bytes
  have hbytes' := grows.bytes_eq place bytes hbytes
  have hread : ∀ {h : Host}, h.locate path = .ok place → h.tree.isDirectory place = false →
      h.tree.bytes? place = some bytes → h.readBytes path = .ok bytes := by
    intro h hl hd hb
    simp [Host.readBytes, hl, hd, hb]
  rw [Host.readText, Host.readText, hread hplace hfile.2 hbytes,
    hread (grows.locate hplace) (grows.isFile hfile).2 hbytes']

/-- **Old files give what they gave.** -/
theorem loadFile_eq {dir path : Path} (base : Option Path) (h : path ∈ findStubFiles host dir) :
    loadFile host' dir base path = loadFile host dir base path := by
  obtain ⟨top, rel, htop, -, hfile, -, rfl⟩ := mem_findStubFiles.mp h
  rw [loadFile, loadFile, parseFile, parseFile, grows.readText_eq (locate_stub htop hfile) hfile]

end Host.Grows

/-! ### A new file -/

namespace FileTree

variable {t : FileTree} {place : Components} (fresh : place ∉ t.files.map (·.1))
  (named : place.all isEntryName = true) (bytes : List UInt8)

include fresh named

theorem files_write : (t.write place bytes).files = t.files ++ [(place, bytes)] := by
  rw [write, dif_neg fresh, dif_pos named]

theorem isDirectory_write (top : Components) :
    (t.write place bytes).isDirectory top = (t.isDirectory top || isBelow place top) := by
  have hfolders : (t.write place bytes).folders = t.folders := by
    rw [write, dif_neg fresh, dif_pos named]
  rw [isDirectory, isDirectory, files_write fresh named bytes, hfolders, List.any_append]
  simp only [List.any_cons, List.any_nil, Bool.or_false]
  ac_rfl

theorem isFile_write {other : Components} (h : (t.write place bytes).IsFile other) :
    t.IsFile other ∨ other = place := by
  obtain ⟨hmem, hdir⟩ := h
  rw [files_write fresh named bytes, List.map_append, List.mem_append, List.map_singleton,
    List.mem_singleton] at hmem
  rw [isDirectory_write fresh named bytes, Bool.or_eq_false_iff] at hdir
  exact hmem.imp_left fun hmem => ⟨hmem, hdir.1⟩

end FileTree

/-- A host grows by a file that stands below no other file. -/
theorem Host.grows_write {host : Host} {place : Components}
    (fresh : place ∉ host.tree.files.map (·.1)) (named : place.all isEntryName = true)
    (clear : ∀ file ∈ host.tree.files.map (·.1), FileTree.isBelow place file = false)
    (bytes : List UInt8) : host.Grows { host with tree := host.tree.write place bytes } := by
  refine ⟨rfl, ?_, ?_⟩
  · intro file content h
    obtain ⟨hmem, hdir⟩ := FileTree.isFile_of_bytes? h
    rw [FileTree.bytes?, hdir, if_neg (by simp), Option.map_eq_some_iff] at h
    obtain ⟨entry, hfound, rfl⟩ := h
    rw [FileTree.bytes?, FileTree.isDirectory_write fresh named, hdir, clear file hmem,
      if_neg (by simp), FileTree.files_write fresh named, List.find?_append, hfound, Option.some_or,
      Option.map_some]
  · intro top htop
    rw [FileTree.isDirectory_write fresh named, htop, Bool.true_or]

/-! ### What grown layers declare -/

namespace Check

/-- No new file is loaded through the shims. -/
def ShimsKept (host host' : Host) (config : CheckConfig) : Prop :=
  ∀ place, host'.Loads (layerPath config.root config.shimDir) place → host.tree.IsFile place

/-- Every new file is loaded through a layer that is not that of the shims. -/
def AddedBeside (host host' : Host) (config : CheckConfig) : Prop :=
  ∀ place, host'.tree.IsFile place → host.tree.IsFile place ∨
    ∃ dir ∈ config.otherDirs, host'.Loads (layerPath config.root dir) place

theorem declared_layer (host : Host) (root : Path) (layer : Layer) :
    declared host root [layer] =
      (findStubFiles host (layerPath root layer.dir)).flatMap fun path =>
        outcomeDeclarations (loadFile host (layerPath root layer.dir) (some root) path) := by
  rw [declared, List.flatMap_singleton, layerOutcomes, List.flatMap_map]

theorem declared_eq_flatMap (host : Host) (root : Path) (layers : List Layer) :
    declared host root layers = layers.flatMap fun layer => declared host root [layer] := by
  simp only [declared, List.flatMap_singleton]

section

variable {config : CheckConfig} (accepted : config.obstacle? = none)
  (relative : ∀ dir ∈ config.shimDir :: config.otherDirs, (Path.ofString dir).isAbsolute = false)

include accepted relative

/-- What is declared beside the shims is untagged. -/
theorem not_tags_declared (host : Host) {layer : Layer} (hlayer : layer ∈ config.layers)
    (hkind : layer.kind ≠ .shim) :
    ∀ d ∈ declared host config.root [layer], config.tags d.location.file = false := by
  intro d hd
  obtain ⟨_, hmem, path, hpath, tree, hload, hwalk⟩ := mem_declared.mp hd
  obtain rfl := List.mem_singleton.mp hmem
  have hother := CheckConfig.mem_otherDirs_of_layer hlayer hkind
  rw [file_loadFile hload d hwalk, ← Bool.not_eq_true]
  exact CheckConfig.not_tags_other (relative _ List.mem_cons_self) accepted hother
    (relative _ (List.mem_cons_of_mem _ hother)) hpath

/-- Directories that never go up keep new files of other layers out of the shims. -/
theorem shimsKept_of_down {host host' : Host}
    (down : ∀ dir ∈ config.shimDir :: config.otherDirs, ".." ∉ (Path.ofString dir).parts)
    (added : AddedBeside host host' config) : ShimsKept host host' config := by
  intro place hplace
  obtain ⟨-, -, -, -, -, hfile, -⟩ := Host.loads_iff.mp hplace
  refine (added place hfile).resolve_right ?_
  rintro ⟨dir, hdir, hloads⟩
  obtain ⟨a, b, ha, hb, hab⟩ := Host.loads_both_iff.mp ⟨place, hplace, hloads⟩
  have hmem : dir ∈ config.shimDir :: config.otherDirs := List.mem_cons_of_mem _ hdir
  have halike : ¬ (Path.ofString config.shimDir).SpelledApart (Path.ofString dir) := by
    rintro (hanchor | hup | hup)
    · apply hanchor
      rw [Path.anchor_of_relative (relative _ List.mem_cons_self),
        Path.anchor_of_relative (relative dir hmem)]
    · exact down _ List.mem_cons_self hup
    · exact down dir hmem hup
  have hover := overlaps_of_prefix halike ha hb (hab.imp And.left And.left)
  rw [CheckConfig.not_overlaps_of_accepted accepted hdir] at hover
  exact absurd hover (by simp)

end

section

variable {host host' : Host} (grows : host.Grows host')

include grows

/-- The shim layer is what it was if it had a stub and no new file is loaded through it. -/
theorem findStubFiles_shims_eq {config : CheckConfig} (kept : ShimsKept host host' config)
    (hsome : findStubFiles host (layerPath config.root config.shimDir) ≠ []) :
    findStubFiles host' (layerPath config.root config.shimDir) =
      findStubFiles host (layerPath config.root config.shimDir) := by
  obtain ⟨old, hold⟩ := List.exists_mem_of_ne_nil _ hsome
  obtain ⟨top, -, htop, -⟩ := mem_findStubFiles.mp hold
  refine List.Sublist.antisymm (findStubFiles_sublist fun path hpath => ?_)
    (grows.findStubFiles_sublist _)
  obtain ⟨top', rel, htop', hrel, hfile, hstub, rfl⟩ := mem_findStubFiles.mp hpath
  -- the directory was there before, so it still leads to the same place
  obtain rfl : top = top' := Except.ok.inj ((grows.locate htop).symm.trans htop')
  exact mem_findStubFiles.mpr
    ⟨top, rel, htop, hrel, kept _ ⟨_, hpath, locate_stub htop' hfile⟩, hstub, rfl⟩

/-- Old files declare the same when they are read on the grown host. -/
theorem declared_old_files (root : Path) (layer : Layer) :
    declared host root [layer] =
      (findStubFiles host (layerPath root layer.dir)).flatMap fun path =>
        outcomeDeclarations (loadFile host' (layerPath root layer.dir) (some root) path) := by
  rw [declared_layer, List.flatMap, List.flatMap]
  refine congrArg List.flatten (List.map_congr_left fun path hpath => ?_)
  rw [grows.loadFile_eq _ hpath]

variable {config : CheckConfig} (accepted : config.obstacle? = none)
  (relative : ∀ dir ∈ config.shimDir :: config.otherDirs, (Path.ofString dir).isAbsolute = false)

include accepted relative

theorem interleaved_declared_layer (kept : ShimsKept host host' config)
    (hsome : findStubFiles host (layerPath config.root config.shimDir) ≠ []) {layer : Layer}
    (hlayer : layer ∈ config.layers) :
    Interleaved (fun d => config.tags d.location.file = false)
      (declared host config.root [layer]) (declared host' config.root [layer]) := by
  by_cases hkind : layer.kind = .shim
  · have hfiles := findStubFiles_shims_eq grows kept hsome
    rw [← CheckConfig.dir_of_shim_layer hlayer hkind] at hfiles
    rw [declared_old_files grows, declared_layer host', hfiles]
    exact Interleaved.refl _
  · have huntagged := not_tags_declared accepted relative host' hlayer hkind
    rw [declared_layer] at huntagged
    rw [declared_old_files grows, declared_layer host']
    refine Interleaved.flatMap_sublist (grows.findStubFiles_sublist _) fun path hpath d hd => ?_
    exact huntagged d (List.mem_flatMap.mpr ⟨path, hpath, hd⟩)

/-- **What comes in between is no shim.** -/
theorem interleaved_declared (kept : ShimsKept host host' config)
    (hsome : findStubFiles host (layerPath config.root config.shimDir) ≠ [])
    {layers more : List Layer} (hlayers : config.layers = layers ++ more)
    (hmore : ∀ layer ∈ more, layer.kind ≠ .shim) :
    Interleaved (fun d => config.tags d.location.file = false)
      (declared host config.root layers) (declared host' config.root config.layers) := by
  have hold : Interleaved (fun d => config.tags d.location.file = false)
      (declared host config.root layers) (declared host' config.root layers) := by
    rw [declared_eq_flatMap host, declared_eq_flatMap host']
    refine Interleaved.flatMap fun layer hlayer => ?_
    exact interleaved_declared_layer grows accepted relative kept hsome
      (hlayers ▸ List.mem_append_left more hlayer)
  have hnew : ∀ d ∈ declared host' config.root more, config.tags d.location.file = false := by
    intro d hd
    rw [declared_eq_flatMap, List.mem_flatMap] at hd
    obtain ⟨layer, hlayer, hd⟩ := hd
    exact not_tags_declared accepted relative host'
      (hlayers ▸ List.mem_append_right layers hlayer) (hmore layer hlayer) d hd
  rw [hlayers, declared_append]
  simpa using hold.append (Interleaved.of_forall hnew)

end

theorem keys_report {host : Host} {config : CheckConfig} (layers : List Layer)
    (hsome : findStubFiles host (layerPath config.root config.shimDir) ≠ []) :
    (report host config layers).duplicates.map (·.1) =
      (findDuplicates (indexOf (layers.map (loadLayer host config.root)))
        (shimPrefix config.shimDir config.root)).map (·.1) := by
  rw [report, if_pos (hasShims_iff.mpr hsome), reportOf, List.map_map]
  rfl

end Check

/-! ### Checks of a project that grows -/

open Check

/-- The configuration with further generated layers. -/
def CheckConfig.generating (config : CheckConfig) (more : List String) : CheckConfig :=
  { config with generatedDirs := config.generatedDirs ++ more }

namespace CheckConfig

theorem layers_generating (config : CheckConfig) (more : List String) :
    (config.generating more).layers = config.layers ++ more.map (Layer.mk .generated) := by
  rw [generating, layers, layers, List.map_append, List.append_assoc, List.cons_append]
  rfl

theorem accepted_of_generating {config : CheckConfig} {more : List String}
    (accepted : (config.generating more).obstacle? = none) : config.obstacle? = none := by
  rw [obstacle?] at accepted ⊢
  split_ifs at accepted with hjobs
  rw [if_neg (show ¬ config.jobs < 1 from hjobs)]
  rw [Option.map_eq_none_iff, List.find?_eq_none] at accepted ⊢
  intro dir hdir
  refine accepted dir ?_
  rw [otherDirs, List.mem_append] at hdir ⊢
  exact hdir.imp_left (List.mem_append_left more)

end CheckConfig

/-- Every reported name is reported again. -/
theorem mem_duplicates_of_grows {host host' : Host} (grows : host.Grows host')
    {config : CheckConfig} {more : List String}
    (accepted : (config.generating more).obstacle? = none)
    (relative : ∀ dir ∈ config.shimDir :: (config.generating more).otherDirs,
      (Path.ofString dir).isAbsolute = false)
    (kept : ShimsKept host host' config) {key : String}
    (hkey : key ∈ (report host config config.layers).duplicates.map (·.1)) :
    key ∈ (report host' (config.generating more)
      (config.generating more).layers).duplicates.map (·.1) := by
  by_cases hsome : findStubFiles host (layerPath config.root config.shimDir) = []
  · -- without shims nothing was reported
    rw [report, if_neg fun h => hasShims_iff.mp h hsome] at hkey
    exact absurd hkey List.not_mem_nil
  · have hsome' : findStubFiles host' (layerPath (config.generating more).root
        (config.generating more).shimDir) ≠ [] := by
      obtain ⟨path, hpath⟩ := List.exists_mem_of_ne_nil _ hsome
      exact List.ne_nil_of_mem ((grows.findStubFiles_sublist _).subset hpath)
    have hbetween := interleaved_declared grows accepted relative kept hsome
      (CheckConfig.layers_generating config more) (by simp)
    rw [keys_report _ hsome] at hkey
    rw [keys_report _ hsome']
    exact mem_duplicates_of_interleaved_numbered hbetween
      (lists_indexOf host config.root config.layers) (lists_indexOf host' _ _) hkey

/-- **Additions that are no shims take no finding back.**  In an index this holds for whatever is
interleaved, be the occurrences kept as they are or numbered anew.  In a check it holds for new
files and for further generated layers, as long as no new file is loaded through the shims; new
files of other layers are not, unless a directory is spelled with `..`. -/
theorem duplicates_kept (shims : String) (host host' : Host) (config : CheckConfig)
    (more : List String) :
    (∀ (os os' : List Occurrence) (index index' : Index),
      Interleaved (fun o => o.isOverride shims = false) os os' →
      index.Lists os → index'.Lists os' →
      ∀ key ∈ (findDuplicates index shims).map (·.1),
        key ∈ (findDuplicates index' shims).map (·.1)) ∧
    (∀ ds es : List Declaration,
      Interleaved (fun d => shims.toList.isPrefixOf d.location.file.toList = false) ds es →
      ∀ key ∈ (findDuplicates (Index.empty.addAll ds) shims).map (·.1),
        key ∈ (findDuplicates (Index.empty.addAll es) shims).map (·.1)) ∧
    ((config.generating more).obstacle? = none →
      (∀ dir ∈ config.shimDir :: (config.generating more).otherDirs,
        (Path.ofString dir).isAbsolute = false) →
      (host.Grows host' → ShimsKept host host' config →
        ∃ report report', check host config config.layers = .ok report ∧
          check host' (config.generating more) (config.generating more).layers = .ok report' ∧
          ∀ key ∈ report.duplicates.map (·.1), key ∈ report'.duplicates.map (·.1)) ∧
      ((∀ dir ∈ config.shimDir :: (config.generating more).otherDirs,
          ".." ∉ (Path.ofString dir).parts) →
        AddedBeside host host' (config.generating more) → ShimsKept host host' config)) := by
  refine ⟨?_, ?_, fun accepted relative => ⟨?_, ?_⟩⟩
  · intro os os' index index' h hindex hindex' key
    exact mem_duplicates_of_interleaved h hindex hindex'
  · intro ds es h key
    exact mem_duplicates_of_interleaved_numbered h (Index.lists_empty.addAll ds)
      (Index.lists_empty.addAll es)
  · intro grows kept
    refine ⟨_, _, check_of_accepted host _ (CheckConfig.accepted_of_generating accepted),
      check_of_accepted host' _ accepted, ?_⟩
    intro key hkey
    exact mem_duplicates_of_grows grows accepted relative kept hkey
  · intro down added
    exact shimsKept_of_down accepted relative down added

/-- The sample project with one more layer, which declares the shim's name with another type. -/
def lateHost : Host :=
  { sampleHost with
    tree := sampleHost.tree.write ["p", "late", "a.pyi"] (Utf8.encode "x: str\n") }

theorem grows_late : sampleHost.Grows lateHost :=
  Host.grows_write (by decide) (by decide) (by decide) _

theorem duplicates_kept_late :
    (sampleConfig.generating ["late"]).obstacle? = none ∧ sampleHost.Grows lateHost ∧
    ShimsKept sampleHost lateHost sampleConfig ∧
    ∃ report, check lateHost (sampleConfig.generating ["late"])
        (sampleConfig.generating ["late"]).layers = .ok report ∧
      "a#x" ∈ report.duplicates.map (·.1) := by
  have accepted : (sampleConfig.generating ["late"]).obstacle? = none := by decide
  have relative : ∀ dir ∈ sampleConfig.shimDir :: (sampleConfig.generating ["late"]).otherDirs,
      (Path.ofString dir).isAbsolute = false := by decide
  have added : AddedBeside sampleHost lateHost (sampleConfig.generating ["late"]) := by
    intro place hplace
    refine (FileTree.isFile_write (by decide) (by decide) _ hplace).imp_right ?_
    rintro rfl
    exact ⟨"late", by decide, ⟨.slash, ["p", "late", "a.pyi"]⟩, by decide +kernel,
      by decide +kernel⟩
  obtain ⟨-, -, hcheck⟩ := duplicates_kept "" sampleHost lateHost sampleConfig ["late"]
  obtain ⟨hrun, hshims⟩ := hcheck accepted relative
  have kept := hshims (by decide) added
  obtain ⟨before, after, hbefore, hafter, hkeys⟩ := hrun grows_late kept
  refine ⟨accepted, grows_late, kept, after, hafter, hkeys _ ?_⟩
  obtain rfl : _ = before :=
    Except.ok.inj ((check_of_accepted sampleHost _ (by decide)).symm.trans hbefore)
  decide +kernel

/-- A shim that is generated too, in a project that generates a layer inside the shim directory. -/
def detourHost : Host :=
  { sampleHost with
    tree := (FileTree.empty.write ["p", "s", "q", "c.pyi"] (Utf8.encode "x: int\n")).write
      ["p", "gen", "q", "c.pyi"] (Utf8.encode "x: int\n") }

def detourConfig : CheckConfig :=
  { sampleConfig with shimDir := "s", generatedDirs := ["gen", "gen/../s/q-stubs"] }

/-- The same project when the inner layer has a stub. -/
def hidingHost : Host :=
  { detourHost with
    tree := detourHost.tree.write ["p", "s", "q-stubs", "c.pyi"] (Utf8.encode "x: str\n") }

/-- The new stub is listed before the old one. -/
theorem findStubFiles_hiding :
    findStubFiles hidingHost (layerPath detourConfig.root detourConfig.shimDir) =
      [⟨.slash, ["p", "s", "q-stubs", "c.pyi"]⟩, ⟨.slash, ["p", "s", "q", "c.pyi"]⟩] :=
  findStubFiles_eq ["p", "s"] [["q-stubs", "c.pyi"], ["q", "c.pyi"]] (by decide +kernel)
    (by decide +kernel) (by decide +kernel)

/-- It decides, and nothing else has its type. -/
theorem keys_hiding :
    (report hidingHost detourConfig detourConfig.layers).duplicates.map (·.1) = [] := by
  have hsome : findStubFiles hidingHost (layerPath detourConfig.root detourConfig.shimDir) ≠ [] := by
    rw [findStubFiles_hiding]
    exact List.cons_ne_nil _ _
  rw [report, if_pos (hasShims_iff.mpr hsome), duplicates_reportOf]
  have hlayers : detourConfig.layers = ⟨.shim, detourConfig.shimDir⟩ ::
      [⟨.generated, "gen"⟩, ⟨.generated, "gen/../s/q-stubs"⟩] := rfl
  rw [hlayers, declared_cons, declared_layer, findStubFiles_hiding]
  decide +kernel

/-- **A stub in another layer can hide a finding.**  If the layer leads into the shims, the stub is
a shim as well; if it comes first, it decides. -/
theorem added_stub_hides_duplicate :
    (¬ ∀ (host host' : Host) (config : CheckConfig) (more : List String),
        (config.generating more).obstacle? = none →
        (∀ dir ∈ config.shimDir :: (config.generating more).otherDirs,
          (Path.ofString dir).isAbsolute = false) →
        host.Grows host' → AddedBeside host host' (config.generating more) →
        ∃ report report', check host config config.layers = .ok report ∧
          check host' (config.generating more) (config.generating more).layers = .ok report' ∧
          ∀ key ∈ report.duplicates.map (·.1), key ∈ report'.duplicates.map (·.1)) ∧
    ∃ report report', check detourHost detourConfig detourConfig.layers = .ok report ∧
      check hidingHost detourConfig detourConfig.layers = .ok report' ∧
      report.duplicates.map (·.1) = ["q.c#x"] ∧ report'.duplicates.map (·.1) = [] := by
  have accepted : detourConfig.obstacle? = none := by decide
  have hbefore := check_of_accepted detourHost detourConfig.layers accepted
  have hafter := check_of_accepted hidingHost detourConfig.layers accepted
  have hfound : (report detourHost detourConfig detourConfig.layers).duplicates.map (·.1) =
      ["q.c#x"] := by decide +kernel
  refine ⟨fun hclaim => ?_, _, _, hbefore, hafter, hfound, keys_hiding⟩
  have grows : detourHost.Grows hidingHost :=
    Host.grows_write (by decide) (by decide) (by decide) _
  have added : AddedBeside detourHost hidingHost (detourConfig.generating []) := by
    intro place hplace
    refine (FileTree.isFile_write (by decide) (by decide) _ hplace).imp_right ?_
    rintro rfl
    exact ⟨"gen/../s/q-stubs", by decide, ⟨.slash, ["p", "gen", "..", "s", "q-stubs", "c.pyi"]⟩,
      by decide +kernel, by decide +kernel⟩
  obtain ⟨before, after, hbefore', hafter', hkeys⟩ :=
    hclaim detourHost hidingHost detourConfig [] (by decide) (by decide) grows added
  obtain rfl := Except.ok.inj (hbefore.symm.trans hbefore')
  obtain rfl := Except.ok.inj (hafter.symm.trans hafter')
  have hmem := hkeys "q.c#x" (by rw [hfound]; exact List.mem_cons_self)
  rw [keys_hiding] at hmem
  exact absurd hmem List.not_mem_nil

end StubLayers
