import StubLayers.Check
import StubLayers.Proofs.Index

/-!
# What a check reports

A check loads layer after layer into one index, logs that, and searches the index.  This file says
what comes out, with no log and no index in between.

* `Check.report`, `Check.records`: what a check reports and logs if it reads all layers on one
  machine.  It does so where its log is not read back (`Check.Unread`): `Check.takeIn_run` is the
  step, `Check.mapM_takeIn` and `Check.run_of_unread` are the runs.
* `Check.topLevel`: what the files of the layers declare themselves, layer by layer, file by file; a
  file that is refused declares nothing.  `Check.declared` adds what is nested in it.
* `Check.refused`: the warnings about refused files, in the same order.
* `Check.duplicates_reportOf`: the reported names are those of `declared` whose occurrences hold
  redundant shims, by first occurrence, each with all its declarations.
* `check_reports` puts the parts together.
-/

namespace StubLayers

/-! ### The log of a check -/

namespace Log

theorem Transcript.logAll_append (stamp : String) (t : Transcript) (rs rs' : List Record) :
    t.logAll stamp (rs ++ rs') = (t.logAll stamp rs).logAll stamp rs' := List.foldl_append

/-- Without sinks nothing is written. -/
theorem session_logAll_start (stamp : String) (host : Host) (rs : List Record) :
    ((Transcript.start (.start host)).logAll stamp rs).session = .start host := by
  induction rs using List.reverseRecOn with
  | nil => rfl
  | append_singleton rs r ih =>
    rw [Transcript.logAll_append]
    show (((Transcript.start (.start host)).logAll stamp rs).session).emit stamp r = _
    rw [ih, Session.emit]
    split_ifs <;> rfl

end Log

namespace Check

/-- What is logged about a layer. -/
def layerRecords (root : Path) (layer : Layer) (result : LoadResult) : List Log.Record :=
  announcement layer :: loadedRecords root layer result

/-- The report of a check that reads all layers on one machine. -/
def report (host : Host) (config : CheckConfig) (layers : List Layer) : Report :=
  if hasShims host config then reportOf config (layers.map (loadLayer host config.root))
  else nothingToCheck config

/-- What such a check logs. -/
def records (host : Host) (config : CheckConfig) (layers : List Layer) : List Log.Record :=
  if hasShims host config then
    layers.flatMap (fun layer =>
      layerRecords config.root layer (loadLayer host config.root layer)) ++
      searchRecords config (layers.map (loadLayer host config.root))
  else [nothingRecord config]

/-- Whatever is logged, the layers are read as they were before. -/
def Unread (stamp : String) (session : Log.Session) (root : Path) (layers : List Layer) : Prop :=
  ∀ rs, ∀ layer ∈ layers,
    loadLayer ((Log.Transcript.start session).logAll stamp rs).session.host root layer =
      loadLayer session.host root layer

theorem unread_start (stamp : String) (host : Host) (root : Path) (layers : List Layer) :
    Unread stamp (.start host) root layers := by
  intro rs layer _
  rw [Log.session_logAll_start]

section

variable {stamp : String} {session : Log.Session} {root : Path}

/-- A layer is read after it was announced and before anything else is logged about it. -/
theorem takeIn_run (layer : Layer) (t : Log.Transcript) :
    (takeIn stamp root layer).run t =
      (let result := loadLayer (t.logAll stamp [announcement layer]).session.host root layer
       (result, t.logAll stamp (layerRecords root layer result))) := rfl

/-- **The layers are read as if nothing were logged.** -/
theorem mapM_takeIn {layers : List Layer} (h : Unread stamp session root layers)
    (before : List Log.Record) :
    (layers.mapM (takeIn stamp root)).run ((Log.Transcript.start session).logAll stamp before) =
      (layers.map (loadLayer session.host root),
        (Log.Transcript.start session).logAll stamp (before ++ layers.flatMap fun layer =>
          layerRecords root layer (loadLayer session.host root layer))) := by
  induction layers generalizing before with
  | nil => rw [List.mapM_nil, List.flatMap_nil, List.append_nil]; rfl
  | cons layer layers ih =>
    have hlayer := h (before ++ [announcement layer]) layer List.mem_cons_self
    have hrest : Unread stamp session root layers := fun rs other hother =>
      h rs other (List.mem_cons_of_mem layer hother)
    have hstep : (takeIn stamp root layer).run
          ((Log.Transcript.start session).logAll stamp before) =
        (loadLayer session.host root layer, (Log.Transcript.start session).logAll stamp
          (before ++ layerRecords root layer (loadLayer session.host root layer))) := by
      rw [takeIn_run, ← Log.Transcript.logAll_append, hlayer]
      dsimp only
      rw [← Log.Transcript.logAll_append]
    rw [List.mapM_cons, StateT.run_bind, hstep]
    show ((layers.mapM (takeIn stamp root) >>= fun results =>
      pure (loadLayer session.host root layer :: results)).run _) = _
    rw [StateT.run_bind, ih hrest, List.flatMap_cons, List.append_assoc]
    rfl

/-- **A check that does not read its log** reports and logs as on one machine. -/
theorem run_of_unread {config : CheckConfig} {layers : List Layer}
    (h : Unread stamp session config.root layers) :
    (run stamp config layers).run (.start session) =
      (report session.host config layers,
        (Log.Transcript.start session).logAll stamp (records session.host config layers)) := by
  have hlayers := mapM_takeIn h []
  rw [run, StateT.run_bind, report, records]
  by_cases hsome : hasShims session.host config = true
  · rw [if_pos hsome, if_pos hsome, Log.Transcript.logAll_append]
    show (if hasShims session.host config then _ else _ : Logged Report).run (.start session) = _
    rw [if_pos hsome, StateT.run_bind]
    rw [List.nil_append] at hlayers
    exact congrArg (fun done : List LoadResult × Log.Transcript =>
      (reportOf config done.1, done.2.logAll stamp (searchRecords config done.1))) hlayers
  · rw [if_neg hsome, if_neg hsome]
    show (if hasShims session.host config then _ else _ : Logged Report).run (.start session) = _
    rw [if_neg hsome]
    rfl

end

end Check

/-! ### Outcomes -/

/-- What a file that was loaded declares itself. -/
def outcomeNodes : Except Warning DeclarationTree → List Declaration
  | .ok tree => tree.nodes
  | .error _ => []

/-- The declarations of a file that was loaded, nested ones included. -/
def outcomeDeclarations : Except Warning DeclarationTree → List Declaration
  | .ok tree => tree.walk
  | .error _ => []

/-- The warning about a file that was refused. -/
def outcomeWarnings : Except Warning DeclarationTree → List Warning
  | .ok _ => []
  | .error w => [w]

theorem mem_outcomeDeclarations {outcome : Except Warning DeclarationTree} {d : Declaration} :
    d ∈ outcomeDeclarations outcome ↔ ∃ tree, outcome = .ok tree ∧ d ∈ tree.walk := by
  cases outcome <;> simp [outcomeDeclarations]

theorem flatMap_walk_successes (outcomes : List (Except Warning DeclarationTree)) :
    (successes outcomes).flatMap (·.walk) = outcomes.flatMap outcomeDeclarations := by
  induction outcomes with
  | nil => rfl
  | cons outcome rest ih =>
    rw [List.flatMap_cons, ← ih]
    cases outcome with
    | ok tree => rfl
    | error w => rfl

theorem failures_eq (outcomes : List (Except Warning DeclarationTree)) :
    failures outcomes = outcomes.flatMap outcomeWarnings := by
  induction outcomes with
  | nil => rfl
  | cons outcome rest ih =>
    rw [List.flatMap_cons, ← ih]
    cases outcome with
    | ok tree => rfl
    | error w => rfl

namespace Check

/-! ### All that the layers declare -/

/-- What the stub files of a layer give, in the order of their paths. -/
def layerOutcomes (host : Host) (root : Path) (layer : Layer) :
    List (Except Warning DeclarationTree) :=
  (findStubFiles host (layerPath root layer.dir)).map
    (loadFile host (layerPath root layer.dir) (some root))

/-- What the stub files of the layers declare themselves, layer by layer and file by file. -/
def topLevel (host : Host) (root : Path) (layers : List Layer) : List Declaration :=
  layers.flatMap fun layer => (layerOutcomes host root layer).flatMap outcomeNodes

/-- All that the layers declare: layer by layer, file by file, each file in document order. -/
def declared (host : Host) (root : Path) (layers : List Layer) : List Declaration :=
  layers.flatMap fun layer => (layerOutcomes host root layer).flatMap outcomeDeclarations

/-- The warnings about refused files, in the order in which the files are met. -/
def refused (host : Host) (root : Path) (layers : List Layer) : List Warning :=
  layers.flatMap fun layer => (layerOutcomes host root layer).flatMap outcomeWarnings

/-- **All that the layers declare is in pre-order.** -/
theorem preOrder_declared (host : Host) (root : Path) (layers : List Layer) :
    PreOrder (topLevel host root layers) (declared host root layers) := by
  have hwalk : outcomeDeclarations = fun outcome => Declaration.walkAll (outcomeNodes outcome) := by
    funext outcome
    cases outcome <;> rfl
  rw [preOrder_iff, topLevel, declared, hwalk]
  simp only [walkAll_flatMap]

theorem mem_declared {host : Host} {root : Path} {layers : List Layer} {d : Declaration} :
    d ∈ declared host root layers ↔
      ∃ layer ∈ layers, ∃ path ∈ findStubFiles host (layerPath root layer.dir), ∃ tree,
        loadFile host (layerPath root layer.dir) (some root) path = .ok tree ∧ d ∈ tree.walk := by
  simp only [declared, layerOutcomes, List.mem_flatMap, List.mem_map, exists_exists_and_eq_and,
    mem_outcomeDeclarations]

theorem walk_trees_loadLayer (host : Host) (root : Path) (layer : Layer) :
    (loadLayer host root layer).trees.flatMap (·.walk) =
      (layerOutcomes host root layer).flatMap outcomeDeclarations :=
  flatMap_walk_successes _

theorem warnings_loadLayer (host : Host) (root : Path) (layer : Layer) :
    (loadLayer host root layer).warnings =
      (layerOutcomes host root layer).flatMap outcomeWarnings :=
  failures_eq _

/-! ### The index of a check -/

theorem indexOf_eq (results : List LoadResult) :
    indexOf results = Index.empty.addTrees (results.flatMap (·.trees)) := by
  have general : ∀ index : Index,
      results.foldl (fun index result => index.addTrees result.trees) index =
        index.addTrees (results.flatMap (·.trees)) := by
    induction results with
    | nil => exact fun _ => rfl
    | cons result rest ih =>
      intro index
      rw [List.foldl_cons, ih, List.flatMap_cons, Index.addTrees, Index.addTrees, Index.addTrees,
        List.foldl_append]
  exact general Index.empty

/-- The index of a check holds what the layers declare. -/
theorem lists_indexOf (host : Host) (root : Path) (layers : List Layer) :
    (indexOf (layers.map (loadLayer host root))).Lists
      (numbered 0 (declared host root layers)) := by
  have h := Index.lists_empty.addTrees ((layers.map (loadLayer host root)).flatMap (·.trees))
  rw [← indexOf_eq, List.nil_append, List.length_nil, List.flatMap_map, List.flatMap_assoc] at h
  simp only [walk_trees_loadLayer] at h
  exact h

/-! ### The report -/

/-- The names whose shims are redundant, by first occurrence, each with all its declarations. -/
def redundantNames (shims : String) (ds : List Declaration) : List (String × List Declaration) :=
  ((ds.map (·.name)).eraseDups.filter fun key =>
      shimsAreRedundant (named key (numbered 0 ds)) shims).map
    fun key => (key, ds.filter fun d => d.name = key)

theorem mem_redundantNames {shims : String} {ds : List Declaration} {key : String} :
    key ∈ (redundantNames shims ds).map (·.1) ↔
      key ∈ ds.map (·.name) ∧ shimsAreRedundant (named key (numbered 0 ds)) shims = true := by
  rw [redundantNames, List.map_map]
  simp only [List.mem_map, List.mem_filter, List.mem_eraseDups, Function.comp_apply,
    exists_eq_right]

theorem findDuplicates_of_lists {index : Index} {ds : List Declaration}
    (h : index.Lists (numbered 0 ds)) (shims : String) :
    ((findDuplicates index shims).map fun entry => (entry.1, entry.2.map (·.declaration))) =
      redundantNames shims ds := by
  rw [findDuplicates, Index.items, h.entries_eq, grouped, map_name_numbered, List.filter_map,
    List.map_map, redundantNames]
  refine List.map_congr_left fun key _ => ?_
  simp only [Function.comp_apply, map_declaration_named, map_declaration_numbered]

/-- **Duplicates are decided by what the layers declare.** -/
theorem duplicates_reportOf (host : Host) (config : CheckConfig) (layers : List Layer) :
    (reportOf config (layers.map (loadLayer host config.root))).duplicates =
      redundantNames (shimPrefix config.shimDir config.root)
        (declared host config.root layers) :=
  findDuplicates_of_lists (lists_indexOf host config.root layers) _

theorem warnings_reportOf (host : Host) (config : CheckConfig) (layers : List Layer) :
    (reportOf config (layers.map (loadLayer host config.root))).warnings =
      refused host config.root layers := by
  rw [reportOf, List.flatMap_map, refused]
  simp only [warnings_loadLayer]

theorem hasShims_iff {host : Host} {config : CheckConfig} :
    hasShims host config = true ↔
      findStubFiles host (layerPath config.root config.shimDir) ≠ [] := by
  rw [hasShims, Bool.not_eq_true', List.isEmpty_eq_false_iff]

end Check

theorem check_of_accepted (host : Host) {config : CheckConfig} (layers : List Layer)
    (accepted : config.obstacle? = none) :
    check host config layers = .ok (Check.report host config layers) := by
  have hunread := Check.unread_start "" host config.root layers
  rw [check, checkLogged, accepted]
  dsimp only
  rw [Check.run_of_unread hunread]
  rfl

/-- A check that gives a report was not refused. -/
theorem accepted_of_check {host : Host} {config : CheckConfig} {layers : List Layer} {r : Report}
    (h : check host config layers = .ok r) :
    config.obstacle? = none ∧ r = Check.report host config layers := by
  cases hobstacle : config.obstacle? with
  | some obstacle =>
    rw [check, checkLogged, hobstacle] at h
    exact absurd h (by simp [Except.map])
  | none =>
    rw [check_of_accepted host layers hobstacle] at h
    exact ⟨rfl, (Except.ok.inj h).symm⟩

theorem Report.exitCode_eq_one_iff (r : Report) : r.exitCode = 1 ↔ r.duplicates ≠ [] := by
  rw [Report.exitCode]
  by_cases h : r.duplicates = [] <;> simp [h]

open Check in
/-- **What a check reports.**  Without a shim stub nothing is checked.  Otherwise the duplicates
are the names that the layers declare with redundant shims, by first occurrence, each with all its
declarations, nested ones included and in pre-order; the warnings are those about refused files in
the order of loading. -/
theorem check_reports (host : Host) (config : CheckConfig) (layers : List Layer)
    (accepted : config.obstacle? = none) :
    ∃ report, check host config layers = .ok report ∧
      (findStubFiles host (layerPath config.root config.shimDir) = [] →
        report.shimsChecked = false ∧ report.duplicates = [] ∧ report.warnings = []) ∧
      (findStubFiles host (layerPath config.root config.shimDir) ≠ [] →
        report.shimsChecked = true ∧
        (∃ ds, PreOrder (topLevel host config.root layers) ds ∧
          report.duplicates = redundantNames (shimPrefix config.shimDir config.root) ds) ∧
        report.warnings = refused host config.root layers) ∧
      (report.exitCode = 1 ↔ report.duplicates ≠ []) := by
  refine ⟨_, check_of_accepted host layers accepted, ?_, ?_, Report.exitCode_eq_one_iff _⟩
  · intro hnone
    rw [report, if_neg fun h => hasShims_iff.mp h hnone]
    exact ⟨rfl, rfl, rfl⟩
  · intro hsome
    rw [report, if_pos (hasShims_iff.mpr hsome)]
    exact ⟨rfl, ⟨_, preOrder_declared host config.root layers,
      duplicates_reportOf host config layers⟩, warnings_reportOf host config layers⟩

/-- A project in `/p`: its shim is generated too, and a file of another layer is no stub. -/
def sampleHost : Host where
  tree := ((FileTree.empty.write ["p", "shims", "a.pyi"] (Utf8.encode "x: int\n")).write
    ["p", "made", "a.pyi"] (Utf8.encode "x: int\n")).write
    ["p", "more", "b.pyi"] (Utf8.encode "for\n")
  cwd := []
  home := "/"
  accounts := []

def sampleConfig : CheckConfig :=
  ⟨⟨.slash, ["p"]⟩, "shims", ["made", "more"], BaseLayer.default, 1⟩

/-- The sample with another value in a class of a class, which is generated too. -/
def nestedHost : Host :=
  let text := Utf8.encode "x: int\nclass A:\n class B:\n  y: int\n"
  { sampleHost with
    tree := (sampleHost.tree.write ["p", "shims", "a.pyi"] text).write ["p", "made", "a.pyi"] text }

theorem check_reports_sample :
    sampleConfig.obstacle? = none ∧
    ∃ report, check nestedHost sampleConfig sampleConfig.layers = .ok report ∧
      report.shimsChecked = true ∧ report.duplicates.map (·.1) = ["a#x", "a.A.B#y"] ∧
      report.warnings.map (·.place.file) = ["more/b.pyi"] ∧ report.exitCode = 1 := by
  have accepted : sampleConfig.obstacle? = none := by decide
  obtain ⟨report, hreport, -, hfound, hexit⟩ :=
    check_reports nestedHost sampleConfig sampleConfig.layers accepted
  obtain ⟨hchecked, ⟨ds, hds, hduplicates⟩, hwarnings⟩ := hfound (by decide +kernel)
  have hnames : report.duplicates.map (·.1) = ["a#x", "a.A.B#y"] := by
    rw [hduplicates, preOrder_iff.mp hds]
    decide +kernel
  refine ⟨accepted, report, hreport, hchecked, hnames, ?_, hexit.mpr ?_⟩
  · rw [hwarnings]
    decide +kernel
  · intro hnil
    rw [hnil] at hnames
    exact absurd hnames (by decide)

end StubLayers
