import StubLayers.Layer.Basic
import StubLayers.Layer.Load
import StubLayers.Log.Session
import StubLayers.Report

/-!
A check: load the layers in order, index what they declare, and report the names whose shims repeat
another declaration. Without any shim stub nothing is loaded. A check logs as it goes, so that a
layer is read on the machine that the records before it have left.
-/

namespace StubLayers

/-- The beginning of the paths of shims. It ends in a slash, so that a directory whose name only
extends the shim directory's is told apart. -/
def shimPrefix (shimDir : String) (root : Path) : String :=
  let shown := dropTrailingSlashes (projectRelative shimDir root)
  if shown = "." then "" else shown ++ "/"

namespace Check

/-- The directory of a layer. -/
def layerPath (root : Path) (dir : String) : Path := root.join (Path.ofString dir)

/-- What a layer's directory gives. -/
def loadLayer (host : Host) (root : Path) (layer : Layer) : LoadResult :=
  loadDirectory host (layerPath root layer.dir) (some root)

/-- All that the layers declare, in order. -/
def indexOf (results : List LoadResult) : Index :=
  results.foldl (fun index result => index.addTrees result.trees) Index.empty

/-- Whether there are shims to check. -/
def hasShims (host : Host) (config : CheckConfig) : Bool :=
  !(findStubFiles host (layerPath config.root config.shimDir)).isEmpty

/-- The report about loaded layers. -/
def reportOf (config : CheckConfig) (results : List LoadResult) : Report where
  shimDir := config.shimDir
  shimsChecked := true
  duplicates :=
    (findDuplicates (indexOf results) (shimPrefix config.shimDir config.root)).map fun entry =>
      (entry.1, entry.2.map (·.declaration))
  warnings := results.flatMap (·.warnings)

/-- The report when there is nothing to check. -/
def nothingToCheck (config : CheckConfig) : Report := ⟨config.shimDir, false, [], []⟩

/-! ### What a check logs -/

def checkerSays (level : Log.Level) (message : String) : Log.Record := ⟨"checker", level, message⟩

def loaderSays (level : Log.Level) (message : String) : Log.Record := ⟨"loader", level, message⟩

/-- What loading a directory logs. -/
def loadRecords (dir : Path) (result : LoadResult) : List Log.Record :=
  if result.files.isEmpty then [loaderSays .debug ("No stub files found under " ++ dir.render)]
  else
    result.warnings.map (fun w => loaderSays .warning ("Warning: " ++ w.render)) ++
      [loaderSays .debug ("Parsed " ++ toString result.trees.length ++ " of " ++
        toString result.files.length ++ " stub files under " ++ dir.render)]

/-- What is logged before a layer is read. -/
def announcement (layer : Layer) : Log.Record :=
  checkerSays .info ("Loading " ++ layer.kind.label ++ " from " ++ layer.dir ++ "...")

/-- What is logged once a layer has been read. -/
def loadedRecords (root : Path) (layer : Layer) (result : LoadResult) : List Log.Record :=
  loadRecords (layerPath root layer.dir) result ++
    [checkerSays .debug ("Indexed " ++ toString result.trees.length ++ " files from " ++
      layer.dir ++ " (" ++ toString result.warnings.length ++ " warnings)")]

/-- What the search for duplicates logs. -/
def searchRecords (config : CheckConfig) (results : List LoadResult) : List Log.Record :=
  let found := toString (reportOf config results).duplicates.length
  [⟨"duplicates", .info, "Looking for duplicates..."⟩,
    ⟨"duplicates", .debug, "Found " ++ found ++ " duplicated symbols among " ++
      toString (indexOf results).length⟩,
    checkerSays .info ("Found " ++ found ++ " duplicated declarations")]

/-- What is logged when there is nothing to check. -/
def nothingRecord (config : CheckConfig) : Log.Record :=
  checkerSays .info ("No shim stubs to check in " ++ config.shimDir)

/-! ### The check -/

/-- What is done while a log is kept. -/
abbrev Logged (α : Type) := StateM Log.Transcript α

def say (stamp : String) (rs : List Log.Record) : Logged Unit := modify fun t => t.logAll stamp rs

/-- Read a layer, and log that. -/
def takeIn (stamp : String) (root : Path) (layer : Layer) : Logged LoadResult := do
  say stamp [announcement layer]
  let result := loadLayer (← get).session.host root layer
  say stamp (loadedRecords root layer result)
  return result

/-- Check the given layers. -/
def run (stamp : String) (config : CheckConfig) (layers : List Layer) : Logged Report := do
  if hasShims (← get).session.host config then
    let results ← layers.mapM (takeIn stamp config.root)
    say stamp (searchRecords config results)
    return reportOf config results
  else
    say stamp [nothingRecord config]
    return nothingToCheck config

end Check

/-- Check a configuration over the given layers in a session, or say what stands against it. The
stamp is the time that a log file shows. -/
def checkLogged (stamp : String) (session : Log.Session) (config : CheckConfig)
    (layers : List Layer) : Except PreconditionError (Report × Log.Transcript) :=
  match config.obstacle? with
  | some obstacle => .error obstacle
  | none => .ok ((Check.run stamp config layers).run (.start session))

/-- Check a configuration over the given layers where no log has been set up. -/
def check (host : Host) (config : CheckConfig) (layers : List Layer) :
    Except PreconditionError Report :=
  (checkLogged "" (.start host) config layers).map (·.1)

end StubLayers
