import StubLayers.Files.Path

/-!
The configuration of a check: which directories hold which layer, and how base files are published.
-/

namespace StubLayers

/-- The address of the published base stubs. -/
def publishedStubs : String := "https://github.com/python/typeshed/tree/main/stdlib"

/-- The base layer: its directory, and what published addresses are made of. -/
structure BaseLayer where
  dir : Option String
  pathPrefix : Option String
  url : Option String
deriving DecidableEq, Inhabited

namespace BaseLayer

def default : BaseLayer := ⟨none, none, some publishedStubs⟩

/-- The beginning of paths to publish: a prefix that is set, else the directory. -/
def effectivePrefix (b : BaseLayer) : Option String :=
  match b.pathPrefix with
  | some text => if text = "" then b.dir else some text
  | none => b.dir

end BaseLayer

/-- The directories of a check are relative to `root`, unless they are absolute. -/
structure CheckConfig where
  root : Path
  shimDir : String
  generatedDirs : List String
  base : BaseLayer
  /-- How many workers may load files. -/
  jobs : Int
deriving DecidableEq, Inhabited

/-- Settings given with a run; each one left out keeps what is configured. -/
structure Overrides where
  shimDir : Option String := none
  generatedDirs : Option (List String) := none
  baseDir : Option String := none
  basePathPrefix : Option String := none
  baseUrl : Option String := none
  jobs : Option Int := none
deriving DecidableEq, Inhabited

namespace CheckConfig

def default (root : Path) : CheckConfig :=
  ⟨root, "stubs/shims", ["stubs/generated"], BaseLayer.default, 1⟩

/-- The base prefix in the form of the paths in reports. An empty one publishes nothing. -/
def basePrefix (c : CheckConfig) : Option String :=
  match c.base.effectivePrefix with
  | some text => if text = "" then none else some (projectRelative text c.root)
  | none => none

/-- An empty list of generated directories overrides nothing. -/
def withOverrides (c : CheckConfig) (o : Overrides) : CheckConfig where
  root := c.root
  shimDir := o.shimDir.getD c.shimDir
  generatedDirs :=
    match o.generatedDirs with
    | some (dir :: dirs) => dir :: dirs
    | _ => c.generatedDirs
  base :=
    ⟨o.baseDir <|> c.base.dir, o.basePathPrefix <|> c.base.pathPrefix, o.baseUrl <|> c.base.url⟩
  jobs := o.jobs.getD c.jobs

end CheckConfig

end StubLayers
