import StubLayers.Config.Basic

/-!
Layers: directories of stubs and the part each plays in a check. A check is refused if the shim
directory and another layer contain one another.
-/

namespace StubLayers

inductive LayerKind where
  | base
  | shim
  | generated
deriving DecidableEq, Inhabited

def LayerKind.label : LayerKind → String
  | base => "base stubs"
  | shim => "shim stubs"
  | generated => "generated stubs"

structure Layer where
  kind : LayerKind
  dir : String
deriving DecidableEq, Inhabited

namespace CheckConfig

/-- The directory of base stubs, if one is set. -/
def baseDirs (c : CheckConfig) : List String :=
  match c.base.dir with
  | some dir => if dir = "" then [] else [dir]
  | none => []

/-- The layers in the order in which they are indexed. -/
def layers (c : CheckConfig) : List Layer :=
  c.baseDirs.map (Layer.mk .base) ++ Layer.mk .shim c.shimDir ::
    c.generatedDirs.map (Layer.mk .generated)

/-- The directories that shims are compared with. -/
def otherDirs (c : CheckConfig) : List String := c.generatedDirs ++ c.baseDirs

end CheckConfig

/-- Why a check is not started. -/
inductive PreconditionError where
  | jobs (jobs : Int)
  | overlap (shimDir other : String)
deriving DecidableEq, Inhabited

def PreconditionError.message : PreconditionError → String
  | jobs n => "jobs must be at least 1 (got " ++ toString n ++ ")"
  | overlap shimDir other =>
    "Shim directory " ++ shimDir ++ " overlaps layer directory " ++ other ++
      "; shim stubs would be compared against themselves"

/-- Whether one directory is the other or contains it, by their components. -/
def overlaps (a b : String) : Bool :=
  let a := Path.ofString a
  let b := Path.ofString b
  a = b || a.isWithin b || b.isWithin a

/-- What stands against a check, if anything. -/
def CheckConfig.obstacle? (c : CheckConfig) : Option PreconditionError :=
  if c.jobs < 1 then some (.jobs c.jobs)
  else (c.otherDirs.find? (overlaps c.shimDir)).map (.overlap c.shimDir)

end StubLayers
