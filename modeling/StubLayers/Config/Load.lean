import StubLayers.Config.Settings
import StubLayers.Files.Host

/-!
Finding and reading the configuration file of a project. Without one, the usual configuration holds.
-/

namespace StubLayers

/-- What is wrong with a configuration file. -/
inductive ConfigError where
  | malformed
  | notMapping
deriving DecidableEq, Inhabited

/-- The name of the configuration file. -/
def configFileName : String := ".shimcheck.yml"

def ConfigError.message : ConfigError → String
  | malformed => "Failed to parse " ++ configFileName
  | notMapping => configFileName ++ " must contain a mapping at the root"

/-- Why there is no configuration. -/
inductive ConfigFault where
  /-- The file is wrong, and the user is told so. -/
  | config (error : ConfigError)
  /-- There is no such home. -/
  | noHome
  | unreadable (fault : ReadFault)
  /-- A value of the file cannot be read. -/
  | value (fault : Yaml.Fault)
  /-- A number of the file stands for a text and cannot be written. -/
  | longNumber (number : Settings.LongNumber)
deriving DecidableEq, Inhabited

namespace Config

/-- The configuration file that a path speaks of: the one in a directory, the path itself if it is
called so, else the one beside it. -/
def filePath (host : Host) (path : Path) : Path :=
  let name : Path := ⟨.relative, [configFileName]⟩
  if host.isDirectory path then host.absolute (path.join name)
  else if path.name ≠ configFileName then host.absolute (path.parent.join name)
  else host.absolute path

/-- How deep the values of a configuration file are looked into. -/
def depth : Nat := 4

/-- The pairs that the text of a configuration file gives. -/
def pairsOf (text : String) : Except ConfigFault Settings.Pairs :=
  if text.toList.all Text.isBlank then .ok []
  else
    match Yaml.load depth text.toList with
    | .ok .null => .ok []
    | .ok (.mapping pairs) => .ok pairs
    | .ok _ => .error (.config .notMapping)
    | .error .malformed => .error (.config .malformed)
    | .error fault => .error (.value fault)

/-- The configuration of the project at `root` that the pairs of its configuration file describe. -/
def ofPairs (root : Path) (pairs : Settings.Pairs) : Except ConfigFault CheckConfig :=
  (Settings.config root pairs).mapError .longNumber

/-- The configuration of the project with this configuration file. -/
def ofFile (host : Host) (file : Path) : Except ConfigFault CheckConfig :=
  if host.contains file then
    match host.readText file with
    | .error fault => .error (.unreadable fault)
    | .ok text =>
      match pairsOf text with
      | .error fault => .error fault
      | .ok pairs => ofPairs file.parent pairs
  else .ok (CheckConfig.default file.parent)

end Config

/-- The configuration of the project at a path. -/
def loadConfig (host : Host) (path : Path) : Except ConfigFault CheckConfig :=
  match host.expandHome? path with
  | none => .error .noHome
  | some path => Config.ofFile host (Config.filePath host path)

end StubLayers
