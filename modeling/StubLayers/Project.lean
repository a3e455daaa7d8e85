import StubLayers.Check
import StubLayers.Config.Load

/-!
A check of a project: its configuration is loaded, settings given with the run take the place of
configured ones, and the layers of the result are checked.
-/

namespace StubLayers

/-- Why a project is not checked. -/
inductive ProjectFault where
  /-- The user is told what is wrong with the configuration. -/
  | refused (message : String)
  /-- The configuration cannot be read. -/
  | broken (fault : ConfigFault)
deriving DecidableEq, Inhabited

/-- The configuration of a run over the project at a path. -/
def projectConfig (host : Host) (path : Path) (overrides : Overrides) :
    Except ProjectFault CheckConfig :=
  match loadConfig host path with
  | .ok config => .ok (config.withOverrides overrides)
  | .error (.config e) => .error (.refused e.message)
  | .error fault => .error (.broken fault)

/-- Check the project at a path in a session: its configuration, the report, and what was logged. -/
def checkProject (stamp : String) (session : Log.Session) (path : Path) (overrides : Overrides) :
    Except ProjectFault (CheckConfig × Report × Log.Transcript) :=
  match projectConfig session.host path overrides with
  | .error fault => .error fault
  | .ok config =>
    match checkLogged stamp session config config.layers with
    | .ok (report, transcript) => .ok (config, report, transcript)
    | .error e => .error (.refused e.message)

end StubLayers
