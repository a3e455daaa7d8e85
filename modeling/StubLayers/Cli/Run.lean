import StubLayers.Cli.Arguments
import StubLayers.Project

/-!
A run of the program: from the arguments and the machine to what is printed, how the run ends, and
the machine after it.
-/

namespace StubLayers.Cli

/-- What breaks a run off. -/
inductive Crash where
  | logFile (fault : FileFault)
  | config (fault : ConfigFault)
deriving DecidableEq, Inhabited

inductive Ending where
  | exit (code : Nat)
  | crash (crash : Crash)
deriving DecidableEq, Inhabited

structure Outcome where
  stdout : String
  stderr : String
  ending : Ending
  /-- The machine after the run, with what was logged. -/
  host : Host
deriving Inhabited

/-- The exit code of a run that could not start a check. -/
def refusedCode : Nat := 2

/-- A run that ends with its arguments. -/
def stopped (host : Host) : Stop → Outcome
  | .help c => ⟨c.help, "", .exit 0, host⟩
  | .refused c e =>
    ⟨"", c.usage ++ c.title ++ ": error: " ++ e.message ++ "\n", .exit refusedCode, host⟩

/-- Check a project, and print what comes of it. -/
def runCheck (stamp : String) (session : Log.Session) (path : Path) (overrides : Overrides) :
    Outcome :=
  match checkProject stamp session path overrides with
  | .error (.refused message) =>
    ⟨"", "shimcheck: " ++ message ++ "\n", .exit refusedCode, session.host⟩
  | .error (.broken fault) => ⟨"", "", .crash (.config fault), session.host⟩
  | .ok (config, report, transcript) =>
    ⟨report.summary, transcript.shown ++ report.text config.basePrefix config.base.url,
      .exit report.exitCode, transcript.session.host⟩

/-- The run that arguments ask for. -/
def runArguments (stamp : String) (host : Host) (args : Arguments) : Outcome :=
  let setup : Log.Setup := ⟨args.verbose, args.quiet, args.logFile.map Path.ofString⟩
  match (Log.Session.start host).configure setup with
  | (session, some fault) => ⟨"", "", .crash (.logFile fault), session.host⟩
  | (session, none) => runCheck stamp session (Path.ofString args.path) args.overrides

/-- Run the program. The stamp is the time that a log file shows. -/
def run (stamp : String) (host : Host) (args : List String) : Outcome :=
  match readArguments args with
  | .ok arguments => runArguments stamp host arguments
  | .error stop => stopped host stop

end StubLayers.Cli
