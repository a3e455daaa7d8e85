import StubLayers.Files.Host
import StubLayers.Log.Record

/-!
Where log records go. A set-up gives the console a level and may name a log file, which then takes
everything from debug records on. Each set-up replaces the one before it.
-/

namespace StubLayers.Log

/-- How a run wants its log. -/
structure Setup where
  verbose : Bool := false
  quiet : Bool := false
  file : Option Path := none
deriving DecidableEq, Inhabited

/-- The least level that the console shows. -/
def Setup.consoleLevel (s : Setup) : Level :=
  if s.verbose then .debug else if s.quiet then .warning else .info

/-- What takes records, from a level on. -/
inductive Sink where
  | console (level : Level)
  /-- An open log file. -/
  | file (level : Level) (place : Components)
deriving DecidableEq, Inhabited

namespace Sink

/-- What a sink shows of a record on the console. -/
def consoleText (r : Record) : Sink → String
  | console level => if level ≤ r.level then r.consoleLine else ""
  | file _ _ => ""

/-- The machine after a sink has seen a record. The stamp is the time that a log file shows. -/
def write (stamp : String) (r : Record) (host : Host) : Sink → Host
  | console _ => host
  | file level place =>
    if level ≤ r.level then host.append place (Utf8.encode (r.fileLine stamp)) else host

end Sink

/-- A machine and the sinks that records go to; there are none before the first set-up. -/
structure Session where
  host : Host
  /-- Records below are dropped before any sink sees them. -/
  threshold : Level
  sinks : List Sink
deriving Inhabited

namespace Session

def start (host : Host) : Session := ⟨host, .warning, []⟩

def addSink (s : Session) (sink : Sink) : Session := { s with sinks := s.sinks ++ [sink] }

/-- Replace the sinks. If the log file cannot be opened the console alone is left. -/
def configure (s : Session) (setup : Setup) : Session × Option FileFault :=
  let threshold := if setup.file.isSome then .debug else setup.consoleLevel
  let cleared : Session := { s with threshold := threshold, sinks := [] }
  let shown := cleared.addSink (.console setup.consoleLevel)
  match setup.file with
  | none => (shown, none)
  | some path =>
    match s.host.openLog path with
    | .ok (host, place) => ({ shown with host := host }.addSink (.file .debug place), none)
    | .error fault => (shown, some fault)

/-- Whether a record passes on to the sinks. -/
def admits (s : Session) (r : Record) : Bool := s.threshold ≤ r.level

/-- What the console shows without any sink: the bare message, from warnings on. -/
def bareText (r : Record) : String := if Level.warning ≤ r.level then r.message ++ "\n" else ""

/-- What the console shows of a record. -/
def consoleText (s : Session) (r : Record) : String :=
  if !s.admits r then ""
  else if s.sinks.isEmpty then bareText r
  else String.join (s.sinks.map (·.consoleText r))

/-- The session after a record. The stamp is the time that a log file shows. -/
def emit (s : Session) (stamp : String) (r : Record) : Session :=
  if s.admits r then
    { s with host := s.sinks.foldl (fun host sink => sink.write stamp r host) s.host }
  else s

end Session

/-- A session with what the console has shown of it. -/
structure Transcript where
  session : Session
  shown : String
deriving Inhabited

namespace Transcript

def start (s : Session) : Transcript := ⟨s, ""⟩

/-- The transcript after a record. -/
def log (stamp : String) (t : Transcript) (r : Record) : Transcript :=
  ⟨t.session.emit stamp r, t.shown ++ t.session.consoleText r⟩

/-- The transcript after records in order. -/
def logAll (stamp : String) (t : Transcript) (rs : List Record) : Transcript :=
  rs.foldl (log stamp) t

end Transcript

end StubLayers.Log
