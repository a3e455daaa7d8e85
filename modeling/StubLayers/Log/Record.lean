/-!
Log records: a level, the component that speaks, and a message.
-/

namespace StubLayers.Log

/-- The weight of a record; greater is graver. -/
abbrev Level := Int

namespace Level

def debug : Level := 10
def info : Level := 20
def warning : Level := 30
def error : Level := 40
def critical : Level := 50

def name (level : Level) : String :=
  if level = debug then "DEBUG"
  else if level = info then "INFO"
  else if level = warning then "WARNING"
  else if level = error then "ERROR"
  else if level = critical then "CRITICAL"
  else "Level " ++ toString level

end Level

/-- The component that all others belong to. -/
def rootName : String := "shimcheck"

/-- The full name of a component; an empty one is the root. -/
def loggerName (component : String) : String :=
  if component = "" then rootName else rootName ++ "." ++ component

structure Record where
  component : String
  level : Level
  message : String
deriving DecidableEq, Inhabited

namespace Record

/-- A record on the console. -/
def consoleLine (r : Record) : String := "[shimcheck] " ++ r.level.name ++ " " ++ r.message ++ "\n"

/-- A record in a file, after the time at which it was made. -/
def fileLine (stamp : String) (r : Record) : String :=
  stamp ++ r.level.name ++ " " ++ loggerName r.component ++ ": " ++ r.message ++ "\n"

end Record

end StubLayers.Log
