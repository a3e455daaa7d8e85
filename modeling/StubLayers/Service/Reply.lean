import StubLayers.Project
import StubLayers.Service.Payload

/-!
Checks as a service: a request comes in, and a reply goes out. One address tells that the service is
up, another one checks a project.
-/

namespace StubLayers.Service

structure Request where
  method : String
  path : String
  body : String
deriving DecidableEq, Inhabited

/-- What a check came to. -/
inductive Verdict where
  | noShims
  | duplicates
  | ok
deriving DecidableEq, Inhabited

def Verdict.label : Verdict → String
  | noShims => "no_shims"
  | duplicates => "duplicates"
  | ok => "ok"

def verdict (r : Report) : Verdict :=
  if !r.shimsChecked then .noShims else if r.hasDuplicates then .duplicates else .ok

/-- The result of a check, with locations as they are shown. -/
structure CheckAnswer where
  verdict : Verdict
  exitCode : Nat
  duplicates : List (String × List String)
  warnings : List Warning
deriving Inhabited

inductive Body where
  | healthy
  | checked (answer : CheckAnswer)
  | detail (message : String)
  | issues (issues : List Issue)
  | plain (text : String)
deriving Inhabited

structure Reply where
  status : Nat
  body : Body
deriving Inhabited

def answerOf (config : CheckConfig) (r : Report) : CheckAnswer :=
  ⟨verdict r, r.exitCode,
    r.duplicates.map fun (key, ds) =>
      (key, ds.map fun d => d.location.resolve config.basePrefix config.base.url),
    r.warnings⟩

/-- Check the project that a payload names; a service has no log set up. -/
def checkReply (host : Host) (p : Payload) : Reply :=
  match checkProject "" (.start host) (Path.ofString p.path) p.overrides with
  | .ok (config, report, _) => ⟨200, .checked (answerOf config report)⟩
  | .error (.refused message) => ⟨400, .detail message⟩
  | .error (.broken _) => ⟨500, .plain "Internal Server Error"⟩

def payloadReply (host : Host) (body : String) : Reply :=
  match readPayload body with
  | .ok payload => checkReply host payload
  | .error (.issues issues) => ⟨422, .issues issues⟩
  | .error .unreadable => ⟨400, .detail "There was an error parsing the body"⟩

inductive Address where
  | health
  | check
deriving DecidableEq, Inhabited

/-- The address that a path names. What stands after a question mark and slashes at the end do not
count. -/
def address? (path : String) : Option Address :=
  let cs := path.toList.takeWhile (fun c => c ≠ '?' && c ≠ '#')
  let name := (cs.reverse.dropWhile (· = '/')).reverse
  if name = "/health".toList then some .health
  else if name = "/check".toList then some .check
  else none

/-- The reply as if it were sent with its body. -/
def fullReply (host : Host) (method : String) (r : Request) : Reply :=
  match address? r.path with
  | none => ⟨404, .detail "Not Found"⟩
  | some .health => if method = "GET" then ⟨200, .healthy⟩ else ⟨405, .detail "Method Not Allowed"⟩
  | some .check =>
    if method = "POST" then payloadReply host r.body else ⟨405, .detail "Method Not Allowed"⟩

/-- Reply to a request. Who asks for the head alone gets no body. -/
def reply (host : Host) (r : Request) : Reply :=
  let method := r.method.toUpper
  let full := fullReply host method r
  if method = "HEAD" then { full with body := .plain "" } else full

end StubLayers.Service
