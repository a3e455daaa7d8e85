import StubLayers.Config.Basic
import StubLayers.Json.Reader

/-!
The body of a request for a check. Every field is looked at, and all that is wrong is reported in
the order of the fields.
-/

namespace StubLayers.Service

/-- What is wrong with a part of a body. -/
inductive IssueKind where
  | missing
  | notText
  | brokenText
  | notList
  | notInteger
  | integerText
  | integerSize
  | fractional
  | notFinite
  | notObject
  | notJson
deriving DecidableEq, Inhabited

def IssueKind.label : IssueKind → String
  | missing => "missing"
  | notText => "string_type"
  | brokenText => "string_unicode"
  | notList => "list_type"
  | notInteger => "int_type"
  | integerText => "int_parsing"
  | integerSize => "int_parsing_size"
  | fractional => "int_from_float"
  | notFinite => "finite_number"
  | notObject => "model_attributes_type"
  | notJson => "json_invalid"

/-- A step towards a part of a body. -/
inductive Step where
  | name (name : String)
  | index (index : Nat)
deriving DecidableEq, Inhabited

structure Issue where
  kind : IssueKind
  place : List Step
deriving DecidableEq, Inhabited

/-- What a request asks for. -/
structure Payload where
  path : String
  overrides : Overrides
deriving DecidableEq, Inhabited

/-- A field as read, and what is wrong with it. -/
abbrev Field (α : Type) := Option α × List Issue

abbrev Members := List (Option String × Json.Value)

def bodyStep : Step := .name "body"

def issueAt (kind : IssueKind) (place : List Step) : Issue := ⟨kind, bodyStep :: place⟩

def text (place : List Step) : Json.Value → Field String
  | .string (some s) => (some s, [])
  | .string none => (none, [issueAt .brokenText place])
  | _ => (none, [issueAt .notText place])

def texts (place : List Step) : Json.Value → Field (List String)
  | .array items =>
    let read := items.zipIdx.map fun (item, i) => text (place ++ [Step.index i]) item
    (some (read.filterMap (·.1)), read.flatMap (·.2))
  | _ => (none, [issueAt .notList place])

/-- How long the text of an integer may be, in bytes. -/
def maxIntegerText : Nat := 4300

/-- The integer that a text writes, with a fraction of zeros or none, in ASCII digits. -/
def integerOfText? (cs : List Char) : Option Int :=
  let cs := Text.trimBy Text.isNumberBlank cs
  let front := cs.takeWhile (· ≠ '.')
  if cs.all (fun c => Json.isDigit c || c = '+' || c = '-' || c = '_' || c = '.') &&
      (cs.drop (front.length + 1)).all (· = '0') then
    Text.readInt? 10 front
  else none

/-- The integers that a floating point number may stand for lie between these bounds. -/
def integerBound : Float := 9223372036854775808

def integer (place : List Step) : Json.Value → Field Int
  | .int n => (some n, [])
  | .bool b => (some (if b then 1 else 0), [])
  | .float x =>
    if !x.isFinite then (none, [issueAt .notFinite place])
    else if x.floor != x then (none, [issueAt .fractional place])
    else if -integerBound < x && x < integerBound then (some x.toInt64.toInt, [])
    else (none, [issueAt .integerSize place])
  | .string (some s) =>
    if maxIntegerText < s.utf8ByteSize then (none, [issueAt .integerSize place])
    else
      match integerOfText? s.toList with
      | some n => (some n, [])
      | none => (none, [issueAt .integerText place])
  | .string none => (none, [issueAt .brokenText place])
  | _ => (none, [issueAt .notInteger place])

/-- A field that may be left out or be null. -/
def optionalField {α : Type} (members : Members) (name : String)
    (read : List Step → Json.Value → Field α) : Field α :=
  match Json.member? members name with
  | none | some .null => (none, [])
  | some value => read [.name name] value

def requiredField {α : Type} (members : Members) (name : String)
    (read : List Step → Json.Value → Field α) : Field α :=
  match Json.member? members name with
  | none => (none, [issueAt .missing [.name name]])
  | some value => read [.name name] value

/-- What the members of a body ask for. -/
def ofMembers (members : Members) : Except (List Issue) Payload :=
  let path := requiredField members "path" text
  let shimDir := optionalField members "shim_dir" text
  let generatedDirs := optionalField members "generated_dirs" texts
  let baseDir := optionalField members "base_dir" text
  let basePathPrefix := optionalField members "base_path_prefix" text
  let baseUrl := optionalField members "base_url" text
  let jobs := optionalField members "jobs" integer
  match path.2 ++ shimDir.2 ++ generatedDirs.2 ++ baseDir.2 ++ basePathPrefix.2 ++ baseUrl.2 ++
      jobs.2 with
  | [] =>
    .ok ⟨path.1.getD "",
      ⟨shimDir.1, generatedDirs.1, baseDir.1, basePathPrefix.1, baseUrl.1, jobs.1⟩⟩
  | issues => .error issues

/-- Why a body asks for nothing. -/
inductive PayloadFault where
  | issues (issues : List Issue)
  /-- The body cannot be read at all. -/
  | unreadable
deriving DecidableEq, Inhabited

/-- What a body asks for; an empty one is no body. -/
def readPayload (body : String) : Except PayloadFault Payload :=
  if body = "" then .error (.issues [issueAt .missing []])
  else
    match Json.read body with
    | .error (.malformed index) => .error (.issues [issueAt .notJson [.index index]])
    | .error .longNumber => .error .unreadable
    | .ok .null => .error (.issues [issueAt .missing []])
    | .ok (.object members) => (ofMembers members).mapError .issues
    | .ok _ => .error (.issues [issueAt .notObject []])

end StubLayers.Service
