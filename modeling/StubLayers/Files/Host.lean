import StubLayers.Files.Path
import StubLayers.Files.Tree
import StubLayers.Text.Quoted
import StubLayers.Text.Utf8

/-!
The machine that a run sees: a file tree, the directory it stands in, and homes. A path is followed
component by component; every component but the last has to be a directory, also before `..`.
-/

namespace StubLayers

structure Host where
  tree : FileTree
  /-- The directory that relative paths start from. -/
  cwd : Components
  /-- The home of the one who runs the program. -/
  home : String
  /-- The homes of named accounts. -/
  accounts : List (String × String)
deriving Inhabited

/-- Why a path cannot be opened. -/
inductive FileFault where
  | missing
  | notDirectory
  | isDirectory
deriving DecidableEq, Inhabited

namespace FileFault

def number : FileFault → Nat
  | missing => 2
  | notDirectory => 20
  | isDirectory => 21

def wording : FileFault → String
  | missing => "No such file or directory"
  | notDirectory => "Not a directory"
  | isDirectory => "Is a directory"

def message (fault : FileFault) (path : Path) : String :=
  "[Errno " ++ toString fault.number ++ "] " ++ fault.wording ++ ": " ++ Text.quoted path.render

end FileFault

namespace Utf8

def Reason.wording : Reason → String
  | start => "invalid start byte"
  | continuation => "invalid continuation byte"
  | ended => "unexpected end of data"

def Fault.message (fault : Fault) : String :=
  let place :=
    match fault.bytes with
    | [b] => "byte 0x" ++ String.ofList (Text.hexDigits b.toNat 2) ++ " in position " ++
      toString fault.first
    | bytes => "bytes in position " ++ toString fault.first ++ "-" ++
      toString (fault.first + (bytes.length - 1))
  "'utf-8' codec can't decode " ++ place ++ ": " ++ fault.reason.wording

end Utf8

/-- Why a text file cannot be read. -/
inductive ReadFault where
  | file (fault : FileFault) (path : Path)
  | encoding (fault : Utf8.Fault)
deriving DecidableEq, Inhabited

def ReadFault.message : ReadFault → String
  | file fault path => fault.message path
  | encoding fault => fault.message

/-- Every way to end a line becomes a line feed. -/
def unifyNewlines : List Char → List Char
  | [] => []
  | '\r' :: '\n' :: rest => '\n' :: unifyNewlines rest
  | '\r' :: rest => '\n' :: unifyNewlines rest
  | c :: rest => c :: unifyNewlines rest

namespace Host

/-- Follow components from a place. -/
def follow (tree : FileTree) (place : Components) : Components → Except FileFault Components
  | [] => .ok place
  | part :: rest =>
    if tree.isDirectory place then
      follow tree (if part = ".." then place.dropLast else place ++ [part]) rest
    else if tree.contains place then .error .notDirectory
    else .error .missing

/-- Where a path starts. -/
def start (h : Host) (path : Path) : Components := if path.isAbsolute then [] else h.cwd

/-- The place that a path leads to; nothing need be there. -/
def locate (h : Host) (path : Path) : Except FileFault Components :=
  follow h.tree (h.start path) path.parts

/-- Whether a path leads to a directory. -/
def isDirectory (h : Host) (path : Path) : Bool :=
  match h.locate path with
  | .ok place => h.tree.isDirectory place
  | .error _ => false

/-- Whether a path leads to a file or a directory. -/
def contains (h : Host) (path : Path) : Bool :=
  match h.locate path with
  | .ok place => h.tree.contains place
  | .error _ => false

def readBytes (h : Host) (path : Path) : Except FileFault (List UInt8) :=
  match h.locate path with
  | .error fault => .error fault
  | .ok place =>
    if h.tree.isDirectory place then .error .isDirectory
    else
      match h.tree.bytes? place with
      | some bytes => .ok bytes
      | none => .error .missing

/-- The text of a file, with unified newlines. -/
def readText (h : Host) (path : Path) : Except ReadFault String :=
  match h.readBytes path with
  | .error fault => .error (.file fault path)
  | .ok bytes =>
    match Utf8.decode bytes with
    | .error fault => .error (.encoding fault)
    | .ok cs => .ok (String.ofList (unifyNewlines cs))

/-- Go through components without looking at the tree: `..` takes back the component before it. -/
def settle : Components → List String → Components
  | place, [] => place
  | place, part :: rest => settle (if part = ".." then place.dropLast else place ++ [part]) rest

/-- The absolute form of a path. -/
def absolute (h : Host) (path : Path) : Path := ⟨.slash, settle (h.start path) path.parts⟩

/-- Open a file for additions at its end, and make it if it is not there. -/
def openLog (h : Host) (path : Path) : Except FileFault (Host × Components) :=
  let place := (h.absolute path).parts
  match follow h.tree [] place with
  | .error fault => .error fault
  | .ok _ =>
    if h.tree.isDirectory place then .error .isDirectory
    else
      match h.tree.bytes? place with
      | some _ => .ok (h, place)
      | none =>
        if place.all isEntryName then .ok ({ h with tree := h.tree.write place [] }, place)
        else .error .missing

/-- Add bytes at the end of a file. -/
def append (h : Host) (place : Components) (bytes : List UInt8) : Host :=
  { h with tree := h.tree.write place ((h.tree.bytes? place).getD [] ++ bytes) }

/-- The home that `~` or `~name` stands for. -/
def homeOf? (h : Host) (tilde : String) : Option String :=
  if tilde = "~" then some h.home
  else ((h.accounts.find? fun account => "~" ++ account.1 = tilde)).map (·.2)

/-- A path whose first component is `~` or `~name` starts from that home; none if there is no such
home. -/
def expandHome? (h : Host) (path : Path) : Option Path :=
  match path.anchor, path.parts with
  | .relative, part :: rest =>
    if part.toList.head? = some '~' then
      (h.homeOf? part).map fun home =>
        let top := Path.ofString home
        ⟨top.anchor, top.parts ++ rest⟩
    else some path
  | _, _ => some path

end Host

end StubLayers
