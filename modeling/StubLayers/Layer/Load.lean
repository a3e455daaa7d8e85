import StubLayers.Declaration.Source
import StubLayers.Layer.Stubs

/-!
Loading a layer: every stub file gives a tree or a warning, in the order of the files.
-/

namespace StubLayers

/-- The declarations of a stub file, which messages call `shown`. -/
def parseFile (host : Host) (path : Path) (shown module : String) :
    Except ParseError DeclarationTree :=
  match host.readText path with
  | .ok text => parseSource text shown module
  | .error fault => .error ⟨.unreadable fault.message, ⟨shown, 1, 0, 1, 0⟩⟩

def ParseError.warning (e : ParseError) : Warning := ⟨e.cause.message, e.place⟩

/-- The text that stands for a file in messages: as seen from `base`, if one is given. -/
def shownPath (path : Path) (base : Option Path) : String :=
  match base with
  | some base => (path.seenFrom base).render
  | none => path.render

/-- What one stub file of a layer gives. -/
def loadFile (host : Host) (dir : Path) (base : Option Path) (path : Path) :
    Except Warning DeclarationTree :=
  match parseFile host path (shownPath path base) ((moduleName? path dir).getD "") with
  | .ok tree => .ok tree
  | .error e => .error e.warning

structure LoadResult where
  files : List Path
  trees : List DeclarationTree
  warnings : List Warning
deriving Inhabited

/-- Those that went well. -/
def successes {ε α : Type} (outcomes : List (Except ε α)) : List α :=
  outcomes.filterMap fun
    | .ok a => some a
    | .error _ => none

/-- Those that failed. -/
def failures {ε α : Type} (outcomes : List (Except ε α)) : List ε :=
  outcomes.filterMap fun
    | .ok _ => none
    | .error e => some e

/-- Load all stub files of a directory; messages show files as seen from `base`. -/
def loadDirectory (host : Host) (dir : Path) (base : Option Path) : LoadResult :=
  let files := findStubFiles host dir
  let outcomes := files.map (loadFile host dir base)
  ⟨files, successes outcomes, failures outcomes⟩

end StubLayers
