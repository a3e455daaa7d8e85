import StubLayers.Files.Host

/-!
The stub files of a directory, in the order of their written paths, and the names of their modules.
-/

namespace StubLayers

/-- The ending of a stub file's name. -/
def stubSuffix : String := ".pyi"

def isStubName (name : String) : Bool := stubSuffix.toList.isSuffixOf name.toList

/-- Paths in the order of their texts. -/
def sortPaths (paths : List Path) : List Path := paths.mergeSort fun a b => a.render ≤ b.render

/-- The stub files below a directory; none if it is not there. -/
def findStubFiles (host : Host) (dir : Path) : List Path :=
  match host.locate dir with
  | .error _ => []
  | .ok top =>
    if host.tree.isDirectory top then
      sortPaths (((host.tree.filesBelow top).filter fun place => isStubName (place.getLastD "")).map
        fun place => ⟨dir.anchor, dir.parts ++ place⟩)
    else []

/-- A name without its last ending. A point at either end of the name starts no ending. -/
def dropEnding (name : List Char) : List Char :=
  let tail := (name.reverse.takeWhile (· ≠ '.')).length
  let stem := name.take (name.length - tail - 1)
  if tail = 0 ∨ stem.isEmpty then name else stem

/-- Drop the file that stands for its directory. -/
def dropInit (parts : List String) : List String :=
  if parts.getLast? = some "__init__" then parts.dropLast else parts

/-- The directory of a package's stubs may carry this ending. -/
def packageSuffix : String := "-stubs"

/-- A name without the ending of stub packages. -/
def dropPackageSuffix (name : String) : String :=
  if packageSuffix.toList.isSuffixOf name.toList then
    String.ofList (name.toList.take (name.length - packageSuffix.length))
  else name

/-- The components of a module's name, from the way to its file. -/
def moduleParts (parts : List String) : List String :=
  match dropInit (parts.dropLast ++
      [String.ofList (dropEnding (parts.getLastD "").toList)]) with
  | [] => []
  | first :: rest => dropPackageSuffix first :: rest

/-- The name of the module of a stub file in a layer; none if the file is not in it. -/
def moduleName? (path root : Path) : Option String :=
  match path.relativeTo? root with
  | some way => if way.parts.isEmpty then none else some (".".intercalate (moduleParts way.parts))
  | none => none

end StubLayers
