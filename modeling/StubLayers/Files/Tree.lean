/-!
File trees. A tree is given by its files and by further directories; a path with something below it
is a directory, so every list of files makes a tree whose names can stand between slashes.
-/

namespace StubLayers

/-- The components of a place in a tree, from the root down. -/
abbrev Components := List String

/-- What an entry of a directory can be called. -/
def isEntryName (name : String) : Bool :=
  name ≠ "" && name ≠ "." && name ≠ ".." && !name.toList.contains '/'

/-- The files of a machine and their bytes, and directories that need not hold any. -/
structure FileTree where
  files : List (Components × List UInt8)
  folders : List Components
  distinct : (files.map (·.1)).Nodup
  named : ∀ place ∈ files.map (·.1), place.all isEntryName
deriving DecidableEq

namespace FileTree

def empty : FileTree := ⟨[], [], List.nodup_nil, fun _ h => nomatch h⟩

instance : Inhabited FileTree := ⟨empty⟩

def addFolder (t : FileTree) (place : Components) : FileTree := { t with folders := place :: t.folders }

/-- Replace the bytes of a file that is there. -/
def replaced (place : Components) (bytes : List UInt8) (files : List (Components × List UInt8)) :
    List (Components × List UInt8) :=
  files.map fun entry => if entry.1 = place then (place, bytes) else entry

theorem replaced_places (place : Components) (bytes : List UInt8)
    (files : List (Components × List UInt8)) :
    (replaced place bytes files).map (·.1) = files.map (·.1) := by
  induction files with
  | nil => rfl
  | cons entry rest ih =>
    unfold replaced at ih ⊢
    by_cases h : entry.1 = place <;> simp_all

/-- Give a file its bytes. Nothing is written at a place with a name that no entry can have. -/
def write (t : FileTree) (place : Components) (bytes : List UInt8) : FileTree :=
  if h : place ∈ t.files.map (·.1) then
    { t with
      files := replaced place bytes t.files
      distinct := by rw [replaced_places]; exact t.distinct
      named := by rw [replaced_places]; exact t.named }
  else if hn : place.all isEntryName then
    { t with
      files := t.files ++ [(place, bytes)]
      distinct := by
        rw [List.map_append, List.nodup_append]
        refine ⟨t.distinct, by simp, ?_⟩
        intro a ha b hb hab
        simp only [List.map_cons, List.map_nil, List.mem_singleton] at hb
        subst hab hb
        exact h ha
      named := by
        intro other ho
        rw [List.map_append, List.mem_append] at ho
        rcases ho with ho | ho
        · exact t.named other ho
        · obtain rfl : other = place := by simpa using ho
          exact hn }
  else t

/-- Whether `place` lies properly below `top`. -/
def isBelow (place top : Components) : Bool := top.isPrefixOf place && place != top

def isDirectory (t : FileTree) (place : Components) : Bool :=
  place.isEmpty || t.files.any (fun entry => isBelow entry.1 place)
    || t.folders.any fun folder => place.isPrefixOf folder

/-- The bytes of a regular file. -/
def bytes? (t : FileTree) (place : Components) : Option (List UInt8) :=
  if t.isDirectory place then none else (t.files.find? (·.1 = place)).map (·.2)

/-- Whether there is a file or a directory. -/
def contains (t : FileTree) (place : Components) : Bool :=
  t.isDirectory place || (t.bytes? place).isSome

/-- The regular files below a directory, as seen from it. -/
def filesBelow (t : FileTree) (top : Components) : List Components :=
  ((t.files.map (·.1)).filter fun place => isBelow place top && !t.isDirectory place).map
    (·.drop top.length)

end FileTree

end StubLayers
