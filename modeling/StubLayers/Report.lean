import StubLayers.Duplicates

/-!
The report of a check, and its two texts: one block for each duplicated name with a hint at the end,
and a summary in one line.
-/

namespace StubLayers

structure Report where
  /-- The shim directory as configured. -/
  shimDir : String
  shimsChecked : Bool
  duplicates : List (String × List Declaration)
  warnings : List Warning
deriving Inhabited

namespace Report

def hasDuplicates (r : Report) : Bool := !r.duplicates.isEmpty

def exitCode (r : Report) : Nat := if r.duplicates.isEmpty then 0 else 1

/-- The lines about one name. -/
def block (basePrefix baseUrl : Option String) (entry : String × List Declaration) : String :=
  String.intercalate "\n" (("Duplicated declaration for " ++ entry.1 ++ ":") ::
    entry.2.map fun d => " * " ++ d.location.resolve basePrefix baseUrl)

/-- What to do about the duplicates. -/
def hint (shimDir : String) : String :=
  "Please remove the duplicated definitions from the " ++ shimDir ++ " directory."

/-- The text about the duplicates; empty if there are none. -/
def text (r : Report) (basePrefix baseUrl : Option String) : String :=
  if r.duplicates.isEmpty then ""
  else
    String.intercalate "\n\n" (r.duplicates.map (block basePrefix baseUrl) ++ [hint r.shimDir])
      ++ "\n"

def summary (r : Report) : String :=
  if !r.shimsChecked then "No shim stubs to check\n"
  else if r.duplicates.isEmpty then "No duplicates found in shim stubs\n"
  else
    let count := r.duplicates.length
    "Found duplicated declarations for " ++ toString count ++
      (if count = 1 then " symbol\n" else " symbols\n")

end Report

end StubLayers
