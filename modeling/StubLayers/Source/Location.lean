import StubLayers.Source.Span

/-!
Locations: a span in a named file, with lines counted from one.
-/

namespace StubLayers

/-- A span in a file. Lines count from one, columns from zero. -/
structure Location where
  file : String
  startLine : Int
  startCol : Int
  endLine : Int
  endCol : Int
deriving DecidableEq, Inhabited

namespace Location

def ofSpan (file : String) (span : Span) : Location :=
  ⟨file, span.start.row + 1, span.start.col, span.stop.row + 1, span.stop.col⟩

/-- `file:line:column-line:column` -/
def render (l : Location) : String :=
  l.file ++ ":" ++ toString l.startLine ++ ":" ++ toString l.startCol ++ "-"
    ++ toString l.endLine ++ ":" ++ toString l.endCol

/-- A location for a report: a published address for a file below the base prefix, else the span.
An absent or empty prefix or address publishes nothing. -/
def resolve (l : Location) (basePrefix baseUrl : Option String) : String :=
  match basePrefix, baseUrl with
  | some base, some url =>
    if base ≠ "" ∧ url ≠ "" ∧ base.toList.isPrefixOf l.file.toList then
      url ++ String.ofList (l.file.toList.drop base.length) ++ "#L" ++ toString l.startLine
    else l.render
  | _, _ => l.render

end Location

end StubLayers
