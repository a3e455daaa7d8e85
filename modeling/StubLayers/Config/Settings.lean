import StubLayers.Config.Basic
import StubLayers.Yaml.Value

/-!
Settings: what the mapping of a configuration file says about a check. A value of the wrong type is
taken as if its key were not there; only the generated directories are then none at all.
-/

namespace StubLayers

namespace Settings

open Yaml (Value)

/-- The pairs of a mapping. -/
abbrev Pairs := List (Value × Value)

/-- Whether a text is the key of a pair. -/
def isKey (key : String) : Value × Value → Bool
  | (.string text, _) => text = key
  | _ => false

/-- The value of a key: the last pair counts. -/
def lookup (key : String) (pairs : Pairs) : Option Value :=
  (pairs.reverse.find? (isKey key)).map (·.2)

/-- A number with too many digits to be written as text. -/
structure LongNumber where
  value : Int
deriving DecidableEq, Inhabited

/-- The least number with too many digits. -/
def numeralBound : Nat := Nat.pow 10 Text.maxDecimalDigits

/-- The decimal text of a number. -/
def numeral (n : Int) : Except LongNumber String :=
  if n.natAbs < numeralBound then .ok (toString n) else .error ⟨n⟩

/-- A text, or a number as text. Truth values are none of them. -/
def text? : Value → Except LongNumber (Option String)
  | .string text => .ok (some text)
  | .int n => (numeral n).map some
  | .float x => .ok (some (Decimal.render x))
  | _ => .ok none

/-- An integer, or a text that writes one. -/
def int? : Value → Option Int
  | .int n => some n
  | .string text => Text.readInt? 10 text.toList
  | _ => none

/-- An item of a list of texts. Truth values count here. -/
def itemText? : Value → Except LongNumber (Option String)
  | .bool true => .ok (some "True")
  | .bool false => .ok (some "False")
  | v => text? v

/-- A list of texts; a text alone is a list of one. Bytes are a list of numbers. -/
def texts : Value → Except LongNumber (List String)
  | .string text => .ok [text]
  | .list items => (items.mapM itemText?).map (·.filterMap id)
  | .bytes bytes => .ok (bytes.map fun b => toString b.toNat)
  | _ => .ok []

/-- The pairs of a mapping; anything else has none. -/
def pairsOf : Value → Pairs
  | .mapping pairs => pairs
  | _ => []

def textOf? (key : String) (pairs : Pairs) : Except LongNumber (Option String) :=
  (lookup key pairs).elim (.ok none) text?

/-- A text that is not empty. -/
def nonempty? (text : Option String) : Option String := text.filter (· ≠ "")

/-- A directory without slashes at its end, unless it is made of nothing else. -/
def directory (text : String) : String :=
  let short := dropTrailingSlashes text
  if short = "" then text else short

/-- The generated directories that a value lists. -/
def directories (value : Value) : Except LongNumber (List String) :=
  (texts value).map (·.map directory)

/-- The base layer that a mapping describes; an empty one describes none. -/
def base (pairs : Pairs) : Except LongNumber BaseLayer :=
  if pairs.isEmpty then .ok BaseLayer.default
  else do
    let dir ← textOf? "dir" pairs
    let pathPrefix ← textOf? "path_prefix" pairs
    let url ← textOf? "url" pairs
    return ⟨(nonempty? dir).map directory, pathPrefix, nonempty? url <|> some publishedStubs⟩

/-- The configuration that a mapping describes. -/
def config (root : Path) (pairs : Pairs) : Except LongNumber CheckConfig := do
  let usual := CheckConfig.default root
  let shimDir ← textOf? "shim_dir" pairs
  let generatedDirs ← (lookup "generated_dirs" pairs).elim (.ok usual.generatedDirs) directories
  let base ← base ((lookup "base" pairs).elim [] pairsOf)
  return {
    root
    shimDir := ((nonempty? shimDir).map directory).getD usual.shimDir
    generatedDirs
    base
    jobs := ((lookup "jobs" pairs).bind int?).getD usual.jobs
  }

end Settings

end StubLayers
