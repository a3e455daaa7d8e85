import StubLayers.Index

/-!
Duplicates: names whose shim declarations repeat another declaration. The first shim that carries
signatures decides; shims without any signature always count as repeated.
-/

namespace StubLayers

namespace DeclarationKind

/-- Methods and values are compared; type scopes and aliases never are. -/
def isEligible : DeclarationKind → Bool
  | typeScope => false
  | method => true
  | attr => true
  | other => false

end DeclarationKind

namespace Declaration

/-- A shim: its file lies under the prefix of the shim directory. -/
def isShim (d : Declaration) (shimPrefix : String) : Bool :=
  shimPrefix.toList.isPrefixOf d.location.file.toList

/-- Whether `d` has every signature of `shim`. -/
def covers (d shim : Declaration) : Bool :=
  shim.signatures.all fun s => d.signatures.contains s

end Declaration

namespace Occurrence

def isOverride (o : Occurrence) (shimPrefix : String) : Bool := o.declaration.isShim shimPrefix

def isEligible (o : Occurrence) : Bool := o.declaration.kind.isEligible

def covers (o shim : Occurrence) : Bool := o.declaration.covers shim.declaration

end Occurrence

/-- The occurrences that take part in the comparison. -/
def eligible (os : List Occurrence) : List Occurrence := os.filter (·.isEligible)

/-- The eligible shims among the occurrences of a name. -/
def eligibleShims (os : List Occurrence) (shimPrefix : String) : List Occurrence :=
  eligible (os.filter (·.isOverride shimPrefix))

/-- The shim that decides: the first one with a signature. -/
def decidingShim (os : List Occurrence) (shimPrefix : String) : Option Occurrence :=
  (eligibleShims os shimPrefix).find? fun o => !o.declaration.signatures.isEmpty

/-- Whether the shims among the occurrences of a name are redundant. -/
def shimsAreRedundant (os : List Occurrence) (shimPrefix : String) : Bool :=
  if os.length < 2 then false
  else if (eligibleShims os shimPrefix).isEmpty then false
  else
    match decidingShim os shimPrefix with
    | none => true
    | some shim => (eligible os).any fun o => o.number ≠ shim.number && o.covers shim

/-- The names with redundant shims, each with all its occurrences, in the order of the index. -/
def findDuplicates (index : Index) (shimPrefix : String) : List (String × List Occurrence) :=
  index.items.filter fun entry => shimsAreRedundant entry.2 shimPrefix

end StubLayers
