import StubLayers.Declaration.Basic

/-!
The index of declarations: every name with all that is declared under it, names in the order of
their first appearance, declarations in the order in which they were added. Nothing is ever
replaced or removed.
-/

namespace StubLayers

/-- A declaration as met once; two occurrences are the same thing iff they have the same number. -/
structure Occurrence where
  number : Nat
  declaration : Declaration
deriving Inhabited

/-- The entries of an index. -/
abbrev Entries := List (String × List Occurrence)

namespace Entries

/-- Append an occurrence to the entry of its name. -/
def add (key : String) (o : Occurrence) : Entries → Entries
  | [] => [(key, [o])]
  | (k, os) :: rest => if k = key then (k, os ++ [o]) :: rest else (k, os) :: add key o rest

/-- The occurrences under a name; none if the name is absent. -/
def get? (key : String) : Entries → Option (List Occurrence)
  | [] => none
  | (k, os) :: rest => if k = key then some os else get? key rest

end Entries

structure Index where
  entries : Entries
  /-- How many declarations were added. -/
  size : Nat
deriving Inhabited

namespace Index

def empty : Index := ⟨[], 0⟩

/-- Add one declaration, without what is nested in it. -/
def add (index : Index) (d : Declaration) : Index :=
  ⟨Entries.add d.name ⟨index.size, d⟩ index.entries, index.size + 1⟩

/-- Add declarations in order. -/
def addAll (index : Index) (ds : List Declaration) : Index := ds.foldl add index

/-- Add all declarations of trees, nested ones included. -/
def addTrees (index : Index) (trees : List DeclarationTree) : Index :=
  trees.foldl (fun index tree => index.addAll tree.walk) index

/-- The names, by first appearance. -/
def keys (index : Index) : List String := index.entries.map (·.1)

def get? (index : Index) (key : String) : Option (List Occurrence) := Entries.get? key index.entries

/-- The occurrences under a name. -/
def nodes (index : Index) (key : String) : List Occurrence := (index.get? key).getD []

def contains (index : Index) (key : String) : Bool := (index.get? key).isSome

/-- The number of names. -/
def length (index : Index) : Nat := index.entries.length

def items (index : Index) : List (String × List Occurrence) := index.entries

end Index

end StubLayers
