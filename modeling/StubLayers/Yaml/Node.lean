import StubLayers.Yaml.Token

/-!
The nodes of a document. An alias is the node that it names, so nodes are numbered and refer to each
other by number; a collection may be part of itself.
-/

namespace StubLayers.Yaml

/-- The tags of the core types. -/
def coreTag (name : String) : String := "tag:yaml.org,2002:" ++ name

/-- How a node says what it is. -/
inductive Label where
  /-- By its own form. -/
  | implicit
  /-- By its own form, as text: quoted scalars and blocks. -/
  | text
  /-- By a tag. -/
  | tagged (tag : String)
deriving DecidableEq, Inhabited

inductive Content where
  | scalar (text : String)
  | sequence (items : List Nat)
  | mapping (pairs : List (Nat × Nat))
deriving DecidableEq, Inhabited

structure Node where
  label : Label
  content : Content
deriving DecidableEq, Inhabited

/-- The nodes of a document by number; the root is the node `root`. -/
structure Document where
  nodes : Array Node
  root : Nat
deriving Inhabited

structure Builder where
  tokens : List Token
  nodes : Array Node
  anchors : List (String × Nat)
  /-- What the handles of tags stand for. -/
  handles : List (String × String)
deriving Inhabited

namespace Builder

abbrev Build := StateT Builder (Except Fault)

def fail {α : Type} : Build α := throw .malformed

def peek : Build (Option Token) := return (← get).tokens.head?

def next : Build Unit := modify fun b => { b with tokens := b.tokens.drop 1 }

/-- Whether one of these tokens comes next. -/
def sees (tokens : List Token) : Build Bool := do
  match ← peek with
  | some token => return tokens.contains token
  | none => return false

/-- Take a token if it comes next. -/
def take (token : Token) : Build Bool := do
  if ← sees [token] then
    next
    return true
  else return false

def expect (token : Token) : Build Unit := do
  if !(← take token) then fail

/-- A new node, perhaps with an anchor. No anchor may be given twice. -/
def newNode (anchor : Option String) (node : Node) : Build Nat := do
  let b ← get
  let id := b.nodes.size
  match anchor with
  | none => set { b with nodes := b.nodes.push node }
  | some name =>
    if (b.anchors.lookup name).isSome then fail
    else set { b with nodes := b.nodes.push node, anchors := (name, id) :: b.anchors }
  return id

def setContent (id : Nat) (content : Content) : Build Unit :=
  modify fun b => { b with nodes := b.nodes.modify id fun node => { node with content } }

/-- A node that is left out. -/
def emptyNode : Build Nat := newNode none ⟨.implicit, .scalar ""⟩

/-- The anchor and the tag before a node, in either order. -/
def properties : Build (Option String × Option (Option String × String)) := do
  match ← peek with
  | some (.anchor name) =>
    next
    match ← peek with
    | some (.tag handle suffix) =>
      next
      return (some name, some (handle, suffix))
    | _ => return (some name, none)
  | some (.tag handle suffix) =>
    next
    match ← peek with
    | some (.anchor name) =>
      next
      return (some name, some (handle, suffix))
    | _ => return (none, some (handle, suffix))
  | _ => return (none, none)

/-- The label that a tag gives. The tag `!` alone asks for what a plain node would be. -/
def labelOf : Option (Option String × String) → Build Label
  | none => return .implicit
  | some (handle, suffix) => do
    let tag ←
      match handle with
      | none => pure suffix
      | some handle =>
        match (← get).handles.lookup handle with
        | some stem => pure (stem ++ suffix)
        | none => fail
    return if tag = "!" then .implicit else .tagged tag

/-- Where a node stands, as far as that decides what it may be. -/
structure Place where
  /-- Block collections are allowed. -/
  block : Bool
  /-- A sequence may stand at the indentation of its key. -/
  unindented : Bool

/-- A node with properties only. -/
def empty (anchor : Option String) (tag : Option (Option String × String)) (label : Label) :
    Build Nat :=
  if anchor.isSome || tag.isSome then newNode anchor ⟨label, .scalar ""⟩ else fail

mutual

/-- A node and all in it; `fuel` bounds the depth of calls. -/
def node (place : Place) : Nat → Build Nat
  | 0 => fail
  | fuel + 1 => do
    match ← peek with
    | some (.alias name) =>
      next
      match (← get).anchors.lookup name with
      | some id => return id
      | none => fail
    | _ =>
      let (anchor, tag) ← properties
      let label ← labelOf tag
      match ← peek with
      | some .blockEntry =>
        if place.unindented then
          let id ← newNode anchor ⟨label, .sequence []⟩
          setContent id (.sequence (← unindentedItems fuel))
          return id
        else empty anchor tag label
      | some (.scalar text plain) =>
        next
        newNode anchor ⟨if plain || tag.isSome then label else .text, .scalar text⟩
      | some .flowSequenceStart =>
        next
        let id ← newNode anchor ⟨label, .sequence []⟩
        setContent id (.sequence (← flowItems true fuel))
        return id
      | some .flowMappingStart =>
        next
        let id ← newNode anchor ⟨label, .mapping []⟩
        setContent id (.mapping (← flowPairs true fuel))
        return id
      | some .blockSequenceStart =>
        if place.block then
          next
          let id ← newNode anchor ⟨label, .sequence []⟩
          setContent id (.sequence (← blockItems fuel))
          return id
        else empty anchor tag label
      | some .blockMappingStart =>
        if place.block then
          next
          let id ← newNode anchor ⟨label, .mapping []⟩
          setContent id (.mapping (← blockPairs fuel))
          return id
        else empty anchor tag label
      | _ => empty anchor tag label

/-- A node, unless one of these tokens shows that it is left out. -/
def nodeUnless (stops : List Token) (place : Place) : Nat → Build Nat
  | 0 => fail
  | fuel + 1 => do if ← sees stops then emptyNode else node place fuel

/-- The items of a block sequence, to its end. -/
def blockItems : Nat → Build (List Nat)
  | 0 => fail
  | fuel + 1 => do
    if ← take .blockEntry then
      let item ← nodeUnless [.blockEntry, .blockEnd] ⟨true, false⟩ fuel
      return item :: (← blockItems fuel)
    else
      expect .blockEnd
      return []

/-- The items of a sequence at the indentation of its key. -/
def unindentedItems : Nat → Build (List Nat)
  | 0 => fail
  | fuel + 1 => do
    if ← take .blockEntry then
      let item ← nodeUnless [.blockEntry, .key, .value, .blockEnd] ⟨true, false⟩ fuel
      return item :: (← unindentedItems fuel)
    else return []

/-- The pairs of a block mapping, to its end. -/
def blockPairs : Nat → Build (List (Nat × Nat))
  | 0 => fail
  | fuel + 1 => do
    if ← take .key then
      let key ← nodeUnless [.key, .value, .blockEnd] ⟨true, true⟩ fuel
      let value ←
        if ← take .value then nodeUnless [.key, .value, .blockEnd] ⟨true, true⟩ fuel else emptyNode
      return (key, value) :: (← blockPairs fuel)
    else
      expect .blockEnd
      return []

/-- The items of a flow sequence, to its end. A pair is a mapping of its own. -/
def flowItems (first : Bool) : Nat → Build (List Nat)
  | 0 => fail
  | fuel + 1 => do
    if ← take .flowSequenceEnd then return []
    else
      if !first then expect .flowEntry
      if ← sees [.key] then
        next
        let id ← newNode none ⟨.implicit, .mapping []⟩
        let key ← nodeUnless [.value, .flowEntry, .flowSequenceEnd] ⟨false, false⟩ fuel
        let value ←
          if ← take .value then nodeUnless [.flowEntry, .flowSequenceEnd] ⟨false, false⟩ fuel
          else emptyNode
        setContent id (.mapping [(key, value)])
        return id :: (← flowItems false fuel)
      else if ← take .flowSequenceEnd then return []
      else
        let item ← node ⟨false, false⟩ fuel
        return item :: (← flowItems false fuel)

/-- The pairs of a flow mapping, to its end. A node without a colon is a key with no value. -/
def flowPairs (first : Bool) : Nat → Build (List (Nat × Nat))
  | 0 => fail
  | fuel + 1 => do
    if ← take .flowMappingEnd then return []
    else
      if !first then expect .flowEntry
      if ← take .key then
        let key ← nodeUnless [.value, .flowEntry, .flowMappingEnd] ⟨false, false⟩ fuel
        let value ←
          if ← take .value then nodeUnless [.flowEntry, .flowMappingEnd] ⟨false, false⟩ fuel
          else emptyNode
        return (key, value) :: (← flowPairs false fuel)
      else if ← take .flowMappingEnd then return []
      else
        let key ← node ⟨false, false⟩ fuel
        let value ← emptyNode
        return (key, value) :: (← flowPairs false fuel)

end

/-! ### Documents -/

/-- The handles that need no directive. -/
def usualHandles : List (String × String) := [("!", "!"), ("!!", coreTag "")]

/-- The directives before a document. -/
def directives (versioned : Bool) (handles : List (String × String)) :
    Nat → Build (List (String × String))
  | 0 => fail
  | fuel + 1 => do
    match ← peek with
    | some (.directive (.version major)) =>
      if versioned || major ≠ 1 then fail
      else
        next
        directives true handles fuel
    | some (.directive (.tag handle stem)) =>
      if (handles.lookup handle).isSome then fail
      else
        next
        directives versioned ((handle, stem) :: handles) fuel
    | some (.directive .other) =>
      next
      directives versioned handles fuel
    | _ => return handles

/-- Over lines that end a document. -/
def skipDocumentEnds : Nat → Build Unit
  | 0 => pure ()
  | fuel + 1 => do
    if ← take .documentEnd then skipDocumentEnds fuel

def seesDirective : Build Bool := do
  match ← peek with
  | some (.directive _) => return true
  | _ => return false

/-- A document with a line that starts it. -/
def explicitDocument (fuel : Nat) : Build Nat := do
  let handles ← directives false [] fuel
  modify fun b => { b with handles := handles ++ usualHandles }
  expect .documentStart
  if (← peek).isNone || (← seesDirective) || (← sees [.documentStart, .documentEnd]) then emptyNode
  else node ⟨true, false⟩ fuel

/-- The only document of a stream, if there is one. -/
def stream (fuel : Nat) : Build (Option Nat) := do
  if (← peek).isNone then return none
  else
    let root ←
      if (← seesDirective) || (← sees [.documentStart]) then explicitDocument fuel
      else do
        modify fun b => { b with handles := usualHandles }
        node ⟨true, false⟩ fuel
    skipDocumentEnds fuel
    if (← peek).isNone then return some root else fail

end Builder

/-- The document that a text holds; none if it holds nothing but comments. -/
def readDocument (text : List Char) : Except Fault (Option Document) := do
  let tokens ← tokensOf text
  match (Builder.stream (4 * tokens.length + 8)).run ⟨tokens, #[], [], []⟩ with
  | .error fault => .error fault
  | .ok (none, _) => return none
  | .ok (some root, b) => return some ⟨b.nodes, root⟩

end StubLayers.Yaml
