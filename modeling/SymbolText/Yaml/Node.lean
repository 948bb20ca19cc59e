import SymbolText.Yaml.Kind
import SymbolText.Yaml.Layout

/-!
# Nodes of documents

A document is a graph of nodes: a node is a scalar, a sequence of nodes or a mapping between nodes,
and has a kind. A node with an anchor can stand in several places, also within itself, so nodes
name their parts by number.

* `Node`: nodes.
* `Graph`: the nodes of a document, with the root.
* `Graph.ofScan`: the nodes of a document; a document without a node is an empty scalar.
-/

namespace SymbolText.Yaml

/-- The nodes of documents, with the numbers of their parts. -/
inductive Node
  | scalar (kind : Kind) (text : Text)
  | sequence (kind : Kind) (items : List Nat)
  | mapping (kind : Kind) (entries : List (Nat × Nat))

/-- The nodes of a document by their numbers. -/
structure Graph where
  nodes : Array Node
  root : Nat

namespace Graph

/-! ## Reading tokens -/

/-- What is known while tokens are read. -/
structure Reader where
  /-- What follows. -/
  scan : Scan
  /-- The nodes so far. A collection is there before its parts, at first without them. -/
  nodes : Array Node
  /-- The anchors so far, with the numbers of their nodes. -/
  anchors : List (String × Nat)
  /-- The prefixes that handles stand for. -/
  handles : List (String × String)

/-- Reading tokens, which may stop. -/
abbrev Reading := StateT Reader (Except Stop)

/-- Stops at the next token. -/
def refuse {α : Type} : Reading α := do throw (← get).scan.refusal

/-- The next token. -/
def peek : Reading (Option Token) := return (← get).scan.head?

/-- Goes past the next token. -/
def advance : Reading Unit := modify fun r => { r with scan := r.scan.tail }

/-- Whether the next token is one of some. -/
def nextIn (ts : List Token) : Reading Bool := return (← peek).any ts.contains

/-- Goes past the next token, which has to be `t`. -/
def expect (t : Token) : Reading Unit := do
  if (← peek) == some t then advance else refuse

/-- The node that a reference refers to. -/
def referredTo (name : String) : Reading Nat := do
  match (← get).anchors.find? fun a => a.1 == name with
  | some (_, n) => return n
  | none => refuse

/-- Refuses an anchor that is not new. -/
def requireNew (name : String) : Reading Unit := do
  if (← get).anchors.any fun a => a.1 == name then refuse

/-- Adds a node, under an anchor if there is one. -/
def addNode (anchor : Option String) (n : Node) : Reading Nat := do
  let number := (← get).nodes.size
  modify fun r =>
    { r with
      nodes := r.nodes.push n
      anchors := (anchor.map fun name => (name, number)).toList ++ r.anchors }
  return number

/-- Completes a node. -/
def setNode (number : Nat) (n : Node) : Reading Unit :=
  modify fun r => { r with nodes := r.nodes.setIfInBounds number n }

/-- The node where none is written. -/
def absent : Reading Nat := addNode none (.scalar .null [])

/-- A sequence of the items that `items` reads. -/
def addSequence (anchor : Option String) (kind : Kind) (items : Reading (List Nat)) :
    Reading Nat := do
  let number ← addNode anchor (.sequence kind [])
  setNode number (.sequence kind (← items))
  return number

/-- A mapping of the entries that `entries` reads. -/
def addMapping (anchor : Option String) (kind : Kind) (entries : Reading (List (Nat × Nat))) :
    Reading Nat := do
  let number ← addNode anchor (.mapping kind [])
  setNode number (.mapping kind (← entries))
  return number

/-- The tag of a written name. -/
def tagOf (name : TagName) : Reading String := do
  match name.handle with
  | none => return name.suffix
  | some handle =>
    match (← get).handles.find? fun h => h.1 == handle with
    | some (_, stem) => return stem ++ name.suffix
    | none => refuse

/-- The tag that leaves the kind of a node to its content. -/
def undecided : String := "!"

/-- The anchor and the tag of a node, in either order. -/
def readProperties : Reading (Option String × Option String) := do
  match ← peek with
  | some (.anchor a) =>
    advance
    match ← peek with
    | some (.tag t) =>
      let tag ← tagOf t
      advance
      return (some a, some tag)
    | _ => return (some a, none)
  | some (.tag t) =>
    advance
    let tag ← tagOf t
    match ← peek with
    | some (.anchor a) =>
      advance
      return (some a, some tag)
    | _ => return (none, some tag)
  | _ => return (none, none)

/-- The kind of a collection that is of the kind `usual` unless its tag says otherwise. -/
def collectionKind (usual : Kind) (tag : Option String) : Kind :=
  match tag with
  | some tag => if tag = undecided then usual else .ofTag tag
  | none => usual

/-- The kind of a scalar, by its tag or else by its text if that is plain. -/
def scalarKind (tag : Option String) (plain : Bool) (text : Text) : Kind :=
  match tag with
  | some tag => if tag = undecided then .ofPlain text else .ofTag tag
  | none => if plain then .ofPlain text else .text

mutual
/-- A node. Block collections are nodes where `block`, and a sequence may start without a block
of its own where `indentless`. The first argument bounds the number of calls inside each
other. -/
def read (block indentless : Bool) : Nat → Reading Nat
  | 0 => refuse
  | depth + 1 => do
    match ← peek with
    | some (.reference name) =>
      let number ← referredTo name
      advance
      return number
    | _ =>
      let (anchor, tag) ← readProperties
      if let some a := anchor then requireNew a
      readContent block indentless anchor tag depth
/-- The content of a node after its anchor and tag. -/
def readContent (block indentless : Bool) (anchor tag : Option String) : Nat → Reading Nat
  | 0 => refuse
  | depth + 1 => do
    match ← peek with
    | some (.scalar text plain) =>
      advance
      addNode anchor (.scalar (scalarKind tag plain text) text)
    | some .flowSequenceStart =>
      advance
      addSequence anchor (collectionKind .sequence tag) (readFlowItems true depth)
    | some .flowMappingStart =>
      advance
      addMapping anchor (collectionKind .mapping tag) (readFlowEntries true depth)
    | some .blockEntry =>
      if indentless then
        addSequence anchor (collectionKind .sequence tag) (readIndentlessItems depth)
      else readEmpty
    | some .blockSequenceStart =>
      if block then
        advance
        addSequence anchor (collectionKind .sequence tag) (readBlockItems depth)
      else readEmpty
    | some .blockMappingStart =>
      if block then
        advance
        addMapping anchor (collectionKind .mapping tag) (readBlockEntries depth)
      else readEmpty
    | _ => readEmpty
where
  /-- The empty scalar, which an anchor or a tag has to announce. -/
  readEmpty : Reading Nat :=
    if anchor.isSome || tag.isSome then addNode anchor (.scalar (scalarKind tag true []) [])
    else refuse
/-- The items of a block sequence up to its end. -/
def readBlockItems : Nat → Reading (List Nat)
  | 0 => refuse
  | depth + 1 => do
    if ← nextIn [.blockEntry] then
      advance
      let item ← if ← nextIn [.blockEntry, .blockEnd] then absent else read true false depth
      return item :: (← readBlockItems depth)
    else
      expect .blockEnd
      return []
/-- The items of a sequence without a block of its own. -/
def readIndentlessItems : Nat → Reading (List Nat)
  | 0 => refuse
  | depth + 1 => do
    if ← nextIn [.blockEntry] then
      advance
      let item ←
        if ← nextIn [.blockEntry, .key, .value, .blockEnd] then absent
        else read true false depth
      return item :: (← readIndentlessItems depth)
    else return []
/-- The entries of a block mapping up to its end. -/
def readBlockEntries : Nat → Reading (List (Nat × Nat))
  | 0 => refuse
  | depth + 1 => do
    if ← nextIn [.key] then
      advance
      let k ← readPart depth
      let v ←
        if ← nextIn [.value] then
          advance
          readPart depth
        else absent
      return (k, v) :: (← readBlockEntries depth)
    else
      expect .blockEnd
      return []
/-- A key or a value of a block mapping. -/
def readPart : Nat → Reading Nat
  | 0 => refuse
  | depth + 1 => do
    if ← nextIn [.key, .value, .blockEnd] then absent else read true true depth
/-- The items of a flow sequence up to its end. -/
def readFlowItems (first : Bool) : Nat → Reading (List Nat)
  | 0 => refuse
  | depth + 1 => do
    if ← nextIn [.flowSequenceEnd] then
      advance
      return []
    else
      if !first then expect .flowEntry
      if ← nextIn [.key] then
        advance
        let k ← readFlowPart [.value, .flowEntry, .flowSequenceEnd] depth
        let v ← readFlowValue .flowSequenceEnd depth
        let item ← addNode none (.mapping .mapping [(k, v)])
        return item :: (← readFlowItems false depth)
      else if ← nextIn [.flowSequenceEnd] then
        advance
        return []
      else
        let item ← read false false depth
        return item :: (← readFlowItems false depth)
/-- The entries of a flow mapping up to its end. -/
def readFlowEntries (first : Bool) : Nat → Reading (List (Nat × Nat))
  | 0 => refuse
  | depth + 1 => do
    if ← nextIn [.flowMappingEnd] then
      advance
      return []
    else
      if !first then expect .flowEntry
      if ← nextIn [.key] then
        advance
        let k ← readFlowPart [.value, .flowEntry, .flowMappingEnd] depth
        let v ← readFlowValue .flowMappingEnd depth
        return (k, v) :: (← readFlowEntries false depth)
      else if ← nextIn [.flowMappingEnd] then
        advance
        return []
      else
        let k ← read false false depth
        let v ← absent
        return (k, v) :: (← readFlowEntries false depth)
/-- The value of a key in a flow collection that ends with `ending`. -/
def readFlowValue (ending : Token) : Nat → Reading Nat
  | 0 => refuse
  | depth + 1 => do
    if ← nextIn [.value] then
      advance
      readFlowPart [.flowEntry, ending] depth
    else absent
/-- A key or a value of a flow collection, absent before some tokens. -/
def readFlowPart (stops : List Token) : Nat → Reading Nat
  | 0 => refuse
  | depth + 1 => do
    if ← nextIn stops then absent else read false false depth
end

/-! ## Documents -/

/-- The handles that every document has. -/
def standardHandles : List (String × String) := [("!", "!"), ("!!", "tag:yaml.org,2002:")]

/-- The only version of documents. -/
def majorVersion : Nat := 1

/-- The directives at the start of a document: a version, and handles of its own. The tokens that
follow are left. -/
def readDirectives (versioned : Bool) (handles : List (String × String)) (stop : Stop) :
    List (Token × Nat) → Except Stop (List (String × String) × List (Token × Nat))
  | (.version major, place) :: rest =>
    if versioned || major != majorVersion then .error ⟨place, .malformed⟩
    else readDirectives true handles stop rest
  | (.tagHandle handle stem, place) :: rest =>
    if handles.any fun h => h.1 == handle then .error ⟨place, .malformed⟩
    else readDirectives versioned ((handle, stem) :: handles) stop rest
  | (.directive, _) :: rest => readDirectives versioned handles stop rest
  | (.documentStart, _) :: rest => .ok (handles, rest)
  | rest => .error (Scan.refusal ⟨rest, stop⟩)

/-- Whether a token is one of directives. -/
def isDirective : Token → Bool
  | .version _ | .tagHandle .. | .directive => true
  | _ => false

/-- Whether a document starts with a mark or a directive. -/
def isExplicit (s : Scan) : Bool := s.head?.any fun t => isDirective t || t == .documentStart

/-- Whether no node comes next. -/
def isBare (s : Scan) : Bool :=
  s.head?.any fun t =>
    isDirective t || t == .documentStart || t == .documentEnd || t == .textEnd

/-- The root of a document after its start. -/
def readRoot (explicit : Bool) : Reading Nat := do
  let s := (← get).scan
  if s.head? == some .textEnd || (explicit && isBare s) then absent
  else read true false (4 * s.tokens.length + 4)

/-- Stopping where another document than the first follows: after its start. -/
def furtherDocument (s : Scan) : Stop :=
  match readDirectives false [] s.stop s.tokens with
  | .error stop => stop
  | .ok _ => { s with tokens := s.tokens.dropWhile fun t => isDirective t.1 }.refusal

/-- The nodes of the only document. -/
def ofScan (s : Scan) : Except Stop Graph := do
  let explicit := isExplicit s
  let (handles, body) ←
    if explicit then readDirectives false [] s.stop s.tokens else .ok ([], s.tokens)
  let (root, r) ←
    (readRoot explicit).run ⟨⟨body, s.stop⟩, #[], [], handles ++ standardHandles⟩
  let later : Scan := ⟨r.scan.tokens.dropWhile fun t => t.1 == .documentEnd, s.stop⟩
  if later.head? == some .textEnd then .ok ⟨r.nodes, root⟩ else .error (furtherDocument later)

end Graph

end SymbolText.Yaml
