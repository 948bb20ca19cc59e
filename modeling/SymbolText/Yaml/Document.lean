import SymbolText.Text.Delivery
import SymbolText.Yaml.Atom
import SymbolText.Yaml.Node

/-!
# Values of documents

The nodes of a document denote parts: a scalar an atom, and every other node a collection. A
collection is known by its number, so that it can be a part of itself. The root is found first, then
the parts of each collection in the order in which the collections are found; the first fault of
all counts.

* `Part`, `Contents`: what nodes denote, and what collections consist of.
* `Building`: finding them, with `Building.flatten` for the entries that a mapping takes in from
  others.
* `Document`: a root with the contents of all collections.
* `Document.value`: the value of a document to some depth.
* `readDocument`: the document of a text, whose line ends are line feeds.
-/

namespace SymbolText.Yaml

/-- What a node denotes. -/
inductive Part
  | atom (a : Atom)
  /-- The collection of a node. -/
  | collection (number : Nat)

/-- What a collection consists of. -/
inductive Contents
  | sequence (items : List Part)
  | mapping (entries : List (Atom × Part))
  /-- A collection that is neither, of which only the emptiness is known. -/
  | other (isEmpty : Bool)

/-- The root of a document and the contents of its collections by their numbers. -/
structure Document where
  root : Part
  contents : Array Contents

/-! ## Finding parts -/

/-- What has been found. -/
structure Building where
  nodes : Array Node
  /-- What nodes denote, where it has been found. -/
  parts : Array (Option Part)
  contents : Array Contents
  /-- The collections in the order in which they have been found. -/
  collections : Array Nat

/-- Finding parts, which may fail. -/
abbrev Finding := StateT Building (Except Fault)

namespace Building

/-- Fails since something is not written as a document has to be. -/
def malformed {α : Type} : Finding α := throw .malformed

/-- The node of a number. -/
def node (number : Nat) : Finding Node := do
  match (← get).nodes[number]? with
  | some n => return n
  | none => malformed

/-- Changes the node of a number. -/
def setNode (number : Nat) (n : Node) : Finding Unit :=
  modify fun b => { b with nodes := b.nodes.setIfInBounds number n }

/-- The kind of a node. -/
def kind (number : Nat) : Finding Kind := do
  match ← node number with
  | .scalar kind _ | .sequence kind _ | .mapping kind _ => return kind

/-- Whether a node is of a kind. -/
def hasKind (k : Kind) (number : Nat) : Finding Bool := return (← kind number) == k

/-- Gives a node another kind. -/
def setKind (number : Nat) (k : Kind) : Finding Unit := do
  setNode number (match ← node number with
    | .scalar _ text => .scalar k text
    | .sequence _ items => .sequence k items
    | .mapping _ entries => .mapping k entries)

/-- Sets the contents of a collection. -/
def setContents (number : Nat) (c : Contents) : Finding Unit :=
  modify fun b => { b with contents := b.contents.setIfInBounds number c }

/-! ### Merging -/

/-- The entries of a mapping. -/
def entries (number : Nat) : Finding (List (Nat × Nat)) := do
  match ← node number with
  | .mapping _ entries => return entries
  | _ => malformed

/-- Sets the entries of a mapping. -/
def setEntries (number : Nat) (es : List (Nat × Nat)) : Finding Unit := do
  setNode number (.mapping (← kind number) es)

/-- The value of the first entry whose key asks for merging, and the entries without it. -/
def takeMerge? : List (Nat × Nat) → Finding (Option (Nat × List (Nat × Nat)))
  | [] => return none
  | (k, v) :: rest => do
    if ← hasKind .merge k then return some (v, rest)
    else return (← takeMerge? rest).map fun (found, others) => (found, (k, v) :: others)

/-- The keys of default values become texts. -/
def settleDefaults (es : List (Nat × Nat)) : Finding Unit :=
  es.forM fun (k, _) => do if ← hasKind .default k then setKind k .text

/-- Takes the entries of other mappings into a mapping, in front of its own and after `taken`: an
entry whose key asks for it is replaced by the entries of its value, which is a mapping or a
sequence of mappings, the last of which comes first. An entry is removed before its value is looked
at, so a mapping may take in itself; the first argument bounds the number of these entries. -/
def flatten (number : Nat) (taken : List (Nat × Nat)) : Nat → Finding Unit
  | 0 => malformed
  | bound + 1 => do
    match ← takeMerge? (← entries number) with
    | none =>
      let own ← entries number
      settleDefaults own
      setEntries number (taken ++ own)
    | some (source, others) =>
      setEntries number others
      let sources ← match ← node source with
        | .mapping .. => pure [source]
        | .sequence _ items => pure items
        | .scalar .. => malformed
      let parts ← sources.mapM fun n => do
        flatten n [] bound
        entries n
      flatten number (taken ++ parts.reverse.flatten) bound

/-- A bound on the entries of all mappings. -/
def bound : Finding Nat := do
  let sizes := (← get).nodes.map fun
    | .mapping _ entries => entries.length
    | _ => 0
  return sizes.foldl (· + ·) 1

/-! ### Nodes -/

/-- The text of a scalar; that of a mapping is the text of its default value. The first argument
bounds the number of mappings inside each other. -/
def scalarText (number : Nat) : Nat → Finding Text
  | 0 => malformed
  | depth + 1 => do
    match ← node number with
    | .scalar _ text => return text
    | .sequence .. => malformed
    | .mapping _ entries =>
      match ← entries.findM? fun (k, _) => hasKind .default k with
      | some (_, v) => scalarText v depth
      | none => malformed

/-- Whether nodes of a kind are collections. -/
def isCollection : Kind → Bool
  | .sequence | .mapping | .set | .pairs => true
  | _ => false

/-- The atom of a node of a kind. A mapping may have the text of a scalar, but not of a date; and
what is not a number is of the node alone where it has no word of its own. -/
def atom (number : Nat) (k : Kind) : Finding Atom := do
  let text ← scalarText number (← get).nodes.size
  match k, ← node number with
  | .time, .mapping .. => throw (.unreadable .timeOfMapping)
  | _, _ =>
    match Atom.read k text with
    | .ok (.value (.float .nan)) => return .notNumber (some number)
    | .ok a => return a
    | .error e => throw e

/-- What a node denotes, found when it is first asked for. -/
def part (number : Nat) : Finding Part := do
  match (← get).parts[number]? with
  | some (some p) => return p
  | _ =>
    let k ← kind number
    let p ←
      if isCollection k then
        modify fun b => { b with collections := b.collections.push number }
        pure (.collection number)
      else pure (.atom (← atom number k))
    modify fun b => { b with parts := b.parts.setIfInBounds number (some p) }
    return p

/-! ### Collections -/

/-- The entries with the part of a key set; of equal keys the first stays. -/
def setEntry (key : Atom) (p : Part) : List (Atom × Part) → List (Atom × Part)
  | [] => [(key, p)]
  | (k, q) :: rest => if k.same key then (k, p) :: rest else (k, q) :: setEntry key p rest

/-- Adds entries to others; a collection cannot be a key. -/
def addEntries (found : List (Atom × Part)) :
    List (Nat × Nat) → Finding (List (Atom × Part))
  | [] => return found
  | (k, v) :: rest => do
    match ← part k with
    | .atom key => addEntries (setEntry key (← part v) found) rest
    | .collection _ => malformed

/-- The entries of a mapping with those that it takes in. -/
def mappingEntries (number : Nat) : Finding (List (Atom × Part)) := do
  let _ ← entries number
  flatten number [] (← bound)
  addEntries [] (← entries number)

/-- Looks at a mapping of one entry. -/
def visitPair (number : Nat) : Finding Unit := do
  match ← entries number with
  | [(k, v)] =>
    let _ ← part k
    let _ ← part v
  | _ => malformed

/-- Finds what a collection consists of. -/
def fill (number : Nat) : Finding Unit := do
  match ← node number with
  | .sequence .sequence items => setContents number (.sequence (← items.mapM part))
  | .sequence .pairs items =>
    items.forM visitPair
    setContents number (.other items.isEmpty)
  | .mapping .mapping _ => setContents number (.mapping (← mappingEntries number))
  | .mapping .set _ => setContents number (.other (← mappingEntries number).isEmpty)
  | _ => malformed

/-- Finds what the collections consist of, from the one with `index` others before it on. The first
argument bounds the number of collections. -/
def fillAll (index : Nat) : Nat → Finding Unit
  | 0 => return
  | bound + 1 => do
    match (← get).collections[index]? with
    | some number =>
      fill number
      fillAll (index + 1) bound
    | none => return

/-- What a node and all that it consists of denote. -/
def document (root : Nat) : Finding Part := do
  let p ← part root
  fillAll 0 (← get).nodes.size
  return p

end Building

/-- The document of a graph. -/
def Document.ofGraph (g : Graph) : Except Fault Document := do
  let size := g.nodes.size
  let start : Building :=
    { nodes := g.nodes
      parts := Array.replicate size none
      contents := Array.replicate size (.other true)
      collections := #[] }
  let (root, found) ← (Building.document g.root).run start
  .ok ⟨root, found.contents⟩

/-! ## Values -/

/-- The value of a part of a document, where collections inside others are followed to a depth and
are null beyond it. A collection that is neither a sequence nor a mapping is a list that is empty
if it is. -/
def Document.partValue (d : Document) : Nat → Part → Value
  | _, .atom a => a.toValue
  | 0, .collection _ => .null
  | depth + 1, .collection number =>
    match d.contents[number]? with
    | some (.sequence items) => .list (items.map (partValue d depth))
    | some (.mapping entries) =>
      .dict (entries.map fun (k, p) => (k.toValue, partValue d depth p))
    | some (.other isEmpty) => .list (if isEmpty then [] else [.null])
    | none => .null

/-- The value of a document to a depth. -/
def Document.value (d : Document) (depth : Nat) : Value := d.partValue depth d.root

/-! ## Texts -/

/-- A character that documents may hold. -/
def isAllowed (c : Char) : Bool :=
  let n := c.toNat
  n = 0x9 || n = 0xa || n = 0xd || (Nat.ble 0x20 n && Nat.ble n 0x7e) || n = 0x85 ||
    (Nat.ble 0xa0 n && Nat.ble n 0xd7ff) || (Nat.ble 0xe000 n && Nat.ble n 0xfffd) ||
    Nat.ble 0x10000 n

/-- The document of a text of allowed characters that holds a single one. Values that nodes do not
have show at last. -/
def readAllowed (text : List Char) : Except Stop Document := do
  let g ← Graph.ofScan (scan text)
  (Document.ofGraph g).mapError fun fault => ⟨text.length, fault⟩

/-- The document of a text that holds a single one. A character that is not allowed shows as soon as
it is delivered. -/
def readDocument (text : List Char) : Except Stop Document :=
  match text.findIdx? (!isAllowed ·), readAllowed text with
  | none, outcome => outcome
  | some i, .ok _ => .error ⟨Text.Delivery.arrival i, .malformed⟩
  | some i, .error stop =>
    .error (if stop.place < Text.Delivery.arrival i then stop
      else ⟨Text.Delivery.arrival i, .malformed⟩)

end SymbolText.Yaml
