import SymbolText.Dict
import SymbolText.Error

/-!
# File trees

What lies beneath the working directory: directories, regular files, and links that lead nowhere. A
regular file has octets, or a reason why it cannot be opened. Directories can be listed and passed
through. A tree lists every path once, and the directories on the way to a path are in it.

* `FileTree.addFile`, `addDirectory`, `addDanglingLink`: building a tree.
* `Node`, `Content`: what can be at a path.
* `FileTree.node`: what is at a path, or why nothing can be reached there.
* `FileTree.read`: the octets of a file.
* `FileTree.entries`, `FileTree.beneath`: the entries of a directory, and all that is beneath
  it, in the order of paths.
-/

namespace SymbolText

/-- What opening a regular file gives. -/
inductive Content
  | octets (octets : List UInt8)
  /-- The system does not open the file. -/
  | refused (reason : Refusal)
  deriving DecidableEq

/-- What is at a path. -/
inductive Node
  | directory
  /-- A regular file, whether it can be opened or not. -/
  | file (content : Content)
  /-- A link to nothing. -/
  | danglingLink
  deriving DecidableEq

/-- Whether a node is a regular file. -/
def Node.isFile : Node → Bool
  | file _ => true
  | _ => false

/-- The paths beneath the working directory with what is at each. -/
structure FileTree where
  nodes : Dict (List String) Node

namespace FileTree

/-- The tree of an empty working directory. -/
def empty : FileTree := ⟨.empty⟩

/-! ## Building -/

/-- Puts a node at a place. -/
def place (t : FileTree) (at' : List String) (n : Node) : FileTree := ⟨t.nodes.insert at' n⟩

/-- Makes a place a directory if nothing is there. -/
def ensure (t : FileTree) (at' : List String) : FileTree :=
  if t.nodes.contains at' then t else t.place at' .directory

/-- Makes every place on the way to and including `above ++ steps` a directory. -/
def ensureAll (t : FileTree) (above : List String) : List String → FileTree
  | [] => t
  | step :: more =>
    let next := above ++ [step]
    ensureAll (t.ensure next) next more

/-- Puts a node at a path, with the directories on the way. -/
def add (t : FileTree) (p : Path) (n : Node) : FileTree :=
  (t.ensureAll [] p.components.dropLast).place p.components n

/-- Adds a file. -/
def addFile (t : FileTree) (p : Path) (octets : List UInt8) : FileTree :=
  t.add p (.file (.octets octets))

/-- Adds a link to nothing. -/
def addDanglingLink (t : FileTree) (p : Path) : FileTree := t.add p .danglingLink

/-- Adds a directory. -/
def addDirectory (t : FileTree) (p : Path) : FileTree := t.ensureAll [] p.components

/-! ## Reading -/

/-- What is at a place; the working directory is a directory. -/
def nodeAt? (t : FileTree) (at' : List String) : Option Node :=
  if at' = [] then some .directory else t.nodes.get? at'

/-- The step to the directory above. -/
def parentStep : String := ".."

/-- The greatest number of octets in a name. -/
def maxName : Nat := 255

/-- Whether a name is longer than names may be. -/
def isTooLong (name : String) : Bool := Nat.blt maxName name.utf8ByteSize

/-- The place that some steps lead to from `at'`, each from a directory. -/
def follow (t : FileTree) (at' : List String) : List String → Except ReadFailure (List String)
  | [] => .ok at'
  | step :: more =>
    match t.nodeAt? at' with
    | some .directory =>
      if isTooLong step then .error .nameTooLong
      else if step = parentStep then
        if at' = [] then .error .notFound else follow t at'.dropLast more
      else follow t (at' ++ [step]) more
    | some (.file _) => .error .notDirectory
    | some .danglingLink | none => .error .notFound

/-- The number of octets from which on the written form of a path is too long. -/
def maxPath : Nat := 4096

/-- The place that a path leads to, and what is there. -/
def node (t : FileTree) (p : Path) : Except ReadFailure (List String × Node) := do
  if maxPath ≤ p.render.utf8ByteSize then throw .nameTooLong
  let place ← t.follow [] p.components
  match t.nodeAt? place with
  | some n => .ok (place, n)
  | none => .error .notFound

/-- Whether a path cannot be looked at, since it or a name in it is too long. -/
def isOverlong (t : FileTree) (p : Path) : Bool :=
  match t.node p with
  | .error .nameTooLong => true
  | _ => false

/-- The octets of the file at a path (`open`). -/
def read (t : FileTree) (p : Path) : Except ReadFailure (List UInt8) := do
  match (← t.node p).2 with
  | .file (.octets octets) => .ok octets
  | .file (.refused reason) => .error (.refused reason)
  | .directory => .error .isDirectory
  | .danglingLink => .error .notFound

/-- The place of the directory at a path, if there is one. -/
def directory? (t : FileTree) (p : Path) : Option (List String) :=
  match t.node p with
  | .ok (place, .directory) => some place
  | _ => none

/-! ## Listing -/

/-- What follows `start` in a list that begins with it. -/
def after? : List String → List String → Option (List String)
  | [], rest => some rest
  | _ :: _, [] => none
  | a :: start, b :: rest => if a = b then after? start rest else none

/-- All that is beneath the directory at a place, by the steps that lead there from it, in the order
of paths (`rglob`). -/
def beneath (t : FileTree) (place : List String) : List (List String × Node) :=
  let found := t.nodes.entries.filterMap fun (steps, n) =>
    match after? place steps with
    | none | some [] => none
    | some rest => some (rest, n)
  found.mergeSort fun a b => Text.leComponents a.1 b.1

/-- The entries of the directory at a place in the order of their names (`iterdir`). -/
def entries (t : FileTree) (place : List String) : List (String × Node) :=
  (t.beneath place).filterMap fun (steps, n) =>
    match steps with
    | [name] => some (name, n)
    | _ => none

end FileTree

end SymbolText
