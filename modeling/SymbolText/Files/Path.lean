import SymbolText.Text.Order

/-!
# Paths

A path names a file or directory relative to the working directory, as a list of components.

* `Path.ofString`: components between slashes, where empty ones and single dots are dropped.
* `Path.render`: the written form; the working directory itself is a dot.
* `Path.le`: the order of paths, component by component.
-/

namespace SymbolText

/-- A path relative to the working directory (`Path`). -/
structure Path where
  components : List String
  deriving DecidableEq, Repr

namespace Path

/-- Cuts a text at every slash. -/
def cutAtSlashes : List Char → List (List Char)
  | [] => [[]]
  | c :: rest =>
    match cutAtSlashes rest with
    | [] => [[c]]
    | piece :: more => if c = '/' then [] :: piece :: more else (c :: piece) :: more

/-- The path that a string names. -/
def ofString (s : String) : Path :=
  ⟨((cutAtSlashes s.toList).map String.ofList).filter fun piece => piece ≠ "" ∧ piece ≠ "."⟩

/-- The written form of a path. -/
def render (p : Path) : String :=
  match p.components with
  | [] => "."
  | components => String.intercalate "/" components

/-- The path of an entry of the directory at `p`. -/
def entry (p : Path) (name : String) : Path := ⟨p.components ++ [name]⟩

/-- Whether there is a zero character in a path; nothing can be reached by it then. -/
def hasNull (p : Path) : Bool := p.components.any fun name => name.toList.contains '\x00'

/-- `p` comes no later than `q`. -/
def le (p q : Path) : Bool := Text.leComponents p.components q.components

end Path

end SymbolText
