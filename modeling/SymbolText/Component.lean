/-!
# Components

The parts of a package that report events are named by their path within it.

The model of `_component`.

* `componentName`: the name of the component that a module is.
-/

namespace SymbolText

/-- What follows the last dot of a text, or all of it if there is none. -/
def afterLastDot (text : List Char) : List Char :=
  (text.reverse.takeWhile (· ≠ '.')).reverse

/-- The component that a module of a package is (`_component`): its path within the package, or for
a module of another package the last part of its name. -/
def componentName (package name : String) : String :=
  let start := package.toList ++ ['.']
  let text := name.toList
  if start.isPrefixOf text then String.ofList (text.drop start.length)
  else String.ofList (afterLastDot text)

end SymbolText
