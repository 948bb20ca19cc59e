import SymbolText.Source
import SymbolText.Yaml.Document

/-!
# Reading symbol files as documents

The reader that symbol files are read with. A file is read in pieces, of which two are delivered
before any is looked at, so that octets that are not UTF-8 count unless a fault shows in what has
been looked at before they are met.

This reader stands for `safe_load` on an open file wherever one is needed; what is proved about
symbol files is proved for any reader.

* `reader`: values of documents to some depth.
* `fileDepth`: the depth to which they matter.
-/

namespace SymbolText.Yaml

/-- The reader of documents, whose values are taken to some depth (`safe_load`). -/
def reader (depth : Nat) : SymbolSource.Reader where
  read text := (readDocument text).map (·.value depth) |>.mapError (·.fault)
  stop? text :=
    if text.length < Text.Delivery.readAhead then none
    else match readDocument text with
      | .ok _ => none
      | .error stop => if stop.place < text.length then some stop.fault else none

/-- The depth to which the value of a symbol file matters: the types, what is said of each, and
its symbols. -/
def fileDepth : Nat := 3

end SymbolText.Yaml
