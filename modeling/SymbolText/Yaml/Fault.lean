import SymbolText.Error

/-!
# Faults of documents

Why a text is not a document, and where this shows. The place matters for a text that arrives in
pieces, of which those behind it are not looked at any more.

* `Fault`: the reasons.
* `Stop`: a reason with the place where reading stops.
-/

namespace SymbolText.Yaml

/-- Why a document has no value. -/
inductive Fault
  /-- It is not written as a document. -/
  | malformed
  /-- What is written denotes nothing. -/
  | unreadable (e : Error)

/-- Where reading stops. -/
structure Stop where
  /-- The number of characters before the last one that has been looked at. -/
  place : Nat
  fault : Fault

end SymbolText.Yaml
