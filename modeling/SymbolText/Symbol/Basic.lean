import SymbolText.Text.CodePoint
import SymbolText.Word64

/-!
# Symbols

A symbol is a named 64-bit integer of one enumeration type. Its key is the name under which
catalogs hold its texts, and its name is what is shown where a catalog has none.

The model of `Symbol`.
-/

namespace SymbolText

/-- A named integer constant of an enumeration type (`Symbol`). -/
structure Symbol where
  /-- The type that the symbol belongs to. -/
  typeName : String
  /-- The name, which is the fallback text. -/
  name : Text
  /-- The value, within the range of its signedness. -/
  value : Int
  /-- Whether the value is a signed integer. -/
  signed : Bool
  /-- The declared name, which is the key into catalogs. -/
  key : Text
  /-- The written form of the value. -/
  text : String
  /-- The value is in range. -/
  fits : Word64.Fits signed value
  deriving DecidableEq

end SymbolText
