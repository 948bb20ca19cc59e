import SymbolText.Dict
import SymbolText.Text.CodePoint

/-!
# Catalogs

The texts of one locale, by the keys of the symbols that they belong to, with the files that
they come from.

Models of `LocaleCatalog` and `catalog_from_mapping`.

* `Catalog`: the type.
* `Catalog.ofMessages`: a catalog of given texts.
* `Catalog.message?`, `hasMessage`, `textOf?`: looking up a text.
* `Catalog.setMessage`, `Catalog.merge`: writing one text, or all those of another catalog.
-/

namespace SymbolText

/-- The texts of a locale (`LocaleCatalog`). -/
structure Catalog where
  locale : String
  messages : Dict String String
  sources : List String

namespace Catalog

/-- The catalog of a locale without texts. -/
def blank (locale : String) : Catalog := ⟨locale, .empty, []⟩

/-- The catalog of given texts, where a later text of a key replaces an earlier one
(`catalog_from_mapping`); an empty name of a source counts as none. -/
def ofMessages (locale : String) (messages : List (String × String)) (source : Option String) :
    Catalog :=
  { locale
    messages := .ofList messages
    sources := source.toList.filter (· ≠ "") }

/-- The text of a key (`LocaleCatalog.get_message`). -/
def message? (c : Catalog) (key : String) : Option String := c.messages.get? key

/-- Whether there is a text of a key, be it empty (`LocaleCatalog.has_message`). -/
def hasMessage (c : Catalog) (key : String) : Bool := c.messages.contains key

/-- The text of the key that a name is; a name with a surrogate in it is none. -/
def textOf? (c : Catalog) (name : Text) : Option String := name.string?.bind c.message?

/-- Writes the text of a key (`LocaleCatalog.set_message`). -/
def setMessage (c : Catalog) (key text : String) : Catalog :=
  { c with messages := c.messages.insert key text }

/-- Writes all texts of another catalog and adds its sources (`LocaleCatalog.merge`). -/
def merge (c other : Catalog) : Catalog :=
  { c with
    messages := c.messages.update other.messages.entries
    sources := c.sources ++ other.sources }

end Catalog

end SymbolText
