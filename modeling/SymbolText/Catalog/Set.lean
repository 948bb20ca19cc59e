import SymbolText.Catalog.Basic
import SymbolText.Text.Literal
import SymbolText.Text.Order

/-!
# Catalog sets

The catalogs of several locales, one for each, in the order of the locales.

The model of `CatalogSet`, of catalogs that nothing else changes.

* `CatalogSet.ofCatalogs`: catalogs of one locale are merged into the first of them.
* `CatalogSet.locales`, `ordinals`: the locales in order, and their positions.
* `CatalogSet.find?`: the catalog of a locale.
-/

namespace SymbolText

/-- Catalogs of distinct locales, in the order of the locales (`CatalogSet`). -/
structure CatalogSet where
  catalogs : List Catalog

namespace CatalogSet

/-- Adds a catalog to those of other locales: it is merged into the one of its locale if there
is one. -/
def addCatalog (merged : List Catalog) (c : Catalog) : List Catalog :=
  match merged with
  | [] => [c]
  | d :: rest => if d.locale = c.locale then d.merge c :: rest else d :: addCatalog rest c

/-- One catalog for each locale, in the order of their first occurrence. -/
def mergeByLocale (catalogs : List Catalog) : List Catalog := catalogs.foldl addCatalog []

/-- The set of some catalogs (`CatalogSet.__init__`). -/
def ofCatalogs (catalogs : List Catalog) : CatalogSet :=
  ⟨(mergeByLocale catalogs).mergeSort fun a b => Text.leString a.locale b.locale⟩

/-- The locales in order (`CatalogSet.locales`). -/
def locales (set : CatalogSet) : List String := set.catalogs.map (·.locale)

/-- The position of each locale. -/
def ordinals (set : CatalogSet) : List (String × Nat) := set.locales.zipIdx

/-- The catalog of a locale (`CatalogSet.get`). -/
def find? (set : CatalogSet) (locale : String) : Option Catalog :=
  set.catalogs.find? fun c => decide (c.locale = locale)

end CatalogSet

/-- The written form of a list of locales. -/
def renderLocales (locales : List String) : String :=
  let items := String.intercalate ", " (locales.map Text.Literal.ofString)
  s!"CatalogSet([{items}])"

end SymbolText
