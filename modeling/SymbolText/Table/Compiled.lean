import SymbolText.Catalog.Set
import SymbolText.Table.Basic

/-!
# Compiled types

Everything that is built for one set of symbols: its runs, and one table for each locale, all of
the same layout.

Models of `build_tables`, `compile_type` and `CompiledType`.

* `CompiledType`: the type, and `CompiledType.table`, the table for a locale.
* `CompiledType.compile`: builds the tables of a set from catalogs.
-/

namespace SymbolText

/-- A set of symbols with its runs and its tables (`CompiledType`). -/
structure CompiledType where
  set : SymbolSet
  runs : List Run
  strategy : Strategy
  /-- The locales in order. -/
  locales : List String
  /-- The position of each locale. -/
  ordinals : List (String × Nat)
  /-- The locale whose table stands in for those of unknown locales. -/
  defaultLocale : String
  tables : Dict String Table

namespace CompiledType

/-- The name of the type (`CompiledType.type_name`). -/
def typeName (c : CompiledType) : String := c.set.typeName

/-- The table for a locale (`CompiledType.table`): its own, or else the one of the default
locale. -/
def table (c : CompiledType) (locale : String) : Except Error Table :=
  match c.tables.get? locale with
  | some t => .ok t
  | none =>
    match c.tables.get? c.defaultLocale with
    | some t => .ok t
    | none => .error (.unknownKey c.defaultLocale)

/-- The tables of a set for the locales of some catalogs, all by one strategy (`build_tables`). -/
def buildTables (set : SymbolSet) (runs : List Run) (strategy : Strategy)
    (catalogs : CatalogSet) : Except Error (Dict String Table) := do
  let tables ← catalogs.catalogs.mapM fun c => do
    let t ← Table.build set runs c.locale (some c) (some strategy)
    .ok (c.locale, t)
  .ok (.ofList tables)

/-- Splits a set into runs and builds its tables (`compile_type`). -/
def compile (set : SymbolSet) (catalogs : CatalogSet) (defaultLocale : String) :
    Except Error CompiledType := do
  let runs ← splitIntoRuns set.symbols none
  let strategy ← Strategy.ofRunCount runs.length
  let tables ← buildTables set runs strategy catalogs
  .ok
    { set, runs, strategy, defaultLocale, tables
      locales := catalogs.locales
      ordinals := catalogs.ordinals }

end CompiledType

end SymbolText
