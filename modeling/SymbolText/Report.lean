import SymbolText.Catalog.Set
import SymbolText.Symbol.Set

/-!
# Consistency reports

A report compares the names that types declare with the keys of catalogs: a declared name
without a text is missing, and a key that no type declares is orphaned.

Models of `check`, `find_missing`, `find_orphaned` and `CheckReport`.

* `Report.missingOf`, `Report.orphanedOf`: the two comparisons.
* `Report.ofSets`: the report on types and catalogs.
* `Report.missingCount`, `orphanedCount`, `isSuccess`: its figures.
* `Report.lines`: its text, where missing names stand as entries that can be pasted into a
  catalog file.
-/

namespace SymbolText

/-- What is missing from catalogs, by type and locale, and what is orphaned in them
(`CheckReport`). -/
structure Report where
  missing : Dict String (Dict String (List Text))
  orphaned : Dict String (List String)

namespace Report

/-! ## Comparing -/

/-- The names that a type declares and a catalog has no text for. -/
def missingNames (set : SymbolSet) (c : Catalog) : List Text :=
  set.names.filter fun name => (c.textOf? name).isNone

/-- Records the names of a type that are missing from a catalog. -/
def recordMissing (set : SymbolSet) (missing : Dict String (Dict String (List Text)))
    (c : Catalog) : Dict String (Dict String (List Text)) :=
  match missingNames set c with
  | [] => missing
  | names =>
    missing.insert set.typeName
      (((missing.get? set.typeName).getD .empty).insert c.locale names)

/-- The names that are missing, by type and locale (`find_missing`). -/
def missingOf (sets : List SymbolSet) (catalogs : CatalogSet) :
    Dict String (Dict String (List Text)) :=
  sets.foldl (fun missing set => catalogs.catalogs.foldl (recordMissing set) missing) .empty

/-- The keys of a catalog that are not declared, in order. -/
def orphanedKeys (declared : List Text) (c : Catalog) : List String :=
  Text.sortStrings (c.messages.keys.filter fun key => !declared.contains (.ofString key))

/-- The keys that no type declares, by locale (`find_orphaned`). -/
def orphanedOf (sets : List SymbolSet) (catalogs : CatalogSet) : Dict String (List String) :=
  let declared := sets.flatMap SymbolSet.names
  .ofList <| catalogs.catalogs.filterMap fun c =>
    match orphanedKeys declared c with
    | [] => none
    | keys => some (c.locale, keys)

/-- The report on types and catalogs (`check`). -/
def ofSets (sets : List SymbolSet) (catalogs : CatalogSet) : Report :=
  ⟨missingOf sets catalogs, orphanedOf sets catalogs⟩

/-! ## Figures -/

/-- The missing texts, each by its type, its locale and its name. -/
def missingTriples (r : Report) : List (String × String × Text) :=
  r.missing.entries.flatMap fun (typeName, locales) =>
    locales.entries.flatMap fun (locale, names) => names.map fun name => (typeName, locale, name)

/-- The orphaned keys, each by its locale. -/
def orphanedPairs (r : Report) : List (String × String) :=
  r.orphaned.entries.flatMap fun (locale, keys) => keys.map fun key => (locale, key)

/-- The number of missing texts (`CheckReport.missing_count`). -/
def missingCount (r : Report) : Nat := r.missingTriples.length

/-- The number of orphaned keys (`CheckReport.orphaned_count`). -/
def orphanedCount (r : Report) : Nat := r.orphanedPairs.length

/-- Whether nothing was recorded (`CheckReport.is_success`). -/
def isSuccess (r : Report) : Bool := r.missing.isEmpty && r.orphaned.isEmpty

/-! ## Text -/

/-- The entry of a name without a text. -/
def blankEntry (name : Text) : Text := name ++ "=\"\""

/-- The lines of the names that are missing for a type in a locale. -/
def missingBlock (typeName locale : String) (names : List Text) : List Text :=
  s!"************TYPE `{typeName}` locale `{locale}` missing key-value pair************" ::
    names.map blankEntry

/-- The lines of the keys that are orphaned in a locale. -/
def orphanedBlock (locale : String) (keys : List String) : List Text :=
  s!"************Can be deleted catalog keys of locale `{locale}`************" ::
    keys.map Text.ofString

/-- The lines before those on missing names. -/
def missingHeading : List Text :=
  ["Check Fail", "The missing key-value pair information as follows",
    "You can copy and fill it to the corresponding catalog file"]

/-- The lines on missing names. -/
def missingLines (r : Report) : List Text :=
  if r.missing.isEmpty then []
  else
    missingHeading ++ r.missing.entries.flatMap fun (typeName, locales) =>
      locales.entries.flatMap fun (locale, names) => missingBlock typeName locale names

/-- The lines before those on orphaned keys. -/
def orphanedHeading : List Text :=
  ["Check Warning",
    "key-value pairs that will not be used because there is no corresponding defined constant",
    "You can delete the key-value pairs in the corresponding catalog file"]

/-- The lines on orphaned keys. -/
def orphanedLines (r : Report) : List Text :=
  if r.orphaned.isEmpty then []
  else
    orphanedHeading ++ r.orphaned.entries.flatMap fun (locale, keys) => orphanedBlock locale keys

/-- The line of a report that found nothing. -/
def successLine : Text := "Check success, All constants have key-value pairs set"

/-- The lines of a report (`CheckReport.lines`). -/
def lines (r : Report) : List Text :=
  r.missingLines ++ r.orphanedLines ++
    if r.isSuccess then [successLine] else []

end Report

end SymbolText
