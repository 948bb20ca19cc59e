import SymbolText.Catalog.Set

/-!
# Shared catalogs

Catalogs that sets refer to, so that a change of a catalog shows in every set that it is in.
Forming a set merges the later catalogs of a locale into the first one, which changes.

The model of `LocaleCatalog` and `CatalogSet` where catalogs are shared.

* `CatalogStore`: catalogs by their references.
* `CatalogStore.add`, `update`, `merge`: new catalogs and changes.
* `CatalogGroup`: the references of a set, by locale.
* `CatalogStore.group`: forms a set.
* `CatalogStore.catalogsOf`: the catalogs of a set as they are now.
* `CatalogSession.run`: the catalogs and sets after a sequence of steps.
-/

namespace SymbolText

/-- Catalogs by their references, which count from zero. -/
structure CatalogStore where
  catalogs : List Catalog

/-- The references of a set of catalogs, by locale in the order of locales (`CatalogSet`). -/
structure CatalogGroup where
  members : List (String × Nat)

namespace CatalogGroup

/-- The locales in order (`CatalogSet.locales`). -/
def locales (g : CatalogGroup) : List String := g.members.map (·.1)

/-- The position of each locale. -/
def ordinals (g : CatalogGroup) : List (String × Nat) := g.locales.zipIdx

/-- The reference of the catalog of a locale (`CatalogSet.get`). -/
def find? (g : CatalogGroup) (locale : String) : Option Nat :=
  (g.members.find? fun m => decide (m.1 = locale)).map (·.2)

end CatalogGroup

namespace CatalogStore

/-- The store without catalogs. -/
def empty : CatalogStore := ⟨[]⟩

/-- The catalog of a reference. -/
def get? (s : CatalogStore) (ref : Nat) : Option Catalog := s.catalogs[ref]?

/-- The reference that the next new catalog gets. -/
def next (s : CatalogStore) : Nat := s.catalogs.length

/-- Adds a catalog. -/
def add (s : CatalogStore) (c : Catalog) : CatalogStore := ⟨s.catalogs ++ [c]⟩

/-- Changes the catalog of a reference. -/
def update (s : CatalogStore) (ref : Nat) (f : Catalog → Catalog) : CatalogStore :=
  ⟨s.catalogs.modify ref f⟩

/-- Merges the catalog of `other` into the one of `ref` (`LocaleCatalog.merge`). -/
def merge (s : CatalogStore) (ref other : Nat) : CatalogStore :=
  match s.get? other with
  | some c => s.update ref (·.merge c)
  | none => s

/-- The store and the members after one more catalog joins a set: it is merged into the member
of its locale if there is one, and becomes a member otherwise. -/
def join (state : CatalogStore × List (String × Nat)) (ref : Nat) :
    CatalogStore × List (String × Nat) :=
  let (s, members) := state
  match s.get? ref with
  | none => state
  | some c =>
    match members.find? fun m => decide (m.1 = c.locale) with
    | some (_, first) => (s.merge first ref, members)
    | none => (s, members ++ [(c.locale, ref)])

/-- Forms the set of some catalogs (`CatalogSet.__init__`). -/
def group (s : CatalogStore) (refs : List Nat) : CatalogStore × CatalogGroup :=
  let (s, members) := refs.foldl join (s, [])
  (s, ⟨members.mergeSort fun a b => Text.leString a.1 b.1⟩)

/-- The catalogs of a set as they are now. -/
def catalogsOf (s : CatalogStore) (g : CatalogGroup) : List Catalog :=
  g.members.filterMap fun m => s.get? m.2

end CatalogStore

/-! ## Sessions -/

/-- A step that makes or changes catalogs, or forms a set. -/
inductive CatalogStep
  | add (c : Catalog)
  | setMessage (ref : Nat) (key text : String)
  | merge (ref other : Nat)
  | group (refs : List Nat)

/-- Shared catalogs and the sets formed from them, which are numbered from zero too. -/
structure CatalogSession where
  store : CatalogStore
  groups : List CatalogGroup

namespace CatalogSession

/-- The session before any step. -/
def empty : CatalogSession := ⟨.empty, []⟩

/-- The session after one more step. -/
def step (s : CatalogSession) : CatalogStep → CatalogSession
  | .add c => { s with store := s.store.add c }
  | .setMessage ref key text => { s with store := s.store.update ref (·.setMessage key text) }
  | .merge ref other => { s with store := s.store.merge ref other }
  | .group refs =>
    let (store, g) := s.store.group refs
    ⟨store, s.groups ++ [g]⟩

/-- The session after some steps. -/
def run (steps : List CatalogStep) : CatalogSession := steps.foldl step empty

end CatalogSession

end SymbolText
