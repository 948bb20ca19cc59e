import SymbolText.Catalog.File
import SymbolText.Catalog.Set
import SymbolText.Files.Tree
import SymbolText.Log

/-!
# Catalog directories

A directory tree of catalog files, told from other files by their extension. Beneath the root, a
directory holds the files of the locale that it is named for, at any depth, and a file holds
texts of the locale that it is named for. Other files are reported.

Models of `TomlCatalogLoader` and `load_catalogs`.

* `CatalogRoot`, `CatalogRoot.locate`: a directory to read catalogs from, and the one at a path.
* `CatalogRoot.discover`: the locales with their files, in the order of paths.
* `CatalogRoot.load`, `loadAll`: the catalog of one locale, and of all.
* `CatalogDirectory`: a root beneath which discovery can look at every path.

The files of a locale are read in the order of their paths, so that the last entry of a key in
that order has the text.
-/

namespace SymbolText

namespace CatalogDirectory

/-! ## Names -/

/-- The extension without its leading dots (`TomlCatalogLoader.__init__`). -/
def dropDots (extension : String) : String :=
  String.ofList (extension.toList.dropWhile (· = '.'))

/-- The stem of the name of a catalog file, which is what precedes the dot and the extension
(`TomlCatalogLoader._matches`); `none` if the name does not end with them, or is no longer. -/
def stem? (extension name : String) : Option String :=
  let ending := '.' :: extension.toList
  let chars := name.toList
  if chars.length > ending.length ∧ ending.isSuffixOf chars then
    some (String.ofList (chars.take (chars.length - ending.length)))
  else none

/-- Whether the last component of a path is the name of a catalog file
(`TomlCatalogLoader._matches`). -/
def isCatalog (extension : String) (p : Path) : Bool :=
  match p.components.getLast? with
  | some name => (stem? extension name).isSome
  | none => false

/-- What an entry of the root holds. -/
structure Finding where
  locale : String
  /-- The catalog files of the locale. -/
  files : List Path
  /-- The other files. -/
  ignored : List Path

/-- Adds the files of a finding to those of its locale. -/
def addFiles (found : Dict String (List Path)) (f : Finding) : Dict String (List Path) :=
  if f.files = [] then found
  else found.insert f.locale ((found.get? f.locale).getD [] ++ f.files)

/-! ## Reading in parallel -/

/-- The outcomes of operations that do not wait for each other: all report, and the first
failure in order is the failure of the whole. -/
def gather {α : Type} : List (Logged α) → Logged (List α)
  | [] => .of (.ok [])
  | x :: more =>
    let rest := gather more
    ⟨x.events ++ rest.events,
      match x.outcome with
      | .error e => .error e
      | .ok a => rest.outcome.map (a :: ·)⟩

/-! ## Catalogs from files -/

/-- Writes the entries of a file into the catalog of a locale; a key that is there already is
reported. -/
def writeEntries (p : Path) (c : Catalog) : List (String × String) → Catalog × List Event
  | [] => (c, [])
  | (key, text) :: more =>
    let (written, events) := writeEntries p (c.setMessage key text) more
    (written, if c.hasMessage key then .duplicateKey key p c.locale :: events else events)

/-- Writes the entries of files in order. -/
def writeFiles (c : Catalog) : List (Path × List (String × String)) → Catalog × List Event
  | [] => (c, [])
  | (p, entries) :: more =>
    let (first, events) :=
      writeEntries p { c with sources := c.sources ++ [p.render] } entries
    let (written, further) := writeFiles first more
    (written, events ++ further)

/-- The catalog of a locale from the entries of its files (`TomlCatalogLoader._build`). -/
def build (locale : String) (files : List (Path × List (String × String))) : Logged Catalog :=
  let (c, events) := writeFiles (.blank locale) files
  ⟨events, .ok c⟩

/-- The discovered locales in order. -/
def sortedLocales (found : Dict String (List Path)) : List String := Text.sortStrings found.keys

/-- Every locale with each of its files, locale by locale. -/
def pairs (found : Dict String (List Path)) : List (String × Path) :=
  (sortedLocales found).flatMap fun locale =>
    ((found.get? locale).getD []).map fun p => (locale, p)

/-- The files of a locale with their entries, among the files of all locales. -/
def partOf (locale : String) (parsed : List ((String × Path) × List (String × String))) :
    List (Path × List (String × String)) :=
  parsed.filterMap fun ((l, p), entries) => if l = locale then some (p, entries) else none

end CatalogDirectory

/-- A directory that catalogs are read from (`TomlCatalogLoader`). -/
structure CatalogRoot where
  tree : FileTree
  root : Path
  /-- Where the root is in the tree. -/
  place : List String
  /-- What the names of catalog files end with, without the dot. -/
  extension : String
  /-- The number of files that are read at a time. -/
  workers : Int

namespace CatalogRoot

open CatalogDirectory

/-- Why there is no catalog root at a path (`TomlCatalogLoader.__init__`). -/
def rootError (tree : FileTree) (root : Path) : Error :=
  match root.hasNull, tree.node root with
  | false, .error .nameTooLong => .pathTooLong root
  | _, _ => .rootNotDirectory root

/-- The catalog root at a path (`TomlCatalogLoader.__init__`). -/
def locate (tree : FileTree) (root : Path) (extension : String) (workers : Int) :
    Except Error CatalogRoot :=
  match tree.directory? root with
  | some place => .ok { tree, root, place, workers, extension := dropDots extension }
  | none => .error (rootError tree root)

/-! ## Discovery -/

/-- The path of what some steps lead to, from an entry of the root. -/
def pathOf (r : CatalogRoot) (name : String) (below : List String) : Path :=
  ⟨r.root.components ++ name :: below⟩

/-- The files beneath the entry `name` of the root. -/
def filesOf (r : CatalogRoot) (name : String) : List Path :=
  (r.tree.beneath (r.place ++ [name])).filterMap fun (below, n) =>
    if n.isFile then some (r.pathOf name below) else none

/-- What the entry `name` of the root holds (`TomlCatalogLoader.discover`). -/
def finding (r : CatalogRoot) (name : String) : Node → Finding
  | .directory =>
    let files := r.filesOf name
    { locale := name
      files := files.filter (isCatalog r.extension)
      ignored := files.filter (!isCatalog r.extension ·) }
  | _ =>
    match stem? r.extension name with
    | some locale => ⟨locale, [r.root.entry name], []⟩
    | none => ⟨name, [], [r.root.entry name]⟩

/-- What the entries of the root hold, in the order of their names. -/
def findings (r : CatalogRoot) : List Finding :=
  (r.tree.entries r.place).map fun (name, n) => r.finding name n

/-- The files of each locale, in the order of discovery. -/
def localeFiles (r : CatalogRoot) : Dict String (List Path) := r.findings.foldl addFiles .empty

/-- Looks at what is at a path, which fails if the path is too long. -/
def inspect (r : CatalogRoot) (p : Path) : Logged Unit :=
  .of (if r.tree.isOverlong p then .error (.pathTooLong p) else .ok ())

/-- The reports on files that are no catalogs (`TomlCatalogLoader._ignore`). -/
def ignoredEvents (r : CatalogRoot) (ignored : List Path) : List Event :=
  ignored.map fun p => .fileIgnored p r.extension

/-- Looks at something beneath a directory, and reports it if it is a file but no catalog. -/
def surveyItem (r : CatalogRoot) (name : String) (item : List String × Node) : Logged Unit := do
  let p := r.pathOf name item.1
  r.inspect p
  .report (r.ignoredEvents (if item.2.isFile && !isCatalog r.extension p then [p] else []))

/-- Looks at all that is beneath a directory. Listing it comes first, which opens the directories
in it and follows the links. -/
def surveyBeneath (r : CatalogRoot) (name : String) : Logged Unit := do
  let items := r.tree.beneath (r.place ++ [name])
  (items.filter (!·.2.isFile)).forM fun item => r.inspect (r.pathOf name item.1)
  items.forM (r.surveyItem name)

/-- Looks at an entry of the root, and at all that is beneath it if it is a directory. -/
def surveyEntry (r : CatalogRoot) (e : String × Node) : Logged Unit := do
  r.inspect (r.pathOf e.1 [])
  if e.2 = .directory then r.surveyBeneath e.1
  else .report (r.ignoredEvents (r.finding e.1 e.2).ignored)

/-- Looks at all that is beneath the root, and reports the files that are no catalogs
(`TomlCatalogLoader.discover`). -/
def survey (r : CatalogRoot) : Logged Unit := (r.tree.entries r.place).forM r.surveyEntry

/-- The files of each locale, where files that are no catalogs are reported
(`TomlCatalogLoader.discover`). -/
def discover (r : CatalogRoot) : Logged (Dict String (List Path)) := do
  r.survey
  pure r.localeFiles

/-! ## Reading files -/

/-- The entries of one file (`TomlCatalogLoader._read`). -/
def readFile (r : CatalogRoot) (p : Path) : Logged (List (String × String)) :=
  match r.tree.read p with
  | .ok octets => .of (CatalogFile.entries p.render octets)
  | .error failure => .fail [.unreadable p failure] (.unreadableCatalog p failure)

/-- The entries of files (`TomlCatalogLoader._parse_all`). A single worker stops at the first
failure; several read every file before that. -/
def readFiles (r : CatalogRoot) (paths : List Path) : Logged (List (List (String × String))) :=
  if paths.length ≤ 1 ∨ r.workers ≤ 1 then paths.mapM r.readFile
  else gather (paths.map r.readFile)

/-! ## Loading -/

/-- The catalog of a locale from its discovered files (`TomlCatalogLoader.load`). -/
def load (r : CatalogRoot) (locale : String) : Logged Catalog := do
  let found ← r.discover
  match found.get? locale with
  | none => .of (.error (.noCatalogOf locale r.root))
  | some paths =>
    let parsed ← r.readFiles paths
    build locale (paths.zip parsed)

/-- The catalogs of all discovered locales (`TomlCatalogLoader.load_all`); there has to be one. -/
def loadAll (r : CatalogRoot) : Logged CatalogSet := do
  let found ← r.discover
  if found.isEmpty then
    .fail [.noCatalogs r.root] (.noCatalogs r.root r.extension)
  else
    let pairs := pairs found
    let parsed ← r.readFiles (pairs.map (·.2))
    let catalogs ← (sortedLocales found).mapM fun locale =>
      build locale (partOf locale (pairs.zip parsed))
    pure (.ofCatalogs catalogs)

end CatalogRoot

/-- The catalogs of the catalog root at a path (`load_catalogs`). -/
def loadCatalogs (tree : FileTree) (root : Path) (extension : String) (workers : Int) :
    Logged CatalogSet := do
  let r ← .of (CatalogRoot.locate tree root extension workers)
  r.loadAll

/-! ## Roots that can be looked through -/

/-- A root beneath which discovery can look at every path. -/
structure CatalogDirectory extends CatalogRoot where
  surveyed : toCatalogRoot.survey.outcome = .ok ()

namespace CatalogDirectory

/-- A root as a catalog directory, or the failure of discovery. -/
def ofRoot (r : CatalogRoot) : Except Error CatalogDirectory :=
  match h : r.survey.outcome with
  | .ok () => .ok ⟨r, h⟩
  | .error e => .error e

/-- The catalog directory at a path. -/
def locate (tree : FileTree) (root : Path) (extension : String) (workers : Int) :
    Except Error CatalogDirectory := do
  ofRoot (← CatalogRoot.locate tree root extension workers)

end CatalogDirectory

end SymbolText
