import SymbolText.Report
import SymbolText.Settings
import SymbolText.Source
import SymbolText.Translator

/-!
# Generation

A run brings symbols and catalogs together. It builds the tables of the requested types, or only
checks the types against the catalogs.

Models of `StringerGenerator` and `Generation`.

* `Generator`: what a run works on; `Generator.ofSettings` takes from the settings what is not
  given.
* `Generator.catalogs`, `symbolSets`: the inputs of a run.
* `Generator.build`: the tables with a translator.
* `Generator.check`: the report on the types and catalogs.
-/

namespace SymbolText

/-- What a run works on (`StringerGenerator`). -/
structure Generator where
  source : SymbolSource
  /-- Names of another type could be checked against catalogs, but not all be compiled. -/
  textNames : source.hasTextNames = true
  tree : FileTree
  catalogRoot : Path
  /-- The extension of catalog files. -/
  extension : String
  /-- The number of catalog files that are read at a time. -/
  workers : Int
  /-- The default locale; absent for the first one. -/
  defaultLocale : Option String
  carrierKey : String

/-- The result of a run (`Generation`). -/
structure Generation where
  compiled : Dict String CompiledType
  catalogs : CatalogSet
  resolver : LocaleResolver

namespace Generation

/-- The locale of requests that are not supported (`Generation.default_locale`). -/
def defaultLocale (g : Generation) : String := g.resolver.defaultLocale

/-- The translator over the compiled types. -/
def translator (g : Generation) : Translator := .ofTypes g.compiled.values g.resolver

end Generation

namespace Generator

/-- A run on a source and a tree of files (`StringerGenerator.__init__`); what is not given, or
empty, is taken from the settings. -/
def ofSettings (s : Settings) (source : SymbolSource) (textNames : source.hasTextNames = true)
    (tree : FileTree) (catalogRoot defaultLocale carrierKey : Option String) : Generator :=
  let given := LocaleResolver.given?
  { source, textNames, tree
    catalogRoot := Path.ofString ((given catalogRoot).getD s.catalogPath)
    extension := s.catalogExtension
    workers := s.workers
    defaultLocale := given defaultLocale <|> s.defaultLocale?
    carrierKey := (given carrierKey).getD s.carrierKey }

/-- The catalogs of a run (`StringerGenerator.load_catalogs`). -/
def catalogs (g : Generator) : Logged CatalogSet :=
  loadCatalogs g.tree g.catalogRoot g.extension g.workers

/-- The resolver for the locales of the catalogs (`LocaleResolver.from_catalogs`). -/
def resolver (g : Generator) (catalogs : CatalogSet) : Logged LocaleResolver :=
  LocaleResolver.ofLocales catalogs.locales g.defaultLocale (some g.carrierKey)

/-- The symbols of a requested type, which has to have some
(`StringerGenerator.load_symbol_sets`). -/
def symbolSet (g : Generator) (typeName : String) : Logged SymbolSet := do
  let declarations ← .of (g.source.load (.ofString typeName))
  if declarations.isEmpty then .fail [.noValues typeName] (.noValues (.ofString typeName))
  else .of (SymbolSet.ofDeclarations typeName declarations)

/-- The symbols of the requested types in the order of the requests
(`StringerGenerator.load_symbol_sets`). -/
def symbolSets (g : Generator) (typeNames : List String) : Logged (List SymbolSet) :=
  typeNames.mapM g.symbolSet

/-- Builds the tables of the requested types (`StringerGenerator.build`). -/
def build (g : Generator) (typeNames : List String) : Logged Generation := do
  let catalogs ← g.catalogs
  let resolver ← g.resolver catalogs
  let sets ← g.symbolSets typeNames
  let types ← .of (sets.mapM fun set => CompiledType.compile set catalogs resolver.defaultLocale)
  pure { compiled := .ofList (types.map fun c => (c.typeName, c)), catalogs, resolver }

/-- The reports on a report that found something. -/
def reportEvents (r : Report) : List Event :=
  if r.isSuccess then [] else r.lines.map Event.reportLine

/-- Checks the requested types against the catalogs (`StringerGenerator.check`); the default locale
is checked too. -/
def check (g : Generator) (typeNames : List String) : Logged Report := do
  let catalogs ← g.catalogs
  let _ ← g.resolver catalogs
  let sets ← g.symbolSets typeNames
  let r := Report.ofSets sets catalogs
  .report (reportEvents r)
  pure r

end Generator

end SymbolText
