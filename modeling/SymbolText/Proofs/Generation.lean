import SymbolText.Proofs.CatalogRoundTrip
import SymbolText.Proofs.Declarations
import SymbolText.Proofs.Resolution

/-!
# Translators answer from declarations and files

A run loads catalogs, resolves the default locale, and builds tables of the requested types. The
translator that comes out of it answers every request as the declarations and the catalog files
alone say.

Results:
* `table_of_compile`: a compiled type has a table for each catalog, with its texts.
* `exists_build_iff`: when a run succeeds.
* `compiled_of_build`: the translator has the compiled set of every requested type.
* `lookup_translator_of_build`: what the translator answers, for every value and request.
-/

namespace SymbolText

/-! ## Compiled types -/

namespace CompiledType

variable {set : SymbolSet} {catalogs : CatalogSet} {defaultLocale : String} {c : CompiledType}

/-- What a compiled type consists of. -/
theorem eq_of_compile (hcompile : compile set catalogs defaultLocale = .ok c) :
    ∃ runs strategy tables, splitIntoRuns set.symbols none = .ok runs ∧
      Strategy.ofRunCount runs.length = .ok strategy ∧
      buildTables set runs strategy catalogs = .ok tables ∧
      c = ⟨set, runs, strategy, catalogs.locales, catalogs.ordinals, defaultLocale, tables⟩ := by
  obtain ⟨runs, hruns, hchosen⟩ := Outcome.bind_eq_ok_iff.1 hcompile
  obtain ⟨strategy, hstrategy, hbuilt⟩ := Outcome.bind_eq_ok_iff.1 hchosen
  obtain ⟨tables, htables, hmade⟩ := Outcome.bind_eq_ok_iff.1 hbuilt
  exact ⟨runs, strategy, tables, hruns, hstrategy, htables, (Except.ok.inj hmade).symm⟩

theorem compile_eq_ok (hcompile : compile set catalogs defaultLocale = .ok c) :
    ∃ runs strategy, splitIntoRuns set.symbols none = .ok runs ∧
      buildTables set runs strategy catalogs = .ok c.tables ∧ c.set = set := by
  obtain ⟨runs, strategy, tables, hruns, -, htables, rfl⟩ := eq_of_compile hcompile
  exact ⟨runs, strategy, hruns, htables, rfl⟩

/-- Each catalog has a table under its locale. -/
theorem buildTables_eq_ok {runs : List Run} {strategy : Strategy} {tables : Dict String Table}
    (htables : buildTables set runs strategy catalogs = .ok tables) :
    ∃ entries, tables = .ofList entries ∧ entries.map Prod.fst = catalogs.locales ∧
      ∀ catalog ∈ catalogs.catalogs, ∃ t, (catalog.locale, t) ∈ entries ∧
        Table.build set runs catalog.locale (some catalog) (some strategy) = .ok t := by
  obtain ⟨entries, hentries, hdict⟩ := Outcome.bind_eq_ok_iff.1 htables
  refine ⟨entries, (Except.ok.inj hdict).symm, ?_, fun catalog hmem => ?_⟩
  · refine Outcome.map_eq_of_mapM hentries fun catalog entry hentry => ?_
    obtain ⟨t, -, hmade⟩ := Outcome.bind_eq_ok_iff.1 hentry
    rw [← Except.ok.inj hmade]
  · obtain ⟨entry, hentry, hmade⟩ := Outcome.exists_of_mem hentries hmem
    obtain ⟨t, ht, hpair⟩ := Outcome.bind_eq_ok_iff.1 hmade
    obtain rfl := Except.ok.inj hpair
    exact ⟨t, hentry, ht⟩

/-- With distinct locales, that is the table which is looked up. -/
theorem get?_of_buildTables {runs : List Run} {strategy : Strategy} {tables : Dict String Table}
    (htables : buildTables set runs strategy catalogs = .ok tables)
    (hnodup : catalogs.locales.Nodup) {catalog : Catalog} (hmem : catalog ∈ catalogs.catalogs) :
    ∃ t, tables.get? catalog.locale = some t ∧
      Table.build set runs catalog.locale (some catalog) (some strategy) = .ok t := by
  obtain ⟨entries, rfl, hlocales, hentries⟩ := buildTables_eq_ok htables
  obtain ⟨t, hentry, ht⟩ := hentries catalog hmem
  refine ⟨t, ?_, ht⟩
  rw [Dict.get?_ofList]
  exact Dict.lastValue?_of_nodup (hlocales ▸ hnodup) hentry

/-- A compiled type has a table for each catalog, which answers from its texts. -/
theorem table_of_compile (hcompile : compile set catalogs defaultLocale = .ok c)
    (hnodup : catalogs.locales.Nodup) {catalog : Catalog} (hmem : catalog ∈ catalogs.catalogs) :
    ∃ t, c.table catalog.locale = .ok t ∧ ∀ v, t.lookup v =
      match set.declaredText? (some catalog) v with
      | some text => .ok text
      | none => fallbackText set.typeName catalog.locale v := by
  obtain ⟨runs, strategy, hruns, htables, -⟩ := compile_eq_ok hcompile
  obtain ⟨t, hget, ht⟩ := get?_of_buildTables htables hnodup hmem
  refine ⟨t, ?_, Table.lookup_of_build hruns ht⟩
  rw [table, hget]

/-- Every set can be compiled. -/
theorem exists_compile (set : SymbolSet) (catalogs : CatalogSet) (defaultLocale : String) :
    ∃ c, compile set catalogs defaultLocale = .ok c := by
  obtain ⟨runs, hruns, hne, -⟩ := splitIntoRuns_eq_ok none set.ne_nil
  obtain ⟨strategy, hstrategy, hdirect⟩ := Table.exists_ofRunCount hne
  have htables : ∃ tables, buildTables set runs strategy catalogs = .ok tables := by
    obtain ⟨tables, htables⟩ : ∃ tables, (catalogs.catalogs.mapM fun c => do
        let t ← Table.build set runs c.locale (some c) (some strategy)
        .ok (c.locale, t)) = .ok tables := by
      refine Outcome.exists_mapM_iff.2 fun c _ => ?_
      have hone : some strategy = some .direct → runs.length = 1 :=
        fun h => hdirect (Option.some.inj h)
      obtain ⟨t, ht⟩ := Table.exists_build set c.locale (some c) hne hone
      exact ⟨_, Outcome.bind_eq_ok_iff.2 ⟨t, ht, rfl⟩⟩
    exact ⟨_, Outcome.bind_eq_ok_iff.2 ⟨tables, htables, rfl⟩⟩
  obtain ⟨tables, htables⟩ := htables
  rw [compile, hruns, Outcome.ok_bind, hstrategy, Outcome.ok_bind, htables, Outcome.ok_bind]
  exact ⟨_, rfl⟩

end CompiledType

namespace Generator

/-! ## Runs -/

/-- The steps of a run that succeeds. -/
theorem build_eq_ok {g : Generator} {typeNames : List String} {gen : Generation}
    (hbuild : (g.build typeNames).outcome = .ok gen) :
    ∃ d sets types,
      CatalogDirectory.locate g.tree g.catalogRoot g.extension g.workers = .ok d ∧
      d.loadAll.outcome = .ok gen.catalogs ∧
      (g.resolver gen.catalogs).outcome = .ok gen.resolver ∧
      (typeNames.mapM fun t => (g.symbolSet t).outcome) = .ok sets ∧
      sets.mapM (fun set => CompiledType.compile set gen.catalogs gen.resolver.defaultLocale) =
        .ok types ∧
      gen.compiled = .ofList (types.map fun c => (c.typeName, c)) := by
  rw [build, Logged.outcome_bind] at hbuild
  obtain ⟨catalogs, hcatalogs, hresolved⟩ := Outcome.bind_eq_ok_iff.1 hbuild
  rw [Logged.outcome_bind] at hresolved
  obtain ⟨resolver, hresolver, hsymbols⟩ := Outcome.bind_eq_ok_iff.1 hresolved
  rw [Logged.outcome_bind] at hsymbols
  obtain ⟨sets, hsets, hcompiled⟩ := Outcome.bind_eq_ok_iff.1 hsymbols
  rw [Logged.outcome_bind] at hcompiled
  obtain ⟨types, htypes, hgen⟩ := Outcome.bind_eq_ok_iff.1 hcompiled
  obtain rfl := Except.ok.inj hgen
  rw [Generator.catalogs, CatalogDirectory.outcome_loadCatalogs] at hcatalogs
  obtain ⟨d, hd, hload⟩ := Outcome.bind_eq_ok_iff.1 hcatalogs
  rw [symbolSets, Logged.outcome_mapM] at hsets
  exact ⟨d, sets, types, hd, hload, hresolver, hsets, htypes, rfl⟩

/-- A run succeeds if there is a catalog directory with a file, all files can be read, the given
default locale has one, and every requested type has a set. -/
theorem exists_build_iff {g : Generator} {typeNames : List String} :
    (∃ gen, (g.build typeNames).outcome = .ok gen) ↔
      ∃ d, CatalogDirectory.locate g.tree g.catalogRoot g.extension g.workers = .ok d ∧
        (∃ locale, d.filesIn locale ≠ []) ∧
        (∀ locale, ∀ p ∈ d.filesIn locale, (d.readFile p).outcome = .ok (d.contents p)) ∧
        (∀ locale, LocaleResolver.given? g.defaultLocale = some locale →
          d.filesIn locale ≠ []) ∧
        ∀ typeName ∈ typeNames, ∃ set, (g.symbolSet typeName).outcome = .ok set := by
  constructor
  · rintro ⟨gen, hbuild⟩
    obtain ⟨d, sets, types, hlocate, hload, hresolver, hsets, -⟩ := build_eq_ok hbuild
    obtain ⟨hsome, hread, hcatalogs⟩ := CatalogDirectory.loadAll_eq_ok_iff.1 hload
    rw [hcatalogs] at hresolver
    obtain ⟨-, hdefault⟩ := LocaleResolver.exists_ofLocales_iff.1 ⟨_, hresolver⟩
    refine ⟨d, hlocate, hsome, hread, fun locale hgiven => ?_, ?_⟩
    · have hlocale := hdefault locale hgiven
      rw [CatalogDirectory.locales_catalogSet] at hlocale
      exact CatalogDirectory.mem_sortedLocales.1 hlocale
    · exact Outcome.exists_mapM_iff.1 ⟨sets, hsets⟩
  · rintro ⟨d, hlocate, ⟨locale, hfiles⟩, hread, hdefault, hsets⟩
    have hload : d.loadAll.outcome = .ok d.catalogSet :=
      CatalogDirectory.loadAll_eq_ok_iff.2 ⟨⟨locale, hfiles⟩, hread, rfl⟩
    have hcatalogs : g.catalogs.outcome = .ok d.catalogSet := by
      rw [Generator.catalogs, CatalogDirectory.outcome_loadCatalogs]
      exact Outcome.bind_eq_ok_iff.2 ⟨d, hlocate, hload⟩
    have hresolver : ∃ r, (g.resolver d.catalogSet).outcome = .ok r := by
      refine LocaleResolver.exists_ofLocales_iff.2 ?_
      rw [CatalogDirectory.locales_catalogSet]
      exact ⟨List.ne_nil_of_mem (CatalogDirectory.mem_sortedLocales.2 hfiles),
        fun l hl => CatalogDirectory.mem_sortedLocales.2 (hdefault l hl)⟩
    obtain ⟨r, hr⟩ := hresolver
    obtain ⟨sets, hsets⟩ := Outcome.exists_mapM_iff.2 hsets
    obtain ⟨types, htypes⟩ := Outcome.exists_mapM_iff.2 fun set (_ : set ∈ sets) =>
      CompiledType.exists_compile set d.catalogSet r.defaultLocale
    rw [build, Logged.outcome_bind, hcatalogs, Outcome.ok_bind, Logged.outcome_bind, hr,
      Outcome.ok_bind, Logged.outcome_bind, symbolSets, Logged.outcome_mapM, hsets,
      Outcome.ok_bind, Logged.outcome_bind, Logged.outcome_of, htypes, Outcome.ok_bind]
    exact ⟨_, rfl⟩

/-- A run compiles the requested types in the order of the requests. -/
theorem map_typeName_of_build {g : Generator} {typeNames : List String} {sets : List SymbolSet}
    {types : List CompiledType} {catalogs : CatalogSet} {defaultLocale : String}
    (hsets : (typeNames.mapM fun t => (g.symbolSet t).outcome) = .ok sets)
    (htypes : sets.mapM (fun set => CompiledType.compile set catalogs defaultLocale) = .ok types)
    (hnamed : ∀ name set, (g.symbolSet name).outcome = .ok set → set.typeName = name) :
    types.map CompiledType.typeName = typeNames := by
  calc types.map CompiledType.typeName
      = sets.map SymbolSet.typeName := by
        refine Outcome.map_eq_of_mapM htypes fun set c hc => ?_
        obtain ⟨-, -, -, -, hset⟩ := CompiledType.compile_eq_ok hc
        rw [CompiledType.typeName, hset]
    _ = typeNames.map id := Outcome.map_eq_of_mapM hsets hnamed
    _ = typeNames := List.map_id _

/-- The translator has the compiled set of every requested type. -/
theorem compiled_of_build {g : Generator} {typeNames : List String} {gen : Generation}
    (hbuild : (g.build typeNames).outcome = .ok gen) {typeName : String}
    (htype : typeName ∈ typeNames)
    (hnamed : ∀ name set, (g.symbolSet name).outcome = .ok set → set.typeName = name) :
    ∃ set c, (g.symbolSet typeName).outcome = .ok set ∧
      CompiledType.compile set gen.catalogs gen.resolver.defaultLocale = .ok c ∧
      gen.translator.compiledType typeName = .ok c := by
  obtain ⟨-, sets, types, -, -, -, hsets, htypes, hcompiled⟩ := build_eq_ok hbuild
  have hnames := map_typeName_of_build hsets htypes hnamed
  -- both dictionaries have a compiled type under its own name only
  have hvalues : typeName ∈ gen.compiled.values.map CompiledType.typeName := by
    rw [hcompiled]
    obtain ⟨c, -, hname, hget⟩ := Dict.get?_ofList_map CompiledType.typeName (hnames ▸ htype)
    exact List.mem_map.2 ⟨c, Dict.mem_values.2 ⟨_, hget⟩, hname⟩
  obtain ⟨c, hvalue, hname, hget⟩ := Dict.get?_ofList_map CompiledType.typeName hvalues
  rw [hcompiled] at hvalue
  have hc := Dict.mem_of_mem_values_ofList CompiledType.typeName hvalue
  obtain ⟨set, hset, hcompile⟩ := Outcome.exists_of_mem_result htypes hc
  obtain ⟨name, -, hsymbols⟩ := Outcome.exists_of_mem_result hsets hset
  obtain ⟨-, -, -, -, hcset⟩ := CompiledType.compile_eq_ok hcompile
  rw [CompiledType.typeName, hcset, hnamed name set hsymbols] at hname
  refine ⟨set, c, hname ▸ hsymbols, hcompile, ?_⟩
  rw [Translator.compiledType, Generation.translator, Translator.ofTypes]
  dsimp only
  rw [hget]

/-! ## Answers -/

/-- The text that entries give a name: that of the last entry of the name, unless there is none
or it is empty. -/
def lastText (entries : List (String × String)) (name : Text) : Text :=
  match name.string?.bind fun key => Dict.lastValue? key entries with
  | some text => if text = "" then name else text
  | none => name

/-- The text of a symbol in the catalog of a locale is that of the last entry in the files. -/
theorem textOf_catalogOf (d : CatalogDirectory) (locale : String) {s : Symbol}
    (hkey : s.key = s.name) :
    textOf (some (d.catalogOf locale)) s =
      lastText ((d.filesIn locale).flatMap d.contents) s.name := by
  have hmessage : (d.catalogOf locale).message? =
      fun key => Dict.lastValue? key ((d.filesIn locale).flatMap d.contents) := by
    funext key
    exact d.message?_catalogOf locale key
  rw [textOf, Option.bind_some, Catalog.textOf?, hkey, hmessage]
  rfl

theorem fallbackText_eq (typeName locale : String) (v : Int) :
    fallbackText typeName locale v =
      if Numeral.isTooLong v then .error .integerTooLong
      else .ok s!"{typeName}[{locale}]({String.ofList (Numeral.decimal v)})" := by
  rw [fallbackText, Numeral.decimal?]
  cases Numeral.isTooLong v <;> rfl

/-- **What a translator answers.** The files of the locale that serves a request can all be read.
A value that no declaration of the type has is answered by its own numeral. For any other value,
take the first declaration with its pattern: the answer is the last text under the name of the
declaration in those files, in the order of their paths, or the name itself. -/
theorem lookup_translator_of_build {g : Generator} {declarations : List Declaration}
    {typeNames : List String} {gen : Generation}
    (hsource : SymbolSource.ofDeclarations declarations = .ok g.source)
    (hbuild : (g.build typeNames).outcome = .ok gen) {typeName : String}
    (htype : typeName ∈ typeNames) (v : Int) (requested : Value) :
    ∃ d locale,
      CatalogDirectory.locate g.tree g.catalogRoot g.extension g.workers = .ok d ∧
      d.Serves g.defaultLocale requested locale ∧
      (d.filesIn locale).Pairwise Path.Before ∧
      (∀ p ∈ d.filesIn locale, (d.readFile p).outcome = .ok (d.contents p)) ∧
      ((∀ c ∈ declarations, c.typeName = .ofString typeName → c.value.toInteger ≠ .ok v) →
        gen.translator.lookup typeName v requested =
          if Numeral.isTooLong v then .error .integerTooLong
          else .ok s!"{typeName}[{locale}]({String.ofList (Numeral.decimal v)})") ∧
      ((∃ c ∈ declarations, c.typeName = .ofString typeName ∧ c.value.toInteger = .ok v) →
        ∃ c name, IsFirstDeclaration declarations typeName v c ∧ c.name = .text name ∧
          gen.translator.lookup typeName v requested =
            .ok (lastText ((d.filesIn locale).flatMap d.contents) name)) := by
  obtain ⟨d, -, -, hlocate, hload, hresolver, -⟩ := build_eq_ok hbuild
  obtain ⟨-, hread, hcatalogs⟩ := CatalogDirectory.loadAll_eq_ok_iff.1 hload
  rw [hcatalogs] at hresolver
  obtain ⟨hserves, hcatalog⟩ := CatalogDirectory.serves_resolve hresolver requested
  obtain ⟨set, c, hset, hcompile, hcompiled⟩ :=
    compiled_of_build hbuild htype fun name set h => (symbolSet_eq_ok hsource h).1
  obtain ⟨hname, hsymbols⟩ := symbolSet_eq_ok hsource hset
  rw [hcatalogs] at hcompile
  obtain ⟨t, htable, hlookup⟩ :=
    CompiledType.table_of_compile hcompile d.nodup_locales_catalogSet hcatalog
  rw [CatalogDirectory.locale_catalogOf] at htable hlookup
  have hanswer : gen.translator.lookup typeName v requested = t.lookup v := by
    rw [Translator.lookup, Translator.textIn, hcompiled, Outcome.ok_bind]
    change (c.table (gen.resolver.resolve requested) >>= _) = _
    rw [htable, Outcome.ok_bind]
  have hvalues := exists_symbol_iff hsymbols v
  rw [hanswer, hlookup v]
  refine ⟨d, _, hlocate, hserves, d.filesIn_increasing _, hread _, ?_, ?_⟩
  · intro hnone
    have hundeclared : ∀ s ∈ set.symbols, s.value ≠ v := by
      intro s hs hv
      obtain ⟨declared, hmem, htypeName, hvalue⟩ := hvalues.1 ⟨s, hs, hv⟩
      exact hnone declared hmem htypeName hvalue
    rw [declaredText?_of_undeclared hundeclared, hname]
    exact fallbackText_eq typeName _ v
  · intro hsome
    obtain ⟨s, hfirst, htext⟩ := declaredText?_of_declared
      (some (d.catalogOf (gen.resolver.resolve requested))) (hvalues.2 hsome)
    obtain ⟨declared, hdeclared, hsymbol⟩ := isFirstDeclaration_of_find? hsymbols hfirst
    obtain ⟨hnamed, hkey, -⟩ := symbolOf_eq_ok hsymbol
    refine ⟨declared, s.name, hdeclared, hnamed, ?_⟩
    rw [htext, textOf_catalogOf d _ hkey]

/-! ### A run on two locales -/

/-- Two declarations of one pattern. -/
def aliases : List Declaration :=
  [⟨.ofString "Code", .ofString "Ok", .int (-1), .bool true⟩,
    ⟨.ofString "Code", .ofString "Top", .int 18446744073709551615, .bool false⟩]

/-- A file with a text of the first one. -/
def fileWith (text : String) : List UInt8 := Text.Utf8.encode (CatalogFile.render [("Ok", text)])

/-- A run on two locales, of which the default one comes last and has two files with a key in
common. -/
def merging : Generator where
  source := ⟨[(.ofString "Code", .ok aliases)]⟩
  textNames := rfl
  tree := ⟨⟨[(["i18n"], .directory), (["i18n", "en.toml"], .file (.octets (fileWith "Yes"))),
    (["i18n", "fr"], .directory), (["i18n", "fr", "a.toml"], .file (.octets (fileWith "Oui"))),
    (["i18n", "fr.toml"], .file (.octets (fileWith "Bon")))], by decide⟩⟩
  catalogRoot := ⟨["i18n"]⟩
  extension := "toml"
  workers := 4
  defaultLocale := some "fr"
  carrierKey := ""

/-- The catalog directory of the run. -/
def mergingDirectory : CatalogDirectory where
  tree := merging.tree
  root := ⟨["i18n"]⟩
  place := ["i18n"]
  extension := "toml"
  workers := 4
  surveyed := CatalogRoot.outcome_survey_of_entries (by decide)

theorem locate_merging :
    CatalogDirectory.locate merging.tree merging.catalogRoot merging.extension merging.workers =
      .ok mergingDirectory := mergingDirectory.ofRoot_toCatalogRoot

theorem filesIn_merging :
    mergingDirectory.filesIn "en" = [⟨["i18n", "en.toml"]⟩] ∧
      mergingDirectory.filesIn "fr" = [⟨["i18n", "fr", "a.toml"]⟩, ⟨["i18n", "fr.toml"]⟩] := by
  rw [CatalogDirectory.filesIn, CatalogDirectory.filesIn, FileTree.beneath_eq,
    List.mergeSort_of_pairwise (by decide)]
  decide

theorem entries_fileWith (path text : String) :
    CatalogFile.entries path (fileWith text) = .ok [("Ok", text)] := by
  have hkey : CatalogFile.IsKey "Ok".toList := by decide
  have hkeys : ∀ entry ∈ [("Ok", text)], CatalogFile.IsKey entry.1.toList :=
    List.forall_mem_singleton.2 hkey
  exact CatalogFile.entries_of_stripMark path hkeys
    (CatalogFile.stripMark_encode (CatalogFile.head?_render hkeys))

/-- The files of the run hold the one key each. -/
theorem readFile_merging (text : String) {p : Path}
    (hread : mergingDirectory.tree.read p = .ok (fileWith text)) :
    (mergingDirectory.readFile p).outcome = .ok [("Ok", text)] := by
  rw [CatalogRoot.readFile, hread]
  exact entries_fileWith _ text

theorem mem_filesIn_merging {locale : String} {p : Path}
    (hp : p ∈ mergingDirectory.filesIn locale) :
    (locale = "en" ∨ locale = "fr") ∧
      ∃ text, mergingDirectory.tree.read p = .ok (fileWith text) := by
  obtain ⟨steps, n, hne, hnode, hfile, rfl⟩ := (CatalogDirectory.mem_filesIn _ _).1 hp
  have hsteps : steps = ["en.toml"] ∨ steps = ["fr"] ∧ n = .directory ∨
      steps = ["fr", "a.toml"] ∨ steps = ["fr.toml"] := by
    simp only [mergingDirectory, merging, List.singleton_append, List.mem_cons, Prod.mk.injEq,
      List.cons.injEq, true_and, List.not_mem_nil, or_false] at hnode
    tauto
  rcases hsteps with rfl | ⟨rfl, rfl⟩ | rfl | rfl
  · exact ⟨.inl (Option.some.inj (CatalogDirectory.isFileOf_name.1 hfile).2).symm, "Yes", rfl⟩
  · cases hfile
  · obtain ⟨-, -, hname, -⟩ :=
      (CatalogDirectory.isFileOf_beneath (List.cons_ne_nil _ _)).1 hfile
    exact ⟨.inr hname.symm, "Oui", rfl⟩
  · exact ⟨.inr (Option.some.inj (CatalogDirectory.isFileOf_name.1 hfile).2).symm, "Bon", rfl⟩

theorem exists_build_merging : ∃ gen, (merging.build ["Code"]).outcome = .ok gen := by
  have hfr : mergingDirectory.filesIn "fr" ≠ [] := by
    rw [filesIn_merging.2]
    exact List.cons_ne_nil _ _
  refine exists_build_iff.2 ⟨mergingDirectory, locate_merging, ⟨"fr", hfr⟩, ?_, ?_, ?_⟩
  · intro locale p hp
    obtain ⟨-, text, hread⟩ := mem_filesIn_merging hp
    rw [readFile_merging text hread,
      CatalogDirectory.contents_of_outcome (readFile_merging text hread)]
  · intro locale hlocale
    obtain rfl : "fr" = locale := Option.some.inj hlocale
    exact hfr
  · intro typeName htype
    obtain rfl := List.mem_singleton.1 htype
    exact ⟨_, rfl⟩

theorem serves_merging {locale : String}
    (hserves : mergingDirectory.Serves merging.defaultLocale .null locale) : locale = "fr" := by
  cases hserves with
  | itself hrequested _ => cases hrequested
  | given _ hgiven _ => exact (Option.some.inj hgiven).symm
  | first _ hnone _ _ => exact absurd (hnone "fr" rfl) (by decide)

/-- The later file has the text of the first name, for the values of both; a value that is not
declared is written with the default locale. -/
theorem lookup_translator_of_build_merging :
    ∃ gen, SymbolSource.ofDeclarations aliases = .ok merging.source ∧
      (merging.build ["Code"]).outcome = .ok gen ∧ "Code" ∈ ["Code"] ∧
      gen.translator.lookup "Code" 18446744073709551615 .null = .ok "Bon" ∧
      gen.translator.lookup "Code" 5 .null = .ok "Code[fr](5)" := by
  obtain ⟨gen, hbuild⟩ := exists_build_merging
  have hsource : SymbolSource.ofDeclarations aliases = .ok merging.source := rfl
  have htype : "Code" ∈ ["Code"] := List.mem_singleton_self _
  refine ⟨gen, hsource, hbuild, htype, ?_, ?_⟩
  · obtain ⟨d, locale, hlocate, hserves, -, -, -, hsome⟩ :=
      lookup_translator_of_build hsource hbuild htype 18446744073709551615 .null
    obtain rfl : mergingDirectory = d := Except.ok.inj (locate_merging.symm.trans hlocate)
    obtain rfl := serves_merging hserves
    obtain ⟨c, name, ⟨before, after, hsplit, -, hbefore⟩, hname, hlookup⟩ :=
      hsome ⟨aliases[1], List.getElem_mem _, rfl, rfl⟩
    -- the first declaration has the pattern already
    have hfirst : c = aliases[0] := by
      cases before with
      | nil => exact (List.cons.inj hsplit).1.symm
      | cons b rest =>
        obtain rfl := (List.cons.inj hsplit).1
        exact absurd ⟨rfl, -1, rfl, rfl⟩ (hbefore _ List.mem_cons_self)
    subst hfirst
    obtain rfl : Text.ofString "Ok" = name := Value.text.inj hname
    rw [hlookup, filesIn_merging.2, List.flatMap_cons, List.flatMap_cons,
      CatalogDirectory.contents_of_outcome (readFile_merging "Oui" rfl),
      CatalogDirectory.contents_of_outcome (readFile_merging "Bon" rfl)]
    rfl
  · obtain ⟨d, locale, hlocate, hserves, -, -, hnone, -⟩ :=
      lookup_translator_of_build hsource hbuild htype 5 .null
    obtain rfl : mergingDirectory = d := Except.ok.inj (locate_merging.symm.trans hlocate)
    obtain rfl := serves_merging hserves
    rw [hnone ?_]
    · rfl
    · intro c hc htypeName hvalue
      rcases List.mem_pair.1 hc with rfl | rfl <;> cases hvalue

end Generator

end SymbolText
