import SymbolText.Proofs.Checking

/-!
# The locales of a run agree

The catalogs of a run, its resolver and its compiled types each have the locales, in their own form.
All are one list in strict order, and their positions are those in the list. So every request is
resolved to a locale with a table of its own: the default one never stands in for it.

* `Generation.Agrees`: a result whose parts agree. `CompiledType.Covers`: a compiled type of it.

Results:
* `ordinal?_eq_iff`, `lookup_ordinals_eq_iff`: the position of a locale is that in the list.
* `covers_of_compile`: a compiled type covers the locales of its catalogs.
* `agrees_of_build`: the parts of the result of a run agree.
-/

namespace SymbolText

/-! ## Positions -/

section Positions

variable {α : Type} [BEq α] [LawfulBEq α] {items : List α} {a : α} {i : Nat}

/-- Among different items, the position of an item is the one at which it stands. -/
theorem idxOf?_eq_some_iff_of_nodup (hnodup : items.Nodup) :
    items.idxOf? a = some i ↔ items[i]? = some a := by
  rw [List.idxOf?_eq_some_iff, List.getElem?_eq_some_iff]
  constructor
  · rintro ⟨hi, ha, -⟩
    exact ⟨hi, ha⟩
  · rintro ⟨hi, ha⟩
    refine ⟨hi, ha, fun j hj hfirst => ?_⟩
    have hsame : j = i := hnodup.getElem_inj_iff.1 (hfirst.trans ha.symm)
    omega

/-- Items with their positions are found by the first of them. -/
theorem lookup_zipIdx (items : List α) (a : α) (n : Nat) :
    (items.zipIdx n).lookup a = (items.idxOf? a).map (n + ·) := by
  induction items generalizing n with
  | nil => rfl
  | cons b rest ih =>
    rw [List.zipIdx_cons, List.idxOf?_cons]
    by_cases hab : a = b
    · simp [hab]
    · have hba : (b == a) = false := beq_false_of_ne (Ne.symm hab)
      have hne : (a == b) = false := beq_false_of_ne hab
      have hshift : (fun i => n + i) ∘ (fun i => i + 1) = fun i => n + 1 + i := by
        funext i
        simp only [Function.comp_apply]
        omega
      simp only [List.lookup_cons, hne, hba, ih, Bool.false_eq_true, if_false, Option.map_map,
        hshift]

end Positions

namespace LocaleResolver

/-- The position of a locale is asked for by its name. -/
theorem ordinal?_ofString (r : LocaleResolver) (locale : String) :
    r.ordinal? (.ofString locale) = .ok (r.locales.idxOf? locale) := by
  have hname : (Value.ofString locale).string? = some locale := Text.string?_ofString locale
  have hkey : (Value.ofString locale).checkKey = .ok () := rfl
  rw [ordinal?, hkey, Outcome.ok_bind, hname, Option.bind_some]

theorem ordinal?_eq_iff {r : LocaleResolver} (hnodup : r.locales.Nodup) (locale : String) (i : Nat) :
    r.ordinal? (.ofString locale) = .ok (some i) ↔ r.locales[i]? = some locale := by
  rw [ordinal?_ofString, Except.ok.injEq]
  exact idxOf?_eq_some_iff_of_nodup hnodup

end LocaleResolver

theorem CatalogSet.lookup_ordinals_eq_iff {catalogs : CatalogSet} (hnodup : catalogs.locales.Nodup)
    (locale : String) (i : Nat) :
    catalogs.ordinals.lookup locale = some i ↔ catalogs.locales[i]? = some locale := by
  rw [ordinals, lookup_zipIdx, ← idxOf?_eq_some_iff_of_nodup hnodup]
  simp

/-! ## Compiled types -/

namespace Table

/-- Runs are laid out as the strategy says. -/
theorem strategy_layoutOf {strategy : Strategy} {signed : Bool} {text : Symbol → Text}
    {runs : List Run} {layout : Layout}
    (hlayout : layoutOf strategy signed text runs = .ok layout) : layout.strategy = strategy := by
  cases strategy with
  | direct =>
    simp only [layoutOf] at hlayout
    split at hlayout
    · obtain rfl := Except.ok.inj hlayout
      rfl
    · cases hlayout
  | switch =>
    obtain rfl := Except.ok.inj hlayout
    rfl
  | map =>
    obtain rfl := Except.ok.inj hlayout
    rfl

/-- A table by a given strategy is of its locale and follows the strategy. -/
theorem strategy_of_build {set : SymbolSet} {runs : List Run} {locale : String}
    {catalog : Option Catalog} {strategy : Strategy} {t : Table}
    (hbuild : build set runs locale catalog (some strategy) = .ok t) :
    t.locale = locale ∧ t.layout.strategy = strategy := by
  rw [build_eq, Option.elim_some, Outcome.ok_bind] at hbuild
  obtain ⟨layout, hlayout, hmade⟩ := Outcome.bind_eq_ok_iff.1 hbuild
  obtain rfl := Except.ok.inj hmade
  exact ⟨rfl, strategy_layoutOf hlayout⟩

end Table

namespace CompiledType

/-- A compiled type covers some locales: it has a table for each and for no other, all by the
strategy for the number of its runs. -/
structure Covers (c : CompiledType) (locales : List String) (defaultLocale : String) : Prop where
  locales_eq : c.locales = locales
  keys_eq : c.tables.keys = locales
  ordinals_iff : ∀ locale i, c.ordinals.lookup locale = some i ↔ locales[i]? = some locale
  defaultLocale_eq : c.defaultLocale = defaultLocale
  runs_eq : splitIntoRuns c.set.symbols none = .ok c.runs
  strategy_eq : Strategy.ofRunCount c.runs.length = .ok c.strategy
  tables_eq : ∀ locale t, c.tables.get? locale = some t →
    t.locale = locale ∧ Strategy.ofRunCount c.runs.length = .ok t.layout.strategy

/-- A compiled type answers in a locale from the table of this very locale. -/
def HasOwnTable (c : CompiledType) (locale : String) : Prop :=
  ∃ t, c.tables.get? locale = some t ∧ c.table locale = .ok t ∧ t.locale = locale

variable {set : SymbolSet} {catalogs : CatalogSet} {c : CompiledType} {locales : List String}
  {defaultLocale : String}

/-- A compiled type covers the locales of its catalogs. -/
theorem covers_of_compile (hcompile : compile set catalogs defaultLocale = .ok c)
    (hnodup : catalogs.locales.Nodup) : c.Covers catalogs.locales defaultLocale := by
  obtain ⟨runs, strategy, tables, hruns, hstrategy, htables, rfl⟩ := eq_of_compile hcompile
  have hkeys : tables.keys = catalogs.locales := by
    obtain ⟨entries, rfl, hlocales, -⟩ := buildTables_eq_ok htables
    rw [Dict.ofList, Dict.keys_update, hlocales]
    exact eraseDups_of_nodup hnodup
  refine ⟨rfl, hkeys, CatalogSet.lookup_ordinals_eq_iff hnodup, rfl, hruns, hstrategy, ?_⟩
  intro locale t ht
  have hlocale : locale ∈ catalogs.locales := hkeys ▸ Dict.mem_keys_iff.2 ⟨t, ht⟩
  obtain ⟨catalog, hcatalog, rfl⟩ := List.mem_map.1 hlocale
  obtain ⟨t', hget, hbuild⟩ := get?_of_buildTables htables hnodup hcatalog
  obtain rfl : t' = t := Option.some.inj (hget.symm.trans ht)
  obtain ⟨hlocale, hfollows⟩ := Table.strategy_of_build hbuild
  exact ⟨hlocale, hfollows ▸ hstrategy⟩

/-- It answers in each of them from the table of the locale. -/
theorem Covers.hasOwnTable (hcovers : c.Covers locales defaultLocale) {locale : String}
    (hlocale : locale ∈ locales) : c.HasOwnTable locale := by
  obtain ⟨t, ht⟩ := Dict.mem_keys_iff.1 (hcovers.keys_eq ▸ hlocale)
  refine ⟨t, ht, ?_, (hcovers.tables_eq locale t ht).1⟩
  rw [table, ht]

end CompiledType

/-! ## Runs -/

/-- The parts of a result agree on the locales: they are one list in strict order, which has the
default locale and whatever a request is resolved to. -/
structure Generation.Agrees (gen : Generation) : Prop where
  ne_nil : gen.resolver.locales ≠ []
  increasing : gen.resolver.locales.Pairwise Text.BeforeString
  catalogs_eq : gen.catalogs.locales = gen.resolver.locales
  covers : ∀ c ∈ gen.compiled.values, c.Covers gen.resolver.locales gen.defaultLocale
  ordinal?_iff : ∀ locale i,
    gen.resolver.ordinal? (.ofString locale) = .ok (some i) ↔ gen.resolver.locales[i]? = some locale
  ordinals_iff : ∀ locale i,
    gen.catalogs.ordinals.lookup locale = some i ↔ gen.resolver.locales[i]? = some locale
  defaultLocale_eq : gen.resolver.defaultLocale = gen.defaultLocale
  default_mem : gen.defaultLocale ∈ gen.resolver.locales
  resolve_mem : ∀ requested, gen.resolver.resolve requested ∈ gen.resolver.locales
  resolve_resolve : ∀ requested,
    gen.resolver.resolve (.ofString (gen.resolver.resolve requested)) =
      gen.resolver.resolve requested

namespace Generator

variable {g : Generator} {typeNames : List String} {gen : Generation}

/-- **The result of a run is consistent.** Its parts agree on the locales, and every compiled type
answers a request from the table of the locale to which the request is resolved. So the translator,
which has these types only, never answers from the table that stands in for a missing one. -/
theorem agrees_of_build (hbuild : (g.build typeNames).outcome = .ok gen) :
    gen.Agrees ∧
    (∀ c ∈ gen.compiled.values, ∀ requested, c.HasOwnTable (gen.resolver.resolve requested)) ∧
    ∀ typeName c, gen.translator.compiled.get? typeName = some c → c ∈ gen.compiled.values ∧
      (∀ requested, c.HasOwnTable (gen.translator.resolver.resolve requested)) ∧
      ∀ carrier, c.HasOwnTable (gen.translator.resolver.resolveCarried carrier) := by
  obtain ⟨d, -, -, -, hload, hresolver, -⟩ := build_eq_ok hbuild
  obtain ⟨-, -, hcatalogs⟩ := CatalogDirectory.loadAll_eq_ok_iff.1 hload
  have hlocales : gen.catalogs.locales = gen.resolver.locales := by
    rw [hcatalogs] at hresolver ⊢
    exact (CatalogDirectory.locales_of_catalogSet hresolver).symm
  have hincreasing : gen.catalogs.locales.Pairwise Text.BeforeString := by
    rw [hcatalogs]
    refine Text.increasing_of_nodup d.nodup_locales_catalogSet ?_
    rw [d.locales_catalogSet]
    exact Text.sortStrings_pairwise _
  have hnodup : gen.catalogs.locales.Nodup := hincreasing.imp And.right
  have hcovers : ∀ c ∈ gen.compiled.values,
      c.Covers gen.resolver.locales gen.resolver.defaultLocale := by
    intro c hc
    rw [← hlocales]
    exact CompiledType.covers_of_compile (compile_of_mem_values hbuild hc) hnodup
  have hresolved : ∀ requested, gen.resolver.resolve requested ∈ gen.resolver.locales :=
    gen.resolver.resolve_mem
  have hagrees : gen.Agrees :=
    { ne_nil := List.ne_nil_of_mem gen.resolver.default_mem
      increasing := hlocales ▸ hincreasing
      catalogs_eq := hlocales
      covers := hcovers
      ordinal?_iff := LocaleResolver.ordinal?_eq_iff (hlocales ▸ hnodup)
      ordinals_iff := fun locale i =>
        hlocales ▸ CatalogSet.lookup_ordinals_eq_iff hnodup locale i
      defaultLocale_eq := rfl
      default_mem := gen.resolver.default_mem
      resolve_mem := hresolved
      resolve_resolve := gen.resolver.resolve_resolve }
  refine ⟨hagrees, fun c hc requested => (hcovers c hc).hasOwnTable (hresolved requested), ?_⟩
  intro typeName c hc
  obtain ⟨hvalue, -⟩ := mem_values_of_get? hc
  exact ⟨hvalue, fun requested => (hcovers c hvalue).hasOwnTable (hresolved requested),
    fun carrier => (hcovers c hvalue).hasOwnTable (gen.resolver.resolveCarried_mem carrier)⟩

/-! ### A run with two locales -/

theorem mem_locales_merging (hbuild : (merging.build ["Code"]).outcome = .ok gen)
    {locale : String} : locale ∈ gen.resolver.locales ↔ locale ∈ ["en", "fr"] := by
  obtain ⟨d, -, -, hlocate, hload, hresolver, -⟩ := build_eq_ok hbuild
  obtain rfl : mergingDirectory = d := Except.ok.inj (locate_merging.symm.trans hlocate)
  obtain ⟨-, -, hcatalogs⟩ := CatalogDirectory.loadAll_eq_ok_iff.1 hload
  rw [hcatalogs] at hresolver
  rw [CatalogDirectory.locales_of_catalogSet hresolver, CatalogDirectory.locales_catalogSet,
    CatalogDirectory.mem_sortedLocales, List.mem_pair]
  constructor
  · intro hfiles
    obtain ⟨p, hp⟩ := List.exists_mem_of_ne_nil _ hfiles
    exact (mem_filesIn_merging hp).1
  · rintro (rfl | rfl)
    · rw [filesIn_merging.1]
      exact List.cons_ne_nil _ _
    · rw [filesIn_merging.2]
      exact List.cons_ne_nil _ _

/-- The default locale, which is not the first one, has the second position everywhere and serves a
request for no locale; each of the two is served itself. -/
theorem agrees_of_build_merging :
    ∃ gen, (merging.build ["Code"]).outcome = .ok gen ∧
      gen.resolver.locales = ["en", "fr"] ∧ gen.defaultLocale = "fr" ∧
      gen.resolver.ordinal? (.ofString "fr") = .ok (some 1) ∧
      gen.catalogs.ordinals.lookup "fr" = some 1 ∧
      gen.compiled.keys = ["Code"] ∧
      ∀ c ∈ gen.compiled.values, c.ordinals.lookup "en" = some 0 ∧
        c.ordinals.lookup "fr" = some 1 ∧ c.HasOwnTable "fr" ∧
        c.HasOwnTable (gen.resolver.resolve (.ofString "en")) ∧
        gen.resolver.resolve (.ofString "en") = "en" := by
  obtain ⟨gen, hbuild⟩ := exists_build_merging
  obtain ⟨hagrees, hserved, -⟩ := agrees_of_build hbuild
  have hpair : ["en", "fr"].Pairwise Text.BeforeString := by
    rw [List.pairwise_pair]
    exact ⟨by decide, by decide⟩
  have hlocales : gen.resolver.locales = ["en", "fr"] :=
    hagrees.increasing.eq_of_mem_iff hpair fun _ => mem_locales_merging hbuild
  have hen : gen.resolver.locales[0]? = some "en" := by rw [hlocales]; rfl
  have hfr : gen.resolver.locales[1]? = some "fr" := by rw [hlocales]; rfl
  have hnull := resolve_merging hbuild
  have hitself : gen.resolver.resolve (.ofString "en") = "en" :=
    LocaleResolver.resolve_of_mem rfl (List.mem_of_getElem? hen)
  have hdefault : gen.defaultLocale = "fr" := by
    rw [← hnull, LocaleResolver.resolve_of_notMem]
    · rfl
    · intro locale hrequested
      cases hrequested
  refine ⟨gen, hbuild, hlocales, hdefault, (hagrees.ordinal?_iff "fr" 1).2 hfr,
    (hagrees.ordinals_iff "fr" 1).2 hfr, keys_of_build hbuild, fun c hc => ?_⟩
  have hcovers := hagrees.covers c hc
  have hnone := hserved c hc .null
  rw [hnull] at hnone
  exact ⟨(hcovers.ordinals_iff "en" 0).2 hen, (hcovers.ordinals_iff "fr" 1).2 hfr, hnone,
    hserved c hc (.ofString "en"), hitself⟩

end Generator

end SymbolText
