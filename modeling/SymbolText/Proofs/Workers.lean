import SymbolText.Proofs.Loading

/-!
# Loading does not depend on the workers

Files are read one after the other, or by several workers at a time, which finish in any order.
Either way the outcome is that of reading them in order, so that loading all locales is loading each
locale by itself, in order.

* `Pool.Reaches`, `Pool.collected?`: operations that finish in any order, and what is collected from
  them.

Results:
* `collected?_eq`: the outcome of a pool does not depend on the order in which operations finish.
* `load_eq_ok_iff`, `load_eq_error_iff`: when the catalog of a locale is loaded.
* `outcome_loadAll_eq_mapM`: loading all locales is loading each of them in order.
* `loadAll_eq_load`: the same, as it shows in the catalogs and in the failures.
-/

namespace SymbolText

/-! ## Pools -/

namespace Pool

variable {α : Type} {operations : List (Logged α)} {slots : List (Option (Except Error α))}

/-- What a pool may have come to: each operation has a slot, which it fills when it finishes. -/
inductive Reaches (operations : List (Logged α)) : List (Option (Except Error α)) → Prop
  /-- Nothing has finished at first. -/
  | start : Reaches operations (operations.map fun _ => none)
  /-- Any operation may be the next to finish. -/
  | finish {slots : List (Option (Except Error α))} {i : Nat} {x : Logged α}
      (hslots : Reaches operations slots) (hx : operations[i]? = some x) :
      Reaches operations (slots.set i (some x.outcome))

/-- What is collected slot by slot once every slot is filled: all results, or the first failure. -/
def collected? (slots : List (Option (Except Error α))) : Option (Except Error (List α)) :=
  (slots.mapM id).map fun outcomes => outcomes.mapM id

/-- A slot is empty, or it has the outcome of its operation. -/
theorem getElem?_of_reaches (hslots : Reaches operations slots) (i : Nat) :
    slots[i]? = operations[i]?.map (fun _ => none) ∨
      slots[i]? = operations[i]?.map fun x => some x.outcome := by
  induction hslots with
  | start => exact .inl List.getElem?_map
  | @finish slots j x _ hx ih =>
    by_cases hj : j = i
    · subst hj
      have hlength : j < slots.length := by
        by_contra hout
        rw [hx, List.getElem?_eq_none (Nat.le_of_not_lt hout)] at ih
        rcases ih with h | h <;> cases h
      right
      rw [List.getElem?_set_self hlength, hx]
      rfl
    · rw [List.getElem?_set_ne hj]
      exact ih

/-- **Workers may finish in any order.** Once all operations have finished, what is collected is
their outcome one after the other. -/
theorem collected?_eq (hslots : Reaches operations slots) (hdone : none ∉ slots) :
    collected? slots = some (operations.mapM (·.outcome)) := by
  have hfilled : slots = (operations.map (·.outcome)).map some := by
    apply List.ext_getElem?
    intro i
    rw [List.map_map, List.getElem?_map]
    rcases getElem?_of_reaches hslots i with hempty | hfull
    · cases hi : operations[i]? with
      | none => simpa [hi] using hempty
      | some x =>
        rw [hi] at hempty
        exact absurd (List.mem_of_getElem? hempty) hdone
    · exact hfull
  have hall : ((operations.map (·.outcome)).map some).mapM id =
      some (operations.map (·.outcome)) := by
    rw [List.mapM_map]
    exact (List.mapM_pure (m := Option) (f := id)).trans (congrArg some (List.map_id _))
  rw [collected?, hfilled, hall, Option.map_some, List.mapM_map]
  rfl

end Pool

namespace CatalogDirectory

open CatalogRoot

variable {d : CatalogDirectory} {locale : String}

/-! ## One locale -/

/-- Loading a locale is reading its files; there has to be one. -/
theorem outcome_load (d : CatalogDirectory) (locale : String) :
    (d.load locale).outcome =
      if d.filesIn locale = [] then .error (.noCatalogOf locale d.root)
      else (d.readFiles (d.filesIn locale)).outcome >>= fun parsed =>
        .ok (writeFiles (.blank locale) ((d.filesIn locale).zip parsed)).1 := by
  rw [load, Logged.outcome_bind, discover_eq, Outcome.ok_bind, get?_localeFiles]
  by_cases hfiles : d.filesIn locale = []
  · rw [if_pos hfiles, if_pos hfiles]
    rfl
  · rw [if_neg hfiles, if_neg hfiles]
    exact Logged.outcome_bind _ _

/-- A discovered locale is loaded if each of its files can be read. -/
theorem load_eq_ok_iff (hfiles : d.filesIn locale ≠ []) {c : Catalog} :
    (d.load locale).outcome = .ok c ↔
      (∀ p ∈ d.filesIn locale, (d.readFile p).outcome = .ok (d.contents p)) ∧
        c = d.catalogOf locale := by
  have hzip : (d.filesIn locale).zip ((d.filesIn locale).map d.contents) =
      (d.filesIn locale).map fun p => (p, d.contents p) := List.map_prod_left_eq_zip.symm
  rw [outcome_load, if_neg hfiles, Outcome.bind_eq_ok_iff]
  constructor
  · rintro ⟨parsed, hparsed, hc⟩
    obtain ⟨hread, rfl⟩ := readFiles_eq_ok_iff.1 hparsed
    rw [hzip] at hc
    exact ⟨hread, (Except.ok.inj hc).symm⟩
  · rintro ⟨hread, rfl⟩
    refine ⟨_, readFiles_eq_ok_iff.2 ⟨hread, rfl⟩, ?_⟩
    rw [hzip]
    rfl

/-- Otherwise it fails as the first file does. -/
theorem load_eq_error_iff (hfiles : d.filesIn locale ≠ []) {e : Error} :
    (d.load locale).outcome = .error e ↔
      (d.readFiles (d.filesIn locale)).outcome = .error e := by
  rw [outcome_load, if_neg hfiles, Outcome.bind_eq_error_iff]
  exact or_iff_left nofun

/-! ## All locales -/

/-- The files of all locales are read locale by locale. -/
theorem outcome_readFiles_pairs (d : CatalogDirectory) :
    (d.readFiles ((pairs d.localeFiles).map (·.2))).outcome =
      ((sortedLocales d.localeFiles).mapM fun locale =>
        (d.readFiles (d.filesIn locale)).outcome).map List.flatten := by
  have hpairs : (pairs d.localeFiles).map (·.2) =
      (sortedLocales d.localeFiles).flatMap d.filesIn := by
    rw [pairs, List.map_flatMap]
    congr 1
    funext locale
    rw [getD_localeFiles, List.map_map]
    exact List.map_id _
  rw [outcome_readFiles, hpairs, Outcome.mapM_flatMap]
  congr 2
  funext locale
  rw [outcome_readFiles]

/-- Loading all locales is loading each of them in order. -/
theorem outcome_loadAll_eq_mapM (hsome : ∃ locale, d.filesIn locale ≠ []) :
    d.loadAll.outcome =
      ((sortedLocales d.localeFiles).mapM fun locale => (d.load locale).outcome).map
        CatalogSet.mk := by
  cases hload : d.loadAll.outcome with
  | ok set =>
    obtain ⟨-, hread, rfl⟩ := loadAll_eq_ok_iff.1 hload
    have heach : ((sortedLocales d.localeFiles).mapM fun locale => (d.load locale).outcome) =
        .ok ((sortedLocales d.localeFiles).map d.catalogOf) := by
      rw [Outcome.mapM_eq_ok_iff, List.map_map]
      refine List.map_congr_left fun locale hlocale => ?_
      exact (load_eq_ok_iff (mem_sortedLocales.1 hlocale)).2 ⟨hread locale, rfl⟩
    rw [heach]
    rfl
  | error e =>
    have hempty : ¬ d.localeFiles.isEmpty = true := by
      rw [isEmpty_localeFiles, not_forall]
      exact hsome
    have hread : (d.readFiles ((pairs d.localeFiles).map (·.2))).outcome = .error e := by
      rw [outcome_loadAll, if_neg hempty, Outcome.bind_eq_error_iff] at hload
      rcases hload with hread | ⟨parsed, hparsed, hbuilt⟩
      · exact hread
      · -- once the files are read, nothing can fail
        obtain ⟨-, rfl⟩ := readFiles_eq_ok_iff.1 hparsed
        rw [outcome_builds, Outcome.ok_bind] at hbuilt
        cases hbuilt
    rw [outcome_readFiles_pairs, Outcome.map_eq_error_iff] at hread
    have heach : ((sortedLocales d.localeFiles).mapM fun locale => (d.load locale).outcome) =
        .error e := by
      refine Outcome.mapM_eq_error_congr (fun locale hlocale e' => ?_) hread
      exact (load_eq_error_iff (mem_sortedLocales.1 hlocale)).symm
    rw [heach]
    rfl

/-- The set of all locales has the catalog of each. -/
theorem find?_catalogSet (hfiles : d.filesIn locale ≠ []) :
    d.catalogSet.find? locale = some (d.catalogOf locale) := by
  have hmem := mem_sortedLocales.2 hfiles
  have hlocale : ((fun c : Catalog => decide (c.locale = locale)) ∘ d.catalogOf) =
      fun l => decide (l = locale) := by
    funext l
    simp only [Function.comp_apply, locale_catalogOf]
  rw [CatalogSet.find?, catalogSet, List.find?_map, hlocale]
  have hfound : ((sortedLocales d.localeFiles).find? fun l => decide (l = locale)).isSome := by
    rw [List.find?_isSome]
    exact ⟨locale, hmem, decide_eq_true rfl⟩
  obtain ⟨l, hl⟩ := Option.isSome_iff_exists.1 hfound
  have heq : l = locale := by simpa using List.find?_some hl
  rw [hl, Option.map_some, heq]

/-! ## Independence -/

theorem outcome_load_workers (d : CatalogDirectory) (workers : Int) (locale : String) :
    ({ d with workers }.load locale).outcome = (d.load locale).outcome := by
  rw [outcome_load, outcome_load, outcome_readFiles, outcome_readFiles]
  rfl

theorem outcome_loadAll_workers (d : CatalogDirectory) (workers : Int) :
    { d with workers }.loadAll.outcome = d.loadAll.outcome := by
  rw [outcome_loadAll, outcome_loadAll, outcome_readFiles, outcome_readFiles]
  rfl

/-- What loading all locales has in common with loading each of them. -/
structure LoadsEach (d : CatalogDirectory) : Prop where
  /-- All locales are loaded if each of them is. -/
  exists_iff : (∃ set, d.loadAll.outcome = .ok set) ↔
    ∀ locale ∈ d.localeFiles.keys, ∃ c, (d.load locale).outcome = .ok c
  /-- Then the catalogs are the same. -/
  find?_eq : ∀ set, d.loadAll.outcome = .ok set → ∀ locale ∈ d.localeFiles.keys,
    ∃ c, (d.load locale).outcome = .ok c ∧ set.find? locale = some c
  /-- Otherwise the failure is that of the first locale that fails. -/
  error_eq : ∀ e, d.loadAll.outcome = .error e → ∃ locale ∈ d.localeFiles.keys,
    (d.load locale).outcome = .error e ∧
      ∀ l ∈ d.localeFiles.keys, (∃ e', (d.load l).outcome = .error e') →
        Text.leString locale l = true

theorem loadsEach (hsome : d.localeFiles.keys ≠ []) : d.LoadsEach := by
  have hfiles : ∀ {locale}, locale ∈ d.localeFiles.keys ↔ d.filesIn locale ≠ [] :=
    fun {locale} => d.mem_keys_localeFiles locale
  have hsorted : ∀ {locale}, locale ∈ sortedLocales d.localeFiles ↔
      locale ∈ d.localeFiles.keys := fun {locale} => Text.mem_sortStrings
  obtain ⟨first, hfirst⟩ := List.exists_mem_of_ne_nil _ hsome
  have hall := outcome_loadAll_eq_mapM (d := d) ⟨first, hfiles.1 hfirst⟩
  refine ⟨?_, fun set hset locale hlocale => ?_, fun e he => ?_⟩
  · have hmapped : (∃ set, d.loadAll.outcome = .ok set) ↔
        ∃ cs, ((sortedLocales d.localeFiles).mapM fun locale => (d.load locale).outcome) =
          .ok cs := by
      rw [hall]
      cases (sortedLocales d.localeFiles).mapM fun locale => (d.load locale).outcome <;>
        simp [Except.map]
    rw [hmapped, Outcome.exists_mapM_iff]
    exact forall_congr' fun locale => by rw [hsorted]
  · obtain ⟨-, hread, rfl⟩ := loadAll_eq_ok_iff.1 hset
    have hne := hfiles.1 hlocale
    exact ⟨_, (load_eq_ok_iff hne).2 ⟨hread locale, rfl⟩, find?_catalogSet hne⟩
  · rw [hall, Outcome.map_eq_error_iff] at he
    obtain ⟨before, locale, after, hsplit, hfailed, hbefore⟩ :=
      Outcome.exists_split_of_mapM_error he
    have hmem : locale ∈ sortedLocales d.localeFiles := by
      rw [hsplit]
      exact List.mem_append_right _ List.mem_cons_self
    refine ⟨locale, hsorted.1 hmem, hfailed, fun l hl ⟨e', he'⟩ => ?_⟩
    have hordered := Text.sortStrings_pairwise d.localeFiles.keys
    rw [← sortedLocales, hsplit] at hordered
    rw [← hsorted, hsplit, List.mem_append, List.mem_cons] at hl
    rcases hl with hl | rfl | hl
    · -- a locale before the first failure is loaded
      obtain ⟨c, hc⟩ := hbefore l hl
      rw [hc] at he'
      cases he'
    · exact Text.leString_refl _
    · exact (List.pairwise_cons.1 (List.pairwise_append.1 hordered).2.1).1 l hl

/-- **Loading is independent of workers and of entry points.** No outcome depends on the number of
workers, nor on the order in which they finish. If there is a locale, loading all locales has the
outcome of loading each: it succeeds if each succeeds, with the same catalogs, and otherwise fails
as the first locale that fails. -/
theorem loadAll_eq_load (d : CatalogDirectory) :
    (∀ workers : Int, { d with workers }.loadAll.outcome = d.loadAll.outcome ∧
      ∀ locale, ({ d with workers }.load locale).outcome = (d.load locale).outcome) ∧
    (∀ files slots, Pool.Reaches (files.map d.readFile) slots → none ∉ slots →
      Pool.collected? slots = some (d.readFiles files).outcome) ∧
    (d.localeFiles.keys ≠ [] → d.LoadsEach) := by
  refine ⟨fun workers => ⟨d.outcome_loadAll_workers workers, d.outcome_load_workers workers⟩, ?_,
    loadsEach⟩
  intro files slots hslots hdone
  have hcollected := Pool.collected?_eq hslots hdone
  rw [List.mapM_map] at hcollected
  rw [hcollected, outcome_readFiles]
  rfl

/-! ### Two links to nothing -/

/-- The failure to read a catalog in the root. -/
def lostCatalog (name : String) : Error := .unreadableCatalog ⟨["i18n", name]⟩ .notFound

/-- A catalog directory with two locales that cannot be read. -/
def faulty : CatalogDirectory where
  tree := ⟨⟨[(["i18n"], .directory), (["i18n", "en.toml"], .danglingLink),
    (["i18n", "fr.toml"], .danglingLink)], by decide⟩⟩
  root := ⟨["i18n"]⟩
  place := ["i18n"]
  extension := "toml"
  workers := 4
  surveyed := outcome_survey_of_entries (by decide)

theorem filesIn_faulty :
    faulty.filesIn "en" = [⟨["i18n", "en.toml"]⟩] ∧
      faulty.filesIn "fr" = [⟨["i18n", "fr.toml"]⟩] := by
  rw [filesIn, filesIn, FileTree.beneath_eq, List.mergeSort_of_pairwise (by decide)]
  decide

theorem mem_keys_faulty {locale : String} :
    locale ∈ faulty.localeFiles.keys ↔ locale = "en" ∨ locale = "fr" := by
  rw [mem_keys_localeFiles]
  constructor
  · intro hne
    obtain ⟨p, hp⟩ := List.exists_mem_of_ne_nil _ hne
    obtain ⟨steps, n, -, hnode, hfile, -⟩ := (mem_filesIn _ _).1 hp
    have hsteps : steps = [] ∨ steps = ["en.toml"] ∨ steps = ["fr.toml"] := by
      simp only [faulty, List.singleton_append, List.mem_cons, Prod.mk.injEq, List.cons.injEq,
        true_and, List.not_mem_nil, or_false] at hnode
      tauto
    rcases hsteps with rfl | rfl | rfl
    · cases hfile
    · exact .inl (Option.some.inj (isFileOf_name.1 hfile).2).symm
    · exact .inr (Option.some.inj (isFileOf_name.1 hfile).2).symm
  · rintro (rfl | rfl)
    · rw [filesIn_faulty.1]
      exact List.cons_ne_nil _ _
    · rw [filesIn_faulty.2]
      exact List.cons_ne_nil _ _

theorem load_faulty :
    (faulty.load "en").outcome = .error (lostCatalog "en.toml") ∧
      (faulty.load "fr").outcome = .error (lostCatalog "fr.toml") := by
  rw [outcome_load, outcome_load, filesIn_faulty.1, filesIn_faulty.2]
  exact ⟨rfl, rfl⟩

/-- The failure of the first locale is raised, even if the file of the other is the first to be
looked for in vain. -/
theorem loadAll_eq_load_faulty :
    faulty.localeFiles.keys ≠ [] ∧
      { faulty with workers := 1 }.loadAll.outcome = .error (lostCatalog "en.toml") ∧
      Pool.Reaches ([⟨["i18n", "en.toml"]⟩, ⟨["i18n", "fr.toml"]⟩].map faulty.readFile)
        [some (.error (lostCatalog "en.toml")), some (.error (lostCatalog "fr.toml"))] ∧
      (faulty.readFiles [⟨["i18n", "en.toml"]⟩, ⟨["i18n", "fr.toml"]⟩]).outcome =
        .error (lostCatalog "en.toml") := by
  obtain ⟨hworkers, hpool, hall⟩ := loadAll_eq_load faulty
  have hen : "en" ∈ faulty.localeFiles.keys := mem_keys_faulty.2 (.inl rfl)
  have hsome : faulty.localeFiles.keys ≠ [] := List.ne_nil_of_mem hen
  have hreaches : Pool.Reaches
      ([⟨["i18n", "en.toml"]⟩, ⟨["i18n", "fr.toml"]⟩].map faulty.readFile)
      [some (.error (lostCatalog "en.toml")), some (.error (lostCatalog "fr.toml"))] := by
    have hstart := @Pool.Reaches.start _
      ([⟨["i18n", "en.toml"]⟩, ⟨["i18n", "fr.toml"]⟩].map faulty.readFile)
    have hlast := hstart.finish (i := 1) rfl
    exact hlast.finish (i := 0) rfl
  refine ⟨hsome, ?_, hreaches, ?_⟩
  · rw [(hworkers 1).1]
    cases hload : faulty.loadAll.outcome with
    | ok set =>
      obtain ⟨c, hc⟩ := (hall hsome).exists_iff.1 ⟨set, hload⟩ "en" hen
      rw [load_faulty.1] at hc
      cases hc
    | error e =>
      obtain ⟨locale, hlocale, hfailed, hleast⟩ := (hall hsome).error_eq e hload
      have hle := hleast "en" hen ⟨_, load_faulty.1⟩
      rcases mem_keys_faulty.1 hlocale with rfl | rfl
      · rw [Except.error.inj (hfailed.symm.trans load_faulty.1)]
      · exact absurd hle (by decide)
  · have hcollected := hpool _ _ hreaches (by simp)
    exact (Option.some.inj hcollected).symm

end CatalogDirectory

end SymbolText
