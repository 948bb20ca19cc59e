import SymbolText.Proofs.Discovery
import SymbolText.Proofs.Outcome

/-!
# Loaded catalogs have the last entries

The entries of all files of a locale are written one after the other into its catalog. Files are
read across locales, so that the entries have to be told apart again.

Results:
* `writeFiles_eq`: writing files is updating the texts with all their entries.
* `outcome_readFiles`, `readFiles_eq_ok_iff`: the number of workers does not change what is read.
* `partOf_zip`: among the files of all locales, those of a locale are found again.
* `ofCatalogs_of_increasing`: catalogs of distinct locales in order are a set as they are.
* `loadAll_eq_ok_iff`: when loading succeeds; it gives a catalog for each locale that has a file.
* `message?_catalogOf`: the text of a key in it is that of the last entry in the files.
-/

namespace SymbolText

/-- The part of a list that a single item has. -/
theorem flatMap_of_unique {α β : Type} {f : α → List β} {a : α} {items : List α}
    (hnodup : items.Nodup) (ha : a ∈ items) (hother : ∀ b, b ≠ a → f b = []) :
    items.flatMap f = f a := by
  induction items with
  | nil => cases ha
  | cons b rest ih =>
    obtain ⟨hb, hrest⟩ := List.nodup_cons.1 hnodup
    rw [List.flatMap_cons]
    rcases List.mem_cons.1 ha with rfl | ha
    · have hnil : rest.flatMap f = [] :=
        List.flatMap_eq_nil_iff.2 fun c hc => hother c fun h => hb (h ▸ hc)
      rw [hnil, List.append_nil]
    · rw [hother b fun h => hb (h ▸ ha), ih hrest ha, List.nil_append]

namespace CatalogSet

/-! ## Sets -/

theorem addCatalog_of_notMem {merged : List Catalog} {c : Catalog}
    (hnew : c.locale ∉ merged.map (·.locale)) : addCatalog merged c = merged ++ [c] := by
  induction merged with
  | nil => rfl
  | cons first rest ih =>
    rw [List.map_cons, List.mem_cons, not_or] at hnew
    rw [addCatalog, if_neg (Ne.symm hnew.1), ih hnew.2, List.cons_append]

/-- Catalogs of distinct locales are not merged. -/
theorem mergeByLocale_of_nodup {catalogs : List Catalog}
    (hnodup : (catalogs.map (·.locale)).Nodup) : mergeByLocale catalogs = catalogs := by
  -- the catalogs that were added before are part of the invariant
  have hfold : ∀ merged, ((merged ++ catalogs).map (·.locale)).Nodup →
      catalogs.foldl addCatalog merged = merged ++ catalogs := by
    clear hnodup
    induction catalogs with
    | nil => exact fun merged _ => (List.append_nil merged).symm
    | cons c rest ih =>
      intro merged hnodup
      have hnew : c.locale ∉ merged.map (·.locale) := by
        rw [List.map_append, List.map_cons] at hnodup
        exact fun hmem => (List.nodup_append.1 hnodup).2.2 _ hmem _ List.mem_cons_self rfl
      rw [List.append_cons] at hnodup ⊢
      rw [List.foldl_cons, addCatalog_of_notMem hnew, ih _ hnodup]
  exact hfold [] hnodup

theorem map_locale_addCatalog (merged : List Catalog) (c : Catalog) :
    (addCatalog merged c).map (·.locale) =
      if c.locale ∈ merged.map (·.locale) then merged.map (·.locale)
      else merged.map (·.locale) ++ [c.locale] := by
  induction merged with
  | nil => rfl
  | cons d rest ih =>
    rw [addCatalog]
    by_cases hd : d.locale = c.locale
    · rw [if_pos hd, if_pos (hd ▸ List.mem_cons_self)]
      rfl
    · rw [if_neg hd, List.map_cons, ih, List.map_cons]
      simp only [List.mem_cons, Ne.symm hd, false_or]
      split <;> rfl

/-- Catalogs of one locale are merged. -/
theorem nodup_mergeByLocale (catalogs : List Catalog) :
    ((mergeByLocale catalogs).map (·.locale)).Nodup := by
  have hfold : ∀ merged : List Catalog, (merged.map (·.locale)).Nodup →
      ((catalogs.foldl addCatalog merged).map (·.locale)).Nodup := by
    induction catalogs with
    | nil => exact fun merged hmerged => hmerged
    | cons c rest ih =>
      intro merged hmerged
      refine ih _ ?_
      rw [map_locale_addCatalog]
      split
      · exact hmerged
      · rename_i hnew
        rw [← List.concat_eq_append]
        exact hmerged.concat hnew
  exact hfold [] List.nodup_nil

/-- A set has one catalog for each locale, in order. -/
theorem locales_ofCatalogs (given : List Catalog) :
    (ofCatalogs given).locales.Nodup ∧
      (ofCatalogs given).locales.Pairwise fun a b => Text.leString a b = true := by
  constructor
  · have hperm := List.mergeSort_perm (mergeByLocale given)
      fun a b => Text.leString a.locale b.locale
    exact (hperm.map (·.locale)).nodup_iff.2 (nodup_mergeByLocale given)
  · refine List.pairwise_map.2 (List.pairwise_mergeSort ?_ ?_ _)
    · exact fun a b c => Text.leString_trans a.locale b.locale c.locale
    · exact fun a b => Text.leString_total a.locale b.locale

theorem ofCatalogs_of_increasing {catalogs : List Catalog}
    (hnodup : (catalogs.map (·.locale)).Nodup)
    (hsorted : (catalogs.map (·.locale)).Pairwise fun a b => Text.leString a b = true) :
    ofCatalogs catalogs = ⟨catalogs⟩ := by
  rw [ofCatalogs, mergeByLocale_of_nodup hnodup]
  exact congrArg CatalogSet.mk (List.mergeSort_of_pairwise (List.pairwise_map.1 hsorted))

end CatalogSet

namespace CatalogDirectory

open CatalogRoot

/-! ## Writing -/

theorem writeEntries_eq (p : Path) (c : Catalog) (entries : List (String × String)) :
    (writeEntries p c entries).1 = { c with messages := c.messages.update entries } := by
  induction entries generalizing c with
  | nil => rfl
  | cons e rest ih =>
    rw [writeEntries]
    exact ih (c.setMessage e.1 e.2)

/-- Writing files is updating the texts with all their entries in order. -/
theorem writeFiles_eq (c : Catalog) (files : List (Path × List (String × String))) :
    (writeFiles c files).1.locale = c.locale ∧
      (writeFiles c files).1.messages = c.messages.update (files.flatMap Prod.snd) := by
  induction files generalizing c with
  | nil => exact ⟨rfl, rfl⟩
  | cons file rest ih =>
    obtain ⟨p, entries⟩ := file
    let opened : Catalog := { c with sources := c.sources ++ [p.render] }
    have hstep : (writeFiles c ((p, entries) :: rest)).1 =
        (writeFiles (writeEntries p opened entries).1 rest).1 := rfl
    obtain ⟨hlocale, hmessages⟩ := ih (writeEntries p opened entries).1
    rw [hstep, hlocale, hmessages, writeEntries_eq, List.flatMap_cons, Dict.update_append]
    exact ⟨rfl, rfl⟩

/-- The text of a key in the catalog of some files is that of the last entry. -/
theorem message?_build (locale key : String) (files : List (Path × List (String × String))) :
    (writeFiles (.blank locale) files).1.message? key =
      Dict.lastValue? key (files.flatMap Prod.snd) := by
  rw [Catalog.message?, (writeFiles_eq (.blank locale) files).2]
  exact Dict.get?_ofList _ _

/-! ## Reading -/

theorem outcome_gather {α : Type} (operations : List (Logged α)) :
    (gather operations).outcome = operations.mapM (·.outcome) := by
  induction operations with
  | nil => rfl
  | cons x rest ih =>
    rw [gather, List.mapM_cons]
    dsimp only
    rw [ih]
    cases x.outcome with
    | error e => rfl
    | ok a => cases rest.mapM (·.outcome) <;> rfl

/-- What is read does not depend on the number of workers. -/
theorem outcome_readFiles (d : CatalogDirectory) (paths : List Path) :
    (d.readFiles paths).outcome = paths.mapM fun p => (d.readFile p).outcome := by
  rw [readFiles]
  split
  · exact Logged.outcome_mapM d.readFile paths
  · rw [outcome_gather, List.mapM_map]
    rfl

/-- The entries of a file, none if it cannot be read. -/
def contents (d : CatalogDirectory) (p : Path) : List (String × String) :=
  match (d.readFile p).outcome with
  | .ok entries => entries
  | .error _ => []

theorem contents_of_outcome {d : CatalogDirectory} {p : Path} {entries : List (String × String)}
    (hread : (d.readFile p).outcome = .ok entries) : d.contents p = entries := by
  rw [contents, hread]

/-- Files are read if each of them can be. -/
theorem readFiles_eq_ok_iff {d : CatalogDirectory} {paths : List Path}
    {parsed : List (List (String × String))} :
    (d.readFiles paths).outcome = .ok parsed ↔
      (∀ p ∈ paths, (d.readFile p).outcome = .ok (d.contents p)) ∧
        parsed = paths.map d.contents := by
  rw [outcome_readFiles]
  constructor
  · intro hread
    have hcontents : ∀ p entries, (d.readFile p).outcome = .ok entries → entries = d.contents p :=
      fun p entries hentries => (contents_of_outcome hentries).symm
    constructor
    · intro p hp
      obtain ⟨entries, -, hentries⟩ := Outcome.exists_of_mem hread hp
      rw [hentries, contents_of_outcome hentries]
    · rw [← List.map_id parsed]
      exact Outcome.map_eq_of_mapM hread hcontents
  · rintro ⟨hread, rfl⟩
    rw [Outcome.mapM_eq_ok_iff, List.map_map]
    exact List.map_congr_left hread

/-! ## Locale by locale -/

/-- Among the files of all locales, those of a locale are found again. -/
theorem partOf_zip {found : Dict String (List Path)} {locale : String}
    (read : Path → List (String × String)) (hlocale : locale ∈ sortedLocales found) :
    partOf locale ((pairs found).zip (((pairs found).map (·.2)).map read)) =
      ((found.get? locale).getD []).map fun p => (p, read p) := by
  have hnodup : (sortedLocales found).Nodup := Text.nodup_sortStrings found.nodup
  rw [List.map_map, ← List.map_prod_left_eq_zip, partOf, List.filterMap_map, pairs,
    List.filterMap_flatMap, flatMap_of_unique hnodup hlocale]
  · rw [List.filterMap_map, ← List.filterMap_eq_map]
    congr 1
    funext p
    exact if_pos rfl
  · intro l hl
    rw [List.filterMap_map, List.filterMap_eq_nil_iff]
    exact fun p _ => if_neg hl

/-! ## Loading -/

/-- The catalog of the files of a locale. -/
def catalogOf (d : CatalogDirectory) (locale : String) : Catalog :=
  (writeFiles (.blank locale) ((d.filesIn locale).map fun p => (p, d.contents p))).1

theorem locale_catalogOf (d : CatalogDirectory) (locale : String) :
    (d.catalogOf locale).locale = locale :=
  (writeFiles_eq (.blank locale) _).1

/-- The text of a key is that of the last entry in the files of the locale. -/
theorem message?_catalogOf (d : CatalogDirectory) (locale key : String) :
    (d.catalogOf locale).message? key =
      Dict.lastValue? key ((d.filesIn locale).flatMap d.contents) := by
  rw [catalogOf, message?_build, List.flatMap_map]

/-- Locales are found with the files that are theirs. -/
theorem getD_localeFiles (d : CatalogDirectory) (locale : String) :
    (d.localeFiles.get? locale).getD [] = d.filesIn locale := by
  rw [get?_localeFiles]
  split
  · rename_i hnil
    exact hnil.symm
  · rfl

theorem mem_sortedLocales {d : CatalogDirectory} {locale : String} :
    locale ∈ sortedLocales d.localeFiles ↔ d.filesIn locale ≠ [] := by
  rw [sortedLocales, Text.mem_sortStrings, mem_keys_localeFiles]

theorem isEmpty_localeFiles {d : CatalogDirectory} :
    d.localeFiles.isEmpty = true ↔ ∀ locale, d.filesIn locale = [] := by
  rw [Dict.isEmpty, List.isEmpty_iff, ← List.map_eq_nil_iff (f := Prod.fst),
    List.eq_nil_iff_forall_not_mem]
  exact forall_congr' fun locale => (not_congr (d.mem_keys_localeFiles locale)).trans not_not

theorem locales_catalogOf (d : CatalogDirectory) (locales : List String) :
    (locales.map d.catalogOf).map (·.locale) = locales := by
  rw [List.map_map]
  exact (List.map_congr_left fun locale _ => d.locale_catalogOf locale).trans (List.map_id _)

/-- The catalogs of the locales in order. -/
def catalogSet (d : CatalogDirectory) : CatalogSet :=
  ⟨(sortedLocales d.localeFiles).map d.catalogOf⟩

theorem locales_catalogSet (d : CatalogDirectory) :
    d.catalogSet.locales = sortedLocales d.localeFiles :=
  d.locales_catalogOf _

theorem ofCatalogs_catalogOf (d : CatalogDirectory) :
    CatalogSet.ofCatalogs ((sortedLocales d.localeFiles).map d.catalogOf) = d.catalogSet := by
  have hlocales := d.locales_catalogOf (sortedLocales d.localeFiles)
  refine CatalogSet.ofCatalogs_of_increasing ?_ ?_
  · rw [hlocales]
    exact Text.nodup_sortStrings d.localeFiles.nodup
  · rw [hlocales]
    exact Text.sortStrings_pairwise _

/-- The files that are read are those of all locales. -/
theorem mem_pairs {d : CatalogDirectory} {p : Path} :
    p ∈ (pairs d.localeFiles).map (·.2) ↔ ∃ locale, p ∈ d.filesIn locale := by
  simp only [pairs, List.mem_map, List.mem_flatMap, getD_localeFiles]
  constructor
  · rintro ⟨-, ⟨locale, -, q, hq, rfl⟩, rfl⟩
    exact ⟨locale, hq⟩
  · rintro ⟨locale, hp⟩
    refine ⟨(locale, p), ⟨locale, ?_, p, hp, rfl⟩, rfl⟩
    exact mem_sortedLocales.2 fun hnil => List.not_mem_nil (hnil ▸ hp)

/-- The contents of all files make the catalog of each locale. -/
theorem outcome_builds (d : CatalogDirectory) :
    ((sortedLocales d.localeFiles).mapM fun locale => build locale (partOf locale
      ((pairs d.localeFiles).zip (((pairs d.localeFiles).map (·.2)).map d.contents)))).outcome =
      .ok ((sortedLocales d.localeFiles).map d.catalogOf) := by
  rw [Logged.outcome_mapM, Outcome.mapM_eq_ok_iff]
  refine (List.map_congr_left fun locale hlocale => ?_).trans List.map_map.symm
  rw [partOf_zip d.contents hlocale, getD_localeFiles]
  rfl

theorem outcome_loadAll (d : CatalogDirectory) :
    d.loadAll.outcome =
      if d.localeFiles.isEmpty then .error (.noCatalogs d.root d.extension)
      else (d.readFiles ((pairs d.localeFiles).map (·.2))).outcome >>= fun parsed =>
        ((sortedLocales d.localeFiles).mapM fun locale => build locale (partOf locale
          ((pairs d.localeFiles).zip parsed))).outcome >>= fun catalogs =>
        .ok (.ofCatalogs catalogs) := by
  rw [loadAll, Logged.outcome_bind, discover_eq, Outcome.ok_bind]
  split
  · rfl
  · rw [Logged.outcome_bind]
    congr 1
    funext parsed
    rw [Logged.outcome_bind]
    rfl

/-- Loading succeeds if there is a file and every file can be read. It gives the catalog of each
locale that has a file, in order. -/
theorem loadAll_eq_ok_iff {d : CatalogDirectory} {set : CatalogSet} :
    d.loadAll.outcome = .ok set ↔
      (∃ locale, d.filesIn locale ≠ []) ∧
        (∀ locale, ∀ p ∈ d.filesIn locale, (d.readFile p).outcome = .ok (d.contents p)) ∧
        set = d.catalogSet := by
  rw [outcome_loadAll]
  by_cases hempty : d.localeFiles.isEmpty = true
  · rw [if_pos hempty]
    constructor
    · intro h
      cases h
    · rintro ⟨⟨locale, hfiles⟩, -⟩
      exact absurd (isEmpty_localeFiles.1 hempty locale) hfiles
  · have hsome : ∃ locale, d.filesIn locale ≠ [] := by
      rw [isEmpty_localeFiles, not_forall] at hempty
      exact hempty
    rw [if_neg hempty, Outcome.bind_eq_ok_iff]
    constructor
    · rintro ⟨parsed, hparsed, hset⟩
      obtain ⟨hread, rfl⟩ := readFiles_eq_ok_iff.1 hparsed
      rw [outcome_builds, Outcome.ok_bind, ofCatalogs_catalogOf] at hset
      exact ⟨hsome, fun locale p hp => hread p (mem_pairs.2 ⟨locale, hp⟩),
        (Except.ok.inj hset).symm⟩
    · rintro ⟨-, hread, rfl⟩
      refine ⟨_, readFiles_eq_ok_iff.2 ⟨fun p hp => ?_, rfl⟩, ?_⟩
      · obtain ⟨locale, hfile⟩ := mem_pairs.1 hp
        exact hread locale p hfile
      · rw [outcome_builds, Outcome.ok_bind, ofCatalogs_catalogOf]

theorem nodup_locales_catalogSet (d : CatalogDirectory) : d.catalogSet.locales.Nodup := by
  rw [locales_catalogSet]
  exact Text.nodup_sortStrings d.localeFiles.nodup

end CatalogDirectory

end SymbolText
