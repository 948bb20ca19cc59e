import SymbolText.Proofs.Recording

/-!
# Reports are exact

A report is compared with what the declarations and the keys of catalogs alone tell. The orphaned
keys are exact for any sets. The missing names are exact if sets of one type declare the same names;
otherwise they are those of the last set of the type that lacks one.

* `Missing`, `Orphaned`: the names that are missing and the keys that are orphaned.
* `Records`: what every report has recorded. `Complete`: a report that has all missing names.

Results:
* `missing_of_mem`: only missing names are recorded.
* `missingIn_of_sameNames`, `keys_of_sameNames`: what is recorded for sets with the same names.
* `mem_orphanedIn`: exactly the orphaned keys are recorded.
* `ofSets_exact`: every report is exact, if sets of one type declare the same names.
-/

namespace SymbolText

/-! ## Missing and orphaned -/

namespace Text

theorem ofChars_of_chars? {text : Text} {cs : List Char} (hchars : chars? text = some cs) :
    ofChars cs = text := by
  induction text generalizing cs with
  | nil =>
    obtain rfl := Option.some.inj hchars
    rfl
  | cons p rest ih =>
    rw [chars?, List.mapM_cons] at hchars
    obtain ⟨c, hc, hmore⟩ := Option.bind_eq_some_iff.1 hchars
    obtain ⟨more, hrest, hcs⟩ := Option.bind_eq_some_iff.1 hmore
    obtain rfl := Option.some.inj hcs
    cases p with
    | char c' =>
      obtain rfl := Option.some.inj hc
      exact congrArg (CodePoint.char c' :: ·) (ih hrest)
    | surrogate i => cases hc

/-- A text without surrogates is that of its string. -/
theorem ofString_of_string? {text : Text} {s : String} (hstring : text.string? = some s) :
    ofString s = text := by
  obtain ⟨cs, hchars, rfl⟩ := Option.map_eq_some_iff.1 hstring
  rw [ofString, String.toList_ofList, ofChars_of_chars? hchars]

end Text

/-- A name is one of the keys of a catalog. -/
def Catalog.HasKey (c : Catalog) (name : Text) : Prop :=
  ∃ key ∈ c.messages.keys, Text.ofString key = name

theorem Catalog.textOf?_eq_none_iff {c : Catalog} {name : Text} :
    c.textOf? name = none ↔ ¬ c.HasKey name := by
  rw [← not_iff_not, not_not, ← Ne, Option.ne_none_iff_exists', textOf?]
  constructor
  · rintro ⟨text, htext⟩
    obtain ⟨key, hkey, hmessage⟩ := Option.bind_eq_some_iff.1 htext
    exact ⟨key, Dict.mem_keys_iff.2 ⟨text, hmessage⟩, Text.ofString_of_string? hkey⟩
  · rintro ⟨key, hmem, rfl⟩
    obtain ⟨text, htext⟩ := Dict.mem_keys_iff.1 hmem
    exact ⟨text, by rw [Text.string?_ofString, Option.bind_some]; exact htext⟩

/-- A name that a set of a type declares is no key of the catalog of a locale. -/
def Missing (sets : List SymbolSet) (catalogs : CatalogSet) (typeName locale : String)
    (name : Text) : Prop :=
  (∃ set ∈ sets, set.typeName = typeName ∧ ∃ s ∈ set.symbols, s.key = name) ∧
    ∃ c ∈ catalogs.catalogs, c.locale = locale ∧ ¬ c.HasKey name

/-- A key of the catalog of a locale is no name that a set declares. -/
def Orphaned (sets : List SymbolSet) (catalogs : CatalogSet) (locale key : String) : Prop :=
  (∃ c ∈ catalogs.catalogs, c.locale = locale ∧ key ∈ c.messages.keys) ∧
    ∀ set ∈ sets, ∀ s ∈ set.symbols, s.key ≠ Text.ofString key

namespace Report

variable {sets : List SymbolSet} {set : SymbolSet} {catalogs : CatalogSet} {c : Catalog}

theorem mem_names {name : Text} : name ∈ set.names ↔ ∃ s ∈ set.symbols, s.key = name := by
  rw [SymbolSet.names, List.mem_eraseDups, List.mem_map]

theorem mem_missingNames {name : Text} :
    name ∈ missingNames set c ↔ (∃ s ∈ set.symbols, s.key = name) ∧ ¬ c.HasKey name := by
  rw [missingNames, List.mem_filter, mem_names, Option.isNone_iff_eq_none,
    Catalog.textOf?_eq_none_iff]

/-- The names that a set lacks are in the order of their declaration, each once. -/
theorem missingNames_ordered (set : SymbolSet) (c : Catalog) :
    (missingNames set c).Sublist set.names ∧ (missingNames set c).Nodup :=
  ⟨List.filter_sublist, (nodup_eraseDups _).filter _⟩

/-! ## Recorded names -/

/-- The names that are recorded for a type and a locale. -/
def missingIn (r : Report) (typeName locale : String) : List Text :=
  ((r.missing.get? typeName).bind fun locales => locales.get? locale).getD []

/-- What is recorded is what a set of the type lacks in the locale. -/
theorem exists_of_get? (hnodup : catalogs.locales.Nodup) {typeName locale : String}
    {locales : Dict String (List Text)} {names : List Text}
    (hlocales : (missingOf sets catalogs).get? typeName = some locales)
    (hnames : locales.get? locale = some names) :
    ∃ set ∈ sets, ∃ c ∈ catalogs.catalogs, set.typeName = typeName ∧ c.locale = locale ∧
      missingNames set c = names ∧ names ≠ [] := by
  have hlocale := mem_locales_of_get? hlocales (Dict.mem_keys_iff.2 ⟨names, hnames⟩)
  obtain ⟨c, hc, rfl⟩ := List.mem_map.1 hlocale
  have hrecord := bind_get?_missingOf hnodup hc sets typeName
  rw [hlocales, Option.bind_some, hnames] at hrecord
  obtain ⟨set, hlast, hset⟩ := Option.map_eq_some_iff.1 hrecord.symm
  obtain ⟨hmem, hlacks⟩ := List.mem_filter.1 (List.mem_of_getLast? hlast)
  obtain ⟨htype, hne⟩ := of_decide_eq_true hlacks
  exact ⟨set, hmem, c, hc, htype, rfl, hset, hset ▸ hne⟩

/-- Names that are recorded stand under their type and locale. -/
theorem missingIn_of_ne_nil {r : Report} {typeName locale : String}
    (hne : r.missingIn typeName locale ≠ []) :
    ∃ locales names, r.missing.get? typeName = some locales ∧ locales.get? locale = some names ∧
      r.missingIn typeName locale = names := by
  cases hrecord : (r.missing.get? typeName).bind fun locales => locales.get? locale with
  | none =>
    rw [missingIn, hrecord] at hne
    exact absurd rfl hne
  | some names =>
    obtain ⟨locales, hlocales, hnames⟩ := Option.bind_eq_some_iff.1 hrecord
    exact ⟨locales, names, hlocales, hnames, by rw [missingIn, hrecord]; rfl⟩

/-- Nothing is recorded for a type and a locale, or what a set of the type lacks there. -/
theorem missingIn_cases (hnodup : catalogs.locales.Nodup) (sets : List SymbolSet)
    (typeName locale : String) :
    (ofSets sets catalogs).missingIn typeName locale = [] ∨
      ∃ set ∈ sets, ∃ c ∈ catalogs.catalogs, set.typeName = typeName ∧ c.locale = locale ∧
        (ofSets sets catalogs).missingIn typeName locale = missingNames set c := by
  cases hnames : (ofSets sets catalogs).missingIn typeName locale with
  | nil => exact .inl rfl
  | cons name rest =>
    have hne : (ofSets sets catalogs).missingIn typeName locale ≠ [] :=
      hnames ▸ List.cons_ne_nil name rest
    obtain ⟨locales, names, hlocales, hget, hrecord⟩ := missingIn_of_ne_nil hne
    obtain ⟨set, hset, c, hc, htype, hlocale, hlacks, -⟩ := exists_of_get? hnodup hlocales hget
    exact .inr ⟨set, hset, c, hc, htype, hlocale, by rw [hlacks, ← hrecord, hnames]⟩

/-- Only missing names are recorded. -/
theorem missing_of_mem (hnodup : catalogs.locales.Nodup) {typeName locale : String} {name : Text}
    (hname : name ∈ (ofSets sets catalogs).missingIn typeName locale) :
    Missing sets catalogs typeName locale name := by
  rcases missingIn_cases hnodup sets typeName locale with
    hnil | ⟨set, hset, c, hc, htype, hlocale, hlacks⟩
  · rw [hnil] at hname
    cases hname
  · rw [hlacks] at hname
    obtain ⟨hdeclared, hnone⟩ := mem_missingNames.1 hname
    exact ⟨⟨set, hset, htype, hdeclared⟩, c, hc, hlocale, hnone⟩

/-! ## Sets of one type -/

/-- Sets of one type declare the same names. -/
def SameNames (sets : List SymbolSet) : Prop :=
  ∀ a ∈ sets, ∀ b ∈ sets, a.typeName = b.typeName → a.names = b.names

theorem missingNames_congr {a b : SymbolSet} (hnames : a.names = b.names) (c : Catalog) :
    missingNames a c = missingNames b c := by
  rw [missingNames, missingNames, hnames]

theorem lacked_congr {a b : SymbolSet} (hnames : a.names = b.names) (catalogs : CatalogSet) :
    lacked a catalogs = lacked b catalogs :=
  congrArg (CatalogSet.perLocale · catalogs) (funext fun c => missingNames_congr hnames c)

/-- What a set lacks is recorded if the other sets of its type lack the same. -/
theorem missingIn_of_sameNames (hnodup : catalogs.locales.Nodup) (hsame : SameNames sets)
    (hset : set ∈ sets) (hc : c ∈ catalogs.catalogs) :
    (ofSets sets catalogs).missingIn set.typeName c.locale = missingNames set c := by
  rw [missingIn]
  show ((missingOf sets catalogs).get? _ |>.bind _).getD [] = _
  rw [bind_get?_missingOf hnodup hc]
  cases hlast : lastLacking? sets c set.typeName with
  | none =>
    -- no set of the type lacks a name, and neither does this one
    have hnil : missingNames set c = [] := by
      by_contra hne
      obtain ⟨last, hsome⟩ := exists_lastLacking? hset hne
      rw [hlast] at hsome
      cases hsome
    rw [hnil]
    rfl
  | some last =>
    obtain ⟨hmem, hlacks⟩ := List.mem_filter.1 (List.mem_of_getLast? hlast)
    obtain ⟨htype, -⟩ := of_decide_eq_true hlacks
    exact missingNames_congr (hsame last hmem set hset htype) c

/-- All missing names are recorded then. -/
theorem mem_missingIn_of_sameNames (hnodup : catalogs.locales.Nodup) (hsame : SameNames sets)
    {typeName locale : String} {name : Text} :
    name ∈ (ofSets sets catalogs).missingIn typeName locale ↔
      Missing sets catalogs typeName locale name := by
  refine ⟨missing_of_mem hnodup, ?_⟩
  rintro ⟨⟨set, hset, rfl, hdeclared⟩, c, hc, rfl, hnone⟩
  rw [missingIn_of_sameNames hnodup hsame hset hc]
  exact mem_missingNames.2 ⟨hdeclared, hnone⟩

theorem exists_of_get?_missingOf {typeName : String} {locales : Dict String (List Text)}
    (hlocales : (missingOf sets catalogs).get? typeName = some locales) :
    ∃ set ∈ sets, set.typeName = typeName ∧ lacked set catalogs ≠ [] := by
  have hkey := Dict.mem_keys_iff.2 ⟨locales, hlocales⟩
  rw [keys_missingOf, List.mem_eraseDups] at hkey
  obtain ⟨set, hfilter, htype⟩ := List.mem_map.1 hkey
  obtain ⟨hset, hlacks⟩ := List.mem_filter.1 hfilter
  exact ⟨set, hset, htype, of_decide_eq_true hlacks⟩

/-- The locales of a type are in order if its sets lack the same. -/
theorem keys_of_sameNames (hnodup : catalogs.locales.Nodup) (hsame : SameNames sets)
    (hset : set ∈ sets) {locales : Dict String (List Text)}
    (hlocales : (missingOf sets catalogs).get? set.typeName = some locales) :
    locales.keys = (lacked set catalogs).map Prod.fst := by
  induction sets using List.reverseRecOn generalizing set locales with
  | nil => cases hset
  | append_singleton sets last ih =>
    -- the type was recorded for a set before, which lacks the same as the given one
    have hbefore : ∀ before, (missingOf sets catalogs).get? set.typeName = some before →
        before.keys = (lacked set catalogs).map Prod.fst := by
      intro before hget
      obtain ⟨set', hset', htype, -⟩ := exists_of_get?_missingOf hget
      have hsub : ∀ a ∈ sets, a ∈ sets ++ [last] := fun a ha => List.mem_append_left _ ha
      rw [ih (fun a ha b hb => hsame a (hsub a ha) b (hsub b hb)) hset' (htype ▸ hget),
        lacked_congr (hsame set' (hsub set' hset') set hset htype)]
    have hkeys : ((lacked set catalogs).map Prod.fst).Nodup :=
      (CatalogSet.map_fst_perLocale _ catalogs).nodup hnodup
    rw [missingOf_append, get?_record] at hlocales
    split at hlocales
    · -- the last set adds only locales that are there
      rename_i hlast
      have hmem : last ∈ sets ++ [last] := List.mem_append_right _ (List.mem_singleton_self last)
      obtain rfl := Option.some.inj hlocales
      rw [Dict.keys_update, lacked_congr (hsame last hmem set hset hlast.1)]
      cases hget : (missingOf sets catalogs).get? set.typeName with
      | none => exact eraseDups_of_nodup hkeys
      | some before =>
        rw [Option.getD_some, hbefore before hget, eraseDups_append_of_subset fun a ha => ha,
          eraseDups_of_nodup hkeys]
    · exact hbefore locales hlocales

/-! ## Orphaned keys -/

/-- The keys that are recorded for a locale. -/
def orphanedIn (r : Report) (locale : String) : List String := (r.orphaned.get? locale).getD []

theorem orphanedOf_eq (sets : List SymbolSet) (catalogs : CatalogSet) :
    orphanedOf sets catalogs =
      .ofList (catalogs.perLocale (orphanedKeys (sets.flatMap SymbolSet.names))) := by
  refine congrArg Dict.ofList (List.filterMap_congr fun c _ => ?_)
  cases orphanedKeys (sets.flatMap SymbolSet.names) c <;> rfl

theorem mem_orphanedKeys {key : String} :
    key ∈ orphanedKeys (sets.flatMap SymbolSet.names) c ↔
      key ∈ c.messages.keys ∧ ∀ set ∈ sets, ∀ s ∈ set.symbols, s.key ≠ Text.ofString key := by
  rw [orphanedKeys, Text.mem_sortStrings, List.mem_filter]
  simp [mem_names]

/-- The keys that are recorded for a locale are orphaned in its catalog. -/
theorem exists_of_get?_orphanedOf {locale : String} {keys : List String}
    (hkeys : (orphanedOf sets catalogs).get? locale = some keys) :
    ∃ c ∈ catalogs.catalogs, c.locale = locale ∧
      orphanedKeys (sets.flatMap SymbolSet.names) c = keys ∧ keys ≠ [] := by
  rw [orphanedOf_eq, Dict.get?_ofList] at hkeys
  exact CatalogSet.mem_perLocale.1 (Dict.mem_of_lastValue? hkeys)

theorem orphanedIn_ofSets (hnodup : catalogs.locales.Nodup) (hc : c ∈ catalogs.catalogs) :
    (ofSets sets catalogs).orphanedIn c.locale =
      orphanedKeys (sets.flatMap SymbolSet.names) c := by
  show ((orphanedOf sets catalogs).get? c.locale).getD [] = _
  rw [orphanedOf_eq, Dict.get?_ofList, CatalogSet.lastValue?_perLocale hnodup hc]
  split
  · rename_i hnil
    rw [hnil]
    rfl
  · rfl

/-- Nothing is recorded for a locale, or what is orphaned in its catalog. -/
theorem orphanedIn_cases (hnodup : catalogs.locales.Nodup) (sets : List SymbolSet)
    (locale : String) :
    (ofSets sets catalogs).orphanedIn locale = [] ∨
      ∃ c ∈ catalogs.catalogs, c.locale = locale ∧
        (ofSets sets catalogs).orphanedIn locale =
          orphanedKeys (sets.flatMap SymbolSet.names) c := by
  by_cases hlocale : ∃ c ∈ catalogs.catalogs, c.locale = locale
  · obtain ⟨c, hc, rfl⟩ := hlocale
    exact .inr ⟨c, hc, rfl, orphanedIn_ofSets hnodup hc⟩
  · refine .inl ?_
    rw [orphanedIn]
    cases hkeys : (ofSets sets catalogs).orphaned.get? locale with
    | none => rfl
    | some keys =>
      obtain ⟨c, hc, hc_locale, -⟩ := exists_of_get?_orphanedOf hkeys
      exact absurd ⟨c, hc, hc_locale⟩ hlocale

theorem mem_orphanedIn (hnodup : catalogs.locales.Nodup) {locale key : String} :
    key ∈ (ofSets sets catalogs).orphanedIn locale ↔ Orphaned sets catalogs locale key := by
  constructor
  · intro hkey
    rcases orphanedIn_cases hnodup sets locale with hnil | ⟨c, hc, hlocale, hkeys⟩
    · rw [hnil] at hkey
      cases hkey
    · rw [hkeys, mem_orphanedKeys] at hkey
      exact ⟨⟨c, hc, hlocale, hkey.1⟩, hkey.2⟩
  · rintro ⟨⟨c, hc, rfl, hkey⟩, hnone⟩
    rw [orphanedIn_ofSets hnodup hc, mem_orphanedKeys]
    exact ⟨hkey, hnone⟩

/-- The orphaned keys of a catalog are in order, each once. -/
theorem orphanedKeys_ordered (declared : List Text) (c : Catalog) :
    (orphanedKeys declared c).Nodup ∧
      (orphanedKeys declared c).Pairwise fun a b => Text.leString a b = true :=
  ⟨Text.nodup_sortStrings (c.messages.nodup.filter _), Text.sortStrings_pairwise _⟩

/-! ## Figures -/

/-- The names that are recorded, by type and locale, in the order of the report. -/
def missingGroups (r : Report) : List (String × String × List Text) :=
  r.missing.entries.flatMap fun (typeName, locales) =>
    locales.entries.map fun (locale, names) => (typeName, locale, names)

theorem mem_missingGroups {r : Report} {typeName locale : String} {names : List Text} :
    (typeName, locale, names) ∈ r.missingGroups ↔ ∃ locales,
      r.missing.get? typeName = some locales ∧ locales.get? locale = some names := by
  simp only [missingGroups, List.mem_flatMap, List.mem_map, Prod.exists, Prod.mk.injEq,
    Dict.get?_eq_some_iff]
  constructor
  · rintro ⟨_, locales, hlocales, _, _, hnames, rfl, rfl, rfl⟩
    exact ⟨locales, hlocales, hnames⟩
  · rintro ⟨locales, hlocales, hnames⟩
    exact ⟨_, locales, hlocales, _, _, hnames, rfl, rfl, rfl⟩

theorem missingTriples_eq (r : Report) :
    r.missingTriples = r.missingGroups.flatMap fun (typeName, locale, names) =>
      names.map fun name => (typeName, locale, name) := by
  rw [missingTriples, missingGroups, List.flatMap_assoc]
  simp only [List.flatMap_map]

theorem mem_missingTriples {r : Report} {typeName locale : String} {name : Text} :
    (typeName, locale, name) ∈ r.missingTriples ↔ name ∈ r.missingIn typeName locale := by
  have hgroups : (typeName, locale, name) ∈ r.missingTriples ↔
      ∃ names, (typeName, locale, names) ∈ r.missingGroups ∧ name ∈ names := by
    simp only [missingTriples_eq, List.mem_flatMap, List.mem_map, Prod.exists, Prod.mk.injEq]
    constructor
    · rintro ⟨_, _, names, hgroup, _, hname, rfl, rfl, rfl⟩
      exact ⟨names, hgroup, hname⟩
    · rintro ⟨names, hgroup, hname⟩
      exact ⟨_, _, names, hgroup, _, hname, rfl, rfl, rfl⟩
  rw [hgroups]
  constructor
  · rintro ⟨names, hgroup, hname⟩
    obtain ⟨locales, hlocales, hnames⟩ := mem_missingGroups.1 hgroup
    rw [missingIn, hlocales, Option.bind_some, hnames]
    exact hname
  · intro hname
    obtain ⟨locales, names, hlocales, hnames, hrecord⟩ :=
      missingIn_of_ne_nil (List.ne_nil_of_mem hname)
    exact ⟨names, mem_missingGroups.2 ⟨locales, hlocales, hnames⟩, hrecord ▸ hname⟩

theorem nodup_missingTriples {r : Report}
    (hnames : ∀ typeName locales, r.missing.get? typeName = some locales →
      ∀ locale names, locales.get? locale = some names → names.Nodup) :
    r.missingTriples.Nodup := by
  refine Dict.nodup_flatMap_entries _ (·.1) (fun e he => ?_) fun e x hx => ?_
  · refine Dict.nodup_flatMap_entries _ (·.2.1) (fun e' he' => ?_) fun e' x hx => ?_
    · have hnodup := hnames e.1 e.2 (Dict.get?_eq_some_iff.2 he) e'.1 e'.2
        (Dict.get?_eq_some_iff.2 he')
      exact hnodup.map fun a b hab => (Prod.mk.inj (Prod.mk.inj hab).2).2
    · obtain ⟨name, -, rfl⟩ := List.mem_map.1 hx
      rfl
  · obtain ⟨e', -, hx⟩ := List.mem_flatMap.1 hx
    obtain ⟨name, -, rfl⟩ := List.mem_map.1 hx
    rfl

theorem mem_orphanedPairs {r : Report} {locale key : String} :
    (locale, key) ∈ r.orphanedPairs ↔ key ∈ r.orphanedIn locale := by
  have hentries : (locale, key) ∈ r.orphanedPairs ↔
      ∃ keys, r.orphaned.get? locale = some keys ∧ key ∈ keys := by
    simp only [orphanedPairs, List.mem_flatMap, List.mem_map, Prod.exists, Prod.mk.injEq,
      Dict.get?_eq_some_iff]
    constructor
    · rintro ⟨_, keys, hkeys, _, hkey, rfl, rfl⟩
      exact ⟨keys, hkeys, hkey⟩
    · rintro ⟨keys, hkeys, hkey⟩
      exact ⟨_, keys, hkeys, _, hkey, rfl, rfl⟩
  rw [hentries, orphanedIn]
  cases r.orphaned.get? locale <;> simp

theorem nodup_orphanedPairs {r : Report}
    (hkeys : ∀ locale keys, r.orphaned.get? locale = some keys → keys.Nodup) :
    r.orphanedPairs.Nodup := by
  refine Dict.nodup_flatMap_entries _ (·.1) (fun e he => ?_) fun e x hx => ?_
  · exact (hkeys e.1 e.2 (Dict.get?_eq_some_iff.2 he)).map fun a b hab => (Prod.mk.inj hab).2
  · obtain ⟨key, -, rfl⟩ := List.mem_map.1 hx
    rfl

/-! ## Exactness -/

/-- What every report on sets and catalogs has recorded. -/
structure Records (r : Report) (sets : List SymbolSet) (catalogs : CatalogSet) : Prop where
  /-- For a type and a locale, what the last set of the type that lacks a name lacks. -/
  last : ∀ c ∈ catalogs.catalogs, ∀ typeName, r.missingIn typeName c.locale =
    ((lastLacking? sets c typeName).map (missingNames · c)).getD []
  /-- Every recorded name is missing. -/
  missing : ∀ typeName locale, ∀ name ∈ r.missingIn typeName locale,
    Missing sets catalogs typeName locale name
  /-- The types are in the order of the sets that lack a name. -/
  types : r.missing.keys =
    ((sets.filter fun set => decide (lacked set catalogs ≠ [])).map (·.typeName)).eraseDups
  /-- There is no group without names. -/
  nonempty : ∀ typeName locales, r.missing.get? typeName = some locales →
    locales.keys ≠ [] ∧ ∀ locale names, locales.get? locale = some names → names ≠ []
  /-- The orphaned keys are recorded once, and no others. -/
  orphaned : ∀ locale key,
    (Orphaned sets catalogs locale key → (r.orphanedIn locale).count key = 1) ∧
      (¬ Orphaned sets catalogs locale key → key ∉ r.orphanedIn locale)
  orphaned_sorted : ∀ locale,
    (r.orphanedIn locale).Pairwise fun a b => Text.leString a b = true
  orphaned_nonempty : ∀ locale keys, r.orphaned.get? locale = some keys → keys ≠ []
  orphanedCount_eq : r.orphanedCount = {x : String × String | Orphaned sets catalogs x.1 x.2}.ncard

/-- What a report has recorded in addition if it is exact. -/
structure Complete (r : Report) (sets : List SymbolSet) (catalogs : CatalogSet) : Prop where
  /-- The missing names are recorded once, and no others. -/
  missing : ∀ typeName locale name,
    (Missing sets catalogs typeName locale name → (r.missingIn typeName locale).count name = 1) ∧
      (¬ Missing sets catalogs typeName locale name → name ∉ r.missingIn typeName locale)
  locales_sorted : ∀ typeName locales, r.missing.get? typeName = some locales →
    locales.keys.Pairwise fun a b => Text.leString a b = true
  /-- The names are in the order of their declaration. -/
  names_sublist : ∀ set ∈ sets, ∀ locale, (r.missingIn set.typeName locale).Sublist set.names
  missingCount_eq : r.missingCount =
    {x : String × String × Text | Missing sets catalogs x.1 x.2.1 x.2.2}.ncard

/-- A type with a record has one for a locale. -/
theorem keys_ne_nil (hnodup : catalogs.locales.Nodup) {typeName : String}
    {locales : Dict String (List Text)}
    (hlocales : (missingOf sets catalogs).get? typeName = some locales) : locales.keys ≠ [] := by
  obtain ⟨set, hset, rfl, hlacks⟩ := exists_of_get?_missingOf hlocales
  obtain ⟨⟨locale, names⟩, hentry⟩ := List.exists_mem_of_ne_nil _ hlacks
  obtain ⟨c, hc, -, rfl, hne⟩ := CatalogSet.mem_perLocale.1 hentry
  obtain ⟨last, hlast⟩ := exists_lastLacking? hset hne
  have hrecord := bind_get?_missingOf hnodup hc sets set.typeName
  rw [hlocales, hlast, Option.bind_some, Option.map_some] at hrecord
  exact List.ne_nil_of_mem (Dict.mem_keys_iff.2 ⟨_, hrecord⟩)

/-- Whatever the sets are, the report has the orphaned keys, and no names but missing ones. -/
theorem records_ofSets (sets : List SymbolSet) (hnodup : catalogs.locales.Nodup) :
    (ofSets sets catalogs).Records sets catalogs where
  last c hc typeName := congrArg (Option.getD · []) (bind_get?_missingOf hnodup hc sets typeName)
  missing typeName locale name hname := missing_of_mem hnodup hname
  types := keys_missingOf sets catalogs
  nonempty typeName locales hlocales := by
    refine ⟨keys_ne_nil hnodup hlocales, fun locale names hnames => ?_⟩
    obtain ⟨-, -, -, -, -, -, -, hne⟩ := exists_of_get? hnodup hlocales hnames
    exact hne
  orphaned locale key := by
    refine ⟨fun horphaned => ?_, mt (mem_orphanedIn hnodup).1⟩
    have hkey := (mem_orphanedIn hnodup).2 horphaned
    rcases orphanedIn_cases hnodup sets locale with hnil | ⟨c, -, -, hkeys⟩
    · rw [hnil] at hkey
      cases hkey
    · rw [hkeys] at hkey ⊢
      exact List.count_eq_one_of_mem (orphanedKeys_ordered _ c).1 hkey
  orphaned_sorted locale := by
    rcases orphanedIn_cases hnodup sets locale with hnil | ⟨c, -, -, hkeys⟩
    · rw [hnil]
      exact List.Pairwise.nil
    · rw [hkeys]
      exact (orphanedKeys_ordered _ c).2
  orphaned_nonempty locale keys hkeys := by
    obtain ⟨-, -, -, -, hne⟩ := exists_of_get?_orphanedOf hkeys
    exact hne
  orphanedCount_eq := by
    refine length_eq_ncard (nodup_orphanedPairs fun locale keys hkeys => ?_) fun x => ?_
    · obtain ⟨c, -, -, rfl, -⟩ := exists_of_get?_orphanedOf hkeys
      exact (orphanedKeys_ordered _ c).1
    · exact mem_orphanedPairs.trans (mem_orphanedIn hnodup)

/-- If sets of one type declare the same names, the report has all missing names. -/
theorem complete_ofSets (hnodup : catalogs.locales.Nodup)
    (hsorted : catalogs.locales.Pairwise fun a b => Text.leString a b = true)
    (hsame : SameNames sets) : (ofSets sets catalogs).Complete sets catalogs where
  missing typeName locale name := by
    refine ⟨fun hmissing => ?_, mt (missing_of_mem hnodup)⟩
    have hname := (mem_missingIn_of_sameNames hnodup hsame).2 hmissing
    rcases missingIn_cases hnodup sets typeName locale with hnil | ⟨set, -, c, -, -, -, hlacks⟩
    · rw [hnil] at hname
      cases hname
    · rw [hlacks] at hname ⊢
      exact List.count_eq_one_of_mem (missingNames_ordered set c).2 hname
  locales_sorted typeName locales hlocales := by
    obtain ⟨set, hset, rfl, -⟩ := exists_of_get?_missingOf hlocales
    rw [keys_of_sameNames hnodup hsame hset hlocales]
    exact hsorted.sublist (CatalogSet.map_fst_perLocale _ catalogs)
  names_sublist set hset locale := by
    rcases missingIn_cases hnodup sets set.typeName locale with
      hnil | ⟨set', hset', c, -, htype, -, hlacks⟩
    · rw [hnil]
      exact List.nil_sublist _
    · rw [hlacks, ← hsame set' hset' set hset htype]
      exact (missingNames_ordered set' c).1
  missingCount_eq := by
    refine length_eq_ncard (nodup_missingTriples ?_) fun x => ?_
    · intro typeName locales hlocales locale names hnames
      obtain ⟨set, -, c, -, -, -, rfl, -⟩ := exists_of_get? hnodup hlocales hnames
      exact (missingNames_ordered set c).2
    · exact mem_missingTriples.trans (mem_missingIn_of_sameNames hnodup hsame)

/-- **A report is exact if sets of one type declare the same names.** For any sets and catalogs it
has recorded the orphaned keys, each once and in order, and under each type and locale what the last
set of the type that lacks a name lacks, in the order of declaration. If sets of one type declare
the same names, these are all the missing names, each once, and its figures are the numbers of
missing names and of orphaned keys. -/
theorem ofSets_exact (sets : List SymbolSet) (given : List Catalog) :
    (ofSets sets (.ofCatalogs given)).Records sets (.ofCatalogs given) ∧
      (SameNames sets → (ofSets sets (.ofCatalogs given)).Complete sets (.ofCatalogs given)) := by
  obtain ⟨hnodup, hsorted⟩ := CatalogSet.locales_ofCatalogs given
  exact ⟨records_ofSets sets hnodup, complete_ofSets hnodup hsorted⟩

/-! ### Two sets of one type -/

/-- A set of a type with one name. -/
def single (name : String) : SymbolSet where
  typeName := "Code"
  symbols := [⟨"Code", name, 1, true, name, "1", by decide⟩]
  ne_nil := List.cons_ne_nil _ _
  owned := fun s hs => by rw [List.mem_singleton.1 hs]

/-- A catalog with a key that no set declares. -/
def oldCatalog : Catalog := .ofMessages "en" [("Old", "x")] none

theorem ofCatalogs_oldCatalog : CatalogSet.ofCatalogs [oldCatalog] = ⟨[oldCatalog]⟩ :=
  CatalogSet.ofCatalogs_of_increasing (List.nodup_singleton _) (List.pairwise_singleton _ _)

theorem missing_oldCatalog {sets : List SymbolSet} {name : String} (hset : single name ∈ sets)
    (hname : Text.ofString "Old" ≠ .ofString name) :
    Missing sets (.ofCatalogs [oldCatalog]) "Code" "en" name := by
  rw [ofCatalogs_oldCatalog]
  refine ⟨⟨_, hset, rfl, _, List.mem_singleton_self _, rfl⟩, oldCatalog, List.mem_singleton_self _,
    rfl, ?_⟩
  rintro ⟨key, hkey, heq⟩
  obtain rfl : key = "Old" := List.mem_singleton.1 hkey
  exact hname heq

theorem ofString_old_ne : Text.ofString "Old" ≠ .ofString "Ok" := by decide

/-- A set that is given twice is reported once. -/
theorem ofSets_exact_twice :
    SameNames [single "Ok", single "Ok"] ∧
      ((ofSets [single "Ok", single "Ok"] (.ofCatalogs [oldCatalog])).missingIn "Code" "en").count
        (.ofString "Ok") = 1 ∧
      ((ofSets [single "Ok", single "Ok"] (.ofCatalogs [oldCatalog])).orphanedIn "en").count
        "Old" = 1 := by
  have hsame : SameNames [single "Ok", single "Ok"] := by
    intro a ha b hb _
    obtain rfl : a = single "Ok" := by simpa using ha
    obtain rfl : b = single "Ok" := by simpa using hb
    rfl
  obtain ⟨hrecords, hcomplete⟩ := ofSets_exact [single "Ok", single "Ok"] [oldCatalog]
  refine ⟨hsame, ((hcomplete hsame).missing "Code" "en" "Ok").1 ?_,
    (hrecords.orphaned "en" "Old").1 ?_⟩
  · exact missing_oldCatalog List.mem_cons_self ofString_old_ne
  · rw [ofCatalogs_oldCatalog]
    refine ⟨⟨oldCatalog, List.mem_singleton_self _, rfl, List.mem_singleton_self _⟩, ?_⟩
    decide

/-- Of two sets with other names the first is not reported. -/
theorem missing_not_recorded :
    Missing [single "Ok", single "Top"] (.ofCatalogs [oldCatalog]) "Code" "en" "Ok" ∧
      Text.ofString "Ok" ∉
        (ofSets [single "Ok", single "Top"] (.ofCatalogs [oldCatalog])).missingIn "Code" "en" := by
  refine ⟨missing_oldCatalog List.mem_cons_self ofString_old_ne, ?_⟩
  rw [ofCatalogs_oldCatalog]
  decide

end Report

end SymbolText
