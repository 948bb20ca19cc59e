import SymbolText.Proofs.Consistency

/-!
# Reports that find nothing

A report counts names and keys, but succeeds if it has recorded nothing at all. Both come to the
same since no group is recorded without a name or a key in it, even where the groups of several sets
of one type take each other's place.

* `Groups`: every group of a report has something in it.
* `Coincide`: the declared names are the keys of every catalog.

Results:
* `groups_ofSets`: a report has no empty group.
* `missingCount_eq_zero_iff`, `orphanedCount_eq_zero_iff`, `lines_eq_successLine_iff`: when the
  figures and the lines of a report show that it found nothing.
* `isSuccess_ofSets_tfae`: so it does exactly if names and keys coincide.
-/

namespace SymbolText

theorem Dict.isEmpty_iff {α β : Type} {d : Dict α β} : d.isEmpty = true ↔ d.keys = [] := by
  rw [isEmpty, List.isEmpty_iff, keys, List.map_eq_nil_iff]

theorem Dict.isEmpty_iff_get? {α β : Type} [DecidableEq α] {d : Dict α β} :
    d.isEmpty = true ↔ ∀ k, d.get? k = none := by
  rw [isEmpty_iff, List.eq_nil_iff_forall_not_mem]
  refine forall_congr' fun k => ?_
  rw [mem_keys_iff, ← Option.ne_none_iff_exists', Ne, not_not]

namespace Report

variable {sets : List SymbolSet} {set : SymbolSet} {catalogs : CatalogSet} {r : Report}

/-! ## Groups -/

/-- Every type has a group of a locale, and every group a name; every locale has an orphaned key if
it is recorded. -/
structure Groups (r : Report) : Prop where
  locales_ne_nil : ∀ typeName locales, r.missing.get? typeName = some locales → locales.keys ≠ []
  names_ne_nil : ∀ typeName locales, r.missing.get? typeName = some locales →
    ∀ locale names, locales.get? locale = some names → names ≠ []
  orphaned_ne_nil : ∀ locale keys, r.orphaned.get? locale = some keys → keys ≠ []

theorem locales_ne_nil_missingOf (sets : List SymbolSet) {typeName : String}
    {locales : Dict String (List Text)}
    (hlocales : (missingOf sets catalogs).get? typeName = some locales) : locales.keys ≠ [] := by
  induction sets using List.reverseRecOn generalizing locales with
  | nil => cases hlocales
  | append_singleton sets set ih =>
    rw [missingOf_append, get?_record] at hlocales
    split at hlocales
    · rename_i hlacks
      obtain rfl := Option.some.inj hlocales
      obtain ⟨e, he⟩ := List.exists_mem_of_ne_nil _ hlacks.2
      refine List.ne_nil_of_mem (a := e.1) ?_
      rw [Dict.keys_update, List.mem_eraseDups, List.mem_append]
      exact .inr (List.mem_map_of_mem he)
    · exact ih hlocales

theorem names_ne_nil_missingOf (sets : List SymbolSet) {typeName locale : String}
    {locales : Dict String (List Text)} {names : List Text}
    (hlocales : (missingOf sets catalogs).get? typeName = some locales)
    (hnames : locales.get? locale = some names) : names ≠ [] := by
  induction sets using List.reverseRecOn generalizing locales with
  | nil => cases hlocales
  | append_singleton sets set ih =>
    rw [missingOf_append, get?_record] at hlocales
    split at hlocales
    · obtain rfl := Option.some.inj hlocales
      rw [Dict.get?_update] at hnames
      rcases Option.or_eq_some_iff.1 hnames with hnew | ⟨-, hbefore⟩
      · obtain ⟨-, -, -, -, hne⟩ := CatalogSet.mem_perLocale.1 (Dict.mem_of_lastValue? hnew)
        exact hne
      · cases hget : (missingOf sets catalogs).get? typeName with
        | none =>
          rw [hget] at hbefore
          cases hbefore
        | some before =>
          rw [hget] at hbefore
          exact ih hget hbefore
    · exact ih hlocales hnames

theorem groups_ofSets (sets : List SymbolSet) (catalogs : CatalogSet) :
    (ofSets sets catalogs).Groups where
  locales_ne_nil _ _ hlocales := locales_ne_nil_missingOf sets hlocales
  names_ne_nil _ _ hlocales _ _ hnames := names_ne_nil_missingOf sets hlocales hnames
  orphaned_ne_nil _ _ hkeys := by
    obtain ⟨-, -, -, -, hne⟩ := exists_of_get?_orphanedOf hkeys
    exact hne

/-! ## Figures and lines -/

/-- Nothing is counted as missing only if nothing is recorded. -/
theorem missingCount_eq_zero_iff (hgroups : r.Groups) :
    r.missingCount = 0 ↔ r.missing.isEmpty = true := by
  rw [missingCount, List.length_eq_zero_iff, List.eq_nil_iff_forall_not_mem, Dict.isEmpty_iff_get?]
  constructor
  · intro hnone typeName
    cases hlocales : r.missing.get? typeName with
    | none => rfl
    | some locales =>
      obtain ⟨locale, hlocale⟩ :=
        List.exists_mem_of_ne_nil _ (hgroups.locales_ne_nil typeName locales hlocales)
      obtain ⟨names, hnames⟩ := Dict.mem_keys_iff.1 hlocale
      have hne := hgroups.names_ne_nil typeName locales hlocales locale names hnames
      obtain ⟨name, hname⟩ := List.exists_mem_of_ne_nil _ hne
      refine absurd (mem_missingTriples.2 ?_) (hnone (typeName, locale, name))
      rw [missingIn, hlocales, Option.bind_some, hnames]
      exact hname
  · rintro hnone ⟨typeName, locale, name⟩ hmem
    have hname := mem_missingTriples.1 hmem
    rw [missingIn, hnone typeName] at hname
    cases hname

/-- Nothing is counted as orphaned only if nothing is recorded. -/
theorem orphanedCount_eq_zero_iff (hgroups : r.Groups) :
    r.orphanedCount = 0 ↔ r.orphaned.isEmpty = true := by
  rw [orphanedCount, List.length_eq_zero_iff, List.eq_nil_iff_forall_not_mem, Dict.isEmpty_iff_get?]
  constructor
  · intro hnone locale
    cases hkeys : r.orphaned.get? locale with
    | none => rfl
    | some keys =>
      obtain ⟨key, hkey⟩ :=
        List.exists_mem_of_ne_nil _ (hgroups.orphaned_ne_nil locale keys hkeys)
      refine absurd (mem_orphanedPairs.2 ?_) (hnone (locale, key))
      rw [orphanedIn, hkeys]
      exact hkey
  · rintro hnone ⟨locale, key⟩ hmem
    have hkey := mem_orphanedPairs.1 hmem
    rw [orphanedIn, hnone locale] at hkey
    cases hkey

theorem isSuccess_iff :
    r.isSuccess = true ↔ r.missing.isEmpty = true ∧ r.orphaned.isEmpty = true := by
  rw [isSuccess, Bool.and_eq_true]

/-- A report that found something has a heading of three lines. -/
theorem lines_eq_successLine_iff (r : Report) :
    r.lines = [successLine] ↔ r.isSuccess = true := by
  rw [isSuccess_iff]
  constructor
  · intro hlines
    have hlength := congrArg List.length hlines
    rw [lines, List.length_append, List.length_append, List.length_singleton] at hlength
    constructor
    · by_contra hmissing
      rw [missingLines, if_neg hmissing, List.length_append,
        show missingHeading.length = 3 from rfl] at hlength
      omega
    · by_contra horphaned
      rw [orphanedLines, if_neg horphaned, List.length_append,
        show orphanedHeading.length = 3 from rfl] at hlength
      omega
  · rintro ⟨hmissing, horphaned⟩
    rw [lines, missingLines, if_pos hmissing, orphanedLines, if_pos horphaned,
      if_pos (isSuccess_iff.2 ⟨hmissing, horphaned⟩)]
    rfl

/-! ## Names and keys -/

/-- In every locale, each declared name is a key of the catalog, and each key is a declared name. -/
structure Coincide (sets : List SymbolSet) (catalogs : CatalogSet) : Prop where
  hasKey : ∀ c ∈ catalogs.catalogs, ∀ set ∈ sets, ∀ s ∈ set.symbols, c.HasKey s.key
  declared : ∀ c ∈ catalogs.catalogs, ∀ key ∈ c.messages.keys,
    ∃ set ∈ sets, ∃ s ∈ set.symbols, s.key = Text.ofString key

theorem lacked_eq_nil_iff : lacked set catalogs = [] ↔
    ∀ c ∈ catalogs.catalogs, ∀ s ∈ set.symbols, c.HasKey s.key := by
  have hnames : ∀ c : Catalog, missingNames set c = [] ↔ ∀ s ∈ set.symbols, c.HasKey s.key := by
    intro c
    rw [List.eq_nil_iff_forall_not_mem]
    constructor
    · intro hnone s hs
      by_contra hlacks
      exact hnone s.key (mem_missingNames.2 ⟨⟨s, hs, rfl⟩, hlacks⟩)
    · intro hall name hname
      obtain ⟨⟨s, hs, rfl⟩, hlacks⟩ := mem_missingNames.1 hname
      exact hlacks (hall s hs)
  rw [List.eq_nil_iff_forall_not_mem]
  constructor
  · intro hnone c hc
    rw [← hnames]
    by_contra hne
    exact hnone (c.locale, missingNames set c) (CatalogSet.mem_perLocale.2 ⟨c, hc, rfl, rfl, hne⟩)
  · rintro hall ⟨locale, names⟩ hmem
    obtain ⟨c, hc, -, rfl, hne⟩ := CatalogSet.mem_perLocale.1 hmem
    exact hne ((hnames c).2 (hall c hc))

/-- Nothing is recorded as missing exactly if every declared name is a key everywhere. -/
theorem isEmpty_missingOf_iff : (missingOf sets catalogs).isEmpty = true ↔
    ∀ c ∈ catalogs.catalogs, ∀ set ∈ sets, ∀ s ∈ set.symbols, c.HasKey s.key := by
  rw [Dict.isEmpty_iff, keys_missingOf, List.eq_nil_iff_forall_not_mem]
  constructor
  · intro hnone c hc set hset
    refine lacked_eq_nil_iff.1 ?_ c hc
    by_contra hlacks
    refine hnone set.typeName (List.mem_eraseDups.2 (List.mem_map_of_mem ?_))
    exact List.mem_filter.2 ⟨hset, decide_eq_true hlacks⟩
  · intro hall typeName hmem
    obtain ⟨set, hfilter, -⟩ := List.mem_map.1 (List.mem_eraseDups.1 hmem)
    obtain ⟨hset, hlacks⟩ := List.mem_filter.1 hfilter
    exact of_decide_eq_true hlacks (lacked_eq_nil_iff.2 fun c hc => hall c hc set hset)

/-- Nothing is recorded as orphaned exactly if every key is a declared name. -/
theorem isEmpty_orphanedOf_iff : (orphanedOf sets catalogs).isEmpty = true ↔
    ∀ c ∈ catalogs.catalogs, ∀ key ∈ c.messages.keys,
      ∃ set ∈ sets, ∃ s ∈ set.symbols, s.key = Text.ofString key := by
  rw [Dict.isEmpty_iff, orphanedOf_eq, Dict.ofList, Dict.keys_update,
    List.eq_nil_iff_forall_not_mem]
  constructor
  · intro hnone c hc key hkey
    by_contra hall
    have horphaned : key ∈ orphanedKeys (sets.flatMap SymbolSet.names) c :=
      mem_orphanedKeys.2 ⟨hkey, fun set hset s hs heq => hall ⟨set, hset, s, hs, heq⟩⟩
    have hgroup := CatalogSet.mem_perLocale.2 ⟨c, hc, rfl, rfl, List.ne_nil_of_mem horphaned⟩
    refine hnone c.locale (List.mem_eraseDups.2 (List.mem_append_right _ ?_))
    exact List.mem_map_of_mem (f := Prod.fst) hgroup
  · intro hall locale hmem
    rcases List.mem_append.1 (List.mem_eraseDups.1 hmem) with hempty | hmem
    · cases hempty
    · obtain ⟨⟨_, keys⟩, hgroup, -⟩ := List.mem_map.1 hmem
      obtain ⟨c, hc, -, rfl, hne⟩ := CatalogSet.mem_perLocale.1 hgroup
      obtain ⟨key, hkey⟩ := List.exists_mem_of_ne_nil _ hne
      obtain ⟨hmem, hnone⟩ := mem_orphanedKeys.1 hkey
      obtain ⟨set, hset, s, hs, heq⟩ := hall c hc key hmem
      exact hnone set hset s hs heq

theorem isSuccess_iff_coincide :
    (ofSets sets catalogs).isSuccess = true ↔ Coincide sets catalogs := by
  rw [isSuccess_iff]
  show (missingOf sets catalogs).isEmpty = true ∧ (orphanedOf sets catalogs).isEmpty = true ↔ _
  rw [isEmpty_missingOf_iff, isEmpty_orphanedOf_iff]
  exact ⟨fun h => ⟨h.1, h.2⟩, fun h => ⟨h.hasKey, h.declared⟩⟩

/-- **A report succeeds exactly if names and keys coincide.** So do its figures and its lines tell:
nothing is missing or orphaned, or its only line is that of success, exactly if in every locale the
declared names are the keys of the catalog. The report is all that comes of the sets and the
catalogs, which stay as they are. -/
theorem isSuccess_ofSets_tfae (sets : List SymbolSet) (catalogs : CatalogSet) :
    [(ofSets sets catalogs).isSuccess = true,
      (ofSets sets catalogs).missingCount = 0 ∧ (ofSets sets catalogs).orphanedCount = 0,
      (ofSets sets catalogs).lines = [successLine],
      Coincide sets catalogs].TFAE := by
  have hgroups := groups_ofSets sets catalogs
  tfae_have 1 ↔ 2 := by
    rw [missingCount_eq_zero_iff hgroups, orphanedCount_eq_zero_iff hgroups, isSuccess_iff]
  tfae_have 3 ↔ 1 := lines_eq_successLine_iff _
  tfae_have 1 ↔ 4 := isSuccess_iff_coincide
  tfae_finish

end Report

end SymbolText
