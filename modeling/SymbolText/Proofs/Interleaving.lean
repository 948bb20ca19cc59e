import SymbolText.Proofs.Repetitions
import SymbolText.Proofs.SharedCatalogs

/-!
# A set depends on the order within each locale only

The catalogs of a locale are merged in the order in which they are listed, so that the last one that
has a key gives its text. Catalogs of other locales may stand between them. When distinct shared
catalogs form a set, it has what the set of their values has; forming it once more writes the later
catalogs over a first one that has their texts already.

* `Catalog.lastMessage?`: the text of a key in the last catalog that has one.
* `Catalog.Combines`: a catalog that has the texts of several.
* `Catalog.mergeAll?`: catalogs merged into the first of them.
* `CatalogStore.partsOf`: the catalogs that are listed for a locale.
* `CatalogGroup.CombinesParts`: a set that has the texts of what is listed for each locale.

Results:
* `combines_foldl_merge`, `messages_foldl_merge_again`: merging catalogs, once and again.
* `find?_ofCatalogs`, `ofCatalogs_congr`: the catalog of a locale in a set of catalogs.
* `catalogsOf_group`: distinct shared catalogs form the set of their values.
* `group_distinct`: what the set has, whatever stands between the catalogs of a locale, and when it
  is formed again.
-/

namespace SymbolText

/-- Items in the strict order of their keys are determined by which they are. -/
theorem Text.eq_of_increasing_map {α : Type} {key : α → String} {items items' : List α}
    (hitems : (items.map key).Pairwise BeforeString)
    (hitems' : (items'.map key).Pairwise BeforeString) (hmem : ∀ a, a ∈ items ↔ a ∈ items') :
    items = items' := by
  let precedes : α → α → Prop := fun a b => BeforeString (key a) (key b)
  have hirrefl : Std.Irrefl precedes := ⟨fun a h => h.2 rfl⟩
  have hantisymm : Std.Antisymm precedes := by
    refine ⟨fun a b hab hba => ?_⟩
    exact absurd (leString_antisymm hab.1 hba.1) hab.2
  exact List.Pairwise.eq_of_mem_iff (List.pairwise_map.1 hitems) (List.pairwise_map.1 hitems') hmem

/-! ## Dictionaries -/

namespace Dict

variable {α β : Type} [DecidableEq α]

/-- The last entry of a key in a dictionary is its only one. -/
theorem lastValue?_entries (d : Dict α β) (k : α) : lastValue? k d.entries = d.get? k := by
  have hupdate : (empty.update d.entries).get? k = lastValue? k d.entries := get?_ofList d.entries k
  cases hget : d.get? k with
  | some v => exact lastValue?_of_nodup d.nodup (get?_eq_some_iff.1 hget)
  | none =>
    by_contra hlast
    obtain ⟨v, hv⟩ := Option.ne_none_iff_exists'.1 hlast
    have hmem := get?_eq_some_iff.2 (mem_of_lastValue? hv)
    rw [hget] at hmem
    cases hmem

/-- A dictionary is its keys in order, with the value of each. -/
theorem entries_eq_map (d : Dict α β) :
    d.entries = d.keys.filterMap fun k => (d.get? k).map fun v => (k, v) := by
  rw [keys, List.filterMap_map]
  refine Eq.trans ?_ (List.filterMap_congr (f := some) fun e he => ?_)
  · rw [List.filterMap_some]
  · rw [Function.comp_apply, get?_eq_some_iff.2 (he : (e.1, e.2) ∈ d.entries), Option.map_some]

/-- Dictionaries with the same keys in the same order and the same values are equal. -/
theorem ext_of_get? {d e : Dict α β} (hkeys : d.keys = e.keys)
    (hget : ∀ k, d.get? k = e.get? k) : d = e := by
  have hentries : d.entries = e.entries := by
    rw [entries_eq_map d, entries_eq_map e, hkeys]
    simp only [hget]
  cases d
  cases e
  cases hentries
  rfl

end Dict

/-! ## Catalogs that are merged -/

namespace Catalog

variable {c : Catalog} {parts : List Catalog}

/-- The text of a key in the last of some catalogs that has one. -/
def lastMessage? (parts : List Catalog) (key : String) : Option String :=
  (parts.filter (·.hasMessage key)).getLast?.bind (·.message? key)

/-- A catalog combines some others: a key has the text of the last one that has the key, the keys
stand in the order in which they first appear, and the sources are those of all. -/
structure Combines (c : Catalog) (parts : List Catalog) : Prop where
  message?_eq : ∀ key, c.message? key = lastMessage? parts key
  keys_eq : c.messages.keys = (parts.flatMap (·.messages.keys)).eraseDups
  sources_eq : c.sources = parts.flatMap (·.sources)

/-- The catalogs of a list merged into the first of them. -/
def mergeAll? : List Catalog → Option Catalog
  | [] => none
  | c :: more => some (more.foldl merge c)

theorem mergeAll?_concat (parts : List Catalog) (c : Catalog) :
    mergeAll? (parts ++ [c]) = some ((mergeAll? parts).elim c (·.merge c)) := by
  cases parts with
  | nil => rfl
  | cons first more => exact congrArg some (List.foldl_concat merge first c more)

theorem message?_merge (c d : Catalog) (key : String) :
    (c.merge d).message? key = (d.message? key).or (c.message? key) := by
  have hlast := Dict.lastValue?_entries d.messages key
  have hget := Dict.get?_update c.messages d.messages.entries key
  rw [hlast] at hget
  exact hget

theorem lastMessage?_concat (parts : List Catalog) (c : Catalog) (key : String) :
    lastMessage? (parts ++ [c]) key = (c.message? key).or (lastMessage? parts key) := by
  rw [lastMessage?, List.filter_append]
  cases hkey : c.message? key with
  | none =>
    have hlacks : c.hasMessage key = false := by
      simpa [hasMessage, Dict.contains, message?] using hkey
    simp [hlacks, lastMessage?]
  | some text =>
    have hhas : c.hasMessage key = true := by
      rw [message?] at hkey
      simp [hasMessage, Dict.contains, hkey]
    simp [hhas, hkey]

theorem lastMessage?_append (parts more : List Catalog) (key : String) :
    lastMessage? (parts ++ more) key = (lastMessage? more key).or (lastMessage? parts key) := by
  induction more using List.reverseRecOn with
  | nil => simp [lastMessage?]
  | append_singleton more c ih =>
    rw [← List.append_assoc, lastMessage?_concat, lastMessage?_concat, ih, Option.or_assoc]

theorem combines_singleton (c : Catalog) : c.Combines [c] where
  message?_eq key := by
    have hlast := lastMessage?_concat [] c key
    rw [List.nil_append] at hlast
    rw [hlast]
    exact Option.or_none.symm
  keys_eq := by
    rw [List.flatMap_singleton]
    exact (eraseDups_of_nodup c.messages.nodup).symm
  sources_eq := (List.flatMap_singleton _ c).symm

/-- One more catalog is merged. -/
theorem Combines.merge (hcombines : c.Combines parts) (d : Catalog) :
    (c.merge d).Combines (parts ++ [d]) where
  message?_eq key := by
    rw [message?_merge, lastMessage?_concat, hcombines.message?_eq]
  keys_eq := by
    have hkeys : (c.merge d).messages.keys = (c.messages.keys ++ d.messages.keys).eraseDups :=
      Dict.keys_update c.messages d.messages.entries
    rw [hkeys, hcombines.keys_eq, eraseDups_eraseDups_append, List.flatMap_append,
      List.flatMap_singleton]
  sources_eq := by
    have hsources : (c.merge d).sources = c.sources ++ d.sources := rfl
    rw [hsources, hcombines.sources_eq, List.flatMap_append, List.flatMap_singleton]

theorem combines_foldl_merge (c : Catalog) (more : List Catalog) :
    (more.foldl merge c).Combines (c :: more) := by
  induction more using List.reverseRecOn with
  | nil => exact combines_singleton c
  | append_singleton more d ih =>
    rw [List.foldl_concat, ← List.cons_append]
    exact ih.merge d

theorem combines_of_mergeAll? (hmerged : mergeAll? parts = some c) : c.Combines parts := by
  cases parts with
  | nil => cases hmerged
  | cons first more =>
    obtain rfl := Option.some.inj hmerged
    exact combines_foldl_merge first more

/-- Merging the same catalogs once more changes no text, and no key changes its place. -/
theorem messages_foldl_merge_again (c : Catalog) (more : List Catalog) :
    (more.foldl merge (more.foldl merge c)).messages = (more.foldl merge c).messages := by
  have honce := combines_foldl_merge c more
  have htwice := combines_foldl_merge c (more ++ more)
  rw [List.foldl_append] at htwice
  refine Dict.ext_of_get? ?_ fun key => ?_
  · rw [htwice.keys_eq, honce.keys_eq, ← List.cons_append, List.flatMap_append]
    refine eraseDups_append_of_subset fun key hkey => ?_
    rw [List.flatMap_cons]
    exact List.mem_append_right _ hkey
  · have hkey := htwice.message?_eq key
    have hkey' := honce.message?_eq key
    have hsplit : c :: more = [c] ++ more := rfl
    rw [← List.cons_append, lastMessage?_append, hsplit, lastMessage?_append] at hkey
    rw [hsplit, lastMessage?_append] at hkey'
    refine hkey.trans (Eq.trans ?_ hkey'.symm)
    cases lastMessage? more key <;> rfl

end Catalog

/-! ## Sets of catalogs -/

namespace CatalogSet

/-- Adding a catalog changes the catalog of its locale only. -/
theorem find?_addCatalog (merged : List Catalog) (c : Catalog) (locale : String) :
    find? ⟨addCatalog merged c⟩ locale =
      if c.locale = locale then some ((find? ⟨merged⟩ locale).elim c (·.merge c))
      else find? ⟨merged⟩ locale := by
  induction merged with
  | nil =>
    by_cases hc : c.locale = locale <;> simp [find?, addCatalog, hc]
  | cons d rest ih =>
    have hrest : find? ⟨d :: rest⟩ locale =
        if d.locale = locale then some d else find? ⟨rest⟩ locale := by
      by_cases hd : d.locale = locale <;> simp [find?, hd]
    rw [addCatalog, hrest]
    by_cases hsame : d.locale = c.locale
    · rw [if_pos hsame]
      have hmerge : (d.merge c).locale = d.locale := rfl
      by_cases hc : c.locale = locale
      · simp [find?, hmerge, hsame, hc]
      · simp [find?, hmerge, hsame, hc]
    · rw [if_neg hsame]
      have hcons : find? ⟨d :: addCatalog rest c⟩ locale =
          if d.locale = locale then some d else find? ⟨addCatalog rest c⟩ locale := by
        by_cases hd : d.locale = locale <;> simp [find?, hd]
      rw [hcons, ih]
      by_cases hd : d.locale = locale
      · have hc : c.locale ≠ locale := fun hc => hsame (hd.trans hc.symm)
        rw [if_pos hd, if_pos hd, if_neg hc]
      · rw [if_neg hd, if_neg hd]

theorem find?_mergeByLocale (given : List Catalog) (locale : String) :
    find? ⟨mergeByLocale given⟩ locale =
      Catalog.mergeAll? (given.filter fun c => decide (c.locale = locale)) := by
  induction given using List.reverseRecOn with
  | nil => rfl
  | append_singleton given c ih =>
    have hfold : mergeByLocale (given ++ [c]) = addCatalog (mergeByLocale given) c :=
      List.foldl_concat addCatalog [] c given
    rw [hfold, find?_addCatalog, ih, List.filter_append]
    by_cases hc : c.locale = locale
    · rw [if_pos hc, List.filter_cons_of_pos (by simp [hc]), List.filter_nil,
        Catalog.mergeAll?_concat]
    · rw [if_neg hc, List.filter_cons_of_neg (by simp [hc]), List.filter_nil, List.append_nil]

/-- Among catalogs of distinct locales, the one of a locale is found. -/
theorem find?_eq_some_iff_of_nodup {set : CatalogSet} (hnodup : set.locales.Nodup) {c : Catalog}
    {locale : String} : set.find? locale = some c ↔ c ∈ set.catalogs ∧ c.locale = locale :=
  find?_key_eq_some_iff hnodup

/-- Sets in the strict order of locales are equal if they have the same catalog for each. -/
theorem ext_of_find? {set set' : CatalogSet} (hset : set.locales.Pairwise Text.BeforeString)
    (hset' : set'.locales.Pairwise Text.BeforeString)
    (hfind : ∀ locale, set.find? locale = set'.find? locale) : set = set' := by
  have hnodup : set.locales.Nodup := hset.imp fun h => h.2
  have hnodup' : set'.locales.Nodup := hset'.imp fun h => h.2
  have hsame : set.catalogs = set'.catalogs := by
    refine Text.eq_of_increasing_map hset hset' fun c => ?_
    have hmem : set.find? c.locale = some c ↔ c ∈ set.catalogs ∧ c.locale = c.locale :=
      find?_eq_some_iff_of_nodup hnodup
    have hmem' : set'.find? c.locale = some c ↔ c ∈ set'.catalogs ∧ c.locale = c.locale :=
      find?_eq_some_iff_of_nodup hnodup'
    rw [hfind] at hmem
    simpa using hmem.symm.trans hmem'
  cases set
  cases set'
  cases hsame
  rfl

theorem increasing_ofCatalogs (given : List Catalog) :
    (ofCatalogs given).locales.Pairwise Text.BeforeString :=
  Text.increasing_of_nodup (locales_ofCatalogs given).1 (locales_ofCatalogs given).2

/-- A set has for a locale the given catalogs of the locale, merged into the first of them. -/
theorem find?_ofCatalogs (given : List Catalog) (locale : String) :
    (ofCatalogs given).find? locale =
      Catalog.mergeAll? (given.filter fun c => decide (c.locale = locale)) := by
  have hmerged : CatalogSet.locales ⟨mergeByLocale given⟩ |>.Nodup := nodup_mergeByLocale given
  rw [← find?_mergeByLocale]
  ext c
  rw [find?_eq_some_iff_of_nodup (locales_ofCatalogs given).1, find?_eq_some_iff_of_nodup hmerged]
  exact and_congr_left fun _ => List.mem_mergeSort

/-- Lists that have the same catalogs of each locale in the same order form the same set. -/
theorem ofCatalogs_congr {given given' : List Catalog}
    (hsame : ∀ locale, (given.filter fun c => decide (c.locale = locale)) =
      given'.filter fun c => decide (c.locale = locale)) :
    ofCatalogs given = ofCatalogs given' := by
  refine ext_of_find? (increasing_ofCatalogs given) (increasing_ofCatalogs given') fun locale => ?_
  rw [find?_ofCatalogs, find?_ofCatalogs, hsame]

end CatalogSet

/-! ## Sets of shared catalogs -/

/-- Sets in the strict order of locales are equal if they have the same member for each. -/
theorem CatalogGroup.ext_of_find? {g g' : CatalogGroup}
    (hg : g.locales.Pairwise Text.BeforeString) (hg' : g'.locales.Pairwise Text.BeforeString)
    (hfind : ∀ locale, g.find? locale = g'.find? locale) : g = g' := by
  have hnodup : (g.members.map Prod.fst).Nodup := hg.imp fun h => h.2
  have hnodup' : (g'.members.map Prod.fst).Nodup := hg'.imp fun h => h.2
  have hsame : g.members = g'.members := by
    refine Text.eq_of_increasing_map hg hg' fun m => ?_
    have hmem : g.find? m.1 = some m.2 ↔ m ∈ g.members := find?_eq_some_iff hnodup
    have hmem' : g'.find? m.1 = some m.2 ↔ m ∈ g'.members := find?_eq_some_iff hnodup'
    exact hmem.symm.trans ((iff_of_eq (congrArg (· = some m.2) (hfind m.1))).trans hmem')
  cases g
  cases g'
  cases hsame
  rfl

namespace CatalogStore

variable {s : CatalogStore} {refs : List Nat}

/-- The catalogs that are listed for a locale. -/
def partsOf (s : CatalogStore) (refs : List Nat) (locale : String) : List Catalog :=
  (s.listed refs locale).filterMap s.get?

/-- The listed catalogs of a locale are those among all listed ones. -/
theorem filter_filterMap_get? (s : CatalogStore) (refs : List Nat) (locale : String) :
    ((refs.filterMap s.get?).filter fun c => decide (c.locale = locale)) =
      s.partsOf refs locale := by
  induction refs with
  | nil => rfl
  | cons ref rest ih =>
    rw [partsOf, listed] at ih ⊢
    cases hget : s.get? ref with
    | none =>
      have hlocale : s.locale? ref ≠ some locale := by simp [locale?, hget]
      rw [List.filterMap_cons_none hget, List.filter_cons_of_neg (by simp [hlocale]), ih]
    | some c =>
      rw [List.filterMap_cons_some hget]
      by_cases hc : c.locale = locale
      · have hlocale : s.locale? ref = some locale := by simp [locale?, hget, hc]
        rw [List.filter_cons_of_pos (by simp [hc]), List.filter_cons_of_pos (by simp [hlocale]),
          List.filterMap_cons_some hget, ih]
      · have hlocale : s.locale? ref ≠ some locale := by simp [locale?, hget, hc]
        rw [List.filter_cons_of_neg (by simp [hc]), List.filter_cons_of_neg (by simp [hlocale]), ih]

/-- Catalogs other than the first one are merged into it as they are. -/
theorem foldl_absorb_of_notMem (s : CatalogStore) {first : Nat} {later : List Nat} (c : Catalog)
    (hfirst : first ∉ later) :
    later.foldl (s.absorb first) c = (later.filterMap s.get?).foldl Catalog.merge c := by
  induction later generalizing c with
  | nil => rfl
  | cons ref rest ih =>
    rw [List.mem_cons, not_or] at hfirst
    rw [List.foldl_cons, ih _ hfirst.2, absorb, if_neg (Ne.symm hfirst.1), List.filterMap_cons]
    cases s.get? ref <;> rfl

theorem locale?_group (s : CatalogStore) (refs : List Nat) (ref : Nat) :
    (s.group refs).1.locale? ref = s.locale? ref := by
  rw [locale?, get?_group, locale?, Option.map_map]
  exact Option.map_congr fun c _ => locale_formed s refs ref c

/-- Forming a set does not change which catalogs are of a locale. -/
theorem listed_group (s : CatalogStore) (refs refs' : List Nat) (locale : String) :
    (s.group refs).1.listed refs' locale = s.listed refs' locale := by
  rw [listed, listed]
  simp only [locale?_group]

theorem nodup_listed (s : CatalogStore) (hdistinct : refs.Nodup) (locale : String) :
    (s.listed refs locale).Nodup :=
  hdistinct.filter _

/-- Among distinct catalogs, the first one of a locale becomes all of them merged. -/
theorem bind_head?_listed (s : CatalogStore) (hdistinct : refs.Nodup) (locale : String) :
    (s.listed refs locale).head?.bind (s.group refs).1.get? =
      Catalog.mergeAll? (s.partsOf refs locale) := by
  have hnodup := nodup_listed s hdistinct locale
  rw [partsOf]
  cases hlisted : s.listed refs locale with
  | nil => rfl
  | cons first later =>
    have hmem : first ∈ s.listed refs locale := hlisted ▸ List.mem_cons_self
    obtain ⟨c, hc, rfl⟩ := locale?_eq_some_iff.1 (mem_listed.1 hmem).2
    rw [hlisted] at hnodup
    rw [List.head?_cons, Option.bind_some, get?_group, hc, Option.map_some, formed_of_cons hlisted,
      if_pos rfl, foldl_absorb_of_notMem s c (List.nodup_cons.1 hnodup).1,
      List.filterMap_cons_some hc]
    rfl

/-! ### What a set has -/

section Contents

variable {g : CatalogGroup}

theorem locales_catalogsOf (hmembers : ∀ m ∈ g.members, s.locale? m.2 = some m.1) :
    CatalogSet.locales ⟨s.catalogsOf g⟩ = g.locales := by
  obtain ⟨members⟩ := g
  induction members with
  | nil => rfl
  | cons m rest ih =>
    obtain ⟨hm, hrest⟩ := List.forall_mem_cons.1 hmembers
    obtain ⟨c, hc, hlocale⟩ := locale?_eq_some_iff.1 hm
    have hmore := ih hrest
    simp only [CatalogSet.locales, catalogsOf, CatalogGroup.locales] at hmore ⊢
    rw [List.filterMap_cons, hc, List.map_cons, List.map_cons, hlocale, hmore]

theorem find?_catalogsOf (hmembers : ∀ m ∈ g.members, s.locale? m.2 = some m.1) (locale : String) :
    CatalogSet.find? ⟨s.catalogsOf g⟩ locale = (g.find? locale).bind s.get? := by
  obtain ⟨members⟩ := g
  induction members with
  | nil => rfl
  | cons m rest ih =>
    obtain ⟨hm, hrest⟩ := List.forall_mem_cons.1 hmembers
    obtain ⟨c, hc, hlocale⟩ := locale?_eq_some_iff.1 hm
    have hmore := ih hrest
    simp only [CatalogSet.find?, catalogsOf, CatalogGroup.find?] at hmore ⊢
    rw [List.filterMap_cons, hc]
    by_cases hsame : m.1 = locale
    · rw [List.find?_cons_of_pos (by simp [hlocale, hsame]),
        List.find?_cons_of_pos (by simp [hsame]), Option.map_some, Option.bind_some, hc]
    · rw [List.find?_cons_of_neg (by simp [hlocale, hsame]),
        List.find?_cons_of_neg (by simp [hsame]), hmore]

end Contents

/-- The members of a set are of the locales that they stand for. -/
theorem locale?_of_mem_group (s : CatalogStore) (refs : List Nat) :
    ∀ m ∈ (s.group refs).2.members, (s.group refs).1.locale? m.2 = some m.1 := by
  intro m hm
  have hfind := (CatalogGroup.find?_eq_some_iff (nodup_locales_group s refs)).2 hm
  exact locale?_eq_some_iff.2 ((hasFirst_group s refs).locale_eq m.1 m.2 hfind)

/-- Distinct shared catalogs form the set of their values. -/
theorem catalogsOf_group (s : CatalogStore) (hdistinct : refs.Nodup) :
    ⟨(s.group refs).1.catalogsOf (s.group refs).2⟩ =
      CatalogSet.ofCatalogs (refs.filterMap s.get?) := by
  have hmembers := locale?_of_mem_group s refs
  refine CatalogSet.ext_of_find? ?_ (CatalogSet.increasing_ofCatalogs _) fun locale => ?_
  · rw [locales_catalogsOf hmembers]
    exact increasing_group s refs
  · rw [find?_catalogsOf hmembers, find?_group, bind_head?_listed s hdistinct,
      CatalogSet.find?_ofCatalogs, filter_filterMap_get?]

/-! ### Other orders -/

theorem ext_of_get? {s s' : CatalogStore} (hget : ∀ ref, s.get? ref = s'.get? ref) : s = s' := by
  have hcatalogs : s.catalogs = s'.catalogs := List.ext_getElem? hget
  cases s
  cases s'
  cases hcatalogs
  rfl

/-- Lists that have the same references of each locale in the same order form the same set, and
leave the same catalogs. -/
theorem group_congr (s : CatalogStore) {refs refs' : List Nat}
    (hlisted : ∀ locale, s.listed refs locale = s.listed refs' locale) :
    s.group refs = s.group refs' := by
  refine Prod.ext (ext_of_get? fun ref => ?_) (CatalogGroup.ext_of_find? ?_ ?_ fun locale => ?_)
  · rw [get?_group, get?_group]
    refine Option.map_congr fun c _ => ?_
    rw [formed, formed, hlisted]
  · exact increasing_group s refs
  · exact increasing_group s refs'
  · rw [find?_group, find?_group, hlisted]

/-! ### Forming a set again -/

/-- Of distinct catalogs of a locale, those after the first one do not change. -/
theorem filterMap_get?_group (s : CatalogStore) (hdistinct : refs.Nodup) {locale : String}
    {first : Nat} {later : List Nat} (hlisted : s.listed refs locale = first :: later) :
    later.filterMap (s.group refs).1.get? = later.filterMap s.get? := by
  have hnodup := nodup_listed s hdistinct locale
  rw [hlisted] at hnodup
  refine List.filterMap_congr fun ref href => ?_
  have hmem : ref ∈ s.listed refs locale := hlisted ▸ List.mem_cons_of_mem first href
  obtain ⟨c, hc, rfl⟩ := locale?_eq_some_iff.1 (mem_listed.1 hmem).2
  have hself : s.formed refs ref c = c := by
    refine formed_eq_self fun more hmore => ?_
    obtain rfl : first = ref := (List.cons.inj (hlisted.symm.trans hmore)).1
    exact absurd href (List.nodup_cons.1 hnodup).1
  rw [get?_group, hc, Option.map_some, hself]

/-- A second set of the same catalogs has the members of the first one. -/
theorem group_group (s : CatalogStore) (refs : List Nat) :
    ((s.group refs).1.group refs).2 = (s.group refs).2 := by
  refine CatalogGroup.ext_of_find? ?_ (increasing_group s refs) fun locale => ?_
  · exact increasing_group (s.group refs).1 refs
  · rw [find?_group, find?_group, listed_group]

/-- Forming a set of distinct catalogs again changes no text of a catalog, and no key changes its
place. -/
theorem messages_group_group (s : CatalogStore) (hdistinct : refs.Nodup) (ref : Nat) :
    (((s.group refs).1.group refs).1.get? ref).map (·.messages) =
      ((s.group refs).1.get? ref).map (·.messages) := by
  rw [get?_group (s.group refs).1, Option.map_map]
  refine Option.map_congr fun c hc => ?_
  rw [Function.comp_apply]
  have hsame := listed_group s refs refs c.locale
  cases hlisted : s.listed refs c.locale with
  | nil => rw [formed_of_nil (hsame.trans hlisted)]
  | cons first later =>
    rw [formed_of_cons (hsame.trans hlisted)]
    split
    · rename_i hfirst
      subst hfirst
      have hnodup := nodup_listed s hdistinct c.locale
      rw [hlisted] at hnodup
      -- the first catalog has the later ones in it already
      obtain ⟨d, hd, rfl⟩ := Option.map_eq_some_iff.1 ((get?_group s refs ref).symm.trans hc)
      rw [locale_formed] at hlisted
      rw [foldl_absorb_of_notMem _ _ (List.nodup_cons.1 hnodup).1,
        filterMap_get?_group s hdistinct hlisted, formed_of_cons hlisted, if_pos rfl,
        foldl_absorb_of_notMem _ _ (List.nodup_cons.1 hnodup).1]
      exact Catalog.messages_foldl_merge_again d _
    · rfl

end CatalogStore

/-- A set has the locales of what is listed in strict order, and for each of them one catalog that
combines the listed ones as they were: `before` is the store when `refs` were listed, and `now` the
present one. -/
structure CatalogGroup.CombinesParts (g : CatalogGroup) (before : CatalogStore) (refs : List Nat)
    (now : CatalogStore) : Prop where
  increasing : g.locales.Pairwise Text.BeforeString
  mem_locales_iff : ∀ locale, locale ∈ g.locales ↔ ∃ ref ∈ refs, before.locale? ref = some locale
  exists_combined : ∀ locale ∈ g.locales, ∃ ref c, g.find? locale = some ref ∧
    now.get? ref = some c ∧ c.locale = locale ∧ c.Combines (before.partsOf refs locale)

namespace CatalogStore

theorem combinesParts_group (s : CatalogStore) {refs : List Nat} (hdistinct : refs.Nodup) :
    (s.group refs).2.CombinesParts s refs (s.group refs).1 where
  increasing := increasing_group s refs
  mem_locales_iff := mem_locales_group s refs
  exists_combined locale hlocale := by
    have hmerged := bind_head?_listed s hdistinct locale
    obtain ⟨ref, hfind⟩ : ∃ ref, (s.group refs).2.find? locale = some ref := by
      refine Option.ne_none_iff_exists'.1 fun hnone => ?_
      exact CatalogGroup.find?_eq_none_iff.1 hnone hlocale
    obtain ⟨c, hc, hsame⟩ := (hasFirst_group s refs).locale_eq locale ref hfind
    rw [← find?_group, hfind, Option.bind_some, hc] at hmerged
    exact ⟨ref, c, hfind, hc, hsame, Catalog.combines_of_mergeAll? hmerged.symm⟩

/-- **A set of distinct catalogs depends on the order within each locale only.** It has the locales
in strict order, and for each of them the texts of the last catalog that has the key, the keys in
the order of their first appearance, and all sources; so it is the set of the values. Lists with the
same catalogs of each locale in the same order form equal sets, be the catalogs the same or only
equal. A second set of the same catalogs, which the first one has changed, has the same members, and
no text and no place of a key changes. -/
theorem group_distinct (s : CatalogStore) {refs : List Nat} (hdistinct : refs.Nodup) :
    (s.group refs).2.CombinesParts s refs (s.group refs).1 ∧
    ⟨(s.group refs).1.catalogsOf (s.group refs).2⟩ =
      CatalogSet.ofCatalogs (refs.filterMap s.get?) ∧
    (∀ refs', (∀ locale, s.listed refs' locale = s.listed refs locale) →
      s.group refs' = s.group refs) ∧
    (∀ (s' : CatalogStore) (refs' : List Nat), refs'.Nodup →
      (∀ locale, s'.partsOf refs' locale = s.partsOf refs locale) →
        (s'.group refs').2.ordinals = (s.group refs).2.ordinals ∧
        (s'.group refs').1.catalogsOf (s'.group refs').2 =
          (s.group refs).1.catalogsOf (s.group refs).2) ∧
    ((s.group refs).1.group refs).2 = (s.group refs).2 ∧
    ∀ ref, (((s.group refs).1.group refs).1.get? ref).map (·.messages) =
      ((s.group refs).1.get? ref).map (·.messages) := by
  refine ⟨combinesParts_group s hdistinct, catalogsOf_group s hdistinct,
    fun refs' hlisted => group_congr s hlisted, fun s' refs' hdistinct' hparts => ?_,
    group_group s refs, messages_group_group s hdistinct⟩
  have hset : CatalogSet.mk ((s'.group refs').1.catalogsOf (s'.group refs').2) =
      ⟨(s.group refs).1.catalogsOf (s.group refs).2⟩ := by
    rw [catalogsOf_group s' hdistinct', catalogsOf_group s hdistinct]
    refine CatalogSet.ofCatalogs_congr fun locale => ?_
    rw [filter_filterMap_get?, filter_filterMap_get?, hparts]
  have hlocales := congrArg CatalogSet.locales hset
  rw [locales_catalogsOf (locale?_of_mem_group s' refs'),
    locales_catalogsOf (locale?_of_mem_group s refs)] at hlocales
  exact ⟨congrArg List.zipIdx hlocales, congrArg CatalogSet.catalogs hset⟩

/-- Two catalogs of one locale, with one of another locale between them. -/
def mixed : CatalogStore :=
  ⟨[.ofMessages "en" [("A", "a"), ("B", "b")] (some "en/1.toml"),
    .ofMessages "fr" [("A", "f")] none, .ofMessages "en" [("C", "c"), ("A", "z")] (some "en/2.toml")]⟩

/-- The catalog between them may as well be listed first, and the set may be formed again. -/
theorem group_distinct_mixed :
    [0, 1, 2].Nodup ∧ (∃ c, (mixed.group [0, 1, 2]).1.get? 0 = some c ∧
      c.message? "A" = some "z" ∧ c.messages.keys = ["A", "B", "C"] ∧
      c.sources = ["en/1.toml", "en/2.toml"]) ∧
    mixed.group [1, 0, 2] = mixed.group [0, 1, 2] ∧
    ((mixed.group [0, 1, 2]).1.group [0, 1, 2]).2 = (mixed.group [0, 1, 2]).2 := by
  have hdistinct : [0, 1, 2].Nodup := by decide
  obtain ⟨hcombines, -, horder, -, hagain, -⟩ := group_distinct mixed hdistinct
  refine ⟨hdistinct, ?_, horder [1, 0, 2] fun locale => ?_, hagain⟩
  · have hen : "en" ∈ (mixed.group [0, 1, 2]).2.locales :=
      (hcombines.mem_locales_iff "en").2 ⟨0, by decide, by decide⟩
    obtain ⟨ref, c, hfind, hc, -, hparts⟩ := hcombines.exists_combined "en" hen
    have hfirst : (mixed.group [0, 1, 2]).2.find? "en" = some 0 :=
      (find?_group mixed [0, 1, 2] "en").trans (by decide)
    obtain rfl : ref = 0 := Option.some.inj (hfind.symm.trans hfirst)
    refine ⟨c, hc, (hparts.message?_eq "A").trans (by decide), hparts.keys_eq.trans (by decide), ?_⟩
    exact hparts.sources_eq.trans (by decide)
  · by_cases hen : locale = "en"
    · subst hen
      decide
    · by_cases hfr : locale = "fr"
      · subst hfr
        decide
      · simp [listed, locale?, get?, mixed, Catalog.ofMessages, Ne.symm hen, Ne.symm hfr]

end CatalogStore

end SymbolText
