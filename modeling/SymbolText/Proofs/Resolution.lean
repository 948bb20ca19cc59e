import SymbolText.LocaleResolver
import SymbolText.Proofs.Loading

/-!
# Requests are served in discovered locales

The locale in which a request is served, told by the files that are there: the requested one, or
the default one that is given, or the first one in order.

Results:
* `ofLocales_eq_ok`: the locales and the default of a resolver.
* `resolve_mem`: a request is resolved to one of the locales.
* `serves_resolve`: with the locales of loaded catalogs, to the one that serves the request.
-/

namespace SymbolText

/-- Removing repetitions keeps distinct items as they are. -/
theorem eraseDups_of_nodup {α : Type} [BEq α] [LawfulBEq α] {items : List α}
    (hnodup : items.Nodup) : items.eraseDups = items := by
  induction items with
  | nil => rfl
  | cons a rest ih =>
    obtain ⟨ha, hrest⟩ := List.nodup_cons.1 hnodup
    have hfilter : (rest.filter fun b => !b == a) = rest := by
      refine List.filter_eq_self.2 fun b hb => ?_
      have hne : b ≠ a := fun h => ha (h ▸ hb)
      simp [hne]
    rw [List.eraseDups_cons, hfilter, ih hrest]

namespace LocaleResolver

variable {r : LocaleResolver} {requested : Value}

/-- A resolver has its locales in order, and its default is the given locale or the first. -/
theorem ofLocales_eq_ok {locales : List String} {override key : Option String}
    (hresolver : (ofLocales locales override key).outcome = .ok r) :
    r.locales = Text.sortStrings locales.eraseDups ∧
      (given? override = some r.defaultLocale ∨
        given? override = none ∧ r.locales.head? = some r.defaultLocale) := by
  rw [ofLocales] at hresolver
  cases hgiven : given? override with
  | none =>
    simp only [hgiven] at hresolver
    split at hresolver
    · cases hresolver
    · rename_i first rest hordered
      cases hresolver
      exact ⟨hordered.symm, .inr ⟨rfl, rfl⟩⟩
  | some locale =>
    simp only [hgiven] at hresolver
    split at hresolver
    · cases hresolver
    · split at hresolver
      · cases hresolver
        exact ⟨rfl, .inl rfl⟩
      · cases hresolver

/-- There is a resolver if there are locales, and the given default is one of them. -/
theorem exists_ofLocales_iff {locales : List String} {override key : Option String} :
    (∃ r, (ofLocales locales override key).outcome = .ok r) ↔
      locales ≠ [] ∧ ∀ locale, given? override = some locale → locale ∈ locales := by
  have hmem : ∀ {locale}, locale ∈ Text.sortStrings locales.eraseDups ↔ locale ∈ locales := by
    intro locale
    rw [Text.mem_sortStrings, List.mem_eraseDups]
  have hnil : Text.sortStrings locales.eraseDups = [] ↔ locales = [] := by
    rw [List.eq_nil_iff_forall_not_mem, List.eq_nil_iff_forall_not_mem]
    exact forall_congr' fun locale => not_congr hmem
  rw [ofLocales]
  cases hgiven : given? override with
  | none =>
    cases hordered : Text.sortStrings locales.eraseDups with
    | nil => simp [hnil.1 hordered, Logged.of]
    | cons first rest =>
      have hne : locales ≠ [] := fun h => List.cons_ne_nil first rest (hordered ▸ hnil.2 h)
      simp [hne, Logged.of]
  | some locale =>
    by_cases hordered : Text.sortStrings locales.eraseDups = []
    · obtain rfl := hnil.1 hordered
      simp [Text.sortStrings, Logged.of]
    · have hne : locales ≠ [] := fun h => hordered (hnil.2 h)
      by_cases hdefault : locale ∈ locales
      · simp [hordered, hne, hmem, hdefault, Logged.of]
      · simp [hordered, hmem, hdefault, Logged.fail]

theorem resolve_of_mem {locale : String} (hrequested : requested.string? = some locale)
    (hmem : locale ∈ r.locales) : r.resolve requested = locale := by
  rw [resolve, hrequested, Option.filter_some, if_pos (List.contains_iff_mem.2 hmem)]
  rfl

theorem resolve_of_notMem (hnone : ∀ locale, requested.string? = some locale → locale ∉ r.locales) :
    r.resolve requested = r.defaultLocale := by
  rw [resolve]
  cases hrequested : requested.string? with
  | none => rfl
  | some locale =>
    have hmem : r.locales.contains locale = false :=
      Bool.eq_false_iff.2 fun h => hnone locale hrequested (List.contains_iff_mem.1 h)
    rw [Option.filter_some, hmem]
    rfl

/-- Every request is resolved to one of the locales. -/
theorem resolve_mem (r : LocaleResolver) (requested : Value) :
    r.resolve requested ∈ r.locales := by
  by_cases hsome : ∃ locale, requested.string? = some locale ∧ locale ∈ r.locales
  · obtain ⟨locale, hrequested, hmem⟩ := hsome
    rw [resolve_of_mem hrequested hmem]
    exact hmem
  · rw [resolve_of_notMem fun locale hrequested hmem => hsome ⟨locale, hrequested, hmem⟩]
    exact r.default_mem

end LocaleResolver

namespace CatalogDirectory

/-- The locale in which a request is served. A locale is discovered if it has a file. -/
inductive Serves (d : CatalogDirectory) (override : Option String) (requested : Value) :
    String → Prop
  /-- A discovered locale is served itself. -/
  | itself {locale : String} (hrequested : requested.string? = some locale)
      (hfiles : d.filesIn locale ≠ []) : Serves d override requested locale
  /-- Anything else is served in the default locale that is given. -/
  | given {locale : String} (hother : ∀ l, requested.string? = some l → d.filesIn l = [])
      (hgiven : override = some locale) (hne : locale ≠ "") : Serves d override requested locale
  /-- Without a given one, that is the first discovered locale. -/
  | first {locale : String} (hother : ∀ l, requested.string? = some l → d.filesIn l = [])
      (hnone : ∀ l, override = some l → l = "") (hfiles : d.filesIn locale ≠ [])
      (hleast : ∀ l, d.filesIn l ≠ [] → Text.leString locale l = true) :
      Serves d override requested locale

/-- A resolver for the locales of loaded catalogs has them in their order. -/
theorem locales_of_catalogSet {d : CatalogDirectory} {override key : Option String}
    {r : LocaleResolver}
    (hresolver : (LocaleResolver.ofLocales d.catalogSet.locales override key).outcome = .ok r) :
    r.locales = d.catalogSet.locales := by
  rw [(LocaleResolver.ofLocales_eq_ok hresolver).1,
    eraseDups_of_nodup d.nodup_locales_catalogSet, locales_catalogSet, sortedLocales,
    Text.sortStrings_of_pairwise (Text.sortStrings_pairwise _)]

/-- A resolver for the locales of loaded catalogs resolves a request to the locale that serves
it, which has a catalog. -/
theorem serves_resolve {d : CatalogDirectory} {override key : Option String} {r : LocaleResolver}
    (hresolver : (LocaleResolver.ofLocales d.catalogSet.locales override key).outcome = .ok r)
    (requested : Value) :
    d.Serves override requested (r.resolve requested) ∧
      d.catalogOf (r.resolve requested) ∈ d.catalogSet.catalogs := by
  have hordered : r.locales = sortedLocales d.localeFiles :=
    (locales_of_catalogSet hresolver).trans d.locales_catalogSet
  have hmem : ∀ {locale}, locale ∈ r.locales ↔ d.filesIn locale ≠ [] := by
    intro locale
    rw [hordered, mem_sortedLocales]
  constructor
  · by_cases hsome : ∃ locale, requested.string? = some locale ∧ locale ∈ r.locales
    · obtain ⟨locale, hrequested, hlocale⟩ := hsome
      rw [LocaleResolver.resolve_of_mem hrequested hlocale]
      exact .itself hrequested (hmem.1 hlocale)
    · have hother : ∀ l, requested.string? = some l → d.filesIn l = [] := by
        intro l hrequested
        by_contra hfiles
        exact hsome ⟨l, hrequested, hmem.2 hfiles⟩
      rw [LocaleResolver.resolve_of_notMem fun l hrequested hl => hsome ⟨l, hrequested, hl⟩]
      rcases (LocaleResolver.ofLocales_eq_ok hresolver).2 with hgiven | ⟨hnone, hhead⟩
      · obtain ⟨hoverride, hne⟩ := Option.filter_eq_some_iff.1 hgiven
        exact .given hother hoverride (of_decide_eq_true hne)
      · refine .first hother ?_ (hmem.1 r.default_mem) ?_
        · intro l hl
          rw [LocaleResolver.given?, hl, Option.filter_eq_none_iff] at hnone
          simpa using hnone l rfl
        · intro l hl
          have hsorted := Text.sortStrings_pairwise d.localeFiles.keys
          obtain ⟨rest, hrest⟩ := List.head?_eq_some_iff.1 hhead
          rw [← hmem, hrest] at hl
          rw [← sortedLocales, ← hordered, hrest] at hsorted
          rcases List.mem_cons.1 hl with rfl | hl
          · exact Text.leString_refl _
          · exact (List.pairwise_cons.1 hsorted).1 l hl
  · refine List.mem_map_of_mem ?_
    rw [← hordered]
    exact r.resolve_mem requested

end CatalogDirectory

end SymbolText
