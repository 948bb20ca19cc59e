import SymbolText.Proofs.Repetitions
import SymbolText.Report

/-!
# How missing names are recorded

A report goes over the given sets and, for each, over the catalogs. What a set lacks in a locale
takes the place of what an earlier set of the same type lacked there.

* `perLocale`: items that the catalogs of some locales have.
* `lacked`: the names that a set lacks, for each locale where it does.
* `lastLacking?`: the last of the given sets of a type that lacks a name in a catalog.

Results:
* `record_eq`: what a set lacks is added to what is recorded for its type.
* `keys_missingOf`: the types, in the order of the sets that lack a name.
* `bind_get?_missingOf`: what is recorded for a type and a locale.
-/

namespace SymbolText

/-! ## Items for each locale -/

namespace CatalogSet

variable {α : Type} {f : Catalog → List α} {catalogs : CatalogSet} {c : Catalog}

/-- The locales whose catalogs have some items, with the items. -/
def perLocale (f : Catalog → List α) (catalogs : CatalogSet) : List (String × List α) :=
  catalogs.catalogs.filterMap fun c =>
    match f c with
    | [] => none
    | items => some (c.locale, items)

theorem mem_perLocale {locale : String} {items : List α} :
    (locale, items) ∈ perLocale f catalogs ↔
      ∃ c ∈ catalogs.catalogs, c.locale = locale ∧ f c = items ∧ items ≠ [] := by
  rw [perLocale, List.mem_filterMap]
  refine exists_congr fun c => and_congr_right fun _ => ?_
  cases f c <;> simp +contextual [eq_comm]

theorem perLocale_cons (f : Catalog → List α) (c : Catalog) (rest : List Catalog) :
    perLocale f ⟨c :: rest⟩ =
      if f c = [] then perLocale f ⟨rest⟩ else (c.locale, f c) :: perLocale f ⟨rest⟩ := by
  rw [perLocale, List.filterMap_cons]
  cases f c <;> rfl

/-- They are in the order of the catalogs. -/
theorem map_fst_perLocale (f : Catalog → List α) (catalogs : CatalogSet) :
    ((perLocale f catalogs).map Prod.fst).Sublist catalogs.locales := by
  obtain ⟨catalogs⟩ := catalogs
  induction catalogs with
  | nil => exact List.Sublist.slnil
  | cons c rest ih =>
    rw [perLocale_cons]
    split
    · exact ih.cons _
    · exact ih.cons_cons _

/-- The items of a catalog are those of its locale. -/
theorem lastValue?_perLocale (hnodup : catalogs.locales.Nodup) (hc : c ∈ catalogs.catalogs) :
    Dict.lastValue? c.locale (perLocale f catalogs) = if f c = [] then none else some (f c) := by
  have hunique : ∀ items, (c.locale, items) ∈ perLocale f catalogs → f c = items ∧ items ≠ [] := by
    intro items hitems
    obtain ⟨c', hc', hlocale, hf, hne⟩ := mem_perLocale.1 hitems
    obtain rfl := List.inj_on_of_nodup_map hnodup hc' hc hlocale
    exact ⟨hf, hne⟩
  split
  · rename_i hnil
    rw [Option.eq_none_iff_forall_not_mem]
    intro items hitems
    obtain ⟨hf, hne⟩ := hunique items (Dict.mem_of_lastValue? hitems)
    exact hne (hf.symm.trans hnil)
  · rename_i hne
    have hmem : (c.locale, f c) ∈ perLocale f catalogs := mem_perLocale.2 ⟨c, hc, rfl, rfl, hne⟩
    obtain ⟨items, hitems⟩ := Dict.exists_lastValue? (List.mem_map_of_mem (f := Prod.fst) hmem)
    rw [hitems, (hunique items (Dict.mem_of_lastValue? hitems)).1]

end CatalogSet

namespace Report

variable {sets : List SymbolSet} {set : SymbolSet} {catalogs : CatalogSet} {c : Catalog}

/-! ## Recording -/

/-- The names that a set lacks, for each locale where it does. -/
def lacked (set : SymbolSet) (catalogs : CatalogSet) : List (String × List Text) :=
  catalogs.perLocale (missingNames set)

/-- The record of what a set lacks. -/
def record (catalogs : CatalogSet) (missing : Dict String (Dict String (List Text)))
    (set : SymbolSet) : Dict String (Dict String (List Text)) :=
  catalogs.catalogs.foldl (recordMissing set) missing

/-- What a set lacks is added to what is recorded for its type. -/
theorem record_eq (catalogs : CatalogSet) (missing : Dict String (Dict String (List Text)))
    (set : SymbolSet) :
    record catalogs missing set =
      if lacked set catalogs = [] then missing
      else missing.insert set.typeName
        (((missing.get? set.typeName).getD .empty).update (lacked set catalogs)) := by
  obtain ⟨catalogs⟩ := catalogs
  induction catalogs generalizing missing with
  | nil => rfl
  | cons c rest ih =>
    have hstep : record ⟨c :: rest⟩ missing set =
        record ⟨rest⟩ (recordMissing set missing c) set := rfl
    rw [hstep, ih, lacked, lacked, CatalogSet.perLocale_cons, recordMissing]
    cases hnames : missingNames set c with
    | nil => rfl
    | cons first more =>
      rw [if_neg (List.cons_ne_nil first more), if_neg (List.cons_ne_nil _ _)]
      split
      · rename_i hnil
        rw [hnil]
        rfl
      · rw [Dict.insert_insert, Dict.get?_insert, if_pos rfl]
        rfl

/-! ## What is recorded -/

theorem missingOf_append (sets : List SymbolSet) (set : SymbolSet) (catalogs : CatalogSet) :
    missingOf (sets ++ [set]) catalogs = record catalogs (missingOf sets catalogs) set :=
  List.foldl_concat ..

theorem get?_record (missing : Dict String (Dict String (List Text))) (typeName : String) :
    (record catalogs missing set).get? typeName =
      if set.typeName = typeName ∧ lacked set catalogs ≠ [] then
        some (((missing.get? typeName).getD .empty).update (lacked set catalogs))
      else missing.get? typeName := by
  rw [record_eq]
  by_cases hnil : lacked set catalogs = []
  · rw [if_pos hnil, if_neg (fun h => h.2 hnil)]
  · rw [if_neg hnil, Dict.get?_insert]
    by_cases htype : set.typeName = typeName
    · subst htype
      rw [if_pos rfl, if_pos ⟨rfl, hnil⟩]
    · rw [if_neg htype, if_neg fun h => htype h.1]

/-- The types with records, in the order of the first sets that lack a name. -/
theorem keys_missingOf (sets : List SymbolSet) (catalogs : CatalogSet) :
    (missingOf sets catalogs).keys =
      ((sets.filter fun set => decide (lacked set catalogs ≠ [])).map (·.typeName)).eraseDups := by
  induction sets using List.reverseRecOn with
  | nil => rfl
  | append_singleton sets set ih =>
    rw [missingOf_append, record_eq, List.filter_append, List.map_append]
    by_cases hnil : lacked set catalogs = []
    · rw [if_pos hnil, ih, List.filter_cons_of_neg (by simp [hnil]), List.filter_nil, List.map_nil,
        List.append_nil]
    · have hkeys := Dict.keys_update (missingOf sets catalogs) [(set.typeName,
        ((((missingOf sets catalogs).get? set.typeName).getD .empty).update (lacked set catalogs)))]
      rw [ih, eraseDups_eraseDups_append] at hkeys
      rw [if_neg hnil, List.filter_cons_of_pos (by simp [hnil])]
      exact hkeys

/-- The last of the given sets of a type that lacks a name in a catalog. -/
def lastLacking? (sets : List SymbolSet) (c : Catalog) (typeName : String) : Option SymbolSet :=
  (sets.filter fun set => decide (set.typeName = typeName ∧ missingNames set c ≠ [])).getLast?

theorem lastLacking?_append (sets : List SymbolSet) (set : SymbolSet) (c : Catalog)
    (typeName : String) :
    lastLacking? (sets ++ [set]) c typeName =
      if set.typeName = typeName ∧ missingNames set c ≠ [] then some set
      else lastLacking? sets c typeName := by
  rw [lastLacking?, List.filter_append, List.getLast?_append]
  split
  · rename_i hlacks
    rw [List.filter_cons_of_pos (by simpa using hlacks), List.filter_nil]
    rfl
  · rename_i hlacks
    rw [List.filter_cons_of_neg (by simpa using hlacks), List.filter_nil]
    rfl

theorem exists_lastLacking? (hset : set ∈ sets) (hne : missingNames set c ≠ []) :
    ∃ last, lastLacking? sets c set.typeName = some last := by
  have hmem : set ∈ sets.filter fun s =>
      decide (s.typeName = set.typeName ∧ missingNames s c ≠ []) :=
    List.mem_filter.2 ⟨hset, decide_eq_true ⟨rfl, hne⟩⟩
  exact ⟨_, List.getLast?_eq_some_getLast (List.ne_nil_of_mem hmem)⟩

/-- What a set lacks in a locale takes the place of what was recorded there for its type. -/
theorem bind_get?_record (hnodup : catalogs.locales.Nodup) (hc : c ∈ catalogs.catalogs)
    (missing : Dict String (Dict String (List Text))) (set : SymbolSet) (typeName : String) :
    ((record catalogs missing set).get? typeName).bind (fun locales => locales.get? c.locale) =
      if set.typeName = typeName ∧ missingNames set c ≠ [] then some (missingNames set c)
      else (missing.get? typeName).bind fun locales => locales.get? c.locale := by
  have hlast : Dict.lastValue? c.locale (lacked set catalogs) =
      if missingNames set c = [] then none else some (missingNames set c) :=
    CatalogSet.lastValue?_perLocale hnodup hc
  rw [get?_record]
  by_cases hlacks : set.typeName = typeName ∧ lacked set catalogs ≠ []
  · rw [if_pos hlacks, Option.bind_some, Dict.get?_update, hlast]
    by_cases hnil : missingNames set c = []
    · -- the set lacks names in other locales only
      rw [if_pos hnil, if_neg fun h => h.2 hnil]
      cases missing.get? typeName <;> rfl
    · rw [if_neg hnil, if_pos ⟨hlacks.1, hnil⟩]
      rfl
  · have hother : ¬ (set.typeName = typeName ∧ missingNames set c ≠ []) := by
      rintro ⟨htype, hne⟩
      refine hlacks ⟨htype, fun hnil => ?_⟩
      rw [hnil, if_neg hne] at hlast
      cases hlast
    rw [if_neg hlacks, if_neg hother]

/-- What the last set of a type lacks is recorded. -/
theorem bind_get?_missingOf (hnodup : catalogs.locales.Nodup) (hc : c ∈ catalogs.catalogs)
    (sets : List SymbolSet) (typeName : String) :
    ((missingOf sets catalogs).get? typeName).bind (fun locales => locales.get? c.locale) =
      (lastLacking? sets c typeName).map (missingNames · c) := by
  induction sets using List.reverseRecOn with
  | nil => rfl
  | append_singleton sets set ih =>
    rw [missingOf_append, bind_get?_record hnodup hc, lastLacking?_append, ih]
    split <;> rfl

/-- Only the locales of catalogs have records. -/
theorem mem_locales_of_get? {typeName : String} {locales : Dict String (List Text)}
    (hlocales : (missingOf sets catalogs).get? typeName = some locales) {locale : String}
    (hlocale : locale ∈ locales.keys) : locale ∈ catalogs.locales := by
  induction sets using List.reverseRecOn generalizing locales with
  | nil => cases hlocales
  | append_singleton sets set ih =>
    rw [missingOf_append, get?_record] at hlocales
    split at hlocales
    · obtain rfl := Option.some.inj hlocales
      rw [Dict.keys_update, List.mem_eraseDups, List.mem_append] at hlocale
      rcases hlocale with hbefore | hnew
      · cases hget : (missingOf sets catalogs).get? typeName with
        | none =>
          rw [hget] at hbefore
          cases hbefore
        | some before =>
          rw [hget] at hbefore
          exact ih hget hbefore
      · exact (CatalogSet.map_fst_perLocale _ catalogs).subset hnew
    · exact ih hlocales hlocale

end Report

end SymbolText
