import SymbolText.Catalog.Session
import SymbolText.Proofs.Locales
import SymbolText.Proofs.Repetitions

/-!
# Sets of shared catalogs

Sets refer to catalogs, which other sets may have too; the texts of a catalog are its own. A set has
the catalog that was listed first for each locale, and has it for good, whatever happens to the
texts. The catalogs of a locale that are listed later are merged into the first one, which is the
only catalog of the locale to change; merged into itself it keeps its texts.

* `CatalogStore.listed`: what is listed for a locale.
* `CatalogStore.formed`: a catalog after a set was formed.
* `CatalogStore.Keeps`: the catalogs are there, and of their locales.
* `CatalogGroup.HasFirst`: a set has the first catalog that was listed for each locale.
* `CatalogSession.ChangesOnly`, `Forms`: what a step has changed.

Results:
* `joins_foldl_join`: joining the catalogs one by one, and what this makes of each.
* `get?_group`, `find?_group`: the catalogs after a set was formed, and those that it has.
* `keeps_step`, `exists_group_of_run`: what a step keeps, and what a session has kept of its sets.
* `sets_of_run`: every set has its first catalogs, and each step changes what it names.
-/

namespace SymbolText

/-! ## Dictionaries -/

namespace Dict

variable {α β : Type} [DecidableEq α]

/-- Writing the value that a key has changes nothing. -/
theorem insert_of_get? {d : Dict α β} {k : α} {v : β} (hget : d.get? k = some v) :
    d.insert k v = d := by
  obtain ⟨entries, hnodup⟩ := d
  have hentries : ∀ entries : List (α × β), valueIn? k entries = some v →
      setEntry k v entries = entries := by
    intro entries hvalue
    induction entries with
    | nil => cases hvalue
    | cons e rest ih =>
      obtain ⟨k', v'⟩ := e
      rw [valueIn?] at hvalue
      rw [setEntry]
      split at hvalue
      · rename_i hk
        obtain rfl := Option.some.inj hvalue
        rw [if_pos hk, hk]
      · rename_i hk
        rw [if_neg hk, ih hvalue]
  simp only [insert, hentries entries hget]

theorem update_of_get? {d : Dict α β} {entries : List (α × β)}
    (hget : ∀ e ∈ entries, d.get? e.1 = some e.2) : d.update entries = d := by
  induction entries with
  | nil => rfl
  | cons e rest ih =>
    obtain ⟨he, hrest⟩ := List.forall_mem_cons.1 hget
    have hstep : d.update (e :: rest) = (d.insert e.1 e.2).update rest := rfl
    rw [hstep, insert_of_get? he, ih hrest]

/-- Writing its own entries over a dictionary changes nothing. -/
theorem update_entries (d : Dict α β) : d.update d.entries = d :=
  update_of_get? fun _ he => get?_eq_some_iff.2 he

end Dict

/-- A catalog that is merged into itself keeps its texts. -/
theorem Catalog.messages_merge_self (c : Catalog) : (c.merge c).messages = c.messages :=
  Dict.update_entries c.messages

/-! ## Members of a set -/

namespace CatalogGroup

variable {members : List (String × Nat)} {locale : String} {ref : Nat}

theorem find?_concat (members : List (String × Nat)) (locale locale' : String) (ref : Nat) :
    find? ⟨members ++ [(locale, ref)]⟩ locale' =
      (find? ⟨members⟩ locale').or (if locale = locale' then some ref else none) := by
  rw [find?, List.find?_append, Option.map_or, find?]
  by_cases h : locale = locale' <;> simp [h]

theorem find?_eq_none_iff : find? ⟨members⟩ locale = none ↔ locale ∉ members.map Prod.fst := by
  rw [find?, Option.map_eq_none_iff, List.find?_eq_none]
  simp only [decide_eq_true_eq, List.mem_map, not_exists, not_and]

/-- Among different locales, a set has a catalog for a locale exactly if it is a member. -/
theorem find?_eq_some_iff (hnodup : (members.map Prod.fst).Nodup) :
    find? ⟨members⟩ locale = some ref ↔ (locale, ref) ∈ members := by
  rw [find?, Option.map_eq_some_iff]
  simp only [find?_key_eq_some_iff hnodup]
  constructor
  · rintro ⟨⟨l, r⟩, ⟨hmem, rfl⟩, rfl⟩
    exact hmem
  · exact fun hmem => ⟨(locale, ref), ⟨hmem, rfl⟩, rfl⟩

end CatalogGroup

/-! ## Catalogs by reference -/

namespace CatalogStore

variable {s : CatalogStore} {ref other first : Nat} {refs : List Nat} {locale : String}

theorem get?_add_next (s : CatalogStore) (c : Catalog) : (s.add c).get? s.next = some c :=
  List.getElem?_concat_length

theorem get?_add_of_ne (c : Catalog) (hne : ref ≠ s.next) : (s.add c).get? ref = s.get? ref := by
  rw [next] at hne
  rw [get?, add]
  by_cases hlt : ref < s.catalogs.length
  · exact List.getElem?_append_left hlt
  · have hlength : (s.catalogs ++ [c]).length ≤ ref := by
      rw [List.length_append, List.length_singleton]
      omega
    rw [get?, List.getElem?_eq_none hlength, List.getElem?_eq_none (Nat.not_lt.1 hlt)]

theorem get?_update (s : CatalogStore) (ref other : Nat) (f : Catalog → Catalog) :
    (s.update ref f).get? other = if other = ref then (s.get? other).map f else s.get? other := by
  rw [get?, get?, update, List.getElem?_modify]
  by_cases h : other = ref
  · subst h
    simp
  · rw [if_neg h]
    simp [Ne.symm h]

theorem get?_merge {c : Catalog} (hget : s.get? ref = some c) (first other : Nat) :
    (s.merge first ref).get? other =
      if other = first then (s.get? other).map (·.merge c) else s.get? other := by
  rw [merge, hget]
  exact get?_update s first other _

/-- The locale of the catalog of a reference. -/
def locale? (s : CatalogStore) (ref : Nat) : Option String := (s.get? ref).map (·.locale)

theorem locale?_eq_some_iff : s.locale? ref = some locale ↔
    ∃ c, s.get? ref = some c ∧ c.locale = locale :=
  Option.map_eq_some_iff

/-! ## What is listed for a locale -/

/-- The references to catalogs of a locale, as often as they are listed. -/
def listed (s : CatalogStore) (refs : List Nat) (locale : String) : List Nat :=
  refs.filter fun ref => decide (s.locale? ref = some locale)

theorem mem_listed : ref ∈ s.listed refs locale ↔ ref ∈ refs ∧ s.locale? ref = some locale := by
  rw [listed, List.mem_filter, decide_eq_true_eq]

theorem listed_concat (s : CatalogStore) (refs : List Nat) (ref : Nat) (locale : String) :
    s.listed (refs ++ [ref]) locale =
      s.listed refs locale ++ if s.locale? ref = some locale then [ref] else [] := by
  rw [listed, List.filter_append, listed]
  split <;> simp_all

/-- The first one that is listed stays the first. -/
theorem head?_listed_concat (s : CatalogStore) (refs : List Nat) (ref : Nat) (locale : String) :
    (s.listed (refs ++ [ref]) locale).head? =
      (s.listed refs locale).head?.or (if s.locale? ref = some locale then some ref else none) := by
  rw [listed_concat, List.head?_append]
  split <;> rfl

/-! ## Merging what is listed later -/

/-- The catalog of `first` after that of a reference is merged into it, which may be itself. -/
def absorb (s : CatalogStore) (first : Nat) (c : Catalog) (ref : Nat) : Catalog :=
  if ref = first then c.merge c
  else match s.get? ref with
    | some other => c.merge other
    | none => c

theorem locale_absorb (s : CatalogStore) (first : Nat) (c : Catalog) (ref : Nat) :
    (s.absorb first c ref).locale = c.locale := by
  rw [absorb]
  split
  · rfl
  · cases s.get? ref <;> rfl

theorem locale_foldl_absorb (s : CatalogStore) (first : Nat) (later : List Nat) (c : Catalog) :
    (later.foldl (s.absorb first) c).locale = c.locale := by
  induction later generalizing c with
  | nil => rfl
  | cons ref rest ih => rw [List.foldl_cons, ih, locale_absorb]

/-- The texts of the other catalogs are written over those of the first one, in the order of the
list; the first one itself adds no text. -/
theorem messages_foldl_absorb (s : CatalogStore) (first : Nat) (later : List Nat) (c : Catalog) :
    (later.foldl (s.absorb first) c).messages =
      ((later.filter fun ref => decide (ref ≠ first)).filterMap s.get?).foldl
        (fun messages d => messages.update d.messages.entries) c.messages := by
  induction later generalizing c with
  | nil => rfl
  | cons ref rest ih =>
    rw [List.foldl_cons, ih]
    by_cases hself : ref = first
    · rw [List.filter_cons_of_neg (by simp [hself]), absorb, if_pos hself,
        Catalog.messages_merge_self]
    · rw [List.filter_cons_of_pos (by simp [hself]), List.filterMap_cons, absorb, if_neg hself]
      cases s.get? ref <;> rfl

/-- The catalog of a reference after a set of `refs` was formed: the first one that is listed for
its locale has taken in those that are listed later. -/
def formed (s : CatalogStore) (refs : List Nat) (ref : Nat) (c : Catalog) : Catalog :=
  match s.listed refs c.locale with
  | [] => c
  | first :: later => if ref = first then later.foldl (s.absorb first) c else c

theorem formed_of_nil {c : Catalog} (hlisted : s.listed refs c.locale = []) :
    s.formed refs ref c = c := by
  rw [formed, hlisted]

theorem formed_of_cons {c : Catalog} {later : List Nat}
    (hlisted : s.listed refs c.locale = first :: later) :
    s.formed refs ref c = if ref = first then later.foldl (s.absorb first) c else c := by
  rw [formed, hlisted]

theorem locale_formed (s : CatalogStore) (refs : List Nat) (ref : Nat) (c : Catalog) :
    (s.formed refs ref c).locale = c.locale := by
  cases hlisted : s.listed refs c.locale with
  | nil => rw [formed_of_nil hlisted]
  | cons first later =>
    rw [formed_of_cons hlisted]
    split
    · exact locale_foldl_absorb s _ _ c
    · rfl

/-- Only the first catalog of a locale changes, and only if something is listed after it. -/
theorem formed_eq_self {c : Catalog}
    (hfirst : ∀ later, s.listed refs c.locale = ref :: later → later = []) :
    s.formed refs ref c = c := by
  cases hlisted : s.listed refs c.locale with
  | nil => exact formed_of_nil hlisted
  | cons first later =>
    rw [formed_of_cons hlisted]
    split
    · rename_i heq
      subst heq
      rw [hfirst later hlisted, List.foldl_nil]
    · rfl

/-- One more catalog is merged into the first one that is listed for its locale. -/
theorem formed_concat (s : CatalogStore) (refs : List Nat) (ref other : Nat) (c : Catalog) :
    s.formed (refs ++ [ref]) other c =
      if s.locale? ref = some c.locale ∧ (s.listed refs c.locale).head? = some other then
        s.absorb other (s.formed refs other c) ref
      else s.formed refs other c := by
  have hmore := listed_concat s refs ref c.locale
  cases hlisted : s.listed refs c.locale with
  | nil =>
    have hnone : ¬ (s.locale? ref = some c.locale ∧ ([] : List Nat).head? = some other) := by
      rintro ⟨-, hhead⟩
      cases hhead
    rw [hlisted, List.nil_append] at hmore
    rw [if_neg hnone, formed_of_nil hlisted]
    split at hmore
    · rw [formed_of_cons hmore, List.foldl_nil, ite_self]
    · exact formed_of_nil hmore
  | cons first later =>
    rw [hlisted, List.cons_append] at hmore
    rw [formed_of_cons hmore, formed_of_cons hlisted, List.head?_cons]
    by_cases hother : other = first
    · subst hother
      by_cases hlocale : s.locale? ref = some c.locale
      · rw [if_pos rfl, if_pos rfl, if_pos hlocale, if_pos ⟨hlocale, rfl⟩, List.foldl_concat]
      · rw [if_pos rfl, if_pos rfl, if_neg hlocale, if_neg fun h => hlocale h.1, List.append_nil]
    · rw [if_neg hother, if_neg hother, if_neg fun h => hother (Option.some.inj h.2).symm]

/-! ## Joining a set -/

/-- What happens when one more catalog joins a set. -/
theorem join_cases (s : CatalogStore) (members : List (String × Nat)) (ref : Nat) :
    (s.get? ref = none ∧ join (s, members) ref = (s, members)) ∨
      ∃ c, s.get? ref = some c ∧
        ((CatalogGroup.find? ⟨members⟩ c.locale = none ∧
            join (s, members) ref = (s, members ++ [(c.locale, ref)])) ∨
          ∃ first, CatalogGroup.find? ⟨members⟩ c.locale = some first ∧
            join (s, members) ref = (s.merge first ref, members)) := by
  rw [join]
  cases hget : s.get? ref with
  | none => exact .inl ⟨rfl, rfl⟩
  | some c =>
    refine .inr ⟨c, rfl, ?_⟩
    simp only [CatalogGroup.find?]
    cases members.find? fun m => decide (m.1 = c.locale) with
    | none => exact .inl ⟨rfl, rfl⟩
    | some m => exact .inr ⟨m.2, rfl, rfl⟩

/-- What some catalogs that join a set have made of a store and its members. -/
structure Joins (s : CatalogStore) (refs : List Nat)
    (state : CatalogStore × List (String × Nat)) : Prop where
  get?_eq : ∀ ref, state.1.get? ref = (s.get? ref).map (s.formed refs ref)
  find?_eq : ∀ locale, CatalogGroup.find? ⟨state.2⟩ locale = (s.listed refs locale).head?
  nodup : (state.2.map Prod.fst).Nodup

section Joining

variable {store : CatalogStore} {members : List (String × Nat)} {now : Catalog}

theorem Joins.exists_get? (hjoins : Joins s refs (store, members))
    (hnow : store.get? ref = some now) :
    s.locale? ref = some now.locale ∧ ∃ c, s.get? ref = some c ∧ s.formed refs ref c = now := by
  obtain ⟨c, hc, rfl⟩ := Option.map_eq_some_iff.1 ((hjoins.get?_eq ref).symm.trans hnow)
  exact ⟨locale?_eq_some_iff.2 ⟨c, hc, (locale_formed s refs ref c).symm⟩, c, hc, rfl⟩

/-- A reference without a catalog changes nothing. -/
theorem Joins.concat_none (hjoins : Joins s refs (store, members)) (hnone : store.get? ref = none) :
    Joins s (refs ++ [ref]) (store, members) := by
  have hlocale : s.locale? ref = none := by
    rw [locale?, Option.map_eq_none_iff, ← Option.map_eq_none_iff, ← hjoins.get?_eq ref]
    exact hnone
  refine ⟨fun other => ?_, fun locale => ?_, hjoins.nodup⟩
  · rw [hjoins.get?_eq other]
    exact Option.map_congr fun c _ => by rw [formed_concat, hlocale, if_neg fun h => by cases h.1]
  · rw [hjoins.find?_eq, head?_listed_concat, hlocale, if_neg nofun, Option.or_none]

/-- The first catalog of a locale becomes a member. -/
theorem Joins.concat_new (hjoins : Joins s refs (store, members)) (hnow : store.get? ref = some now)
    (hfind : CatalogGroup.find? ⟨members⟩ now.locale = none) :
    Joins s (refs ++ [ref]) (store, members ++ [(now.locale, ref)]) := by
  obtain ⟨hlocale, -⟩ := hjoins.exists_get? hnow
  refine ⟨fun other => ?_, fun locale => ?_, ?_⟩
  · rw [hjoins.get?_eq other]
    refine Option.map_congr fun d _ => ?_
    rw [formed_concat, if_neg]
    rintro ⟨hsame, hfirst⟩
    rw [hlocale, Option.some.injEq] at hsame
    rw [← hjoins.find?_eq, ← hsame, hfind] at hfirst
    cases hfirst
  · rw [CatalogGroup.find?_concat, hjoins.find?_eq, head?_listed_concat, hlocale]
    simp only [Option.some.injEq]
  · rw [List.map_append, List.nodup_append]
    refine ⟨hjoins.nodup, List.nodup_singleton _, ?_⟩
    rintro a ha b hb rfl
    obtain rfl := List.mem_singleton.1 hb
    exact CatalogGroup.find?_eq_none_iff.1 hfind ha

/-- What the first catalog of a locale takes in is the catalog of the reference as it is then: the
first catalog has changed, and no other one. -/
theorem Joins.absorb_eq (hjoins : Joins s refs (store, members)) (hnow : store.get? ref = some now)
    (hfirst : (s.listed refs now.locale).head? = some first) {d : Catalog}
    (hd : s.get? first = some d) :
    s.absorb first (s.formed refs first d) ref = (s.formed refs first d).merge now := by
  obtain ⟨-, c, hc, rfl⟩ := hjoins.exists_get? hnow
  rw [absorb]
  split
  · rename_i hself
    subst hself
    obtain rfl := Option.some.inj (hc.symm.trans hd)
    rfl
  · rename_i hself
    have hkeeps : s.formed refs ref c = c := by
      refine formed_eq_self fun later hlater => ?_
      rw [locale_formed, hlater] at hfirst
      exact absurd (Option.some.inj hfirst) hself
    rw [hc, hkeeps]

/-- A later catalog of a locale is merged into the member. -/
theorem Joins.concat_merged (hjoins : Joins s refs (store, members))
    (hnow : store.get? ref = some now)
    (hfind : CatalogGroup.find? ⟨members⟩ now.locale = some first) :
    Joins s (refs ++ [ref]) (store.merge first ref, members) := by
  obtain ⟨hlocale, -⟩ := hjoins.exists_get? hnow
  have hfirst : (s.listed refs now.locale).head? = some first :=
    (hjoins.find?_eq now.locale).symm.trans hfind
  refine ⟨fun other => ?_, fun locale => ?_, hjoins.nodup⟩
  · rw [get?_merge hnow, hjoins.get?_eq other, Option.map_map]
    by_cases hother : other = first
    · subst hother
      rw [if_pos rfl]
      refine Option.map_congr fun d hd => ?_
      obtain ⟨d', hd', hsame⟩ := locale?_eq_some_iff.1 (mem_listed.1 (List.mem_of_head? hfirst)).2
      obtain rfl := Option.some.inj (hd'.symm.trans hd)
      rw [formed_concat, hsame, if_pos ⟨hlocale, hfirst⟩, hjoins.absorb_eq hnow hfirst hd]
      rfl
    · rw [if_neg hother]
      refine Option.map_congr fun d _ => ?_
      rw [formed_concat, if_neg]
      rintro ⟨hsame, hhead⟩
      rw [hlocale, Option.some.injEq] at hsame
      rw [← hsame, hfirst] at hhead
      exact hother (Option.some.inj hhead).symm
  · rw [hjoins.find?_eq, head?_listed_concat, hlocale]
    split
    · rename_i hsame
      rw [← Option.some.inj hsame, hfirst, Option.some_or]
    · rw [Option.or_none]

end Joining

/-- One more catalog joins a set. -/
theorem joins_join {state : CatalogStore × List (String × Nat)} (hjoins : Joins s refs state)
    (ref : Nat) : Joins s (refs ++ [ref]) (join state ref) := by
  obtain ⟨store, members⟩ := state
  rcases join_cases store members ref with
    ⟨hnone, hjoin⟩ | ⟨now, hnow, ⟨hfind, hjoin⟩ | ⟨first, hfind, hjoin⟩⟩
  · rw [hjoin]
    exact hjoins.concat_none hnone
  · rw [hjoin]
    exact hjoins.concat_new hnow hfind
  · rw [hjoin]
    exact hjoins.concat_merged hnow hfind

theorem joins_foldl_join (s : CatalogStore) (refs : List Nat) :
    Joins s refs (refs.foldl join (s, [])) := by
  induction refs using List.reverseRecOn with
  | nil =>
    refine ⟨fun ref => ?_, fun locale => rfl, List.nodup_nil⟩
    show s.get? ref = _
    cases s.get? ref <;> rfl
  | append_singleton refs ref ih =>
    rw [List.foldl_concat]
    exact joins_join ih ref

/-! ## Forming a set -/

/-- The catalogs after a set was formed. -/
theorem get?_group (s : CatalogStore) (refs : List Nat) (ref : Nat) :
    (s.group refs).1.get? ref = (s.get? ref).map (s.formed refs ref) :=
  (joins_foldl_join s refs).get?_eq ref

theorem members_group_perm (s : CatalogStore) (refs : List Nat) :
    (s.group refs).2.members.Perm (refs.foldl join (s, [])).2 :=
  List.mergeSort_perm _ _

theorem nodup_locales_group (s : CatalogStore) (refs : List Nat) :
    (s.group refs).2.locales.Nodup :=
  ((members_group_perm s refs).map Prod.fst).nodup_iff.2 (joins_foldl_join s refs).nodup

/-- The locales of a set are in strict order. -/
theorem increasing_group (s : CatalogStore) (refs : List Nat) :
    (s.group refs).2.locales.Pairwise Text.BeforeString := by
  refine Text.increasing_of_nodup (nodup_locales_group s refs) ?_
  rw [CatalogGroup.locales, List.pairwise_map]
  exact List.pairwise_mergeSort (fun a b c => Text.leString_trans a.1 b.1 c.1)
    (fun a b => Text.leString_total a.1 b.1) _

/-- A set has the catalog that was listed first for each locale. -/
theorem find?_group (s : CatalogStore) (refs : List Nat) (locale : String) :
    (s.group refs).2.find? locale = (s.listed refs locale).head? := by
  have hjoins := joins_foldl_join s refs
  rw [← hjoins.find?_eq locale]
  ext ref
  rw [CatalogGroup.find?_eq_some_iff hjoins.nodup, ← (members_group_perm s refs).mem_iff]
  exact CatalogGroup.find?_eq_some_iff (nodup_locales_group s refs)

theorem mem_locales_group (s : CatalogStore) (refs : List Nat) (locale : String) :
    locale ∈ (s.group refs).2.locales ↔ ∃ ref ∈ refs, s.locale? ref = some locale := by
  rw [← not_iff_not, CatalogGroup.locales, ← CatalogGroup.find?_eq_none_iff]
  show (s.group refs).2.find? locale = none ↔ _
  rw [find?_group, List.head?_eq_none_iff, List.eq_nil_iff_forall_not_mem]
  simp only [mem_listed, not_exists]

/-- Every catalog is still there, and of its locale. -/
def Keeps (s s' : CatalogStore) : Prop :=
  ∀ ref locale, s.locale? ref = some locale → s'.locale? ref = some locale

theorem Keeps.refl (s : CatalogStore) : s.Keeps s := fun _ _ h => h

theorem Keeps.trans {s s' s'' : CatalogStore} (h : s.Keeps s') (h' : s'.Keeps s'') : s.Keeps s'' :=
  fun ref locale hlocale => h' ref locale (h ref locale hlocale)

theorem keeps_of_get?_eq {s' : CatalogStore} {f : Nat → Catalog → Catalog}
    (hlocale : ∀ ref c, (f ref c).locale = c.locale)
    (hget : ∀ ref, s'.get? ref = (s.get? ref).map (f ref)) : s.Keeps s' := by
  intro ref locale h
  obtain ⟨c, hc, rfl⟩ := locale?_eq_some_iff.1 h
  exact locale?_eq_some_iff.2 ⟨f ref c, by rw [hget, hc]; rfl, hlocale ref c⟩

theorem keeps_add (s : CatalogStore) (c : Catalog) : s.Keeps (s.add c) := by
  intro ref locale h
  have hne : ref ≠ s.next := by
    rintro rfl
    rw [locale?, get?, next, List.getElem?_length] at h
    cases h
  rwa [locale?, get?_add_of_ne c hne]

theorem keeps_update (s : CatalogStore) (ref : Nat) {f : Catalog → Catalog}
    (hlocale : ∀ c, (f c).locale = c.locale) : s.Keeps (s.update ref f) := by
  refine keeps_of_get?_eq (f := fun other c => if other = ref then f c else c) ?_ fun other => ?_
  · intro other c
    split
    · exact hlocale c
    · rfl
  · rw [get?_update]
    split
    · rfl
    · exact Option.map_id'.symm

theorem keeps_merge (s : CatalogStore) (ref other : Nat) : s.Keeps (s.merge ref other) := by
  rw [merge]
  cases s.get? other with
  | none => exact Keeps.refl s
  | some c => exact keeps_update s ref fun _ => rfl

theorem keeps_group (s : CatalogStore) (refs : List Nat) : s.Keeps (s.group refs).1 :=
  keeps_of_get?_eq (locale_formed s refs) (get?_group s refs)

end CatalogStore

/-! ## Sets -/

/-- A set has, in the order of the locales, the catalog that was listed first for each: `before` is
the store when `refs` were listed, and `now` the present one. -/
structure CatalogGroup.HasFirst (g : CatalogGroup) (before : CatalogStore) (refs : List Nat)
    (now : CatalogStore) : Prop where
  increasing : g.locales.Pairwise Text.BeforeString
  ordinals_iff : ∀ locale i, g.ordinals.lookup locale = some i ↔ g.locales[i]? = some locale
  mem_locales_iff : ∀ locale, locale ∈ g.locales ↔ ∃ ref ∈ refs, before.locale? ref = some locale
  find?_eq : ∀ locale, g.find? locale = (before.listed refs locale).head?
  locale_eq : ∀ locale ref, g.find? locale = some ref →
    ∃ c, now.get? ref = some c ∧ c.locale = locale

theorem CatalogGroup.HasFirst.keep {g : CatalogGroup} {before now later : CatalogStore}
    {refs : List Nat} (h : g.HasFirst before refs now) (hkeeps : now.Keeps later) :
    g.HasFirst before refs later where
  __ := h
  locale_eq locale ref hfind :=
    CatalogStore.locale?_eq_some_iff.1
      (hkeeps ref locale (CatalogStore.locale?_eq_some_iff.2 (h.locale_eq locale ref hfind)))

theorem CatalogStore.hasFirst_group (s : CatalogStore) (refs : List Nat) :
    (s.group refs).2.HasFirst s refs (s.group refs).1 where
  increasing := increasing_group s refs
  ordinals_iff locale i := by
    rw [CatalogGroup.ordinals, lookup_zipIdx,
      ← idxOf?_eq_some_iff_of_nodup (nodup_locales_group s refs)]
    simp
  mem_locales_iff := mem_locales_group s refs
  find?_eq := find?_group s refs
  locale_eq locale ref hfind := by
    rw [find?_group] at hfind
    have hlocale := (mem_listed.1 (List.mem_of_head? hfind)).2
    exact locale?_eq_some_iff.1 (keeps_group s refs ref locale hlocale)

/-! ## Steps and sessions -/

namespace CatalogSession

variable {s s' : CatalogSession}

/-- The catalogs of all references but one are as before, and so are the sets. -/
structure ChangesOnly (s s' : CatalogSession) (target : Nat) : Prop where
  get?_eq : ∀ ref, ref ≠ target → s'.store.get? ref = s.store.get? ref
  groups_eq : s'.groups = s.groups

/-- One set more was formed. Of the catalogs, only the first one that was listed for a locale may
have changed, and only if another one was listed after it: the texts of the others are written over
its own, in the order of the list. -/
structure Forms (s s' : CatalogSession) (refs : List Nat) : Prop where
  groups_eq : ∃ g, s'.groups = s.groups ++ [g]
  first_eq : ∀ locale first later, s.store.listed refs locale = first :: later →
    ∃ c c', s.store.get? first = some c ∧ s'.store.get? first = some c' ∧ c'.locale = c.locale ∧
      c'.messages = ((later.filter fun ref => decide (ref ≠ first)).filterMap s.store.get?).foldl
        (fun messages d => messages.update d.messages.entries) c.messages
  get?_eq : ∀ ref, (∀ locale later, s.store.listed refs locale = ref :: later → later = []) →
    s'.store.get? ref = s.store.get? ref

theorem changesOnly_update (s : CatalogSession) (ref : Nat) (f : Catalog → Catalog) :
    s.ChangesOnly { s with store := s.store.update ref f } ref where
  get?_eq other hne := by rw [CatalogStore.get?_update, if_neg hne]
  groups_eq := rfl

theorem changesOnly_merge (s : CatalogSession) (ref other : Nat) :
    s.ChangesOnly (s.step (.merge ref other)) ref := by
  rw [step, CatalogStore.merge]
  cases s.store.get? other with
  | none => exact ⟨fun _ _ => rfl, rfl⟩
  | some c => exact changesOnly_update s ref _

theorem forms_group (s : CatalogSession) (refs : List Nat) :
    s.Forms (s.step (.group refs)) refs where
  groups_eq := ⟨_, rfl⟩
  first_eq locale first later hlisted := by
    have hmem : first ∈ s.store.listed refs locale := hlisted ▸ List.mem_cons_self
    obtain ⟨c, hc, rfl⟩ := CatalogStore.locale?_eq_some_iff.1 (CatalogStore.mem_listed.1 hmem).2
    refine ⟨c, s.store.formed refs first c, hc, ?_, CatalogStore.locale_formed _ _ _ _, ?_⟩
    · exact (CatalogStore.get?_group s.store refs first).trans (by rw [hc]; rfl)
    · rw [CatalogStore.formed_of_cons hlisted, if_pos rfl, CatalogStore.messages_foldl_absorb]
  get?_eq ref hfirst := by
    refine (CatalogStore.get?_group s.store refs ref).trans ?_
    cases s.store.get? ref with
    | none => rfl
    | some c => rw [Option.map_some, CatalogStore.formed_eq_self (hfirst c.locale)]

/-- Every step keeps the catalogs and the sets. -/
theorem keeps_step (s : CatalogSession) (step : CatalogStep) :
    s.store.Keeps (s.step step).store ∧ s.groups <+: (s.step step).groups := by
  cases step with
  | add c => exact ⟨CatalogStore.keeps_add s.store c, List.prefix_rfl⟩
  | setMessage ref key text =>
    exact ⟨CatalogStore.keeps_update s.store ref fun _ => rfl, List.prefix_rfl⟩
  | merge ref other => exact ⟨CatalogStore.keeps_merge s.store ref other, List.prefix_rfl⟩
  | group refs => exact ⟨CatalogStore.keeps_group s.store refs, List.prefix_append _ _⟩

theorem run_concat (steps : List CatalogStep) (step : CatalogStep) :
    run (steps ++ [step]) = (run steps).step step :=
  List.foldl_concat ..

/-- A set of a session was formed by one of its steps, and has its catalogs still. -/
theorem exists_group_of_run {steps : List CatalogStep} {i : Nat} {g : CatalogGroup}
    (hg : (run steps).groups[i]? = some g) :
    ∃ before refs after, steps = before ++ .group refs :: after ∧ (run before).groups.length = i ∧
      g.HasFirst (run before).store refs (run steps).store := by
  induction steps using List.reverseRecOn with
  | nil => cases hg
  | append_singleton steps step ih =>
    have hold : (run steps).groups[i]? = some g → ∃ before refs after,
        steps ++ [step] = before ++ .group refs :: after ∧ (run before).groups.length = i ∧
          g.HasFirst (run before).store refs (run (steps ++ [step])).store := by
      intro hbefore
      obtain ⟨before, refs, after, rfl, hi, hfirst⟩ := ih hbefore
      refine ⟨before, refs, after ++ [step], by simp, hi, ?_⟩
      rw [run_concat]
      exact hfirst.keep (keeps_step _ step).1
    rw [run_concat] at hg
    cases step with
    | add c => exact hold hg
    | setMessage ref key text => exact hold hg
    | merge ref other => exact hold hg
    | group refs =>
      by_cases hi : i < (run steps).groups.length
      · refine hold ?_
        rw [← hg]
        exact (List.getElem?_append_left hi).symm
      · have hlast : i = (run steps).groups.length := by
          have hlt := (List.getElem?_eq_some_iff.1 hg).1
          simp only [step, List.length_append, List.length_singleton] at hlt
          omega
        subst hlast
        obtain rfl := Option.some.inj (List.getElem?_concat_length.symm.trans hg)
        refine ⟨steps, refs, [], rfl, rfl, ?_⟩
        rw [run_concat]
        exact CatalogStore.hasFirst_group _ refs

/-- **Sets of shared catalogs are stable, and a step changes what it names.** After any steps, every
set that was formed has its locales in strict order, and for each of them the catalog that was
listed first, which is still of this locale. A new catalog, a text that is set and a merge change no
catalog but their own; forming a set changes the first catalogs of the locales that are listed
again, whose texts are those that the list gives them. -/
theorem sets_of_run (steps : List CatalogStep) :
    (∀ i g, (run steps).groups[i]? = some g → ∃ before refs after,
      steps = before ++ .group refs :: after ∧ (run before).groups.length = i ∧
        g.HasFirst (run before).store refs (run steps).store) ∧
    ∀ s : CatalogSession,
      (∀ c, (s.step (.add c)).store.get? s.store.next = some c ∧
        s.ChangesOnly (s.step (.add c)) s.store.next) ∧
      (∀ ref key text, (s.step (.setMessage ref key text)).store.get? ref =
          (s.store.get? ref).map (·.setMessage key text) ∧
        s.ChangesOnly (s.step (.setMessage ref key text)) ref) ∧
      (∀ ref other d, s.store.get? other = some d →
        (s.step (.merge ref other)).store.get? ref = (s.store.get? ref).map (·.merge d) ∧
        s.ChangesOnly (s.step (.merge ref other)) ref) ∧
      ∀ refs, s.Forms (s.step (.group refs)) refs := by
  refine ⟨fun i g => exists_group_of_run, fun s => ⟨fun c => ⟨?_, ?_⟩, fun ref key text => ⟨?_, ?_⟩,
    fun ref other d hother => ⟨?_, ?_⟩, forms_group s⟩⟩
  · exact CatalogStore.get?_add_next s.store c
  · exact ⟨fun ref hne => CatalogStore.get?_add_of_ne c hne, rfl⟩
  · exact (CatalogStore.get?_update s.store ref ref _).trans (if_pos rfl)
  · exact changesOnly_update s ref _
  · exact (CatalogStore.get?_merge hother ref ref).trans (if_pos rfl)
  · exact changesOnly_merge s ref other

/-- A session in which a catalog is listed again after another one of its locale. -/
def relisting : List CatalogStep :=
  [.add (.ofMessages "en" [("A", "a")] none), .add (.ofMessages "en" [("A", "b"), ("B", "b")] none),
    .group [0, 1, 0], .setMessage 0 "A" "c"]

/-- The first catalog takes in the texts of the second one, and is that of the set for good. -/
theorem sets_of_run_relisting :
    (∃ g, (run relisting).groups[0]? = some g ∧ g.find? "en" = some 0 ∧
      ∃ c, (run relisting).store.get? 0 = some c ∧ c.locale = "en") ∧
    ∃ c, ((run (relisting.take 2)).step (.group [0, 1, 0])).store.get? 0 = some c ∧
      c.messages.entries = [("A", "b"), ("B", "b")] := by
  obtain ⟨hsets, hsteps⟩ := sets_of_run relisting
  constructor
  · obtain ⟨g, hg⟩ : ∃ g, (run relisting).groups[0]? = some g := ⟨_, rfl⟩
    obtain ⟨before, refs, after, hsplit, -, hfirst⟩ := hsets 0 g hg
    have hsame : before = relisting.take 2 ∧ refs = [0, 1, 0] := by
      rcases before with _ | ⟨_, _ | ⟨_, _ | ⟨_, _ | ⟨_, rest⟩⟩⟩⟩ <;> simp_all [relisting]
    obtain ⟨rfl, rfl⟩ := hsame
    have hfind : g.find? "en" = some 0 := (hfirst.find?_eq "en").trans (by decide)
    exact ⟨g, hg, hfind, hfirst.locale_eq "en" 0 hfind⟩
  · obtain ⟨-, -, -, hforms⟩ := hsteps (run (relisting.take 2))
    obtain ⟨c, c', hc, hc', -, hmessages⟩ := (hforms [0, 1, 0]).first_eq "en" 0 [1, 0] (by decide)
    refine ⟨c', hc', ?_⟩
    obtain rfl := Option.some.inj hc
    rw [hmessages]
    decide

end CatalogSession

end SymbolText
