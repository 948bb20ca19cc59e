import SymbolText.Proofs.Loading
import SymbolText.Proofs.Repetitions

/-!
# The catalog of a locale accounts for every entry

The entries of files are written into one catalog, file by file. What comes of it is told by the
entries alone, each with the file that it is from: a key has the text of its last entry and the
place of its first one, and every entry but the first of its key is reported.

* `repeatedAfter`: the items of a list whose key came before.
* `sourced`: the entries of files, each with its file.

Results:
* `events_writeEntries`, `events_writeFiles`: what is reported while entries and files are written.
* `length_repeatedAfter`: an item is the first of its key, or it is repeated.
* `build_accounts`: the texts, keys, sources and reports of a catalog.
-/

namespace SymbolText

/-! ## Repeated keys -/

section Repeated

variable {α κ : Type} [DecidableEq κ] (key : α → κ)

/-- The items whose key is known already or is the key of an earlier item, in order. -/
def repeatedAfter (known : List κ) (items : List α) : List α :=
  (items.zipIdx.filter fun (a, i) =>
    decide (key a ∈ known ++ (items.take i).map key)).map Prod.fst

theorem repeatedAfter_nil (known : List κ) : repeatedAfter key known [] = [] := rfl

/-- The key of the first item is known to the others. -/
theorem repeatedAfter_cons (known : List κ) (a : α) (rest : List α) :
    repeatedAfter key known (a :: rest) =
      (if key a ∈ known then [a] else []) ++ repeatedAfter key (known ++ [key a]) rest := by
  have hrest : (rest.zipIdx 1).filter
      (fun (b, i) => decide (key b ∈ known ++ ((a :: rest).take i).map key)) =
      (rest.zipIdx.filter fun (b, i) =>
        decide (key b ∈ known ++ [key a] ++ (rest.take i).map key)).map
          fun (b, i) => (b, i + 1) := by
    rw [List.zipIdx_succ, List.filter_map]
    congr 2
    funext e
    simp
  unfold repeatedAfter
  rw [List.zipIdx_cons, List.filter_cons, hrest]
  by_cases ha : key a ∈ known
  · simp [ha]
  · simp [ha]

/-- It matters which keys are known, and not in which order. -/
theorem repeatedAfter_congr {known known' : List κ} (hknown : ∀ k, k ∈ known ↔ k ∈ known')
    (items : List α) : repeatedAfter key known items = repeatedAfter key known' items := by
  unfold repeatedAfter
  simp only [List.mem_append, hknown]

theorem repeatedAfter_append (known : List κ) (items more : List α) :
    repeatedAfter key known (items ++ more) =
      repeatedAfter key known items ++ repeatedAfter key (known ++ items.map key) more := by
  induction items generalizing known with
  | nil => simp [repeatedAfter_nil]
  | cons a rest ih =>
    rw [List.cons_append, repeatedAfter_cons, repeatedAfter_cons, ih]
    simp

/-- An item is the first of its key, or its key came before. -/
theorem length_repeatedAfter (known : List κ) (items : List α) :
    (known ++ items.map key).eraseDups.length + (repeatedAfter key known items).length =
      known.eraseDups.length + items.length := by
  induction items generalizing known with
  | nil => simp [repeatedAfter_nil]
  | cons a rest ih =>
    have hrest := ih (known ++ [key a])
    rw [repeatedAfter_cons, List.map_cons, List.append_cons, List.length_append]
    by_cases ha : key a ∈ known
    · have hsame : (known ++ [key a]).eraseDups = known.eraseDups :=
        eraseDups_append_of_subset (List.forall_mem_singleton.2 ha)
      rw [hsame] at hrest
      simp only [if_pos ha, List.length_cons, List.length_nil]
      omega
    · have hnew : (known ++ [key a]).eraseDups.length = known.eraseDups.length + 1 := by
        rw [List.eraseDups_append]
        simp [List.removeAll, ha, List.eraseDups_cons]
      rw [hnew] at hrest
      simp only [if_neg ha, List.length_nil, List.length_cons]
      omega

end Repeated

namespace CatalogDirectory

/-! ## What is reported -/

/-- An entry with the file that it is from. -/
structure Sourced where
  file : Path
  key : String
  text : String

/-- The report that the key of an entry is there already. -/
def Sourced.report (locale : String) (e : Sourced) : Event := .duplicateKey e.key e.file locale

/-- The entries of a file. -/
def sourcedFrom (p : Path) (entries : List (String × String)) : List Sourced :=
  entries.map fun (key, text) => ⟨p, key, text⟩

/-- The entries of files, each with its file, in the order in which they are written. -/
def sourced (files : List (Path × List (String × String))) : List Sourced :=
  files.flatMap fun (p, entries) => sourcedFrom p entries

theorem map_key_sourcedFrom (p : Path) (entries : List (String × String)) :
    (sourcedFrom p entries).map Sourced.key = entries.map Prod.fst :=
  List.map_map

theorem map_key_sourced (files : List (Path × List (String × String))) :
    (sourced files).map Sourced.key = (files.flatMap Prod.snd).map Prod.fst := by
  unfold sourced
  rw [List.map_flatMap, List.map_flatMap]
  exact congrArg (files.flatMap ·) (funext fun file => map_key_sourcedFrom file.1 file.2)

theorem length_sourced (files : List (Path × List (String × String))) :
    (sourced files).length = (files.flatMap Prod.snd).length := by
  have hkeys := congrArg List.length (map_key_sourced files)
  rwa [List.length_map, List.length_map] at hkeys

/-- While the entries of a file are written, those are reported whose key is there already. -/
theorem events_writeEntries (p : Path) (c : Catalog) (entries : List (String × String)) :
    (writeEntries p c entries).2 =
      (repeatedAfter Sourced.key c.messages.keys (sourcedFrom p entries)).map
        (Sourced.report c.locale) := by
  induction entries generalizing c with
  | nil => rfl
  | cons e rest ih =>
    obtain ⟨key, text⟩ := e
    have hknown : ∀ k, k ∈ (c.setMessage key text).messages.keys ↔
        k ∈ c.messages.keys ++ [key] := by
      intro k
      show k ∈ (c.messages.insert key text).keys ↔ _
      rw [Dict.keys_insert]
      split
      · rename_i hmem
        simp only [List.mem_append, List.mem_singleton]
        constructor
        · exact .inl
        · rintro (h | rfl)
          · exact h
          · exact hmem
      · rfl
    have hthere : c.hasMessage key = true ↔ key ∈ c.messages.keys :=
      Dict.contains_iff c.messages key
    have hlater := ih (c.setMessage key text)
    rw [repeatedAfter_congr Sourced.key hknown] at hlater
    have hcons : sourcedFrom p ((key, text) :: rest) =
        ⟨p, key, text⟩ :: sourcedFrom p rest := rfl
    rw [writeEntries, hcons, repeatedAfter_cons, List.map_append]
    show (if c.hasMessage key = true then _ :: (writeEntries p (c.setMessage key text) rest).2
      else (writeEntries p (c.setMessage key text) rest).2) = _
    rw [hlater]
    by_cases hkey : key ∈ c.messages.keys
    · rw [if_pos (hthere.2 hkey), if_pos hkey]
      rfl
    · rw [if_neg (mt hthere.1 hkey), if_neg hkey]
      rfl

/-- While files are written, the entries are reported whose key was written before, in the same file
or in an earlier one. -/
theorem events_writeFiles (c : Catalog) (files : List (Path × List (String × String))) :
    (writeFiles c files).2 =
      (repeatedAfter Sourced.key c.messages.keys (sourced files)).map
        (Sourced.report c.locale) := by
  induction files generalizing c with
  | nil => rfl
  | cons file rest ih =>
    obtain ⟨p, entries⟩ := file
    let opened : Catalog := { c with sources := c.sources ++ [p.render] }
    have hstep : (writeFiles c ((p, entries) :: rest)).2 =
        (writeEntries p opened entries).2 ++
          (writeFiles (writeEntries p opened entries).1 rest).2 := rfl
    have hknown : ∀ k, k ∈ (c.messages.update entries).keys ↔
        k ∈ c.messages.keys ++ (sourcedFrom p entries).map Sourced.key := by
      intro k
      rw [Dict.keys_update, List.mem_eraseDups, map_key_sourcedFrom]
    have hsplit : sourced ((p, entries) :: rest) = sourcedFrom p entries ++ sourced rest := rfl
    rw [hstep, events_writeEntries, ih, writeEntries_eq, hsplit, repeatedAfter_append,
      List.map_append]
    exact congrArg (_ ++ ·) (congrArg _ (repeatedAfter_congr Sourced.key hknown _))

theorem sources_writeFiles (c : Catalog) (files : List (Path × List (String × String))) :
    (writeFiles c files).1.sources = c.sources ++ files.map fun file => file.1.render := by
  induction files generalizing c with
  | nil => exact (List.append_nil c.sources).symm
  | cons file rest ih =>
    obtain ⟨p, entries⟩ := file
    let opened : Catalog := { c with sources := c.sources ++ [p.render] }
    have hstep : (writeFiles c ((p, entries) :: rest)).1 =
        (writeFiles (writeEntries p opened entries).1 rest).1 := rfl
    rw [hstep, ih, writeEntries_eq, List.map_cons]
    exact List.append_assoc _ _ _

/-! ## Accounting -/

/-- What a catalog has from files, and what was reported while it was made. -/
structure Accounts (locale : String) (files : List (Path × List (String × String))) (c : Catalog)
    (events : List Event) : Prop where
  locale_eq : c.locale = locale
  /-- The paths of the files in order. -/
  sources_eq : c.sources = files.map fun file => file.1.render
  /-- The keys are those of the entries. -/
  hasMessage_iff : ∀ key, c.hasMessage key = true ↔ key ∈ (files.flatMap Prod.snd).map Prod.fst
  /-- A key has the text of its last entry. -/
  message?_eq : ∀ key, c.message? key = Dict.lastValue? key (files.flatMap Prod.snd)
  /-- Keys are in the order of their first entries. -/
  keys_eq : c.messages.keys = ((files.flatMap Prod.snd).map Prod.fst).eraseDups
  nodup_keys : c.messages.keys.Nodup
  /-- Each entry whose key an earlier entry has is reported with its own file, in order. -/
  events_eq : events = (repeatedAfter Sourced.key [] (sourced files)).map (Sourced.report locale)
  length_eq : (files.flatMap Prod.snd).length = c.messages.size + events.length

/-- **A catalog accounts for every entry.** The catalog of some files is always made. It has the
text of the last entry of each key, in the order of the first ones, and every other entry is
reported. -/
theorem build_accounts (locale : String) (files : List (Path × List (String × String))) :
    ∃ c, (build locale files).outcome = .ok c ∧
      Accounts locale files c (build locale files).events := by
  obtain ⟨hlocale, hmessages⟩ := writeFiles_eq (.blank locale) files
  have hkeys : (writeFiles (.blank locale) files).1.messages.keys =
      ((files.flatMap Prod.snd).map Prod.fst).eraseDups := by
    rw [hmessages]
    exact Dict.keys_update _ _
  have hevents := events_writeFiles (.blank locale) files
  refine ⟨_, rfl, ?_⟩
  constructor
  case locale_eq => exact hlocale
  case sources_eq => exact sources_writeFiles (.blank locale) files
  case hasMessage_iff =>
    intro key
    rw [Catalog.hasMessage, Dict.contains_iff, hkeys, List.mem_eraseDups]
  case message?_eq => exact fun key => message?_build locale key files
  case keys_eq => exact hkeys
  case nodup_keys => exact (writeFiles (.blank locale) files).1.messages.nodup
  case events_eq => exact hevents
  case length_eq =>
    have hsize : (writeFiles (.blank locale) files).1.messages.size =
        ((files.flatMap Prod.snd).map Prod.fst).eraseDups.length := by
      rw [← hkeys, Dict.keys, List.length_map]
      rfl
    have hcount := length_repeatedAfter Sourced.key [] (sourced files)
    rw [List.nil_append, map_key_sourced, length_sourced, List.eraseDups_nil, List.length_nil,
      Nat.zero_add] at hcount
    show _ = _ + (writeFiles (.blank locale) files).2.length
    rw [hsize, hevents, List.length_map]
    exact hcount.symm

/-- A key that is repeated within a file and in a later one is reported for each repetition. -/
example :
    (build "en" [(⟨["a"]⟩, [("K", "1"), ("L", "2"), ("K", "3")]), (⟨["b"]⟩, [("K", "4")])]).events =
      [.duplicateKey "K" ⟨["a"]⟩ "en", .duplicateKey "K" ⟨["b"]⟩ "en"] := by
  decide

end CatalogDirectory

end SymbolText
