import SymbolText.Proofs.Workers

/-!
# Discovery divides the files

Each file in the root, and each file at any depth beneath a directory of the root, is listed for one
locale or reported, once. Which of the two is told by its name, and for which locale by the entry of
the root that it is or lies beneath.

* `HasExtension`: the names that end with a dot and the extension, with something in front.
* `CatalogDirectory.Divides`: what is listed for each locale, and what is reported.

Results:
* `stem?_eq_some_iff`: the stem of a name is what stands in front of its ending.
* `mem_filesIn_iff`, `mem_ignored_iff`: where a file is listed, and when it is reported.
* `ignored_increasing`: files are reported in the order of paths.
* `discover_divides`: each file is listed or reported, once.
-/

namespace SymbolText

namespace CatalogDirectory

open CatalogRoot

/-! ## Names -/

/-- A name that ends with a dot and the extension, and is longer than that. -/
def HasExtension (extension name : String) : Prop :=
  ∃ stem : String, stem ≠ "" ∧ name = stem ++ "." ++ extension

/-- The stem of a name is what stands in front of the dot and the extension. -/
theorem stem?_eq_some_iff {extension name stem : String} :
    stem? extension name = some stem ↔ stem ≠ "" ∧ name = stem ++ "." ++ extension := by
  have hchars : name = stem ++ "." ++ extension ↔
      name.toList = stem.toList ++ '.' :: extension.toList := by
    rw [← String.toList_inj]
    simp
  have hempty : stem ≠ "" ↔ stem.toList ≠ [] := by
    rw [ne_eq, ← String.toList_inj, String.toList_empty]
  rw [hchars, hempty]
  unfold stem?
  dsimp only
  constructor
  · intro h
    split at h
    · rename_i hending
      obtain ⟨hlength, hsuffix⟩ := hending
      obtain ⟨front, hfront⟩ := List.isSuffixOf_iff_suffix.1 hsuffix
      obtain rfl := Option.some.inj h
      have hlengths := congrArg List.length hfront
      rw [List.length_append] at hlengths
      have htake : name.toList.take (name.toList.length - ('.' :: extension.toList).length) =
          front := by
        rw [← hfront]
        exact List.take_left' (by rw [List.length_append]; omega)
      rw [htake, String.toList_ofList]
      refine ⟨?_, hfront.symm⟩
      rintro rfl
      rw [List.length_nil] at hlengths
      omega
    · cases h
  · rintro ⟨hne, hname⟩
    have hpos := List.length_pos_of_ne_nil hne
    rw [hname, if_pos]
    · rw [List.length_append, Nat.add_sub_cancel, List.take_left, String.ofList_toList]
    · refine ⟨?_, List.isSuffixOf_iff_suffix.2 (List.suffix_append _ _)⟩
      rw [List.length_append]
      omega

/-- A name that is nothing but the ending has no stem, and neither has one without a dot. -/
example : stem? "toml" ".toml" = none ∧ stem? "toml" "toml" = none ∧
    stem? "toml" "en.toml" = some "en" ∧ stem? "" "en." = some "en" := by
  decide

theorem isSome_stem?_iff {extension name : String} :
    (stem? extension name).isSome = true ↔ HasExtension extension name := by
  rw [Option.isSome_iff_exists]
  exact exists_congr fun stem => stem?_eq_some_iff

/-! ## What discovery goes through -/

/-- The name at the end of what leads from the root: the steps beneath an entry, or its name. -/
def lastName (name : String) (below : List String) : String := (name :: below).getLast nofun

variable {d : CatalogDirectory} {name locale : String} {below : List String} {n : Node}

theorem isCatalog_iff (name : String) (hbelow : below ≠ []) :
    isCatalog d.extension ⟨below⟩ = true ↔ HasExtension d.extension (lastName name below) := by
  have hlast : below.getLast? = some (lastName name below) := by
    rw [lastName, List.getLast_cons hbelow, List.getLast?_eq_some_getLast]
  unfold isCatalog
  rw [hlast]
  exact isSome_stem?_iff

theorem isCatalog_pathOf (hbelow : below ≠ []) :
    isCatalog d.extension (d.pathOf name below) = true ↔
      HasExtension d.extension (lastName name below) := by
  rw [pathOf, List.append_cons, isCatalog_append d.extension _ hbelow]
  exact isCatalog_iff name hbelow

/-- What discovery takes for a file: in the root all but directories, and beneath a directory of the
root only what is a file. -/
def IsTaken (below : List String) (n : Node) : Prop :=
  n ≠ .directory ∧ (below ≠ [] → n ≠ .danglingLink)

theorem isTaken_file (below : List String) (content : Content) : IsTaken below (.file content) :=
  ⟨nofun, fun _ => nofun⟩

theorem isTaken_nil : IsTaken [] n ↔ n ≠ .directory :=
  and_iff_left fun hne => absurd rfl hne

theorem isTaken_iff (hbelow : below ≠ []) : IsTaken below n ↔ ∃ content, n = .file content := by
  unfold IsTaken
  cases n <;> simp [hbelow]

/-! ## Listed files -/

/-- The locale that something in reach of discovery is of: by its name if it is in the root, and by
the name of the directory that it lies beneath. -/
def IsOf (d : CatalogDirectory) (name : String) (below : List String) (locale : String) : Prop :=
  if below = [] then stem? d.extension name = some locale else name = locale

/-- What is taken for a file is listed for its locale if its name has the extension. -/
theorem mem_filesIn_iff (hnode : d.HasNode name below n) :
    d.pathOf name below ∈ d.filesIn locale ↔
      IsTaken below n ∧ HasExtension d.extension (lastName name below) ∧
        d.IsOf name below locale := by
  have hfile : d.pathOf name below ∈ d.filesIn locale ↔
      d.isFileOf locale (name :: below, n) = true := by
    rw [mem_filesIn]
    constructor
    · rintro ⟨steps, m, -, hm, hfile, hpath⟩
      obtain ⟨rfl, rfl⟩ := hnode.eq hm hpath
      exact hfile
    · intro hfile
      exact ⟨_, n, List.cons_ne_nil name below, hnode.node_mem, hfile, rfl⟩
  unfold IsOf
  rw [hfile]
  by_cases hbelow : below = []
  · subst hbelow
    rw [isFileOf_name, isTaken_nil, if_pos rfl]
    constructor
    · intro h
      exact ⟨h.1, ⟨locale, stem?_eq_some_iff.1 h.2⟩, h.2⟩
    · intro h
      exact ⟨h.1, h.2.2⟩
  · rw [isFileOf_beneath hbelow, isCatalog_iff name hbelow, isTaken_iff hbelow,
      if_neg hbelow]
    constructor
    · rintro ⟨content, hn, hname, -, hextension⟩
      exact ⟨⟨content, hn⟩, hextension, hname⟩
    · rintro ⟨⟨content, hn⟩, hextension, hname⟩
      exact ⟨content, hn, hname, hnode.directory_of_ne_nil hbelow, hextension⟩

/-- There is a locale for each name with the extension. -/
theorem exists_isOf (hextension : HasExtension d.extension (lastName name below)) :
    ∃ locale, d.IsOf name below locale := by
  unfold IsOf
  by_cases hbelow : below = []
  · subst hbelow
    obtain ⟨stem, hstem⟩ := hextension
    refine ⟨stem, ?_⟩
    rw [if_pos rfl]
    exact stem?_eq_some_iff.2 hstem
  · refine ⟨name, ?_⟩
    rw [if_neg hbelow]

/-- Only what discovery goes through is listed. -/
theorem exists_of_mem_filesIn {p : Path} (hp : p ∈ d.filesIn locale) :
    ∃ name below n, d.HasNode name below n ∧ IsTaken below n ∧ p = d.pathOf name below := by
  obtain ⟨steps, n, hne, hnode, hfile, rfl⟩ := (mem_filesIn d locale).1 hp
  obtain ⟨name, below, rfl⟩ := List.exists_cons_of_ne_nil hne
  by_cases hbelow : below = []
  · subst hbelow
    obtain ⟨hn, -⟩ := isFileOf_name.1 hfile
    exact ⟨name, [], n, ⟨hnode, fun h => absurd rfl h⟩, isTaken_nil.2 hn, rfl⟩
  · obtain ⟨content, rfl, -, hdirectory, -⟩ := (isFileOf_beneath hbelow).1 hfile
    exact ⟨name, below, _, ⟨hnode, fun _ => hdirectory⟩, isTaken_file below content, rfl⟩

/-- A file is of one locale. -/
theorem IsOf.unique {other : String} (hlocale : d.IsOf name below locale)
    (hother : d.IsOf name below other) : locale = other := by
  unfold IsOf at hlocale hother
  split at hlocale
  · rename_i hbelow
    rw [if_pos hbelow] at hother
    exact Option.some.inj (hlocale.symm.trans hother)
  · rename_i hbelow
    rw [if_neg hbelow] at hother
    exact hlocale.symm.trans hother

/-- No file is listed for two locales, nor twice for one. -/
theorem nodup_values_localeFiles (d : CatalogDirectory) : d.localeFiles.values.flatten.Nodup := by
  have hfiles : ∀ e ∈ d.localeFiles.entries, e.2 = d.filesIn e.1 := fun e he =>
    (get?_localeFiles_eq_some_iff.1 (Dict.get?_eq_some_iff.2 he)).1
  unfold Dict.values
  rw [← List.flatMap_def, List.nodup_flatMap]
  constructor
  · intro e he
    rw [hfiles e he]
    exact (d.filesIn_increasing e.1).nodup
  · refine (List.pairwise_map.1 d.localeFiles.nodup).imp_of_mem ?_
    intro e e' he he' hne p hp hp'
    rw [hfiles e he] at hp
    rw [hfiles e' he'] at hp'
    obtain ⟨name, below, n, hnode, -, rfl⟩ := exists_of_mem_filesIn hp
    exact hne (((mem_filesIn_iff hnode).1 hp).2.2.unique ((mem_filesIn_iff hnode).1 hp').2.2)

/-! ## Reported files -/

/-- The files that are reported from an entry of the root. -/
def ignoredFrom (d : CatalogDirectory) (e : String × Node) : List Path :=
  (d.finding e.1 e.2).ignored

theorem ignored_eq (d : CatalogDirectory) :
    d.ignored = (d.tree.entries d.place).flatMap d.ignoredFrom := by
  rw [ignored, findings, List.flatMap_map]
  rfl

theorem ignoredFrom_directory :
    d.ignoredFrom (name, .directory) = (d.filesOf name).filter (!isCatalog d.extension ·) := rfl

theorem ignoredFrom_of_ne (hn : n ≠ .directory) :
    d.ignoredFrom (name, n) =
      if (stem? d.extension name).isSome then [] else [d.pathOf name []] := by
  rw [ignoredFrom, finding_of_ne hn]
  cases stem? d.extension name with
  | none => rfl
  | some stem => rfl

/-- From an entry of the root what is taken for a file is reported if its name lacks the
extension. -/
theorem mem_ignoredFrom (hentry : (d.place ++ [name], n) ∈ d.tree.nodes.entries) {p : Path} :
    p ∈ d.ignoredFrom (name, n) ↔ ∃ below m, d.HasNode name below m ∧ IsTaken below m ∧
      ¬ HasExtension d.extension (lastName name below) ∧ p = d.pathOf name below := by
  have hget := Dict.get?_eq_some_iff.2 hentry
  by_cases hn : n = .directory
  · subst hn
    rw [ignoredFrom_directory, List.mem_filter, mem_filesOf]
    constructor
    · rintro ⟨⟨below, content, hbelow, hnode, rfl⟩, hcatalog⟩
      refine ⟨below, _, ⟨hnode, fun _ => hget⟩, isTaken_file below content, ?_, rfl⟩
      intro hextension
      have htrue := (isCatalog_pathOf (d := d) hbelow).2 hextension
      rw [htrue] at hcatalog
      cases hcatalog
    · rintro ⟨below, m, hnode, htaken, hnone, rfl⟩
      have hbelow : below ≠ [] := by
        rintro rfl
        have hm := Dict.get?_eq_some_iff.2 hnode.node_mem
        exact htaken.1 (Option.some.inj (hm.symm.trans hget))
      obtain ⟨content, rfl⟩ := (isTaken_iff hbelow).1 htaken
      refine ⟨⟨below, content, hbelow, hnode.node_mem, rfl⟩, ?_⟩
      have hfalse := Bool.eq_false_iff.2 (mt (isCatalog_pathOf (d := d) hbelow).1 hnone)
      rw [hfalse]
      rfl
  · rw [ignoredFrom_of_ne hn]
    constructor
    · intro hp
      split at hp
      · cases hp
      · rename_i hstem
        obtain rfl := List.mem_singleton.1 hp
        exact ⟨[], n, ⟨hentry, fun h => absurd rfl h⟩, isTaken_nil.2 hn,
          mt isSome_stem?_iff.2 hstem, rfl⟩
    · rintro ⟨below, m, hnode, -, hnone, rfl⟩
      have hbelow : below = [] := by
        by_contra hne
        exact hn (Option.some.inj (hget.symm.trans (hnode.directory_of_ne_nil hne)))
      subst hbelow
      have hstem : ¬ (stem? d.extension name).isSome = true := mt isSome_stem?_iff.1 hnone
      rw [if_neg hstem]
      exact List.mem_singleton_self _

/-- What is taken for a file is reported if its name lacks the extension. -/
theorem mem_ignored {p : Path} :
    p ∈ d.ignored ↔ ∃ name below n, d.HasNode name below n ∧ IsTaken below n ∧
      ¬ HasExtension d.extension (lastName name below) ∧ p = d.pathOf name below := by
  rw [ignored_eq, List.mem_flatMap]
  constructor
  · rintro ⟨⟨name, m⟩, hentry, hp⟩
    exact ⟨name, (mem_ignoredFrom (FileTree.mem_entries.1 hentry)).1 hp⟩
  · rintro ⟨name, below, n, hnode, hignored⟩
    obtain ⟨m, hentry⟩ := hnode.exists_entry
    exact ⟨(name, m), FileTree.mem_entries.2 hentry,
      (mem_ignoredFrom hentry).2 ⟨below, n, hnode, hignored⟩⟩

theorem mem_ignored_iff (hnode : d.HasNode name below n) :
    d.pathOf name below ∈ d.ignored ↔
      IsTaken below n ∧ ¬ HasExtension d.extension (lastName name below) := by
  rw [mem_ignored]
  constructor
  · rintro ⟨name', below', m, hm, htaken, hnone, hpath⟩
    obtain ⟨hsteps, rfl⟩ := hnode.eq hm.node_mem hpath
    obtain ⟨rfl, rfl⟩ := List.cons.inj hsteps
    exact ⟨htaken, hnone⟩
  · rintro ⟨htaken, hnone⟩
    exact ⟨name, below, n, hnode, htaken, hnone, rfl⟩

/-- Files are reported in the order of paths, each once. -/
theorem ignored_increasing (d : CatalogDirectory) : d.ignored.Pairwise Path.Before := by
  rw [ignored_eq]
  apply flatMap_entries_increasing
  · intro e
    obtain ⟨name, n⟩ := e
    by_cases hn : n = .directory
    · subst hn
      exact (filesOf_increasing d name).filter _
    · rw [ignoredFrom_of_ne hn]
      split
      · exact List.Pairwise.nil
      · exact List.pairwise_singleton _ _
  · intro e he p hp
    obtain ⟨below, -, -, -, -, rfl⟩ := (mem_ignoredFrom (FileTree.mem_entries.1 he)).1 hp
    exact ⟨below, rfl⟩

/-! ## Discovery -/

/-- What follows in a list in strict order after an item that all others come before. -/
theorem eq_concat_of_last {files : List Path} {q : Path} (hfiles : files.Pairwise Path.Before)
    (hq : q ∈ files) (hlast : ∀ p ∈ files, p ≠ q → Path.Before p q) :
    ∃ before, files = before ++ [q] := by
  obtain ⟨before, after, rfl⟩ := List.append_of_mem hq
  have hafter : after = [] := by
    rw [List.eq_nil_iff_forall_not_mem]
    intro r hr
    have hqr : Path.Before q r :=
      (List.pairwise_cons.1 (List.pairwise_append.1 hfiles).2.1).1 r hr
    have hne : r ≠ q := ne_of_irrefl' hqr
    have hrq : Path.Before r q := hlast r (by simp [hr]) hne
    exact hne (Std.Antisymm.antisymm r q hrq hqr)
  rw [hafter]
  exact ⟨before, rfl⟩

/-- A locale comes before the name of its file in the root. -/
theorem before_fileName (locale extension : String) :
    Text.Before [locale] [locale ++ "." ++ extension] := by
  have hne : locale ≠ locale ++ "." ++ extension := by
    intro h
    have hlength := congrArg String.length h
    have hdot : ".".length = 1 := rfl
    rw [String.length_append, String.length_append, hdot] at hlength
    omega
  refine ⟨?_, fun h => hne (List.cons.inj h).1⟩
  rw [Text.leComponents, if_neg hne, String.append_assoc]
  exact Text.leString_append _ _

/-- The file of a locale in the root comes after all other files of the locale. -/
theorem exists_filesIn_concat {content : Content} (hlocale : locale ≠ "")
    (hnode : d.HasNode (locale ++ "." ++ d.extension) [] (.file content)) :
    ∃ before, d.filesIn locale = before ++ [d.pathOf (locale ++ "." ++ d.extension) []] := by
  have hstem : stem? d.extension (locale ++ "." ++ d.extension) = some locale :=
    stem?_eq_some_iff.2 ⟨hlocale, rfl⟩
  apply eq_concat_of_last (d.filesIn_increasing locale)
  · rw [mem_filesIn_iff hnode]
    refine ⟨isTaken_file _ content, ⟨locale, hlocale, rfl⟩, ?_⟩
    rw [IsOf, if_pos rfl]
    exact hstem
  · intro p hp hne
    obtain ⟨name, below, n, hp', -, rfl⟩ := exists_of_mem_filesIn hp
    have hof := ((mem_filesIn_iff hp').1 hp).2.2
    unfold IsOf at hof
    split at hof
    · -- the only other file in the root would be the same one
      rename_i hbelow
      obtain ⟨-, hname⟩ := stem?_eq_some_iff.1 hof
      rw [hbelow, hname] at hne
      exact absurd rfl hne
    · rw [hof]
      exact Text.before_append d.root.components
        (Text.before_cons (before_fileName locale d.extension) below [])

theorem mem_values_localeFiles {p : Path} :
    p ∈ d.localeFiles.values.flatten ↔ ∃ locale, p ∈ d.filesIn locale := by
  rw [List.mem_flatten]
  constructor
  · rintro ⟨files, hfiles, hp⟩
    obtain ⟨locale, hget⟩ := Dict.mem_values.1 hfiles
    obtain ⟨rfl, -⟩ := get?_localeFiles_eq_some_iff.1 hget
    exact ⟨locale, hp⟩
  · rintro ⟨locale, hp⟩
    have hget := get?_localeFiles_eq_some_iff.2 ⟨rfl, List.ne_nil_of_mem hp⟩
    exact ⟨_, Dict.mem_values.2 ⟨locale, hget⟩, hp⟩

/-- A file is listed once if its name has the extension, and reported once if not. -/
theorem count_listed_add_ignored {content : Content}
    (hnode : d.HasNode name below (.file content)) :
    d.localeFiles.values.flatten.count (d.pathOf name below) +
      d.ignored.count (d.pathOf name below) = 1 := by
  have htaken := isTaken_file below content
  have hignored : d.ignored.Nodup := d.ignored_increasing.nodup
  by_cases hextension : HasExtension d.extension (lastName name below)
  · obtain ⟨locale, hlocale⟩ := exists_isOf hextension
    have hlisted : d.pathOf name below ∈ d.localeFiles.values.flatten :=
      mem_values_localeFiles.2 ⟨locale, (mem_filesIn_iff hnode).2 ⟨htaken, hextension, hlocale⟩⟩
    have hnot : d.pathOf name below ∉ d.ignored := fun hmem =>
      ((mem_ignored_iff hnode).1 hmem).2 hextension
    rw [List.count_eq_one_of_mem d.nodup_values_localeFiles hlisted,
      List.count_eq_zero_of_not_mem hnot]
  · have hreported : d.pathOf name below ∈ d.ignored :=
      (mem_ignored_iff hnode).2 ⟨htaken, hextension⟩
    have hnot : d.pathOf name below ∉ d.localeFiles.values.flatten := by
      intro hmem
      obtain ⟨locale, hlisted⟩ := mem_values_localeFiles.1 hmem
      exact hextension ((mem_filesIn_iff hnode).1 hlisted).2.1
    rw [List.count_eq_one_of_mem hignored hreported, List.count_eq_zero_of_not_mem hnot]

/-- The texts of the file of a locale in the root are those of the locale. -/
theorem message?_of_root {content : Content} {c : Catalog} {key text : String}
    (hlocale : locale ≠ "") (hnode : d.HasNode (locale ++ "." ++ d.extension) [] (.file content))
    (hload : (d.load locale).outcome = .ok c)
    (hlast : Dict.lastValue? key (d.contents (d.pathOf (locale ++ "." ++ d.extension) [])) =
      some text) : c.message? key = some text := by
  obtain ⟨before, hfiles⟩ := exists_filesIn_concat hlocale hnode
  have hne : d.filesIn locale ≠ [] := by
    rw [hfiles]
    exact List.concat_ne_nil _ before
  obtain ⟨-, rfl⟩ := (load_eq_ok_iff hne).1 hload
  rw [message?_catalogOf, hfiles, List.flatMap_append, List.flatMap_singleton,
    Dict.lastValue?_append, hlast, Option.some_or]

/-- How discovery divides what it goes through. -/
structure Divides (d : CatalogDirectory) (found : Dict String (List Path)) (ignored : List Path) :
    Prop where
  /-- A file is listed once and not reported, or it is reported once and not listed. -/
  once : ∀ name below content, d.HasNode name below (.file content) →
    found.values.flatten.count (d.pathOf name below) + ignored.count (d.pathOf name below) = 1
  /-- It is listed if its name has the extension. -/
  listed_iff : ∀ name below content, d.HasNode name below (.file content) →
    ((∃ locale files, found.get? locale = some files ∧ d.pathOf name below ∈ files) ↔
      HasExtension d.extension (lastName name below))
  /-- A file in the root is listed for the locale that its name begins with. -/
  name_eq : ∀ name content locale files, d.HasNode name [] (.file content) →
    found.get? locale = some files → d.pathOf name [] ∈ files →
    name = locale ++ "." ++ d.extension
  /-- A file beneath a directory of the root is listed for the locale of that name. -/
  locale_eq : ∀ name below content locale files, below ≠ [] →
    d.HasNode name below (.file content) → found.get? locale = some files →
    d.pathOf name below ∈ files → locale = name
  /-- Nothing but what discovery goes through is listed, and no directory. -/
  listed_only : ∀ locale files, found.get? locale = some files → ∀ p ∈ files,
    ∃ name below n, d.HasNode name below n ∧ n ≠ .directory ∧ p = d.pathOf name below
  /-- The same holds of what is reported. -/
  ignored_only : ∀ p ∈ ignored,
    ∃ name below n, d.HasNode name below n ∧ n ≠ .directory ∧ p = d.pathOf name below
  ne_nil : ∀ locale files, found.get? locale = some files → files ≠ []
  increasing : ∀ locale files, found.get? locale = some files → files.Pairwise Path.Before
  /-- The file of a locale in the root comes last. -/
  root_last : ∀ locale content files, locale ≠ "" →
    d.HasNode (locale ++ "." ++ d.extension) [] (.file content) →
    found.get? locale = some files →
    ∃ before, files = before ++ [d.pathOf (locale ++ "." ++ d.extension) []]
  /-- So the texts of its entries count. -/
  root_wins : ∀ locale content c key text, locale ≠ "" →
    d.HasNode (locale ++ "." ++ d.extension) [] (.file content) →
    (d.load locale).outcome = .ok c →
    Dict.lastValue? key (d.contents (d.pathOf (locale ++ "." ++ d.extension) [])) = some text →
    c.message? key = some text

/-- **Discovery divides the files.** Every file in the root or beneath a directory of the root is
listed once for one locale, or reported once, as its name tells. What is listed for a locale is in
the order of paths, so that the file of a locale in the root comes last and its texts count. -/
theorem discover_divides (d : CatalogDirectory) :
    ∃ found ignored, d.discover.outcome = .ok found ∧
      d.discover.events = ignored.map (fun p => .fileIgnored p d.extension) ∧
      d.Divides found ignored := by
  refine ⟨d.localeFiles, d.ignored, by rw [discover_eq], by rw [discover_eq]; rfl, ?_⟩
  constructor
  case once => exact fun name below content hnode => count_listed_add_ignored hnode
  case listed_iff =>
    intro name below content hnode
    constructor
    · rintro ⟨locale, files, hget, hp⟩
      obtain ⟨rfl, -⟩ := get?_localeFiles_eq_some_iff.1 hget
      exact ((mem_filesIn_iff hnode).1 hp).2.1
    · intro hextension
      obtain ⟨locale, hlocale⟩ := exists_isOf hextension
      have hp := (mem_filesIn_iff hnode).2 ⟨isTaken_file below content, hextension, hlocale⟩
      exact ⟨locale, _, get?_localeFiles_eq_some_iff.2 ⟨rfl, List.ne_nil_of_mem hp⟩, hp⟩
  case name_eq =>
    intro name content locale files hnode hget hp
    obtain ⟨rfl, -⟩ := get?_localeFiles_eq_some_iff.1 hget
    have hof := ((mem_filesIn_iff hnode).1 hp).2.2
    rw [IsOf, if_pos rfl] at hof
    exact (stem?_eq_some_iff.1 hof).2
  case locale_eq =>
    intro name below content locale files hbelow hnode hget hp
    obtain ⟨rfl, -⟩ := get?_localeFiles_eq_some_iff.1 hget
    have hof := ((mem_filesIn_iff hnode).1 hp).2.2
    rw [IsOf, if_neg hbelow] at hof
    exact hof.symm
  case listed_only =>
    intro locale files hget p hp
    obtain ⟨rfl, -⟩ := get?_localeFiles_eq_some_iff.1 hget
    obtain ⟨name, below, n, hnode, htaken, rfl⟩ := exists_of_mem_filesIn hp
    exact ⟨name, below, n, hnode, htaken.1, rfl⟩
  case ignored_only =>
    intro p hp
    obtain ⟨name, below, n, hnode, htaken, -, rfl⟩ := mem_ignored.1 hp
    exact ⟨name, below, n, hnode, htaken.1, rfl⟩
  case ne_nil =>
    intro locale files hget
    obtain ⟨rfl, hne⟩ := get?_localeFiles_eq_some_iff.1 hget
    exact hne
  case increasing =>
    intro locale files hget
    obtain ⟨rfl, -⟩ := get?_localeFiles_eq_some_iff.1 hget
    exact d.filesIn_increasing locale
  case root_last =>
    intro locale content files hlocale hnode hget
    obtain ⟨rfl, -⟩ := get?_localeFiles_eq_some_iff.1 hget
    exact exists_filesIn_concat hlocale hnode
  case root_wins =>
    intro locale content c key text hlocale hnode hload hlast
    exact message?_of_root hlocale hnode hload hlast

end CatalogDirectory

end SymbolText
