import SymbolText.Proofs.Concatenation
import SymbolText.Proofs.Partition

/-!
# Which catalog files have to be readable

All catalogs are loaded only if every listed file is read and parsed, and a listed file that cannot
be opened makes loading fail, with the path of a file in the failure. Listed is what discovery takes
for a file, if its name has the extension: in the root also a link to nothing, but not beneath a
directory. There a link to nothing is passed over in silence, and its texts are missing. A path that
is too long to be looked at makes discovery itself fail, and that failure is not one of a catalog.

* `Error.OfCatalog`: the failures to read the catalog file at a path.

Results:
* `ofCatalog_of_readFile`: a file that is not read fails with its own path.
* `exists_of_loadAll_error`: if there is a listed file, loading fails as one of the listed files.
* `loadAll_of_overlong`: loading fails if discovery does.
* `loadAll_of_unreadable`: a listed file that cannot be opened makes loading fail; loading succeeds
  if there is a listed file and all of them are read and parsed; links beneath a directory are
  neither listed nor reported; a path that is too long is a failure of another kind.
* `loadAll_link_beneath`: loading succeeds though a link of the right name cannot be opened.
-/

namespace SymbolText

/-! ## Failures -/

/-- The failures to read the catalog file at a path. -/
inductive Error.OfCatalog (p : Path) : Error → Prop
  | unreadable (failure : ReadFailure) : OfCatalog p (.unreadableCatalog p failure)
  | encoding (failure : Option Text.Utf8.Failure) :
    OfCatalog p (.catalogEncoding p.render failure)
  | unquoted (key : String) : OfCatalog p (.unquotedValue p.render key)
  | escape (key : String) : OfCatalog p (.unknownEscape p.render key)

theorem Error.OfCatalog.path? {p : Path} {e : Error} (he : e.OfCatalog p) :
    e.path? = some p.render := by
  cases he <;> rfl

namespace CatalogFile

variable {p : Path} {e : Error}

theorem ofCatalog_of_decode {octets : List UInt8} (h : decode p.render octets = .error e) :
    e.OfCatalog p := by
  unfold decode at h
  dsimp only at h
  split at h
  · cases h
    exact .encoding none
  · split at h
    · cases h
    · cases h
      exact .encoding _

theorem ofCatalog_of_readText {key written : List Char}
    (h : readText p.render key written = .error e) : e.OfCatalog p := by
  unfold readText at h
  split at h
  · cases h
  · split at h
    · split at h
      · cases h
      · cases h
        exact .escape _
    · cases h
      exact .unquoted _

theorem ofCatalog_of_entriesOf {lines : List (List Char)}
    (h : entriesOf p.render lines = .error e) : e.OfCatalog p := by
  induction lines with
  | nil => cases h
  | cons line more ih =>
    rw [entriesOf, Outcome.bind_eq_error_iff] at h
    rcases h with hline | ⟨found, -, h⟩
    · cases hpair : Line.ofText line with
      | skipped =>
        rw [hpair] at hline
        cases hline
      | pair key written =>
        rw [hpair, entryOf] at hline
        split at hline
        · cases hline
        · rename_i hread
          cases hline
          exact ofCatalog_of_readText hread
    · rcases Outcome.bind_eq_error_iff.1 h with hmore | ⟨rest, -, hrest⟩
      · exact ih hmore
      · cases hrest

end CatalogFile

/-! ## Paths that are too long -/

/-- Loading fails for a path that is too long to be looked at, and this failure has no path. -/
theorem CatalogRoot.loadAll_of_overlong {r : CatalogRoot} {e : Error}
    (h : r.survey.outcome = .error e) :
    ∃ name below n, r.HasNode name below n ∧ r.tree.isOverlong (r.pathOf name below) = true ∧
      r.loadAll.outcome = .error e ∧ e = .pathTooLong (r.pathOf name below) ∧ e.path? = none := by
  obtain ⟨name, below, n, hnode, hlong, rfl⟩ := exists_of_outcome_survey_eq_error h
  refine ⟨name, below, n, hnode, hlong, ?_, rfl, rfl⟩
  rw [loadAll, Logged.outcome_bind, discover, Logged.outcome_bind, h]
  rfl

namespace CatalogDirectory

open CatalogRoot

variable {d : CatalogDirectory} {p : Path} {e : Error}

/-- A file that is not read fails with its own path. -/
theorem ofCatalog_of_readFile (h : (d.readFile p).outcome = .error e) : e.OfCatalog p := by
  unfold readFile at h
  split at h
  · rename_i octets hread
    rcases Outcome.bind_eq_error_iff.1 h with hdecode | ⟨text, -, hlines⟩
    · exact CatalogFile.ofCatalog_of_decode hdecode
    · exact CatalogFile.ofCatalog_of_entriesOf hlines
  · cases h
    exact .unreadable _

/-- A file is read if it can be opened and parsed. -/
theorem readFile_eq_ok_iff {found : List (String × String)} :
    (d.readFile p).outcome = .ok found ↔
      ∃ octets, d.tree.read p = .ok octets ∧ CatalogFile.entries p.render octets = .ok found := by
  unfold readFile
  cases d.tree.read p with
  | ok octets =>
    constructor
    · intro h
      exact ⟨octets, rfl, h⟩
    · rintro ⟨octets', hread, h⟩
      cases hread
      exact h
  | error failure =>
    constructor
    · intro h
      cases h
    · rintro ⟨octets, hread, -⟩
      cases hread

/-- If there is a listed file, loading fails as one of the listed files. -/
theorem exists_of_loadAll_error (hsome : ∃ locale, d.filesIn locale ≠ [])
    (h : d.loadAll.outcome = .error e) :
    ∃ locale, ∃ p ∈ d.filesIn locale, (d.readFile p).outcome = .error e := by
  obtain ⟨locale, hfiles⟩ := hsome
  have hkeys : d.localeFiles.keys ≠ [] :=
    List.ne_nil_of_mem ((d.mem_keys_localeFiles locale).2 hfiles)
  obtain ⟨failed, hfailed, hload, -⟩ := (loadsEach hkeys).error_eq e h
  have hread := (load_eq_error_iff ((d.mem_keys_localeFiles failed).1 hfailed)).1 hload
  rw [outcome_readFiles] at hread
  obtain ⟨p, hmem, hp⟩ := Outcome.exists_mem_of_mapM_error hread
  exact ⟨failed, p, hmem, hp⟩

/-! ## Listed files -/

/-- What discovery lists: what it takes for a file, if the name has the extension. -/
structure Lists (d : CatalogDirectory) (name : String) (below : List String) (n : Node) :
    Prop where
  hasNode : d.HasNode name below n
  isTaken : IsTaken below n
  hasExtension : HasExtension d.extension (lastName name below)

theorem Lists.exists_mem {name : String} {below : List String} {n : Node}
    (hlists : d.Lists name below n) : ∃ locale, d.pathOf name below ∈ d.filesIn locale := by
  obtain ⟨locale, hlocale⟩ := exists_isOf hlists.hasExtension
  exact ⟨locale,
    (mem_filesIn_iff hlists.hasNode).2 ⟨hlists.isTaken, hlists.hasExtension, hlocale⟩⟩

theorem exists_lists {locale : String} (hp : p ∈ d.filesIn locale) :
    ∃ name below n, d.Lists name below n ∧ p = d.pathOf name below := by
  obtain ⟨name, below, n, hnode, htaken, rfl⟩ := exists_of_mem_filesIn hp
  exact ⟨name, below, n, ⟨hnode, htaken, ((mem_filesIn_iff hnode).1 hp).2.1⟩, rfl⟩

/-- A listed file that cannot be opened makes loading fail, with the path of a listed file. -/
theorem exists_error_of_unreadable {name : String} {below : List String} {n : Node}
    {failure : ReadFailure} (hlists : d.Lists name below n)
    (hread : d.tree.read (d.pathOf name below) = .error failure) :
    ∃ e name' below' n', d.loadAll.outcome = .error e ∧ d.Lists name' below' n' ∧
      e.OfCatalog (d.pathOf name' below') ∧
      e.path? = some (d.pathOf name' below').render := by
  obtain ⟨locale, hp⟩ := hlists.exists_mem
  cases hload : d.loadAll.outcome with
  | ok set =>
    obtain ⟨-, hall, -⟩ := loadAll_eq_ok_iff.1 hload
    obtain ⟨octets, hok, -⟩ := readFile_eq_ok_iff.1 (hall locale _ hp)
    rw [hread] at hok
    cases hok
  | error e =>
    -- the failure is that of the first listed file that fails, which may be another one
    obtain ⟨failed, p, hmem, hfailed⟩ :=
      exists_of_loadAll_error ⟨locale, List.ne_nil_of_mem hp⟩ hload
    obtain ⟨name', below', n', hlists', rfl⟩ := exists_lists hmem
    have hof := ofCatalog_of_readFile hfailed
    exact ⟨e, name', below', n', rfl, hlists', hof, hof.path?⟩

/-- All catalogs are loaded if and only if some file is listed, and every listed file is opened and
parsed. -/
theorem exists_loadAll_eq_ok_iff :
    (∃ set, d.loadAll.outcome = .ok set) ↔
      (∃ name below n, d.Lists name below n) ∧
        ∀ name below n, d.Lists name below n →
          ∃ octets found, d.tree.read (d.pathOf name below) = .ok octets ∧
            CatalogFile.entries (d.pathOf name below).render octets = .ok found := by
  constructor
  · rintro ⟨set, hload⟩
    obtain ⟨⟨locale, hfiles⟩, hall, -⟩ := loadAll_eq_ok_iff.1 hload
    constructor
    · obtain ⟨p, hp⟩ := List.exists_mem_of_ne_nil _ hfiles
      obtain ⟨name, below, n, hlists, -⟩ := exists_lists hp
      exact ⟨name, below, n, hlists⟩
    · intro name below n hlists
      obtain ⟨locale', hp⟩ := hlists.exists_mem
      obtain ⟨octets, hread, hparsed⟩ := readFile_eq_ok_iff.1 (hall locale' _ hp)
      exact ⟨octets, _, hread, hparsed⟩
  · rintro ⟨⟨name, below, n, hlists⟩, hall⟩
    obtain ⟨locale, hp⟩ := hlists.exists_mem
    refine ⟨d.catalogSet, loadAll_eq_ok_iff.2 ⟨⟨locale, List.ne_nil_of_mem hp⟩, ?_, rfl⟩⟩
    intro locale' p' hp'
    obtain ⟨name', below', n', hlists', rfl⟩ := exists_lists hp'
    obtain ⟨octets, found, hread, hparsed⟩ := hall name' below' n' hlists'
    have hok := readFile_eq_ok_iff.2 ⟨octets, hread, hparsed⟩
    rw [hok, contents_of_outcome hok]

/-- A link to nothing beneath a directory is passed over. -/
theorem not_mem_of_link_beneath {name : String} {below : List String} (hbelow : below ≠ [])
    (hnode : d.HasNode name below .danglingLink) :
    (∀ locale, d.pathOf name below ∉ d.filesIn locale) ∧ d.pathOf name below ∉ d.ignored := by
  have hnot : ¬ IsTaken below .danglingLink := fun htaken => htaken.2 hbelow rfl
  constructor
  · intro locale hp
    exact hnot ((mem_filesIn_iff hnode).1 hp).1
  · intro hp
    exact hnot ((mem_ignored_iff hnode).1 hp).1

/-- **A listed file that cannot be opened makes loading fail.** The failure has the path of a listed
file. Loading succeeds if there is a listed file and each of them is opened and parsed. A link to
nothing beneath a directory of the root, whatever its name, is neither listed nor reported. All this
is so unless a path beneath the root is too long to be looked at: then loading fails for that. -/
theorem loadAll_of_unreadable (r : CatalogRoot) :
    (∃ d : CatalogDirectory, d.toCatalogRoot = r ∧
      (∀ name below n failure, d.Lists name below n →
        d.tree.read (d.pathOf name below) = .error failure →
        ∃ e name' below' n', d.loadAll.outcome = .error e ∧ d.Lists name' below' n' ∧
          e.OfCatalog (d.pathOf name' below') ∧
          e.path? = some (d.pathOf name' below').render) ∧
      ((∃ set, d.loadAll.outcome = .ok set) ↔
        (∃ name below n, d.Lists name below n) ∧
          ∀ name below n, d.Lists name below n →
            ∃ octets found, d.tree.read (d.pathOf name below) = .ok octets ∧
              CatalogFile.entries (d.pathOf name below).render octets = .ok found) ∧
      ∀ name below, below ≠ [] → d.HasNode name below .danglingLink →
        (∀ locale, d.pathOf name below ∉ d.filesIn locale) ∧ d.pathOf name below ∉ d.ignored) ∨
    (∀ d : CatalogDirectory, d.toCatalogRoot ≠ r) ∧
      ∃ e name below n, r.HasNode name below n ∧
        r.tree.isOverlong (r.pathOf name below) = true ∧ r.loadAll.outcome = .error e ∧
        e = .pathTooLong (r.pathOf name below) ∧ e.path? = none := by
  rcases eq_or_survey_error r with ⟨d, hd⟩ | ⟨e, he⟩
  · refine .inl ⟨d, hd, ?_, exists_loadAll_eq_ok_iff, ?_⟩
    · intro name below n failure hlists hread
      exact exists_error_of_unreadable hlists hread
    · intro name below hbelow hnode
      exact not_mem_of_link_beneath hbelow hnode
  · refine .inr ⟨?_, e, loadAll_of_overlong he⟩
    rintro d rfl
    exact Outcome.error_ne_ok (he.symm.trans d.surveyed)

/-! ### A link beneath a directory -/

/-- A catalog directory with a file and a link to nothing beneath the directory of a locale. -/
def lossy : CatalogDirectory where
  tree := ⟨⟨[(["i18n"], .directory), (["i18n", "en"], .directory),
    (["i18n", "en", "a.toml"], .file (.octets (Text.Utf8.encode ['A', '=', '"', '1', '"']))),
    (["i18n", "en", "b.toml"], .danglingLink)], by decide⟩⟩
  root := ⟨["i18n"]⟩
  place := ["i18n"]
  extension := "toml"
  workers := 4
  surveyed := outcome_survey_of_entries (by decide)

theorem hasNode_lossy : lossy.HasNode "en" ["b.toml"] .danglingLink :=
  ⟨by decide, fun _ => by decide⟩

theorem readFile_lossy :
    (lossy.readFile ⟨["i18n", "en", "a.toml"]⟩).outcome = .ok [("A", "1")] := by
  have hplain : CatalogFile.IsPlain ['A', '=', '"', '1', '"'] := ⟨by decide, by decide⟩
  refine readFile_eq_ok_iff.2 ⟨Text.Utf8.encode ['A', '=', '"', '1', '"'], rfl, ?_⟩
  rw [CatalogFile.entries_encode _ hplain]
  rfl

theorem eq_of_mem_filesIn_lossy {locale : String} {p : Path} (hp : p ∈ lossy.filesIn locale) :
    p = ⟨["i18n", "en", "a.toml"]⟩ := by
  obtain ⟨steps, n, hne, hnode, hfile, rfl⟩ := (mem_filesIn _ _).1 hp
  have hsteps : steps = ["en"] ∧ n = .directory ∨ steps = ["en", "a.toml"] ∨
      steps = ["en", "b.toml"] ∧ n = .danglingLink := by
    simp only [lossy, List.singleton_append, List.mem_cons, Prod.mk.injEq, List.cons.injEq,
      true_and, List.not_mem_nil, or_false] at hnode
    tauto
  rcases hsteps with ⟨rfl, rfl⟩ | rfl | ⟨rfl, rfl⟩
  · cases hfile
  · rfl
  · cases hfile

/-- All catalogs are loaded though a link beneath the directory of a locale, whose name has the
extension, cannot be opened. -/
theorem loadAll_link_beneath :
    lossy.HasNode "en" ["b.toml"] .danglingLink ∧
      HasExtension lossy.extension (lastName "en" ["b.toml"]) ∧
      lossy.tree.read (lossy.pathOf "en" ["b.toml"]) = .error .notFound ∧
      ∃ set, lossy.loadAll.outcome = .ok set := by
  refine ⟨hasNode_lossy, ⟨"b", by decide, rfl⟩, rfl, lossy.catalogSet, ?_⟩
  have hfile : (⟨["i18n", "en", "a.toml"]⟩ : Path) ∈ lossy.filesIn "en" :=
    (mem_filesIn _ _).2 ⟨["en", "a.toml"],
      .file (.octets (Text.Utf8.encode ['A', '=', '"', '1', '"'])), List.cons_ne_nil _ _,
      by simp [lossy], by decide, rfl⟩
  refine loadAll_eq_ok_iff.2 ⟨⟨"en", List.ne_nil_of_mem hfile⟩, ?_, rfl⟩
  intro locale p hp
  rw [eq_of_mem_filesIn_lossy hp, readFile_lossy, contents_of_outcome readFile_lossy]

/-! ### A file that may not be opened -/

/-- The refusal of a file without permission to open it. -/
def denied : Refusal := ⟨13, "Permission denied"⟩

/-- A catalog directory with a file beneath the directory of a locale that may not be opened. -/
def locked : CatalogDirectory where
  tree := ⟨⟨[(["i18n"], .directory), (["i18n", "en"], .directory),
    (["i18n", "en", "a.toml"], .file (.refused denied))], by decide⟩⟩
  root := ⟨["i18n"]⟩
  place := ["i18n"]
  extension := "toml"
  workers := 2
  surveyed := outcome_survey_of_entries (by decide)

theorem lists_locked : locked.Lists "en" ["a.toml"] (.file (.refused denied)) :=
  ⟨⟨by decide, fun _ => by decide⟩, isTaken_file _ _, ⟨"a", by decide, rfl⟩⟩

theorem eq_of_lists_locked {name : String} {below : List String} {n : Node}
    (hlists : locked.Lists name below n) : name = "en" ∧ below = ["a.toml"] := by
  have hnode := hlists.hasNode.node_mem
  simp only [locked, List.singleton_append, List.mem_cons, Prod.mk.injEq, List.cons.injEq,
    true_and, List.not_mem_nil, or_false] at hnode
  rcases hnode with ⟨hnil, -⟩ | ⟨⟨-, -⟩, hn⟩ | ⟨⟨hname, hbelow⟩, -⟩
  · cases hnil
  · exact absurd hn hlists.isTaken.1
  · exact ⟨hname, hbelow⟩

/-- A file that may not be opened makes loading fail with its path, and a link beneath a directory
is not even reported. -/
theorem loadAll_of_unreadable_locked :
    locked.Lists "en" ["a.toml"] (.file (.refused denied)) ∧
      locked.tree.read (locked.pathOf "en" ["a.toml"]) = .error (.refused denied) ∧
      (∃ e, locked.loadAll.outcome = .error e ∧ e.path? = some "i18n/en/a.toml") ∧
      lossy.HasNode "en" ["b.toml"] .danglingLink ∧
      lossy.pathOf "en" ["b.toml"] ∉ lossy.ignored := by
  have hread : locked.tree.read (locked.pathOf "en" ["a.toml"]) = .error (.refused denied) := rfl
  refine ⟨lists_locked, hread, ?_, hasNode_lossy, ?_⟩
  · rcases loadAll_of_unreadable locked.toCatalogRoot with ⟨d, hd, hfails, -, -⟩ | ⟨hnone, -⟩
    · obtain rfl := eq_of_toCatalogRoot hd
      obtain ⟨e, name, below, n, hload, hlists, -, hpath⟩ := hfails _ _ _ _ lists_locked hread
      obtain ⟨rfl, rfl⟩ := eq_of_lists_locked hlists
      exact ⟨e, hload, hpath⟩
    · exact absurd rfl (hnone locked)
  · rcases loadAll_of_unreadable lossy.toCatalogRoot with ⟨d, hd, -, -, hpassed⟩ | ⟨hnone, -⟩
    · obtain rfl := eq_of_toCatalogRoot hd
      exact (hpassed "en" ["b.toml"] (List.cons_ne_nil _ _) hasNode_lossy).2
    · exact absurd rfl (hnone lossy)

end CatalogDirectory

end SymbolText
