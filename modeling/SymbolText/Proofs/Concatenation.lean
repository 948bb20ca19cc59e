import SymbolText.Proofs.CatalogRoundTrip
import SymbolText.Proofs.Merging

/-!
# A catalog may be split into files

A catalog is read line by line, so that two texts with a line feed between them are read one after
the other: the entries of the first come before those of the second, and the first failure counts.
A locale therefore has the same texts whether they are in one file or in several that follow each
other.

* `CatalogFile.IsPlain`: the texts whose octets are decoded to them.
* `CatalogDirectory.Holds`: a locale whose files hold some texts.

Results:
* `entriesOf_append`, `entries_append`: reading one text after another.
* `entriesOf_joinWith`: reading several texts.
* `load_of_holds`: loading a locale from the entries of its texts.
* `load_joined`: loading a locale from several files, and from the texts in one file.
-/

namespace SymbolText

namespace CatalogFile

/-! ## Plain texts -/

/-- A text without the zero character that does not begin with a byte-order mark. -/
structure IsPlain (text : List Char) : Prop where
  no_zero : '\x00' ∉ text
  no_mark : text.head? ≠ some '\ufeff'

/-- A plain text is read from its octets line by line. -/
theorem entries_encode (path : String) {text : List Char} (htext : IsPlain text) :
    entries path (Text.Utf8.encode text) = entriesOf path (Text.lines text) := by
  rw [entries, decode_of_stripMark path (stripMark_encode htext.no_mark) htext.no_zero]
  rfl

theorem isPlain_append {a b : List Char} (ha : IsPlain a) (hb : IsPlain b) :
    IsPlain (a ++ '\n' :: b) := by
  constructor
  · simp only [List.mem_append, List.mem_cons, not_or]
    exact ⟨ha.no_zero, by decide, hb.no_zero⟩
  · cases a with
    | nil => exact fun hmark => absurd (Option.some.inj hmark) (by decide)
    | cons c rest => exact ha.no_mark

theorem isPlain_joinWith {texts : List (List Char)} (htexts : ∀ text ∈ texts, IsPlain text) :
    IsPlain (Text.joinWith ['\n'] texts) := by
  induction texts with
  | nil => exact ⟨List.not_mem_nil, nofun⟩
  | cons text more ih =>
    obtain ⟨htext, hmore⟩ := List.forall_mem_cons.1 htexts
    cases more with
    | nil => exact htext
    | cons next rest =>
      rw [Text.joinWith_cons_cons]
      exact isPlain_append htext (ih hmore)

/-! ## One text after another -/

/-- Lines are read one after the other, up to the first faulty one. -/
theorem entriesOf_append (path : String) (lines more : List (List Char)) :
    entriesOf path (lines ++ more) =
      (do
        let found ← entriesOf path lines
        let later ← entriesOf path more
        .ok (found ++ later)) := by
  induction lines with
  | nil =>
    rw [List.nil_append, entriesOf, Outcome.ok_bind]
    cases entriesOf path more <;> rfl
  | cons line rest ih =>
    rw [List.cons_append, entriesOf, entriesOf, ih]
    cases entryOf path (Line.ofText line) with
    | error e => rfl
    | ok entry =>
      cases entriesOf path rest with
      | error e => rfl
      | ok found =>
        cases entriesOf path more with
        | error e => rfl
        | ok later => exact congrArg Except.ok (List.append_assoc _ _ _).symm

theorem entries_append (path : String) {a b : List Char} (ha : IsPlain a) (hb : IsPlain b) :
    entries path (Text.Utf8.encode (a ++ '\n' :: b)) =
      (do
        let found ← entries path (Text.Utf8.encode a)
        let later ← entries path (Text.Utf8.encode b)
        .ok (found ++ later)) := by
  rw [entries_encode path (isPlain_append ha hb), entries_encode path ha, entries_encode path hb,
    Text.lines_append, entriesOf_append]

/-- Several texts are read one after the other. -/
theorem entriesOf_joinWith (path : String) {texts : List (List Char)}
    {parsed : List (List (String × String))} (hne : texts ≠ [])
    (hparsed : texts.map (fun text => entriesOf path (Text.lines text)) = parsed.map .ok) :
    entriesOf path (Text.lines (Text.joinWith ['\n'] texts)) = .ok parsed.flatten := by
  induction texts generalizing parsed with
  | nil => exact absurd rfl hne
  | cons text more ih =>
    obtain ⟨first, later, rfl, hfirst, hlater⟩ := List.map_eq_cons_iff.1 hparsed.symm
    cases more with
    | nil =>
      obtain rfl : later = [] := List.map_eq_nil_iff.1 hlater
      rw [List.flatten_cons, List.flatten_nil, List.append_nil]
      exact hfirst.symm
    | cons next rest =>
      have hread : entriesOf path (Text.lines text) = .ok first := hfirst.symm
      have hrest := ih (List.cons_ne_nil next rest) hlater.symm
      rw [Text.joinWith_cons_cons, List.singleton_append, Text.lines_append, entriesOf_append,
        hread, hrest, Outcome.ok_bind, Outcome.ok_bind, List.flatten_cons]

/-! ## Paths -/

/-- The path of a file is told by failures only. -/
theorem readText_eq_ok {p : String} (q : String) {key written text : List Char}
    (hread : readText p key written = .ok text) : readText q key written = .ok text := by
  unfold readText at hread ⊢
  split at hread
  · exact hread
  · rename_i first rest
    by_cases hquote : first = '"'
    · simp only [if_pos hquote] at hread ⊢
      cases hscan : Text.Quoted.scan? (first :: rest) with
      | none => rw [hscan] at hread; cases hread
      | some text' => rw [hscan] at hread; exact hread
    · rw [if_neg hquote] at hread
      cases hread

theorem entryOf_eq_ok {p : String} (q : String) {line : Line} {entry : Option (String × String)}
    (hentry : entryOf p line = .ok entry) : entryOf q line = .ok entry := by
  cases line with
  | skipped => exact hentry
  | pair key written =>
    rw [entryOf] at hentry ⊢
    cases hread : readText p key written with
    | error e =>
      rw [hread] at hentry
      cases hentry
    | ok text =>
      rw [hread] at hentry
      rw [readText_eq_ok q hread]
      exact hentry

theorem entriesOf_eq_ok {p : String} (q : String) {lines : List (List Char)}
    {found : List (String × String)} (hlines : entriesOf p lines = .ok found) :
    entriesOf q lines = .ok found := by
  induction lines generalizing found with
  | nil => exact hlines
  | cons line more ih =>
    rw [entriesOf] at hlines ⊢
    obtain ⟨first, hfirst, hlines⟩ := Outcome.bind_eq_ok_iff.1 hlines
    obtain ⟨rest, hrest, hfound⟩ := Outcome.bind_eq_ok_iff.1 hlines
    rw [entryOf_eq_ok q hfirst, ih hrest]
    exact hfound

end CatalogFile

/-- Whether an event reports a repeated key. -/
def Event.isRepeatedKey : Event → Bool
  | .duplicateKey .. => true
  | _ => false

namespace CatalogDirectory

open CatalogRoot

/-! ## Loading texts -/

/-- A locale is there, and its files hold some texts, in the order of the paths of the files. -/
def Holds (d : CatalogDirectory) (locale : String) (texts : List (List Char)) : Prop :=
  ∃ paths, d.localeFiles.get? locale = some paths ∧
    paths.map d.tree.read = texts.map fun text => .ok (Text.Utf8.encode text)

variable {d : CatalogDirectory} {locale : String} {texts : List (List Char)}
  {parsed : List (List (String × String))}

/-- A locale that is there has a file. -/
theorem Holds.ne_nil (hholds : d.Holds locale texts) : texts ≠ [] := by
  obtain ⟨paths, hfound, hread⟩ := hholds
  rw [get?_localeFiles] at hfound
  split at hfound
  · cases hfound
  · rename_i hfiles
    cases hfound
    rintro rfl
    exact hfiles (List.map_eq_nil_iff.1 hread)

/-- Files that can be read are read without a report. -/
theorem readFiles_of_readFile {paths : List Path}
    (hread : paths.map d.readFile = parsed.map fun entries => .of (.ok entries)) :
    d.readFiles paths = .of (.ok parsed) := by
  have hgather : gather (parsed.map fun entries => .of (.ok entries)) = .of (.ok parsed) := by
    clear hread
    induction parsed with
    | nil => rfl
    | cons entries rest ih =>
      rw [List.map_cons, gather, ih]
      rfl
  have hmapM : paths.mapM d.readFile = .of (.ok parsed) := by
    have hid : paths.mapM d.readFile = (paths.map d.readFile).mapM id := by
      rw [List.mapM_map]
      rfl
    rw [hid, hread, List.mapM_map]
    exact (List.mapM_pure (m := Logged) (f := id)).trans (congrArg _ (List.map_id parsed))
  unfold readFiles
  split
  · exact hmapM
  · rw [hread, hgather]

/-- Loading a locale from files that can be read. -/
theorem load_of_readFile {paths : List Path} (hfound : d.localeFiles.get? locale = some paths)
    (hread : paths.map d.readFile = parsed.map fun entries => .of (.ok entries)) :
    (d.load locale).outcome = (build locale (paths.zip parsed)).outcome ∧
      (d.load locale).events =
        d.ignoredEvents d.ignored ++ (build locale (paths.zip parsed)).events := by
  have hdiscover : d.discover.outcome = .ok d.localeFiles := by rw [discover_eq]
  have hevents : d.discover.events = d.ignoredEvents d.ignored := by rw [discover_eq]
  unfold load
  rw [Logged.outcome_bind, Logged.events_bind_ok _ hdiscover, hdiscover, hevents, Outcome.ok_bind]
  simp only [hfound]
  rw [readFiles_of_readFile hread, Logged.outcome_bind, Logged.events_bind_ok _ rfl]
  exact ⟨rfl, rfl⟩

theorem countP_ignoredEvents (d : CatalogDirectory) :
    (d.ignoredEvents d.ignored).countP Event.isRepeatedKey = 0 := by
  rw [ignoredEvents, List.countP_eq_zero]
  intro event hevent
  obtain ⟨p, -, rfl⟩ := List.mem_map.1 hevent
  exact Bool.false_ne_true

/-- Files that hold texts are read as the texts are. -/
theorem map_readFile {paths : List Path} {q : String}
    (hread : paths.map d.tree.read = texts.map fun text => .ok (Text.Utf8.encode text))
    (htexts : ∀ text ∈ texts, CatalogFile.IsPlain text)
    (hparsed : texts.map (fun text => CatalogFile.entriesOf q (Text.lines text)) =
      parsed.map .ok) :
    paths.map d.readFile = parsed.map fun entries => .of (.ok entries) := by
  induction paths generalizing texts parsed with
  | nil =>
    obtain rfl : texts = [] := List.map_eq_nil_iff.1 hread.symm
    obtain rfl : parsed = [] := List.map_eq_nil_iff.1 hparsed.symm
    rfl
  | cons p rest ih =>
    obtain ⟨text, more, rfl, htext, hmore⟩ := List.map_eq_cons_iff.1 hread.symm
    obtain ⟨found, later, rfl, hfound, hlater⟩ := List.map_eq_cons_iff.1 hparsed.symm
    obtain ⟨hplain, hplains⟩ := List.forall_mem_cons.1 htexts
    have hfile : d.readFile p = .of (.ok found) := by
      unfold readFile
      rw [← htext]
      simp only
      rw [CatalogFile.entries_encode p.render hplain,
        CatalogFile.entriesOf_eq_ok p.render hfound.symm]
    rw [List.map_cons, List.map_cons, hfile, ih hmore.symm hplains hlater.symm]

/-- A locale is loaded from the entries of its texts, of which all but the first of each key are
reported. -/
theorem load_of_holds (hholds : d.Holds locale texts)
    (htexts : ∀ text ∈ texts, CatalogFile.IsPlain text) {q : String}
    (hparsed : texts.map (fun text => CatalogFile.entriesOf q (Text.lines text)) =
      parsed.map .ok) :
    ∃ c, (d.load locale).outcome = .ok c ∧ c.messages = .ofList parsed.flatten ∧
      parsed.flatten.length =
        c.messages.size + (d.load locale).events.countP Event.isRepeatedKey := by
  obtain ⟨paths, hfound, hread⟩ := hholds
  have hfiles := map_readFile hread htexts hparsed
  have hentries : (paths.zip parsed).flatMap Prod.snd = parsed.flatten := by
    have hlengths := congrArg List.length hfiles
    rw [List.length_map, List.length_map] at hlengths
    rw [List.flatMap_def, List.map_snd_zip hlengths.ge]
  obtain ⟨houtcome, hevents⟩ := load_of_readFile hfound hfiles
  obtain ⟨c, hbuilt, haccounts⟩ := build_accounts locale (paths.zip parsed)
  have hmessages : c.messages = .ofList parsed.flatten := by
    obtain rfl : (writeFiles (.blank locale) (paths.zip parsed)).1 = c := Except.ok.inj hbuilt
    rw [(writeFiles_eq _ _).2, hentries]
    rfl
  have hcount : (build locale (paths.zip parsed)).events.countP Event.isRepeatedKey =
      (build locale (paths.zip parsed)).events.length := by
    rw [List.countP_eq_length, haccounts.events_eq]
    intro event hevent
    obtain ⟨e, -, rfl⟩ := List.mem_map.1 hevent
    rfl
  refine ⟨c, houtcome.trans hbuilt, hmessages, ?_⟩
  rw [hevents, List.countP_append, countP_ignoredEvents, hcount, Nat.zero_add, ← hentries]
  exact haccounts.length_eq

/-! ## One file or several -/

/-- A locale is loaded from several files as from one in which their texts are joined. -/
theorem exists_load_joined {d' : CatalogDirectory}
    (htexts : ∀ text ∈ texts, CatalogFile.IsPlain text ∧
      ∃ found, CatalogFile.entries CatalogFile.unnamed (Text.Utf8.encode text) = .ok found)
    (hholds : d.Holds locale texts) (hjoined : d'.Holds locale [Text.joinWith ['\n'] texts]) :
    ∃ c c', (d.load locale).outcome = .ok c ∧ (d'.load locale).outcome = .ok c' ∧
      c.messages = c'.messages ∧
      (d.load locale).events.countP Event.isRepeatedKey =
        (d'.load locale).events.countP Event.isRepeatedKey := by
  have hplain : ∀ text ∈ texts, CatalogFile.IsPlain text := fun text htext =>
    (htexts text htext).1
  have hread : ∀ text ∈ texts,
      ∃ found, CatalogFile.entriesOf CatalogFile.unnamed (Text.lines text) = .ok found := by
    intro text htext
    obtain ⟨found, hfound⟩ := (htexts text htext).2
    rw [CatalogFile.entries_encode _ (hplain text htext)] at hfound
    exact ⟨found, hfound⟩
  obtain ⟨parsed, hparsed⟩ := Outcome.exists_mapM_iff.2 hread
  rw [Outcome.mapM_eq_ok_iff] at hparsed
  have hwhole : [Text.joinWith ['\n'] texts].map
      (fun text => CatalogFile.entriesOf CatalogFile.unnamed (Text.lines text)) =
      [parsed.flatten].map .ok := by
    rw [List.map_singleton, List.map_singleton,
      CatalogFile.entriesOf_joinWith _ hholds.ne_nil hparsed]
  have hwholePlain : ∀ text ∈ [Text.joinWith ['\n'] texts], CatalogFile.IsPlain text :=
    List.forall_mem_singleton.2 (CatalogFile.isPlain_joinWith hplain)
  obtain ⟨c, hload, hmessages, hlength⟩ := load_of_holds hholds hplain hparsed
  obtain ⟨c', hload', hmessages', hlength'⟩ := load_of_holds hjoined hwholePlain hwhole
  rw [List.flatten_singleton] at hmessages' hlength'
  have hsame : c.messages = c'.messages := hmessages.trans hmessages'.symm
  refine ⟨c, c', hload, hload', hsame, ?_⟩
  rw [hsame] at hlength
  omega

/-- **A catalog may be split into files.** Reading two texts with a line feed between them gives the
entries of the first and then those of the second, or the failure of the first that fails. A locale
with several files has the same texts, in the same order, as one with a single file in which the
texts of those are joined by line feeds, and as many repeated keys are reported. -/
theorem load_joined :
    (∀ (path : String) (a b : List Char), CatalogFile.IsPlain a → CatalogFile.IsPlain b →
      (∀ found later, CatalogFile.entries path (Text.Utf8.encode a) = .ok found →
        CatalogFile.entries path (Text.Utf8.encode b) = .ok later →
        CatalogFile.entries path (Text.Utf8.encode (a ++ '\n' :: b)) = .ok (found ++ later)) ∧
      (∀ e, CatalogFile.entries path (Text.Utf8.encode a) = .error e →
        CatalogFile.entries path (Text.Utf8.encode (a ++ '\n' :: b)) = .error e) ∧
      (∀ found e, CatalogFile.entries path (Text.Utf8.encode a) = .ok found →
        CatalogFile.entries path (Text.Utf8.encode b) = .error e →
        CatalogFile.entries path (Text.Utf8.encode (a ++ '\n' :: b)) = .error e)) ∧
    (∀ (d d' : CatalogDirectory) (locale : String) (texts : List (List Char)),
      (∀ text ∈ texts, CatalogFile.IsPlain text ∧
        ∃ found, CatalogFile.entries CatalogFile.unnamed (Text.Utf8.encode text) = .ok found) →
      d.Holds locale texts → d'.Holds locale [Text.joinWith ['\n'] texts] →
      ∃ c c', (d.load locale).outcome = .ok c ∧ (d'.load locale).outcome = .ok c' ∧
        c.messages = c'.messages ∧
        (d.load locale).events.countP Event.isRepeatedKey =
          (d'.load locale).events.countP Event.isRepeatedKey) := by
  constructor
  · intro path a b ha hb
    rw [CatalogFile.entries_append path ha hb]
    refine ⟨?_, ?_, ?_⟩
    · intro found later hfound hlater
      rw [hfound, hlater]
      rfl
    · intro e hfailed
      rw [hfailed]
      rfl
    · intro found e hfound hfailed
      rw [hfound, hfailed]
      rfl
  · intro d d' locale texts htexts hholds hjoined
    exact exists_load_joined htexts hholds hjoined

/-! ### A text without a closing quote -/

/-- A text that ends before its quote is closed, with a carriage return. -/
def unclosed : List Char := ['A', '=', '"', '1', '\r']

/-- A text with the same key, and with one that has no text. -/
def closed : List Char := ['A', '=', '"', '2', '"', '\n', 'B', '=']

/-- A catalog directory with the two texts in files of their own. -/
def separate : CatalogDirectory where
  tree := ⟨⟨[(["i18n"], .directory), (["i18n", "en"], .directory),
    (["i18n", "en", "a.toml"], .file (.octets (Text.Utf8.encode unclosed))),
    (["i18n", "en", "b.toml"], .file (.octets (Text.Utf8.encode closed)))], by decide⟩⟩
  root := ⟨["i18n"]⟩
  place := ["i18n"]
  extension := "toml"
  workers := 4
  surveyed := outcome_survey_of_entries (by decide)

/-- A catalog directory with the two texts in one file. -/
def whole : CatalogDirectory where
  tree := ⟨⟨[(["i18n"], .directory), (["i18n", "en.toml"],
    .file (.octets (Text.Utf8.encode (Text.joinWith ['\n'] [unclosed, closed]))))], by decide⟩⟩
  root := ⟨["i18n"]⟩
  place := ["i18n"]
  extension := "toml"
  workers := 1
  surveyed := outcome_survey_of_entries (by decide)

theorem holds_separate : separate.Holds "en" [unclosed, closed] := by
  refine ⟨[⟨["i18n", "en", "a.toml"]⟩, ⟨["i18n", "en", "b.toml"]⟩], ?_, rfl⟩
  have hfiles : separate.filesIn "en" =
      [⟨["i18n", "en", "a.toml"]⟩, ⟨["i18n", "en", "b.toml"]⟩] := by
    rw [filesIn, FileTree.beneath_eq, List.mergeSort_of_pairwise (by decide)]
    decide
  rw [get?_localeFiles, hfiles, if_neg (List.cons_ne_nil _ _)]

theorem holds_whole : whole.Holds "en" [Text.joinWith ['\n'] [unclosed, closed]] := by
  refine ⟨[⟨["i18n", "en.toml"]⟩], ?_, rfl⟩
  have hfiles : whole.filesIn "en" = [⟨["i18n", "en.toml"]⟩] := by
    rw [filesIn, FileTree.beneath_eq, List.mergeSort_of_pairwise (by decide)]
    decide
  rw [get?_localeFiles, hfiles, if_neg (List.cons_ne_nil _ _)]

theorem entries_unclosed (path : String) :
    CatalogFile.IsPlain unclosed ∧
      CatalogFile.entries path (Text.Utf8.encode unclosed) = .ok [("A", "1")] := by
  have hplain : CatalogFile.IsPlain unclosed := ⟨by decide, by decide⟩
  refine ⟨hplain, ?_⟩
  rw [CatalogFile.entries_encode path hplain]
  rfl

/-- The quote that is not closed ends with its line, and the failure of a second text counts after
it. -/
theorem load_joined_unclosed :
    (∀ text ∈ [unclosed, closed], CatalogFile.IsPlain text ∧
      ∃ found, CatalogFile.entries CatalogFile.unnamed (Text.Utf8.encode text) = .ok found) ∧
    separate.Holds "en" [unclosed, closed] ∧
    whole.Holds "en" [Text.joinWith ['\n'] [unclosed, closed]] ∧
    (∃ c c', (separate.load "en").outcome = .ok c ∧ (whole.load "en").outcome = .ok c' ∧
      c.messages = c'.messages ∧
      (separate.load "en").events.countP Event.isRepeatedKey =
        (whole.load "en").events.countP Event.isRepeatedKey) ∧
    CatalogFile.entries "en.toml" (Text.Utf8.encode (unclosed ++ '\n' :: ['B', '=', '1'])) =
      .error (.unquotedValue "en.toml" "B") := by
  obtain ⟨hreads, hloads⟩ := load_joined
  have htexts : ∀ text ∈ [unclosed, closed], CatalogFile.IsPlain text ∧
      ∃ found, CatalogFile.entries CatalogFile.unnamed (Text.Utf8.encode text) = .ok found := by
    have hclosed : CatalogFile.IsPlain closed := ⟨by decide, by decide⟩
    intro text htext
    rcases List.mem_pair.1 htext with rfl | rfl
    · obtain ⟨hplain, hread⟩ := entries_unclosed CatalogFile.unnamed
      exact ⟨hplain, _, hread⟩
    · refine ⟨hclosed, [("A", "2"), ("B", "")], ?_⟩
      rw [CatalogFile.entries_encode _ hclosed]
      rfl
  refine ⟨htexts, holds_separate, holds_whole,
    hloads separate whole "en" _ htexts holds_separate holds_whole, ?_⟩
  obtain ⟨hplain, hread⟩ := entries_unclosed "en.toml"
  have hfault : CatalogFile.IsPlain ['B', '=', '1'] := ⟨by decide, by decide⟩
  refine (hreads "en.toml" unclosed _ hplain hfault).2.2 _ _ hread ?_
  rw [CatalogFile.entries_encode _ hfault]
  rfl

end CatalogDirectory

end SymbolText
