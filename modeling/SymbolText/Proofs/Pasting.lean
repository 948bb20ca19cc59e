import SymbolText.Proofs.CatalogRoundTrip
import SymbolText.Proofs.Consistency
import SymbolText.Proofs.Lookup

/-!
# What is missing can be pasted

A report writes the missing names as entries without a text, below a heading for each type and
locale. These lines are read as a catalog file would be. Once their entries are in the catalogs,
nothing is missing, and no text has changed: a name is missing if there is no entry at all, but an
entry without a text does not count as a text.

* `Report.parts`: the headings of a report with the lines below them.
* `Report.blanks`, `Report.octets?`: the entries of missing names, and the octets of lines.
* `Report.paste`: catalogs with the entries of a report.

Results:
* `parts_lines`: the parts of a report are the missing names, by type and locale.
* `entries_of_octets?`: the lines of missing names are read as their entries.
* `textOf_pasteInto`: pasting changes no text.
* `pasteable_ofSets`: what is missing can be pasted, which changes nothing but the report.
-/

namespace SymbolText

namespace Report

variable {r : Report} {sets : List SymbolSet} {set : SymbolSet} {catalogs : CatalogSet} {c : Catalog}

/-! ## Headings -/

/-- The heading of the names that are missing for a type in a locale. -/
def missingHeader (typeName locale : String) : Text :=
  s!"************TYPE `{typeName}` locale `{locale}` missing key-value pair************"

/-- Whether a line is a heading: it ends with a star, or begins what is said of orphaned keys. -/
def isHeading (line : Text) : Bool :=
  line.getLast? = some (.char '*') || orphanedHeading.head? = some line

/-- The headings in some lines, with the lines from there to the next heading. -/
def parts : List Text → List (Text × List Text)
  | [] => []
  | line :: rest =>
    if isHeading line then (line, rest.takeWhile fun l => !isHeading l) :: parts rest
    else parts rest

theorem isHeading_missingHeader (typeName locale : String) :
    isHeading (missingHeader typeName locale) = true := by
  have hlast : (missingHeader typeName locale).getLast? = some (.char '*') := by
    rw [missingHeader, Text.ofString, String.toList_append, Text.ofChars_append,
      List.getLast?_append]
    rfl
  rw [isHeading, hlast]
  rfl

theorem isHeading_blankEntry (name : Text) : isHeading (blankEntry name) = false := by
  have hlast : (blankEntry name).getLast? = some (.char '"') := List.getLast?_append ..
  have hother : orphanedHeading.head? ≠ some (blankEntry name) := by
    intro hsame
    have hend := congrArg List.getLast? (Option.some.inj hsame)
    rw [hlast] at hend
    revert hend
    decide
  simp [isHeading, hlast, hother]

theorem takeWhile_block {body rest : List Text} (hbody : ∀ line ∈ body, isHeading line = false)
    (hrest : ∀ line ∈ rest.head?, isHeading line = true) :
    ((body ++ rest).takeWhile fun l => !isHeading l) = body := by
  rw [List.takeWhile_append_of_pos fun line hline => by rw [hbody line hline]; rfl]
  cases rest with
  | nil => simp
  | cons line more => simp [hrest line rfl]

theorem parts_append {body : List Text} (rest : List Text)
    (hbody : ∀ line ∈ body, isHeading line = false) : parts (body ++ rest) = parts rest := by
  induction body with
  | nil => rfl
  | cons line more ih =>
    obtain ⟨hline, hmore⟩ := List.forall_mem_cons.1 hbody
    rw [List.cons_append, parts, hline, if_neg Bool.false_ne_true, ih hmore]

/-- A heading with the lines below it is a part. -/
theorem parts_cons {header : Text} {body rest : List Text} (hheader : isHeading header = true)
    (hbody : ∀ line ∈ body, isHeading line = false)
    (hrest : ∀ line ∈ rest.head?, isHeading line = true) :
    parts (header :: body ++ rest) = (header, body) :: parts rest := by
  rw [List.cons_append, parts, if_pos hheader, takeWhile_block hbody hrest, parts_append rest hbody]

/-! ## The missing names of a report -/

/-- The part of a report on the names that are missing for a type in a locale. -/
def missingPart (group : String × String × List Text) : Text × List Text :=
  (missingHeader group.1 group.2.1, group.2.2.map blankEntry)

theorem missingLines_eq (r : Report) :
    r.missingLines = if r.missing.isEmpty then []
      else missingHeading ++ r.missingGroups.flatMap fun group =>
        (missingPart group).1 :: (missingPart group).2 := by
  rw [missingLines]
  split
  · rfl
  · -- the lines of all groups, type by type and locale by locale
    rw [missingGroups, List.flatMap_assoc]
    simp only [List.flatMap_map]
    rfl

theorem parts_missingGroups (groups : List (String × String × List Text)) {rest : List Text}
    (hrest : ∀ line ∈ rest.head?, isHeading line = true) :
    parts ((groups.flatMap fun group => (missingPart group).1 :: (missingPart group).2) ++ rest) =
      groups.map missingPart ++ parts rest := by
  induction groups with
  | nil => rfl
  | cons group more ih =>
    have hbody : ∀ line ∈ (missingPart group).2, isHeading line = false := by
      intro line hline
      obtain ⟨name, -, rfl⟩ := List.mem_map.1 hline
      exact isHeading_blankEntry name
    have hnext : ∀ line ∈ ((more.flatMap fun group =>
        (missingPart group).1 :: (missingPart group).2) ++ rest).head?, isHeading line = true := by
      cases more with
      | nil => exact hrest
      | cons next _ =>
        intro line hline
        obtain rfl := Option.some.inj hline
        exact isHeading_missingHeader _ _
    have hheader : isHeading (missingPart group).1 = true := isHeading_missingHeader _ _
    rw [List.flatMap_cons, List.append_assoc, parts_cons hheader hbody hnext, ih]
    rfl

/-- The first parts of a report are the missing names, by type and locale. -/
theorem parts_lines (r : Report) :
    ∃ more, parts r.lines = r.missingGroups.map missingPart ++ more := by
  by_cases hempty : r.missing.isEmpty = true
  · have hgroups : r.missingGroups = [] := by
      rw [missingGroups, List.isEmpty_iff.1 hempty, List.flatMap_nil]
    exact ⟨_, by rw [hgroups, List.map_nil, List.nil_append]⟩
  · have hfail : r.isSuccess = false := by
      rw [isSuccess, Bool.eq_false_iff.2 hempty, Bool.false_and]
    have hrest : ∀ line ∈ r.orphanedLines.head?, isHeading line = true := by
      intro line hline
      rw [orphanedLines] at hline
      split at hline
      · cases hline
      · obtain rfl := Option.some.inj hline
        rfl
    have hheading : ∀ line ∈ missingHeading, isHeading line = false := by decide
    rw [lines, hfail, missingLines_eq, if_neg hempty, if_neg Bool.false_ne_true, List.append_nil,
      List.append_assoc, parts_append _ hheading, parts_missingGroups _ hrest]
    exact ⟨_, rfl⟩

/-! ## Reading the lines of missing names -/

/-- A name that can be the key of an entry. -/
def IsName (name : Text) : Prop :=
  ∃ key : String, Text.ofString key = name ∧ CatalogFile.IsKey key.toList

/-- The entries of names without texts. -/
def blanks (names : List Text) : List (String × String) :=
  names.filterMap fun name => name.string?.map fun key => (key, "")

/-- The octets of lines that are joined by line feeds. -/
def octets? (lines : List Text) : Option (List UInt8) :=
  (Text.chars? (Text.joinWith [.char '\n'] lines)).map Text.Utf8.encode

theorem mem_blanks {names : List Text} {key text : String} :
    (key, text) ∈ blanks names ↔ Text.ofString key ∈ names ∧ text = "" := by
  simp only [blanks, List.mem_filterMap, Option.map_eq_some_iff, Prod.mk.injEq]
  constructor
  · rintro ⟨name, hname, _, hkey, rfl, rfl⟩
    exact ⟨Text.ofString_of_string? hkey ▸ hname, rfl⟩
  · rintro ⟨hname, rfl⟩
    exact ⟨_, hname, key, Text.string?_ofString key, rfl, rfl⟩

theorem blanks_ofString (keys : List String) :
    blanks (keys.map Text.ofString) = keys.map fun key => (key, "") := by
  induction keys with
  | nil => rfl
  | cons key more ih =>
    rw [List.map_cons, blanks, List.filterMap_cons, Text.string?_ofString, Option.map_some,
      List.map_cons, ← ih]
    rfl

/-- The line of a name is that of its entry, without spaces. -/
theorem blankEntry_ofString (key : String) :
    blankEntry (.ofString key) = Text.ofChars (CatalogFile.renderSpaced [] (key, "")) := by
  rw [blankEntry, CatalogFile.renderSpaced, List.append_nil, Text.ofChars_append]
  rfl

theorem octets?_ofString (keys : List String) :
    octets? ((keys.map Text.ofString).map blankEntry) =
      some (Text.Utf8.encode (CatalogFile.renderLines [] (keys.map fun key => (key, "")))) := by
  have hlines : (keys.map Text.ofString).map blankEntry =
      ((keys.map fun key => (key, "")).map (CatalogFile.renderSpaced [])).map
        (List.map CodePoint.char) := by
    rw [List.map_map, List.map_map, List.map_map]
    exact List.map_congr_left fun key _ => blankEntry_ofString key
  have hjoined := Text.joinWith_map CodePoint.char ['\n']
    ((keys.map fun key => (key, "")).map (CatalogFile.renderSpaced []))
  rw [← hlines] at hjoined
  rw [octets?, show [CodePoint.char '\n'] = ['\n'].map CodePoint.char from rfl, hjoined]
  show (Text.chars? (Text.ofChars _)).map _ = _
  rw [Text.chars?_ofChars]
  rfl

/-- Such names are keys. -/
theorem exists_keys {names : List Text} (hnames : ∀ name ∈ names, IsName name) :
    ∃ keys : List String, keys.map Text.ofString = names ∧
      ∀ key ∈ keys, CatalogFile.IsKey key.toList := by
  induction names with
  | nil => exact ⟨[], rfl, List.forall_mem_nil _⟩
  | cons name more ih =>
    obtain ⟨⟨key, hkey, hwritten⟩, hmore⟩ := List.forall_mem_cons.1 hnames
    obtain ⟨keys, hkeys, hall⟩ := ih hmore
    exact ⟨key :: keys, by rw [List.map_cons, hkey, hkeys], List.forall_mem_cons.2 ⟨hwritten, hall⟩⟩

/-- The lines of names are read as their entries, none of which has a text. -/
theorem entries_of_octets? {names : List Text} (hnames : ∀ name ∈ names, IsName name) :
    ∃ octets, octets? (names.map blankEntry) = some octets ∧
      (blanks names).map (fun entry => (Text.ofString entry.1, entry.2)) =
        names.map (fun name => (name, "")) ∧
      ∀ path, CatalogFile.entries path octets = .ok (blanks names) := by
  obtain ⟨keys, rfl, hwritten⟩ := exists_keys hnames
  have hkeys : ∀ entry ∈ keys.map fun key => (key, ""), CatalogFile.IsKey entry.1.toList := by
    intro entry hentry
    obtain ⟨key, hkey, rfl⟩ := List.mem_map.1 hentry
    exact hwritten key hkey
  have hspaces : ∀ c ∈ ([] : List Char), c = ' ' := List.forall_mem_nil _
  refine ⟨_, octets?_ofString keys, ?_, fun path => ?_⟩
  · rw [blanks_ofString, List.map_map, List.map_map]
    rfl
  · rw [blanks_ofString]
    exact CatalogFile.entries_of_renderLines path hkeys hspaces
      (CatalogFile.stripMark_encode (CatalogFile.head?_renderLines hkeys hspaces))

/-! ## Pasting -/

/-- The entries of the names that are missing in a locale, type by type. -/
def blanksIn (r : Report) (locale : String) : List (String × String) :=
  r.missing.values.flatMap fun locales => blanks ((locales.get? locale).getD [])

/-- A catalog with the entries of a report written to it. -/
def pasteInto (r : Report) (c : Catalog) : Catalog :=
  (r.blanksIn c.locale).foldl (fun c entry => c.setMessage entry.1 entry.2) c

/-- Catalogs with the entries of a report written to them, to each those of its locale. -/
def paste (r : Report) (catalogs : CatalogSet) : CatalogSet := ⟨catalogs.catalogs.map r.pasteInto⟩

theorem mem_blanksIn {locale key text : String} :
    (key, text) ∈ r.blanksIn locale ↔
      (∃ typeName, Text.ofString key ∈ r.missingIn typeName locale) ∧ text = "" := by
  rw [blanksIn, List.mem_flatMap]
  constructor
  · rintro ⟨locales, hlocales, hentry⟩
    obtain ⟨typeName, hget⟩ := Dict.mem_values.1 hlocales
    obtain ⟨hname, htext⟩ := mem_blanks.1 hentry
    refine ⟨⟨typeName, ?_⟩, htext⟩
    rw [missingIn, hget, Option.bind_some]
    exact hname
  · rintro ⟨⟨typeName, hname⟩, htext⟩
    obtain ⟨locales, names, hlocales, hnames, hrecord⟩ :=
      missingIn_of_ne_nil (List.ne_nil_of_mem hname)
    refine ⟨locales, Dict.mem_values.2 ⟨typeName, hlocales⟩, mem_blanks.2 ⟨?_, htext⟩⟩
    rw [hnames, Option.getD_some, ← hrecord]
    exact hname

theorem pasteInto_eq (r : Report) (c : Catalog) :
    r.pasteInto c = { c with messages := c.messages.update (r.blanksIn c.locale) } := by
  have hfold : ∀ (entries : List (String × String)) (c : Catalog),
      entries.foldl (fun c entry => c.setMessage entry.1 entry.2) c =
        { c with messages := c.messages.update entries } := by
    intro entries
    induction entries with
    | nil => exact fun c => rfl
    | cons entry more ih =>
      intro c
      rw [List.foldl_cons, ih]
      rfl
  exact hfold _ c

theorem locale_pasteInto (r : Report) (c : Catalog) : (r.pasteInto c).locale = c.locale := by
  rw [pasteInto_eq]

/-- Pasting writes an empty text for what is missing, and nothing else. -/
theorem message?_pasteInto (r : Report) (c : Catalog) (key : String) :
    ((∃ typeName, Text.ofString key ∈ r.missingIn typeName c.locale) ∧
        (r.pasteInto c).message? key = some "") ∨
      ((∀ typeName, Text.ofString key ∉ r.missingIn typeName c.locale) ∧
        (r.pasteInto c).message? key = c.message? key) := by
  rw [pasteInto_eq, Catalog.message?, Catalog.message?, Dict.get?_update]
  cases hlast : Dict.lastValue? key (r.blanksIn c.locale) with
  | some text =>
    obtain ⟨hmissing, rfl⟩ := mem_blanksIn.1 (Dict.mem_of_lastValue? hlast)
    exact .inl ⟨hmissing, rfl⟩
  | none =>
    refine .inr ⟨fun typeName hname => ?_, rfl⟩
    have hentry : (key, "") ∈ r.blanksIn c.locale := mem_blanksIn.2 ⟨⟨typeName, hname⟩, rfl⟩
    obtain ⟨text, htext⟩ := Dict.exists_lastValue? (List.mem_map_of_mem (f := Prod.fst) hentry)
    rw [hlast] at htext
    cases htext

/-- A name that is recorded for the locale of a catalog is not one of its keys. -/
theorem not_hasKey_of_mem (hnodup : catalogs.locales.Nodup) (hc : c ∈ catalogs.catalogs)
    {typeName : String} {name : Text}
    (hname : name ∈ (ofSets sets catalogs).missingIn typeName c.locale) : ¬ c.HasKey name := by
  obtain ⟨-, c', hc', hlocale, hnone⟩ := missing_of_mem hnodup hname
  obtain rfl := List.inj_on_of_nodup_map hnodup hc' hc hlocale
  exact hnone

/-- A name has the text that it had before, or none before and an empty one now. -/
theorem textOf?_pasteInto (sets : List SymbolSet) (hnodup : catalogs.locales.Nodup)
    (hc : c ∈ catalogs.catalogs) (name : Text) :
    ((ofSets sets catalogs).pasteInto c).textOf? name = c.textOf? name ∨
      (c.textOf? name = none ∧ ((ofSets sets catalogs).pasteInto c).textOf? name = some "") := by
  rw [Catalog.textOf?, Catalog.textOf?]
  cases hkey : name.string? with
  | none => exact .inl rfl
  | some key =>
    rw [Option.bind_some, Option.bind_some]
    rcases message?_pasteInto (ofSets sets catalogs) c key with ⟨⟨typeName, hname⟩, hpasted⟩ | hsame
    · refine .inr ⟨?_, hpasted⟩
      have hnone := Catalog.textOf?_eq_none_iff.2 (not_hasKey_of_mem hnodup hc hname)
      rwa [Catalog.textOf?, Text.string?_ofString] at hnone
    · exact .inl hsame.2

/-- Pasting changes no text, since an empty one does not count. -/
theorem textOf_pasteInto (hnodup : catalogs.locales.Nodup) (hc : c ∈ catalogs.catalogs) :
    textOf (some ((ofSets sets catalogs).pasteInto c)) = textOf (some c) := by
  funext s
  rw [textOf, textOf, Option.bind_some, Option.bind_some]
  rcases textOf?_pasteInto sets hnodup hc s.key with hsame | ⟨hnone, hempty⟩
  · rw [hsame]
  · rw [hnone, hempty]
    rfl

/-! ## The report after pasting -/

/-- All declared names can be keys. -/
def AllNames (sets : List SymbolSet) : Prop := ∀ set ∈ sets, ∀ s ∈ set.symbols, IsName s.key

/-- No set lacks a name any more. -/
theorem missingNames_pasteInto (hnodup : catalogs.locales.Nodup) (hsame : SameNames sets)
    (hnames : AllNames sets) (hset : set ∈ sets) (hc : c ∈ catalogs.catalogs) :
    missingNames set ((ofSets sets catalogs).pasteInto c) = [] := by
  rw [List.eq_nil_iff_forall_not_mem]
  intro name hname
  obtain ⟨hdeclared, hnone⟩ := mem_missingNames.1 hname
  rw [← Catalog.textOf?_eq_none_iff] at hnone
  have hbefore : ¬ c.HasKey name := by
    rw [← Catalog.textOf?_eq_none_iff]
    rcases textOf?_pasteInto sets hnodup hc name with hkept | ⟨hlacked, -⟩
    · rw [← hkept, hnone]
    · exact hlacked
  have hrecord : name ∈ (ofSets sets catalogs).missingIn set.typeName c.locale := by
    rw [missingIn_of_sameNames hnodup hsame hset hc]
    exact mem_missingNames.2 ⟨hdeclared, hbefore⟩
  obtain ⟨s, hs, rfl⟩ := hdeclared
  obtain ⟨key, hkey, -⟩ := hnames set hset s hs
  rw [← hkey] at hrecord hnone
  rw [Catalog.textOf?, Text.string?_ofString, Option.bind_some] at hnone
  rcases message?_pasteInto (ofSets sets catalogs) c key with ⟨-, hpasted⟩ | ⟨hother, -⟩
  · rw [hpasted] at hnone
    cases hnone
  · exact hother _ hrecord

/-- The keys that are added are declared, so that none of them is orphaned. -/
theorem orphanedKeys_pasteInto (hnodup : catalogs.locales.Nodup) :
    orphanedKeys (sets.flatMap SymbolSet.names) ((ofSets sets catalogs).pasteInto c) =
      orphanedKeys (sets.flatMap SymbolSet.names) c := by
  have hincreasing : ∀ c, (orphanedKeys (sets.flatMap SymbolSet.names) c).Pairwise
      Text.BeforeString := by
    intro c
    obtain ⟨hdistinct, hsorted⟩ := orphanedKeys_ordered (sets.flatMap SymbolSet.names) c
    exact Text.increasing_of_nodup hdistinct hsorted
  refine List.Pairwise.eq_of_mem_iff (hincreasing _) (hincreasing _) fun key => ?_
  rw [mem_orphanedKeys, mem_orphanedKeys]
  refine and_congr_left fun hundeclared => ?_
  rw [Dict.mem_keys_iff, Dict.mem_keys_iff]
  show (∃ text, ((ofSets sets catalogs).pasteInto c).message? key = some text) ↔
    ∃ text, c.message? key = some text
  rcases message?_pasteInto (ofSets sets catalogs) c key with ⟨⟨typeName, hname⟩, -⟩ | ⟨-, hkept⟩
  · obtain ⟨⟨set, hset, -, s, hs, hkey⟩, -⟩ := missing_of_mem hnodup hname
    exact absurd hkey (hundeclared set hset s hs)
  · rw [hkept]

theorem find?_paste (r : Report) (catalogs : CatalogSet) (locale : String) :
    (r.paste catalogs).find? locale = (catalogs.find? locale).map r.pasteInto := by
  rw [CatalogSet.find?, paste, List.find?_map, CatalogSet.find?]
  congr 2
  funext c
  rw [Function.comp_apply, locale_pasteInto]

/-- After pasting nothing is missing, and what is orphaned is the same. -/
theorem ofSets_paste (hnodup : catalogs.locales.Nodup) (hsame : SameNames sets)
    (hnames : AllNames sets) :
    (ofSets sets ((ofSets sets catalogs).paste catalogs)).missing = .empty ∧
      (ofSets sets ((ofSets sets catalogs).paste catalogs)).orphaned =
        (ofSets sets catalogs).orphaned := by
  constructor
  · have hlacked : ∀ set ∈ sets, lacked set ((ofSets sets catalogs).paste catalogs) = [] := by
      intro set hset
      rw [lacked, CatalogSet.perLocale, List.filterMap_eq_nil_iff]
      intro c' hc'
      obtain ⟨c, hc, rfl⟩ := List.mem_map.1 hc'
      rw [missingNames_pasteInto hnodup hsame hnames hset hc]
    refine Dict.eq_empty_of_keys ((keys_missingOf _ _).trans ?_)
    have hnone : (sets.filter fun set =>
        decide (lacked set ((ofSets sets catalogs).paste catalogs) ≠ [])) = [] := by
      refine List.filter_eq_nil_iff.2 fun set hset => ?_
      simp [hlacked set hset]
    rw [hnone]
    rfl
  · show orphanedOf sets _ = orphanedOf sets catalogs
    rw [orphanedOf_eq, orphanedOf_eq, CatalogSet.perLocale, paste, List.filterMap_map]
    refine congrArg Dict.ofList (List.filterMap_congr fun c _ => ?_)
    rw [Function.comp_apply, orphanedKeys_pasteInto hnodup, locale_pasteInto]

/-- No table depends on whether what is missing was pasted. -/
theorem build_paste (hnodup : catalogs.locales.Nodup) (set : SymbolSet) (runs : List Run)
    (locale : String) (strategy : Option Strategy) :
    Table.build set runs locale (((ofSets sets catalogs).paste catalogs).find? locale) strategy =
      Table.build set runs locale (catalogs.find? locale) strategy := by
  have htext : textOf (((ofSets sets catalogs).paste catalogs).find? locale) =
      textOf (catalogs.find? locale) := by
    rw [find?_paste]
    cases hfound : catalogs.find? locale with
    | none => rfl
    | some c => exact textOf_pasteInto hnodup (List.mem_of_find?_eq_some hfound)
  rw [Table.build_eq, Table.build_eq, htext]

/-- The lines of a report below its heading for a type and a locale are read as a catalog file that
has exactly the given names, all without texts. -/
def ReadsBack (r : Report) (typeName locale : String) (names : List Text) : Prop :=
  ∃ (i : Nat) (lines : List Text) (octets : List UInt8),
    r.missingGroups[i]? = some (typeName, locale, names) ∧
    (parts r.lines)[i]? = some (missingHeader typeName locale, lines) ∧
    octets? lines = some octets ∧
    (blanks names).map (fun entry => (Text.ofString entry.1, entry.2)) =
      names.map (fun name => (name, "")) ∧
    ∀ path, CatalogFile.entries path octets = .ok (blanks names)

theorem readsBack_of_get? (hnodup : catalogs.locales.Nodup) (hnames : AllNames sets)
    {typeName locale : String} {locales : Dict String (List Text)} {names : List Text}
    (hlocales : (ofSets sets catalogs).missing.get? typeName = some locales)
    (hget : locales.get? locale = some names) :
    (ofSets sets catalogs).ReadsBack typeName locale names := by
  have hgroup : (typeName, locale, names) ∈ (ofSets sets catalogs).missingGroups :=
    mem_missingGroups.2 ⟨locales, hlocales, hget⟩
  obtain ⟨i, hi⟩ := List.mem_iff_getElem?.1 hgroup
  have hwritten : ∀ name ∈ names, IsName name := by
    intro name hname
    obtain ⟨set, hset, c, -, -, -, rfl, -⟩ := exists_of_get? hnodup hlocales hget
    obtain ⟨⟨s, hs, rfl⟩, -⟩ := mem_missingNames.1 hname
    exact hnames set hset s hs
  obtain ⟨octets, hoctets, hblanks, hentries⟩ := entries_of_octets? hwritten
  refine ⟨i, names.map blankEntry, octets, hi, ?_, hoctets, hblanks, hentries⟩
  obtain ⟨more, hparts⟩ := parts_lines (ofSets sets catalogs)
  obtain ⟨hlength, -⟩ := List.getElem?_eq_some_iff.1 hi
  rw [hparts, List.getElem?_append_left (by rwa [List.length_map]), List.getElem?_map, hi]
  rfl

/-- What a report on sets and catalogs lets one paste, and what it does. -/
structure Pasteable (sets : List SymbolSet) (catalogs : CatalogSet) : Prop where
  /-- The lines of all missing names can be read. -/
  reads : ∀ typeName locales locale names,
    (ofSets sets catalogs).missing.get? typeName = some locales →
    locales.get? locale = some names → (ofSets sets catalogs).ReadsBack typeName locale names
  /-- With their entries in the catalogs nothing is missing. -/
  missing_eq : (ofSets sets ((ofSets sets catalogs).paste catalogs)).missing = .empty
  orphaned_eq : (ofSets sets ((ofSets sets catalogs).paste catalogs)).orphaned =
    (ofSets sets catalogs).orphaned
  /-- Every set has a table for any locale. -/
  exists_table : ∀ set ∈ sets, ∀ locale, ∃ runs t, splitIntoRuns set.symbols none = .ok runs ∧
    Table.build set runs locale (catalogs.find? locale) none = .ok t
  /-- However a table is built, it is the one from before. -/
  tables_eq : ∀ set ∈ sets, ∀ runs locale strategy,
    Table.build set runs locale (((ofSets sets catalogs).paste catalogs).find? locale) strategy =
      Table.build set runs locale (catalogs.find? locale) strategy

/-- **What is missing can be pasted.** Take any sets, of which those of one type declare the same
names, and any catalogs. If all names can be keys, the lines below the heading of a type and a
locale are read as a catalog file with exactly the missing names, all without texts. Once these
entries are written to the catalogs, nothing is missing, the same keys are orphaned, and all tables
are the same. -/
theorem pasteable_ofSets (sets : List SymbolSet) (given : List Catalog) (hsame : SameNames sets)
    (hnames : AllNames sets) : Pasteable sets (.ofCatalogs given) := by
  obtain ⟨hnodup, -⟩ := CatalogSet.locales_ofCatalogs given
  obtain ⟨hmissing, horphaned⟩ := ofSets_paste hnodup hsame hnames
  refine ⟨fun typeName locales locale names hlocales hget => ?_, hmissing, horphaned, ?_,
    fun set _ => build_paste hnodup set⟩
  · exact readsBack_of_get? hnodup hnames hlocales hget
  · intro set _ locale
    obtain ⟨runs, hruns, hne, -⟩ := splitIntoRuns_eq_ok none set.ne_nil
    have hchosen : (none : Option Strategy) = some .direct → runs.length = 1 := nofun
    obtain ⟨t, ht⟩ := Table.exists_build set locale ((CatalogSet.ofCatalogs given).find? locale)
      hne hchosen
    exact ⟨runs, t, hruns, ht⟩

/-! ### A name that begins like a section header -/

theorem get?_bracket :
    ∃ locales, (ofSets [single "[Ok"] (.ofCatalogs [oldCatalog])).missing.get? "Code" =
      some locales ∧ locales.get? "en" = some [Text.ofString "[Ok"] := by
  rw [ofCatalogs_oldCatalog]
  exact ⟨_, rfl, rfl⟩

/-- Its line is read, and pasting it leaves the orphaned key alone. -/
theorem pasteable_ofSets_bracket :
    SameNames [single "[Ok"] ∧ AllNames [single "[Ok"] ∧
      (ofSets [single "[Ok"] (.ofCatalogs [oldCatalog])).ReadsBack "Code" "en"
        [Text.ofString "[Ok"] ∧
      (ofSets [single "[Ok"] ((ofSets [single "[Ok"] (.ofCatalogs [oldCatalog])).paste
        (.ofCatalogs [oldCatalog]))).missing = .empty ∧
      "Old" ∈ (ofSets [single "[Ok"] ((ofSets [single "[Ok"] (.ofCatalogs [oldCatalog])).paste
        (.ofCatalogs [oldCatalog]))).orphanedIn "en" := by
  have hsame : SameNames [single "[Ok"] := by
    intro a ha b hb _
    rw [List.mem_singleton.1 ha, List.mem_singleton.1 hb]
  have hnames : AllNames [single "[Ok"] := by
    intro set hset s hs
    obtain rfl := List.mem_singleton.1 hset
    obtain rfl := List.mem_singleton.1 hs
    exact ⟨"[Ok", rfl, by decide⟩
  have hpasteable := pasteable_ofSets [single "[Ok"] [oldCatalog] hsame hnames
  obtain ⟨locales, hlocales, hget⟩ := get?_bracket
  refine ⟨hsame, hnames, hpasteable.reads _ locales _ _ hlocales hget, hpasteable.missing_eq, ?_⟩
  rw [orphanedIn, hpasteable.orphaned_eq, ← orphanedIn,
    mem_orphanedIn (CatalogSet.locales_ofCatalogs _).1, ofCatalogs_oldCatalog]
  refine ⟨⟨oldCatalog, List.mem_singleton_self _, rfl, List.mem_singleton_self _⟩, ?_⟩
  decide

end Report

end SymbolText
