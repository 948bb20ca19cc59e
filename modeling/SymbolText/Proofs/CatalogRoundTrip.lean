import SymbolText.Catalog.File
import SymbolText.Proofs.Lines
import SymbolText.Proofs.Outcome
import SymbolText.Proofs.Utf8

/-!
# Reading a written catalog gives back its entries

A catalog is written with one line for each entry, its text in the quoted form. The key must
survive the cut at the first equals sign, the trimming, and the tests for a comment and for a
byte-order mark; any text survives, since the quoted form has no line feed and ends with a quote.

Results:
* `decode_of_stripMark`, `stripMark_encode`: octets of a text without the zero character are
  decoded to it, with or without a byte-order mark.
* `ofText_around`: what the line is that has a given key and a written text around its first
  equals sign.
* `entries_of_renderLines`: reading lines with any number of spaces around the equals sign.
* `entries_render`: reading a written catalog.
-/

namespace SymbolText.CatalogFile

/-! ## Written catalogs -/

/-- The keys that can be written. -/
structure IsKey (key : List Char) : Prop where
  no_equals : '=' ∉ key
  no_newline : '\n' ∉ key
  no_zero : '\x00' ∉ key
  /-- The key does not begin with a blank, like a comment, or with a byte-order mark. -/
  first : ∀ c ∈ key.head?, c ∉ [' ', '\t', '\r', '#', '\ufeff']
  /-- It does not end with a blank. -/
  last : ∀ c ∈ key.getLast?, c ∉ [' ', '\t', '\r']

theorem isKey_iff {key : List Char} :
    IsKey key ↔ '=' ∉ key ∧ '\n' ∉ key ∧ '\x00' ∉ key ∧
      key.head?.all (fun c => decide (c ∉ [' ', '\t', '\r', '#', '\ufeff'])) = true ∧
      key.getLast?.all (fun c => decide (c ∉ [' ', '\t', '\r'])) = true := by
  simp only [Option.all_eq_true, decide_eq_true_eq]
  constructor
  · exact fun h => ⟨h.no_equals, h.no_newline, h.no_zero, h.first, h.last⟩
  · exact fun ⟨h₁, h₂, h₃, h₄, h₅⟩ => ⟨h₁, h₂, h₃, h₄, h₅⟩

instance (key : List Char) : Decidable (IsKey key) := decidable_of_iff _ isKey_iff.symm

/-- The line of an entry. -/
def renderEntry (entry : String × String) : List Char :=
  entry.1.toList ++ [' ', '=', ' '] ++ Text.Quoted.quote entry.2.toList

/-- The text of a catalog with some entries. -/
def render (entries : List (String × String)) : List Char :=
  Text.joinWith ['\n'] (entries.map renderEntry)

/-- The line of an entry with some blanks on either side of the equals sign. -/
def renderSpaced (blanks : List Char) (entry : String × String) : List Char :=
  entry.1.toList ++ blanks ++ '=' :: (blanks ++ Text.Quoted.quote entry.2.toList)

theorem renderEntry_eq : renderEntry = renderSpaced [' '] := by
  funext entry
  simp [renderEntry, renderSpaced]

/-! ## Octets -/

/-- A text that does not begin with a byte-order mark keeps its octets. -/
theorem stripMark_encode {text : List Char} (hmark : text.head? ≠ some '\ufeff') :
    stripMark (Text.Utf8.encode text) = Text.Utf8.encode text := by
  have hdecode := Text.Utf8.decode_encode text
  have hnone : byteOrderMarks.find? (fun mark => mark.isPrefixOf (Text.Utf8.encode text)) =
      none := by
    rw [List.find?_eq_none]
    intro mark hmem hpre
    obtain ⟨rest, hrest⟩ := List.isPrefixOf_iff_prefix.1 hpre
    rw [← hrest] at hdecode
    simp only [byteOrderMarks, List.mem_cons, List.not_mem_nil, or_false] at hmem
    rcases hmem with rfl | rfl | rfl
    · -- the octets of the mark are those of its character
      have hread := Text.Utf8.decodeFrom_encodeChar 0 '\ufeff' rest
      change Text.Utf8.decode ([0xef, 0xbb, 0xbf] ++ rest) = _ at hread
      rw [hread] at hdecode
      cases htail : Text.Utf8.decodeFrom (0 + (Text.Utf8.encodeChar '\ufeff').length) rest with
      | error failure => rw [htail] at hdecode; cases hdecode
      | ok tail =>
        rw [htail] at hdecode
        cases hdecode
        exact hmark rfl
    · rw [List.cons_append, Text.Utf8.decode, Text.Utf8.decodeFrom] at hdecode
      cases hdecode
    · rw [List.cons_append, Text.Utf8.decode, Text.Utf8.decodeFrom] at hdecode
      cases hdecode
  rw [stripMark, hnone]

/-- A byte-order mark is dropped. -/
theorem stripMark_mark (octets : List UInt8) :
    stripMark ([0xef, 0xbb, 0xbf] ++ octets) = octets := by
  simp [stripMark, byteOrderMarks]

/-- A text without the zero character is decoded from its octets. -/
theorem decode_of_stripMark (path : String) {octets : List UInt8} {text : List Char}
    (hoctets : stripMark octets = Text.Utf8.encode text) (hzero : '\x00' ∉ text) :
    decode path octets = .ok text := by
  have hinspected : ((Text.Utf8.encode text).take inspectedOctets).contains 0 = false := by
    rw [List.contains_eq_mem, decide_eq_false_iff_not]
    exact fun hmem => Text.Utf8.zero_notMem_encode hzero (List.mem_of_mem_take hmem)
  rw [decode, hoctets, hinspected, Text.Utf8.decode_encode]
  rfl

/-! ## Lines -/

/-- What is on either side of the first equals sign of a line. -/
theorem ofText_around {before : List Char} (after : List Char) (hbefore : '=' ∉ before)
    (hremark : isRemark (Text.trim Text.isLineBlank (before ++ '=' :: after)) = false) :
    Line.ofText (before ++ '=' :: after) =
      .pair (Text.trim Text.isLineBlank before) (Text.trim Text.isLineBlank after) := by
  have hblank : Text.isLineBlank '=' = false := rfl
  have hcut := Text.cut?_append (Text.trimRight Text.isLineBlank after)
    (fun hmem => hbefore ((List.dropWhile_sublist Text.isLineBlank).subset hmem))
  rw [Line.ofText]
  simp only [hremark, Bool.false_eq_true, if_false]
  rw [Text.trim_around hblank, hcut]
  simp only [Text.trim_dropWhile, Text.trim_trimRight]

/-- A line that ends with a quote is no remark, unless it is a comment. -/
theorem isRemark_of_quote {first : Char} (rest : List Char) (hfirst : first ≠ '#') :
    isRemark (first :: (rest ++ ['"'])) = false := by
  have hlast : (first :: (rest ++ ['"'])).getLast? = some '"' := by
    rw [← List.cons_append, List.getLast?_concat]
  simp [isRemark, hfirst, hlast]

variable {key blanks : List Char}

theorem not_isLineBlank_of_head? (hkey : IsKey key) {c : Char} (hc : c ∈ key.head?) :
    Text.isLineBlank c = false := by
  have hne : c ≠ '\n' := fun h => hkey.no_newline (h ▸ List.mem_of_mem_head? hc)
  have hfirst := hkey.first c hc
  simp only [List.mem_cons, not_or] at hfirst
  simp [Text.isLineBlank, hne, hfirst]

theorem not_isLineBlank_of_getLast? (hkey : IsKey key) {c : Char} (hc : c ∈ key.getLast?) :
    Text.isLineBlank c = false := by
  have hne : c ≠ '\n' := fun h => hkey.no_newline (h ▸ List.mem_of_mem_getLast? hc)
  have hlast := hkey.last c hc
  simp only [List.mem_cons, not_or] at hlast
  simp [Text.isLineBlank, hne, hlast]

theorem isLineBlank_of_spaces (hblanks : ∀ c ∈ blanks, c = ' ') :
    ∀ c ∈ blanks, Text.isLineBlank c = true := by
  intro c hc
  rw [hblanks c hc]
  rfl

/-- A key keeps its place at the front when the blanks behind it are trimmed. -/
theorem dropWhile_key (hkey : IsKey key) (hblanks : ∀ c ∈ blanks, c = ' ') :
    (key ++ blanks).dropWhile Text.isLineBlank = if key = [] then [] else key ++ blanks := by
  cases key with
  | nil => exact Text.dropWhile_eq_nil_of_all (isLineBlank_of_spaces hblanks)
  | cons c rest =>
    rw [if_neg (List.cons_ne_nil c rest), List.cons_append,
      List.dropWhile_cons_of_neg (by simp [not_isLineBlank_of_head? hkey (c := c) rfl])]

theorem trim_key (hkey : IsKey key) (hblanks : ∀ c ∈ blanks, c = ' ') :
    Text.trim Text.isLineBlank (key ++ blanks) = key := by
  rw [Text.trim, dropWhile_key hkey hblanks]
  split
  · rename_i hnil
    rw [hnil]
    rfl
  · rename_i hne
    obtain ⟨front, c, rfl⟩ := List.eq_nil_or_concat' key |>.resolve_left hne
    have hc := not_isLineBlank_of_getLast? hkey (c := c) (by simp)
    rw [Text.trimRight_append_of_all _ (isLineBlank_of_spaces hblanks), Text.trimRight_of_last hc]

theorem trimRight_quote (front text : List Char) :
    Text.trimRight Text.isLineBlank (front ++ Text.Quoted.quote text) =
      front ++ Text.Quoted.quote text := by
  have hquote : front ++ Text.Quoted.quote text =
      (front ++ '"' :: Text.Quoted.escape text) ++ ['"'] := by
    simp [Text.Quoted.quote]
  rw [hquote]
  exact Text.trimRight_of_last rfl _

/-- A written line is no remark, since it ends with a quote. -/
theorem isRemark_renderSpaced (entry : String × String) (hkey : IsKey entry.1.toList)
    (hblanks : ∀ c ∈ blanks, c = ' ') :
    isRemark (Text.trim Text.isLineBlank (renderSpaced blanks entry)) = false := by
  rw [renderSpaced, Text.trim_around rfl, trimRight_quote, dropWhile_key hkey hblanks]
  split
  · have hend : isRemark ('=' :: ((blanks ++ '"' :: Text.Quoted.escape entry.2.toList) ++ ['"'])) =
        false := isRemark_of_quote _ (by decide)
    simpa [Text.Quoted.quote] using hend
  · rename_i hne
    obtain ⟨c, rest, hcons⟩ := List.exists_cons_of_ne_nil hne
    have hc : c ≠ '#' := by
      have hfirst := hkey.first c (by rw [hcons]; rfl)
      simp only [List.mem_cons, not_or] at hfirst
      exact hfirst.2.2.2.1
    have hend := isRemark_of_quote
      (rest ++ blanks ++ '=' :: (blanks ++ '"' :: Text.Quoted.escape entry.2.toList)) hc
    simpa [hcons, Text.Quoted.quote] using hend

/-- A written line has its key and the quoted form of its text. -/
theorem ofText_renderSpaced (entry : String × String) (hkey : IsKey entry.1.toList)
    (hblanks : ∀ c ∈ blanks, c = ' ') :
    Line.ofText (renderSpaced blanks entry) =
      .pair entry.1.toList (Text.Quoted.quote entry.2.toList) := by
  have hequals : '=' ∉ entry.1.toList ++ blanks := by
    rw [List.mem_append, not_or]
    exact ⟨hkey.no_equals, fun hmem => absurd (hblanks '=' hmem) (by decide)⟩
  have hwritten : Text.trim Text.isLineBlank (blanks ++ Text.Quoted.quote entry.2.toList) =
      Text.Quoted.quote entry.2.toList := by
    have hdrop : (blanks ++ Text.Quoted.quote entry.2.toList).dropWhile Text.isLineBlank =
        [] ++ Text.Quoted.quote entry.2.toList := by
      rw [List.dropWhile_append_of_pos (isLineBlank_of_spaces hblanks)]
      rfl
    rw [Text.trim, hdrop, trimRight_quote, List.nil_append]
  rw [renderSpaced, ofText_around _ hequals (isRemark_renderSpaced entry hkey hblanks),
    trim_key hkey hblanks, hwritten]

/-- A written line is read as its entry. -/
theorem entryOf_renderSpaced (path : String) (entry : String × String)
    (hkey : IsKey entry.1.toList) (hblanks : ∀ c ∈ blanks, c = ' ') :
    entryOf path (Line.ofText (renderSpaced blanks entry)) = .ok (some entry) := by
  have hscan := Text.Quoted.scan?_quote entry.2.toList []
  rw [List.append_nil] at hscan
  have hread : readText path entry.1.toList (Text.Quoted.quote entry.2.toList) =
      .ok entry.2.toList := by
    rw [Text.Quoted.quote, readText, ← Text.Quoted.quote, hscan]
    rfl
  rw [ofText_renderSpaced entry hkey hblanks, entryOf, hread]
  simp only [String.ofList_toList]

theorem entriesOf_renderSpaced (path : String) (entries : List (String × String))
    (hkeys : ∀ entry ∈ entries, IsKey entry.1.toList) (hblanks : ∀ c ∈ blanks, c = ' ') :
    entriesOf path (entries.map (renderSpaced blanks)) = .ok entries := by
  induction entries with
  | nil => rfl
  | cons entry more ih =>
    obtain ⟨hkey, hmore⟩ := List.forall_mem_cons.1 hkeys
    rw [List.map_cons, entriesOf, entryOf_renderSpaced path entry hkey hblanks, ih hmore]
    rfl

/-! ## Whole catalogs -/

/-- The text of a catalog with some blanks on either side of each equals sign. -/
def renderLines (blanks : List Char) (entries : List (String × String)) : List Char :=
  Text.joinWith ['\n'] (entries.map (renderSpaced blanks))

theorem render_eq (entries : List (String × String)) : render entries = renderLines [' '] entries := by
  rw [render, renderEntry_eq, renderLines]

/-- A written line has neither a line feed nor a zero character. -/
theorem notMem_renderSpaced (entry : String × String) (hkey : IsKey entry.1.toList)
    (hblanks : ∀ c ∈ blanks, c = ' ') {c : Char} (hc : c = '\n' ∨ c = '\x00') :
    c ∉ renderSpaced blanks entry := by
  intro hmem
  have hkeyed : c ∉ entry.1.toList := by
    rcases hc with rfl | rfl
    · exact hkey.no_newline
    · exact hkey.no_zero
  have hblank : c ∉ blanks := by
    intro hblank
    rw [hblanks c hblank] at hc
    exact absurd hc (by decide)
  have hbody : c ∉ Text.Quoted.escape entry.2.toList := by
    intro hbody
    have hchars := Text.Quoted.mem_escape hbody
    rcases hc with rfl | rfl <;> revert hchars <;> decide
  have hsigns : c ∉ ['=', '"'] := by
    rcases hc with rfl | rfl <;> decide
  simp only [renderSpaced, Text.Quoted.quote, List.mem_append, List.mem_cons, List.not_mem_nil,
    or_false] at hmem hsigns
  tauto

variable {written : List (String × String)}

theorem zero_notMem_renderLines (hkeys : ∀ entry ∈ written, IsKey entry.1.toList)
    (hblanks : ∀ c ∈ blanks, c = ' ') : '\x00' ∉ renderLines blanks written := by
  intro hmem
  rcases Text.mem_of_mem_joinWith hmem with hsep | ⟨line, hline, hzero⟩
  · revert hsep
    decide
  · obtain ⟨entry, hentry, rfl⟩ := List.mem_map.1 hline
    exact notMem_renderSpaced entry (hkeys entry hentry) hblanks (.inr rfl) hzero

/-- A written catalog does not begin with a byte-order mark. -/
theorem head?_renderLines (hkeys : ∀ entry ∈ written, IsKey entry.1.toList)
    (hblanks : ∀ c ∈ blanks, c = ' ') : (renderLines blanks written).head? ≠ some '\ufeff' := by
  cases written with
  | nil => exact nofun
  | cons entry more =>
    have hkey := hkeys entry List.mem_cons_self
    obtain ⟨rest, hrest⟩ :=
      Text.joinWith_cons ['\n'] (renderSpaced blanks entry) (more.map (renderSpaced blanks))
    rw [renderLines, List.map_cons, hrest, renderSpaced]
    intro hmark
    cases hfront : entry.1.toList with
    | nil =>
      -- the line begins with a blank, or with the equals sign
      rw [hfront] at hmark
      cases blanks with
      | nil => cases hmark
      | cons b more =>
        have hb : b = '\ufeff' := Option.some.inj hmark
        rw [hblanks b List.mem_cons_self] at hb
        cases hb
    | cons c front =>
      rw [hfront] at hmark
      have hc : c = '\ufeff' := Option.some.inj hmark
      have hfirst := hkey.first c (by rw [hfront]; rfl)
      rw [hc] at hfirst
      exact absurd hfirst (by decide)

theorem entriesOf_lines_renderLines (path : String)
    (hkeys : ∀ entry ∈ written, IsKey entry.1.toList) (hblanks : ∀ c ∈ blanks, c = ' ') :
    entriesOf path (Text.lines (renderLines blanks written)) = .ok written := by
  cases written with
  | nil => rfl
  | cons entry more =>
    have hlines : Text.lines (renderLines blanks (entry :: more)) =
        (entry :: more).map (renderSpaced blanks) := by
      refine Text.lines_joinWith (List.cons_ne_nil _ _) fun line hline => ?_
      obtain ⟨e, he, rfl⟩ := List.mem_map.1 hline
      exact notMem_renderSpaced e (hkeys e he) hblanks (.inl rfl)
    rw [hlines, entriesOf_renderSpaced path _ hkeys hblanks]

/-- Octets of a written catalog, with or without a mark, are read as its entries. -/
theorem entries_of_renderLines (path : String) {octets : List UInt8}
    (hkeys : ∀ entry ∈ written, IsKey entry.1.toList) (hblanks : ∀ c ∈ blanks, c = ' ')
    (hoctets : stripMark octets = Text.Utf8.encode (renderLines blanks written)) :
    entries path octets = .ok written := by
  rw [entries, decode_of_stripMark path hoctets (zero_notMem_renderLines hkeys hblanks)]
  exact entriesOf_lines_renderLines path hkeys hblanks

theorem head?_render (hkeys : ∀ entry ∈ written, IsKey entry.1.toList) :
    (render written).head? ≠ some '\ufeff' := by
  rw [render_eq]
  exact head?_renderLines hkeys (List.forall_mem_singleton.2 rfl)

theorem entries_of_stripMark (path : String) {octets : List UInt8}
    (hkeys : ∀ entry ∈ written, IsKey entry.1.toList)
    (hoctets : stripMark octets = Text.Utf8.encode (render written)) :
    entries path octets = .ok written := by
  rw [render_eq] at hoctets
  exact entries_of_renderLines path hkeys (List.forall_mem_singleton.2 rfl) hoctets

/-- **Catalogs round-trip.** Reading a written catalog gives back its entries in order, repeated
keys included, whether or not a byte-order mark comes first. -/
theorem entries_render (path : String) (written : List (String × String))
    (hkeys : ∀ entry ∈ written, IsKey entry.1.toList) :
    entries path (Text.Utf8.encode (render written)) = .ok written ∧
      entries path ([0xef, 0xbb, 0xbf] ++ Text.Utf8.encode (render written)) = .ok written := by
  constructor
  · exact entries_of_stripMark path hkeys (stripMark_encode (head?_render hkeys))
  · exact entries_of_stripMark path hkeys (stripMark_mark _)

/-- A catalog with an empty key, a repeated one, and texts full of signs. -/
def signs : List (String × String) :=
  [("", "\"=\\"), ("[a#", "#]\n"), ("[a#", ""), ("[b]", "\x00\t\r\ufeff")]

theorem entries_render_signs :
    (∀ entry ∈ signs, IsKey entry.1.toList) ∧
      entries "signs.toml" (Text.Utf8.encode (render signs)) = .ok signs ∧
      entries "signs.toml" ([0xef, 0xbb, 0xbf] ++ Text.Utf8.encode (render signs)) =
        .ok signs :=
  have hkeys : ∀ entry ∈ signs, IsKey entry.1.toList := by decide
  ⟨hkeys, entries_render "signs.toml" signs hkeys⟩

end SymbolText.CatalogFile
