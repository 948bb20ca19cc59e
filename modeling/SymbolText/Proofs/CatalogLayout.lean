import Mathlib.Logic.Relation
import SymbolText.Proofs.Concatenation

/-!
# The layout of a catalog does not matter

The entries of a catalog come from its keys and written texts, which are trimmed. So blanks may be
added at either end of a line and on either side of its first equals sign, lines may end with a
carriage return too, and lines that carry no entry may be put anywhere. What is read stays the same,
and so does the failure where there is one.

* `IsSpacing`: the blanks that may be added.
* `IsIdle`: the lines that carry no entry.
* `Relays`: one change of the layout. `Relaid`: a text with another layout.
* `pairs`: the keys and written texts of lines.

Results:
* `entriesOf_congr`: what is read depends on the keys and written texts only.
* `ofText_pad`, `ofText_spread`, `ofText_of_isIdle`: what a line is does not depend on its blanks.
* `relays_keeps`, `keeps_of_reflTransGen`: changes of the layout keep the keys and written texts.
* `entries_joinWith`: reading lines that may begin with a byte-order mark.
* `entries_relaid`: reading a text with another layout.
-/

namespace SymbolText.CatalogFile

/-! ## Changes of the layout -/

/-- Some spaces, tabs and carriage returns. -/
def IsSpacing (blanks : List Char) : Prop := ∀ c ∈ blanks, c = ' ' ∨ c = '\t' ∨ c = '\r'

/-- A line that carries no entry: it is blank, a comment, a section header, or has no equals
sign. -/
def IsIdle (line : List Char) : Prop :=
  Text.trim Text.isLineBlank line = [] ∨
    (Text.trim Text.isLineBlank line).head? = some '#' ∨
    (∃ name, Text.trim Text.isLineBlank line = '[' :: (name ++ [']'])) ∨
    '=' ∉ line

/-- One change of the layout of some lines. -/
inductive Relays : List (List Char) → List (List Char) → Prop
  /-- Every line end gets a carriage return in front of the line feed. -/
  | lineEnds (ls : List (List Char)) (last : List Char) :
      Relays (ls ++ [last]) (ls.map (· ++ ['\r']) ++ [last])
  /-- Blanks are added at the ends of a line. -/
  | pad (before : List (List Char)) (line : List Char) (after : List (List Char))
      {left right : List Char} (hleft : IsSpacing left) (hright : IsSpacing right) :
      Relays (before ++ line :: after) (before ++ (left ++ line ++ right) :: after)
  /-- Blanks are added on either side of the first equals sign of a line. -/
  | spread (before : List (List Char)) {key : List Char} (written : List Char)
      (after : List (List Char)) {left right : List Char} (hkey : '=' ∉ key)
      (hleft : IsSpacing left) (hright : IsSpacing right) :
      Relays (before ++ (key ++ '=' :: written) :: after)
        (before ++ (key ++ left ++ '=' :: (right ++ written)) :: after)
  /-- A line without an entry is put anywhere. -/
  | insert (before : List (List Char)) {line : List Char} (after : List (List Char))
      (hidle : IsIdle line) (hnewline : '\n' ∉ line) (hzero : '\x00' ∉ line) :
      Relays (before ++ after) (before ++ line :: after)

/-- A text has the lines of another one after some changes of the layout. -/
def Relaid (text text' : List Char) : Prop :=
  ∃ ls, Relation.ReflTransGen Relays (Text.lines text) ls ∧ text' = Text.joinWith ['\n'] ls

/-! ## What is read from lines -/

/-- The key and the written text of a line that has them. -/
def Line.pair? : Line → Option (List Char × List Char)
  | skipped => none
  | pair key written => some (key, written)

/-- The keys and written texts of lines. -/
def pairs (ls : List (List Char)) : List (List Char × List Char) :=
  ls.filterMap fun line => (Line.ofText line).pair?

theorem pairs_append (ls more : List (List Char)) : pairs (ls ++ more) = pairs ls ++ pairs more :=
  List.filterMap_append

theorem pairs_cons (line : List Char) (more : List (List Char)) :
    pairs (line :: more) = (Line.ofText line).pair?.toList ++ pairs more := by
  rw [pairs, List.filterMap_cons]
  cases (Line.ofText line).pair? <;> rfl

/-- The entry of a key and a written text. -/
def readPair (path : String) (p : List Char × List Char) : Except Error (String × String) :=
  (readText path p.1 p.2).map fun text => (String.ofList p.1, String.ofList text)

theorem entriesOf_eq_mapM (path : String) (ls : List (List Char)) :
    entriesOf path ls = (pairs ls).mapM (readPair path) := by
  induction ls with
  | nil => rfl
  | cons line more ih =>
    rw [entriesOf, ih, pairs_cons]
    cases Line.ofText line with
    | skipped =>
      show (pairs more).mapM (readPair path) >>= _ = (pairs more).mapM (readPair path)
      cases (pairs more).mapM (readPair path) <;> rfl
    | pair key written =>
      show _ = ((key, written) :: pairs more).mapM (readPair path)
      rw [List.mapM_cons, entryOf, readPair]
      cases readText path key written with
      | error e => rfl
      | ok text => cases (pairs more).mapM (readPair path) <;> rfl

/-- What is read depends on the keys and written texts only. -/
theorem entriesOf_congr (path : String) {ls ls' : List (List Char)}
    (hpairs : pairs ls' = pairs ls) :
    entriesOf path ls' = entriesOf path ls := by
  rw [entriesOf_eq_mapM, entriesOf_eq_mapM, hpairs]

/-! ## What a line is -/

section Line

variable {key left right : List Char}

theorem IsSpacing.isLineBlank {blanks : List Char} (hblanks : IsSpacing blanks) :
    ∀ c ∈ blanks, Text.isLineBlank c = true := by
  intro c hc
  rcases hblanks c hc with rfl | rfl | rfl <;> rfl

theorem IsSpacing.notMem {blanks : List Char} (hblanks : IsSpacing blanks) {c : Char}
    (hc : c ∉ [' ', '\t', '\r']) : c ∉ blanks := by
  intro hmem
  have := hblanks c hmem
  simp_all

/-- Blanks at the ends of a line do not count. -/
theorem ofText_pad (line : List Char) (hleft : IsSpacing left) (hright : IsSpacing right) :
    Line.ofText (left ++ line ++ right) = Line.ofText line := by
  have htrim := Text.trim_append_of_all line hleft.isLineBlank hright.isLineBlank
  rw [Line.ofText, Line.ofText, htrim]

/-- Whether a line with an equals sign is a remark can be told from its first and last
characters. -/
theorem isRemark_around (front back : List Char) :
    isRemark (front ++ '=' :: back) =
      (decide (front.head? = some '#') ||
        (decide (front.head? = some '[') && decide (back.getLast? = some ']'))) := by
  cases front with
  | nil => simp [isRemark]
  | cons c rest =>
    have hlast : (c :: rest ++ '=' :: back).getLast? = some ']' ↔ back.getLast? = some ']' := by
      rw [List.getLast?_append, List.getLast?_cons]
      cases back.getLast? <;> simp
    simp only [isRemark, hlast, List.head?_cons, Option.some.injEq]
    rfl

/-- What a line with an equals sign is. -/
theorem ofText_sign (written : List Char) (hkey : '=' ∉ key) :
    Line.ofText (key ++ '=' :: written) =
      if isRemark (key.dropWhile Text.isLineBlank ++
          '=' :: Text.trimRight Text.isLineBlank written) then .skipped
      else .pair (Text.trim Text.isLineBlank key) (Text.trim Text.isLineBlank written) := by
  have hsign : Text.isLineBlank '=' = false := rfl
  have htrim := Text.trim_around hsign key written
  rw [← htrim]
  split
  · rename_i hremark
    rw [Line.ofText]
    exact if_pos hremark
  · rename_i hremark
    exact ofText_around written hkey (Bool.eq_false_iff.2 hremark)

/-- Blanks on either side of the first equals sign do not count. -/
theorem ofText_spread (written : List Char) (hkey : '=' ∉ key) (hleft : IsSpacing left)
    (hright : IsSpacing right) :
    Line.ofText (key ++ left ++ '=' :: (right ++ written)) =
      Line.ofText (key ++ '=' :: written) := by
  have hspread : '=' ∉ key ++ left := by
    rw [List.mem_append, not_or]
    exact ⟨hkey, hleft.notMem (by decide)⟩
  have htrimKey : Text.trim Text.isLineBlank (key ++ left) = Text.trim Text.isLineBlank key :=
    Text.trim_append_of_all key (List.forall_mem_nil _) hleft.isLineBlank
  have htrimWritten :
      Text.trim Text.isLineBlank (right ++ written) = Text.trim Text.isLineBlank written := by
    have htrim := Text.trim_append_of_all written hright.isLineBlank (List.forall_mem_nil _)
    rwa [List.append_nil] at htrim
  rw [ofText_sign _ hspread, ofText_sign _ hkey, isRemark_around, isRemark_around,
    Text.head?_dropWhile_append key hleft.isLineBlank,
    Text.getLast?_trimRight_append written hright.isLineBlank, htrimKey, htrimWritten]

theorem ofText_of_notMem {line : List Char} (hline : '=' ∉ line) : Line.ofText line = .skipped := by
  have hcut : Text.cut? '=' (Text.trim Text.isLineBlank line) = none :=
    Text.cut?_of_notMem fun hmem => hline (Text.mem_of_mem_trim hmem)
  rw [Line.ofText]
  simp only [hcut, ite_self]

/-- Blank lines, comments, section headers and lines without an equals sign have no entry. -/
theorem ofText_of_isIdle {line : List Char} (hidle : IsIdle line) :
    Line.ofText line = .skipped := by
  have hremark : isRemark (Text.trim Text.isLineBlank line) = true →
      Line.ofText line = .skipped := by
    intro h
    rw [Line.ofText]
    exact if_pos h
  rcases hidle with hblank | hcomment | ⟨name, hheader⟩ | hnone
  · rw [hblank] at hremark
    exact hremark rfl
  · refine hremark ?_
    obtain ⟨rest, hrest⟩ := List.head?_eq_some_iff.1 hcomment
    rw [hrest]
    rfl
  · refine hremark ?_
    have hlast : ('[' :: (name ++ [']'])).getLast? = some ']' := by
      rw [← List.cons_append, List.getLast?_concat]
    rw [hheader]
    simp [isRemark, hlast]
  · exact ofText_of_notMem hnone

/-- A line without an entry that begins with a byte-order mark has no equals sign. -/
theorem notMem_of_isIdle {line : List Char} (hidle : IsIdle line)
    (hmark : line.head? = some '\ufeff') : '=' ∉ line := by
  have hhead := Text.head?_trim (p := Text.isLineBlank) hmark (by decide)
  rcases hidle with hblank | hcomment | ⟨name, hheader⟩ | hnone
  · rw [hblank] at hhead
    cases hhead
  · rw [hcomment] at hhead
    exact absurd (Option.some.inj hhead) (by decide)
  · rw [hheader] at hhead
    exact absurd (Option.some.inj hhead) (by decide)
  · exact hnone

end Line

/-! ## Lines of a text -/

/-- A line has no line feed and no zero character. -/
def IsLine (line : List Char) : Prop := '\n' ∉ line ∧ '\x00' ∉ line

theorem IsLine.append {a b : List Char} (ha : IsLine a) (hb : IsLine b) : IsLine (a ++ b) := by
  simp only [IsLine, List.mem_append, not_or]
  exact ⟨⟨ha.1, hb.1⟩, ha.2, hb.2⟩

theorem IsSpacing.isLine {blanks : List Char} (hblanks : IsSpacing blanks) : IsLine blanks :=
  ⟨hblanks.notMem (by decide), hblanks.notMem (by decide)⟩

theorem isLine_around {key written : List Char} :
    IsLine (key ++ '=' :: written) ↔ IsLine key ∧ IsLine written := by
  simp only [IsLine, List.mem_append, List.mem_cons, not_or]
  constructor
  · rintro ⟨⟨h₁, -, h₂⟩, h₃, -, h₄⟩
    exact ⟨⟨h₁, h₃⟩, h₂, h₄⟩
  · rintro ⟨⟨h₁, h₃⟩, h₂, h₄⟩
    exact ⟨⟨h₁, by decide, h₂⟩, h₃, by decide, h₄⟩

/-- A first line that begins with a byte-order mark has no equals sign. -/
def IsFirst (line : List Char) : Prop := line.head? = some '\ufeff' → '=' ∉ line

/-- Lines that make up a text, which may begin with a byte-order mark in front of a line without an
entry. -/
structure AreLines (ls : List (List Char)) : Prop where
  ne_nil : ls ≠ []
  isLine : ∀ line ∈ ls, IsLine line
  isFirst : ∀ line ∈ ls.head?, IsFirst line

theorem areLines_lines {text : List Char} (htext : IsPlain text) : AreLines (Text.lines text) where
  ne_nil := Text.lines_ne_nil text
  isLine line hline := by
    refine ⟨Text.newline_notMem_of_mem_lines hline, fun hzero => ?_⟩
    exact htext.no_zero (Text.mem_of_mem_lines hline hzero)
  isFirst line hline hmark := by
    obtain ⟨more, hlines⟩ := List.head?_eq_some_iff.1 hline
    obtain ⟨rest, hjoin⟩ := Text.joinWith_cons ['\n'] line more
    obtain ⟨tail, htail⟩ := List.head?_eq_some_iff.1 hmark
    rw [← hlines, Text.joinWith_lines, htail, List.cons_append] at hjoin
    exact absurd (by rw [hjoin]; rfl) htext.no_mark

section Changes

variable {before after : List (List Char)} {line line' left right : List Char}

/-- A line may stand in the place of another one. -/
theorem AreLines.replace (hlines : AreLines (before ++ line :: after))
    (hline : IsLine line → IsLine line') (hfirst : IsFirst line → IsFirst line') :
    AreLines (before ++ line' :: after) := by
  have hall := hlines.isLine
  rw [List.forall_mem_append, List.forall_mem_cons] at hall
  obtain ⟨hbefore, hmiddle, hafter⟩ := hall
  have hhead := hlines.isFirst
  refine ⟨by simp, ?_, ?_⟩
  · rw [List.forall_mem_append, List.forall_mem_cons]
    exact ⟨hbefore, hline hmiddle, hafter⟩
  · cases before with
    | nil =>
      intro l hl
      obtain rfl : line' = l := Option.some.inj hl
      exact hfirst (hhead line rfl)
    | cons first rest => exact hhead

/-- One more line may be put anywhere. -/
theorem AreLines.insert (hlines : AreLines (before ++ after)) (hline : IsLine line)
    (hfirst : IsFirst line) : AreLines (before ++ line :: after) := by
  have hall := hlines.isLine
  rw [List.forall_mem_append] at hall
  have hhead := hlines.isFirst
  refine ⟨by simp, ?_, ?_⟩
  · rw [List.forall_mem_append, List.forall_mem_cons]
    exact ⟨hall.1, hline, hall.2⟩
  · cases before with
    | nil =>
      intro l hl
      obtain rfl : line = l := Option.some.inj hl
      exact hfirst
    | cons first rest => exact hhead

theorem IsSpacing.head?_ne {blanks : List Char} (hblanks : IsSpacing blanks) :
    blanks.head? ≠ some '\ufeff' :=
  fun hmark => hblanks.notMem (by decide) (List.mem_of_head? hmark)

/-- A line begins with a byte-order mark if it does without the blanks at its ends. -/
theorem IsFirst.pad (hfirst : IsFirst line) (hleft : IsSpacing left) (hright : IsSpacing right) :
    IsFirst (left ++ line ++ right) := by
  intro hmark
  have hhead : line.head? = some '\ufeff' := by
    rw [List.head?_append, List.head?_append, Option.or_eq_some_iff, Option.or_eq_some_iff] at hmark
    rcases hmark with (h | ⟨-, h⟩) | ⟨-, h⟩
    · exact absurd h hleft.head?_ne
    · exact h
    · exact absurd h hright.head?_ne
  simp only [List.mem_append, not_or]
  exact ⟨⟨hleft.notMem (by decide), hfirst hhead⟩, hright.notMem (by decide)⟩

/-- With more blanks around its equals sign, a line does not begin with a byte-order mark either. -/
theorem IsFirst.spread {key written : List Char} (hfirst : IsFirst (key ++ '=' :: written))
    (hleft : IsSpacing left) : IsFirst (key ++ left ++ '=' :: (right ++ written)) := by
  intro hmark
  refine absurd (List.mem_append_right key List.mem_cons_self) (hfirst ?_)
  rw [List.head?_append, List.head?_append, Option.or_eq_some_iff, Option.or_eq_some_iff] at hmark
  rw [List.head?_append, Option.or_eq_some_iff]
  rcases hmark with (h | ⟨-, h⟩) | ⟨-, h⟩
  · exact .inl h
  · exact absurd h hleft.head?_ne
  · exact absurd (Option.some.inj h) (by decide)

theorem pairs_replace (hline : Line.ofText line' = Line.ofText line) :
    pairs (before ++ line' :: after) = pairs (before ++ line :: after) := by
  rw [pairs_append, pairs_append, pairs_cons, pairs_cons, hline]

/-- A carriage return at the end of each line does not count. -/
theorem pairs_map_concat (ls : List (List Char)) : pairs (ls.map (· ++ ['\r'])) = pairs ls := by
  rw [pairs, List.filterMap_map]
  refine List.filterMap_congr fun line _ => ?_
  have hnone : IsSpacing [] := List.forall_mem_nil _
  have hreturn : IsSpacing ['\r'] := by simp [IsSpacing]
  have hpad := ofText_pad line hnone hreturn
  rw [List.nil_append] at hpad
  rw [Function.comp_apply, hpad]

end Changes

/-- A change of the layout keeps the keys and written texts. -/
theorem relays_keeps {ls ls' : List (List Char)} (hchange : Relays ls ls') (hlines : AreLines ls) :
    AreLines ls' ∧ pairs ls' = pairs ls := by
  cases hchange with
  | lineEnds ls last =>
    have hnone : IsSpacing [] := List.forall_mem_nil _
    have hreturn : IsSpacing ['\r'] := by simp [IsSpacing]
    have hall := hlines.isLine
    have hhead := hlines.isFirst
    rw [List.forall_mem_append] at hall
    refine ⟨⟨by simp, ?_, ?_⟩, by rw [pairs_append, pairs_append, pairs_map_concat]⟩
    · rw [List.forall_mem_append, List.forall_mem_map]
      exact ⟨fun line hline => (hall.1 line hline).append hreturn.isLine, hall.2⟩
    · cases ls with
      | nil => exact hhead
      | cons first rest =>
        intro line hline
        obtain rfl : first ++ ['\r'] = line := Option.some.inj hline
        have hpad := (hhead first rfl).pad hnone hreturn
        rwa [List.nil_append] at hpad
  | pad before line after hleft hright =>
    refine ⟨hlines.replace (fun hline => ?_) (fun hfirst => ?_), ?_⟩
    · exact (hleft.isLine.append hline).append hright.isLine
    · exact hfirst.pad hleft hright
    · exact pairs_replace (ofText_pad line hleft hright)
  | spread before written after hkey hleft hright =>
    refine ⟨hlines.replace (fun hline => ?_) (fun hfirst => ?_), ?_⟩
    · obtain ⟨hkeyLine, hwritten⟩ := isLine_around.1 hline
      exact isLine_around.2 ⟨hkeyLine.append hleft.isLine, hright.isLine.append hwritten⟩
    · exact hfirst.spread hleft
    · exact pairs_replace (ofText_spread written hkey hleft hright)
  | insert before after hidle hnewline hzero =>
    refine ⟨hlines.insert ⟨hnewline, hzero⟩ (notMem_of_isIdle hidle), ?_⟩
    rw [pairs_append, pairs_append, pairs_cons, ofText_of_isIdle hidle]
    rfl

theorem keeps_of_reflTransGen {ls ls' : List (List Char)}
    (hchanges : Relation.ReflTransGen Relays ls ls') (hlines : AreLines ls) :
    AreLines ls' ∧ pairs ls' = pairs ls := by
  induction hchanges with
  | refl => exact ⟨hlines, rfl⟩
  | tail _ hchange ih =>
    obtain ⟨hbefore, hpairs⟩ := ih
    obtain ⟨hafter, hsame⟩ := relays_keeps hchange hbefore
    exact ⟨hafter, hsame.trans hpairs⟩

/-! ## Reading a text with another layout -/

theorem joinWith_cons_head (c : Char) (tail : List Char) (more : List (List Char)) :
    Text.joinWith ['\n'] ((c :: tail) :: more) = c :: Text.joinWith ['\n'] (tail :: more) := by
  cases more <;> rfl

theorem zero_notMem_joinWith {ls : List (List Char)} (hlines : ∀ line ∈ ls, IsLine line) :
    '\x00' ∉ Text.joinWith ['\n'] ls := by
  intro hzero
  rcases Text.mem_of_mem_joinWith hzero with hsep | ⟨line, hline, hmem⟩
  · exact absurd hsep (by decide)
  · exact (hlines line hline).2 hmem

/-- A text is read from its octets line by line, also if its first line, which has no entry then,
begins with a byte-order mark. -/
theorem entries_joinWith (path : String) {ls : List (List Char)} (hlines : AreLines ls) :
    entries path (Text.Utf8.encode (Text.joinWith ['\n'] ls)) = entriesOf path ls := by
  have hjoined : ∀ {ls : List (List Char)}, ls ≠ [] → (∀ line ∈ ls, IsLine line) →
      Text.lines (Text.joinWith ['\n'] ls) = ls := by
    intro ls hne hall
    exact Text.lines_joinWith hne fun line hline => (hall line hline).1
  have hread : ∀ {octets : List UInt8} {ls : List (List Char)}, ls ≠ [] →
      (∀ line ∈ ls, IsLine line) →
      stripMark octets = Text.Utf8.encode (Text.joinWith ['\n'] ls) →
      entries path octets = entriesOf path ls := by
    intro octets ls hne hall hoctets
    rw [entries, decode_of_stripMark path hoctets (zero_notMem_joinWith hall)]
    exact congrArg (entriesOf path) (hjoined hne hall)
  by_cases hmark : (Text.joinWith ['\n'] ls).head? = some '\ufeff'
  · obtain ⟨first, more, rfl⟩ := List.exists_cons_of_ne_nil hlines.ne_nil
    obtain ⟨tail, rfl⟩ : ∃ tail, first = '\ufeff' :: tail := by
      cases first with
      | nil =>
        cases more with
        | nil => cases hmark
        | cons next rest => exact absurd (Option.some.inj hmark) (by decide)
      | cons c tail =>
        rw [joinWith_cons_head] at hmark
        exact ⟨tail, by rw [Option.some.inj hmark]⟩
    obtain ⟨hfirst, hmore⟩ := List.forall_mem_cons.1 hlines.isLine
    have hnone : '=' ∉ '\ufeff' :: tail := hlines.isFirst _ rfl rfl
    rw [List.mem_cons, not_or] at hnone
    simp only [IsLine, List.mem_cons, not_or] at hfirst
    have htail : IsLine tail := ⟨hfirst.1.2, hfirst.2.2⟩
    have hoctets : stripMark
        (Text.Utf8.encode (Text.joinWith ['\n'] (('\ufeff' :: tail) :: more))) =
          Text.Utf8.encode (Text.joinWith ['\n'] (tail :: more)) := by
      rw [joinWith_cons_head]
      exact stripMark_mark _
    rw [hread (List.cons_ne_nil _ _) (List.forall_mem_cons.2 ⟨htail, hmore⟩) hoctets]
    refine entriesOf_congr path ?_
    rw [pairs_cons, pairs_cons, ofText_of_notMem hnone.2,
      ofText_of_notMem (List.not_mem_cons_of_ne_of_not_mem hnone.1 hnone.2)]
  · exact hread hlines.ne_nil hlines.isLine (stripMark_encode hmark)

/-- **The layout of a catalog does not matter.** A text without the zero character that does not
begin with a byte-order mark is read alike, with the same entries or with the same failure, after
any changes of its layout. -/
theorem entries_relaid (path : String) {text text' : List Char} (htext : IsPlain text)
    (hrelaid : Relaid text text') :
    entries path (Text.Utf8.encode text') = entries path (Text.Utf8.encode text) := by
  obtain ⟨ls, hchanges, rfl⟩ := hrelaid
  obtain ⟨hlines, hpairs⟩ := keeps_of_reflTransGen hchanges (areLines_lines htext)
  rw [entries_joinWith path hlines, entries_encode path htext, entriesOf_congr path hpairs]

/-- A text whose quoted value ends with its line, behind a backslash, and whose second value has no
quotes. -/
def unquoted : List Char := ['A', '=', '"', '1', '\\', '\n', '[', '=', '1', ']', '"']

/-- The same with blanks, carriage returns, a comment, and a byte-order mark on a line of its
own. -/
def unquotedSpread : List Char :=
  ['\ufeff', '\r', '\n', 'A', ' ', '=', '\t', '"', '1', '\\', '\r', '\n', ' ', '#', '=', '\r', '\n',
    ' ', '[', '=', '1', ']', '"']

theorem entries_relaid_unquoted :
    IsPlain unquoted ∧ Relaid unquoted unquotedSpread ∧
      entries "en.toml" (Text.Utf8.encode unquotedSpread) =
        .error (.unquotedValue "en.toml" "[") := by
  have hplain : IsPlain unquoted := ⟨by decide, by decide⟩
  have hrelaid : Relaid unquoted unquotedSpread := by
    refine ⟨[['\ufeff', '\r'], ['A', ' ', '=', '\t', '"', '1', '\\', '\r'], [' ', '#', '=', '\r'],
      [' ', '[', '=', '1', ']', '"']], ?_, rfl⟩
    have hkey : '=' ∉ ['A'] := by decide
    have hnone : IsSpacing [] := List.forall_mem_nil _
    have hblank : IsSpacing [' '] := by simp [IsSpacing]
    have htab : IsSpacing ['\t'] := by simp [IsSpacing]
    have hremark : IsIdle [' ', '#', '='] := .inr (.inl rfl)
    have hlone : IsIdle ['\ufeff'] := .inr (.inr (.inr (by decide)))
    have hspread := Relays.spread [] ['"', '1', '\\'] [['[', '=', '1', ']', '"']] hkey hblank htab
    have hpad := Relays.pad [['A', ' ', '=', '\t', '"', '1', '\\']] ['[', '=', '1', ']', '"'] []
      hblank hnone
    have hcomment := Relays.insert [['A', ' ', '=', '\t', '"', '1', '\\']]
      [[' ', '[', '=', '1', ']', '"']] hremark (by decide) (by decide)
    have hmark := Relays.insert [] [['A', ' ', '=', '\t', '"', '1', '\\'],
      [' ', '#', '='], [' ', '[', '=', '1', ']', '"']] hlone (by decide) (by decide)
    have hends := Relays.lineEnds
      [['\ufeff'], ['A', ' ', '=', '\t', '"', '1', '\\'], [' ', '#', '=']]
      [' ', '[', '=', '1', ']', '"']
    exact ((((Relation.ReflTransGen.refl.tail hspread).tail hpad).tail hcomment).tail hmark).tail
      hends
  refine ⟨hplain, hrelaid, (entries_relaid "en.toml" hplain hrelaid).trans ?_⟩
  rw [entries_encode "en.toml" hplain]
  rfl

end SymbolText.CatalogFile
