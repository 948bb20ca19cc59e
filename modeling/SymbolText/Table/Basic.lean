import SymbolText.Catalog.Basic
import SymbolText.Run
import SymbolText.Table.Packed

/-!
# Lookup tables

A table maps the values of a set of symbols to texts of one locale. There are three layouts,
chosen by the number of runs: one run needs an index into packed texts only, few runs are
scanned one after the other, and many are entered into a dictionary by their keys.

Models of `select_strategy`, `symbol_text`, `fallback_text`, `build_table` and of `DirectTable`,
`SwitchTable` and `MapTable`, which differ in their layout only.

* `Strategy`, `Strategy.ofRunCount`: the layouts, and the choice between them.
* `textOf`, `fallbackText`: the text of a symbol, and the one of a value without a symbol.
* `Layout`, `Layout.find?`: stored texts by key.
* `Table`, `Table.lookup`, `Table.contains`: tables by value.
* `Table.build`: the table of a set of symbols with a catalog.
-/

namespace SymbolText

/-- The layouts of tables (`TableStrategy`). -/
inductive Strategy
  | direct
  | switch
  | map
  deriving DecidableEq, Repr

namespace Strategy

/-- The largest number of runs that are scanned (`MAX_SWITCH_RUNS`). -/
def maxSwitchRuns : Int := 10

/-- The layout for a number of runs (`select_strategy`). -/
def ofRunCount (count : Int) : Except Error Strategy :=
  if count < 1 then .error (.runCount count)
  else if count = 1 then .ok .direct
  else if count ≤ maxSwitchRuns then .ok .switch
  else .ok .map

/-- The name of a layout. -/
def name : Strategy → String
  | direct => "direct"
  | switch => "switch"
  | map => "map"

end Strategy

/-- The text of a symbol (`symbol_text`): the one that the catalog has for its key unless it is
empty, and its name otherwise. -/
def textOf (catalog : Option Catalog) (s : Symbol) : Text :=
  match catalog.bind fun c => c.textOf? s.key with
  | some text => if text = "" then s.name else text
  | none => s.name

/-- The text of a value without a symbol, unless its numeral is too long (`fallback_text`). -/
def fallbackText (typeName locale : String) (value : Int) : Except Error Text :=
  match Numeral.decimal? value with
  | some numeral => .ok s!"{typeName}[{locale}]({String.ofList numeral})"
  | none => .error .integerTooLong

/-! ## Layouts -/

/-- The texts of a run in a scanned table (`_Segment`): one text for a run of one symbol, and packed
texts otherwise. -/
inductive Segment
  | single (key : Int) (text : Text)
  | packed (low high : Int) (texts : PackedText)
  deriving DecidableEq

/-- The text that a segment has for a key. -/
def Segment.find? : Segment → Int → Option Text
  | single k text, key => if key = k then some text else none
  | packed low high texts, key =>
    if low ≤ key ∧ key ≤ high then texts.slice? (key - low) else none

/-- Stored texts by key (`DirectTable`, `SwitchTable`, `MapTable`). -/
inductive Layout
  /-- The texts of consecutive keys from `low` on. -/
  | direct (low : Int) (texts : PackedText)
  /-- The texts of several runs. -/
  | switch (segments : List Segment)
  /-- The texts of single keys. -/
  | map (entries : Dict Int Text)

namespace Layout

/-- The text that a layout has for a key (`DirectTable._find`, `SwitchTable._find`,
`MapTable._find`). -/
def find? : Layout → Int → Option Text
  | direct low texts, key =>
    let i := key - low
    if i < 0 ∨ (texts.size : Int) ≤ i then none else texts.slice? i
  | switch segments, key => segments.findSome? fun segment => segment.find? key
  | map entries, key => entries.get? key

/-- The strategy that a layout follows. -/
def strategy : Layout → Strategy
  | direct .. => .direct
  | switch _ => .switch
  | map _ => .map

/-- The layout of one run (`DirectTable.__init__`). -/
def ofRun (signed : Bool) (text : Symbol → Text) (run : Run) : Layout :=
  .direct (run.first.keyIn signed) (.pack (run.symbols.map text))

/-- The segment of a run (`_Segment`). -/
def segmentOf (signed : Bool) (text : Symbol → Text) (run : Run) : Segment :=
  match run.rest with
  | [] => .single (run.first.keyIn signed) (text run.first)
  | _ :: _ =>
    .packed (run.first.keyIn signed) (run.last.keyIn signed) (.pack (run.symbols.map text))

/-- The layout that scans runs (`SwitchTable.__init__`). -/
def ofRuns (signed : Bool) (text : Symbol → Text) (runs : List Run) : Layout :=
  .switch (runs.map (segmentOf signed text))

/-- The layout of single symbols (`MapTable.__init__`): their texts are packed and cut apart
again. -/
def ofSymbols (signed : Bool) (text : Symbol → Text) (symbols : List Symbol) : Layout :=
  let packed := PackedText.pack (symbols.map text)
  .map <| .ofList <| symbols.zipIdx.map fun (s, i) =>
    (s.keyIn signed, (packed.slice? (i : Int)).getD [])

end Layout

/-! ## Tables -/

/-- The texts of a type in a locale (`Table`). -/
structure Table where
  typeName : String
  locale : String
  domain : KeyDomain
  layout : Layout

namespace Table

/-- The text that a table has for a value. -/
def find? (t : Table) (value : Int) : Option Text :=
  (t.domain.key? value).bind t.layout.find?

/-- The text of a value (`Table.lookup`). -/
def lookup (t : Table) (value : Int) : Except Error Text :=
  match t.find? value with
  | some text => .ok text
  | none => fallbackText t.typeName t.locale value

/-- Whether a table has a text for a value (`Table.__contains__`). -/
def contains (t : Table) (value : Int) : Bool := (t.find? value).isSome

/-- The written form of a table (`Table.__repr__`). -/
def render (t : Table) : String :=
  let kind := match t.layout.strategy with
    | .direct => "DirectTable"
    | .switch => "SwitchTable"
    | .map => "MapTable"
  s!"{kind}({Text.Literal.ofString t.typeName}, {Text.Literal.ofString t.locale})"

/-- The layout of runs by a strategy; only a single run can be laid out directly. -/
def layoutOf (strategy : Strategy) (signed : Bool) (text : Symbol → Text) (runs : List Run) :
    Except Error Layout :=
  match strategy with
  | .direct =>
    match runs with
    | [run] => .ok (.ofRun signed text run)
    | _ => .error (.directRuns runs.length)
  | .switch => .ok (.ofRuns signed text runs)
  | .map => .ok (.ofSymbols signed text (runs.flatMap Run.symbols))

/-- The table of a set of symbols, split into runs, with the texts of a catalog (`build_table`). The
strategy is chosen by the number of runs unless it is given. -/
def build (set : SymbolSet) (runs : List Run) (locale : String) (catalog : Option Catalog)
    (strategy : Option Strategy) : Except Error Table := do
  let strategy ← match strategy with
    | some strategy => .ok strategy
    | none => Strategy.ofRunCount runs.length
  let layout ← layoutOf strategy set.isSigned (textOf catalog) runs
  .ok ⟨set.typeName, locale, .ofSymbols set.symbols set.isSigned, layout⟩

/-- The table of a set of symbols whose domain knows only the signedness of the set. -/
def buildBare (set : SymbolSet) (runs : List Run) (locale : String) (catalog : Option Catalog) :
    Except Error Table := do
  let strategy ← Strategy.ofRunCount runs.length
  let layout ← layoutOf strategy set.isSigned (textOf catalog) runs
  .ok ⟨set.typeName, locale, .bare set.isSigned, layout⟩

end Table

end SymbolText
