import SymbolText.Symbol.Key

/-!
# Runs

A run is a sequence of symbols whose keys are consecutive integers. The symbols of a set are
sorted by their keys, of symbols with one key the first declared is kept, and the result is cut
wherever the next key is not the next integer.

Models of `Run`, `distinct_symbols` and `split_into_runs`.

* `Run`: a non-empty sequence of symbols.
* `distinctSymbols`: the symbols in the order of their keys, one for each key.
* `splitIntoRuns`: the runs.
-/

namespace SymbolText

/-- A non-empty sequence of symbols in the order of their keys (`Run`). -/
structure Run where
  first : Symbol
  rest : List Symbol
  deriving DecidableEq

namespace Run

/-- The symbols of a run. -/
def symbols (r : Run) : List Symbol := r.first :: r.rest

/-- The number of symbols of a run (`Run.__len__`). -/
def size (r : Run) : Nat := r.symbols.length

/-- The last symbol of a run. -/
def last (r : Run) : Symbol := r.rest.getLastD r.first

/-- The value that the first symbol declares (`Run.low`). -/
def low (r : Run) : Int := r.first.value

/-- The value that the last symbol declares (`Run.high`). -/
def high (r : Run) : Int := r.last.value

end Run

/-- The symbols in the order of their keys; those of one key stay in the order of their
declaration. -/
def sortByKey (signed : Bool) (symbols : List Symbol) : List Symbol :=
  symbols.mergeSort fun a b => decide (a.keyIn signed ≤ b.keyIn signed)

/-- Drops each symbol with the same key as the one before it, starting after `key`. -/
def dropRepeated (signed : Bool) (key : Int) : List Symbol → List Symbol
  | [] => []
  | s :: rest =>
    if s.keyIn signed = key then dropRepeated signed key rest
    else s :: dropRepeated signed (s.keyIn signed) rest

/-- The symbols in the order of their keys, the first declared of each key. -/
def distinctIn (signed : Bool) (symbols : List Symbol) : List Symbol :=
  match sortByKey signed symbols with
  | [] => []
  | first :: rest => first :: dropRepeated signed (first.keyIn signed) rest

/-- The runs of a sequence with the first symbol `first`, as the first run and the others. -/
def cutRuns (signed : Bool) (first : Symbol) : List Symbol → Run × List Run
  | [] => (⟨first, []⟩, [])
  | next :: more =>
    let (run, runs) := cutRuns signed next more
    if next.keyIn signed = first.keyIn signed + 1 then (⟨first, run.symbols⟩, runs)
    else (⟨first, []⟩, run :: runs)

/-- The signedness to compare symbols with (`_resolve_signed`): signed if any of them is, unless it
is given. -/
def comparisonMode (symbols : List Symbol) (signed : Option Bool) : Bool :=
  signed.getD (SymbolSet.anySigned symbols)

/-- The distinct symbols of a non-empty list (`distinct_symbols`). -/
def distinctSymbols (symbols : List Symbol) (signed : Option Bool) : Except Error (List Symbol) :=
  if symbols.isEmpty then .error .noSymbols
  else .ok (distinctIn (comparisonMode symbols signed) symbols)

/-- The runs of a non-empty list of symbols (`split_into_runs`). -/
def splitIntoRuns (symbols : List Symbol) (signed : Option Bool) : Except Error (List Run) := do
  match ← distinctSymbols symbols signed with
  | [] => .error .noSymbols
  | first :: rest =>
    let (run, runs) := cutRuns (comparisonMode symbols signed) first rest
    .ok (run :: runs)

end SymbolText
