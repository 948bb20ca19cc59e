import SymbolText.Proofs.Keys
import SymbolText.Proofs.Outcome
import SymbolText.Proofs.Packing
import SymbolText.Proofs.Runs
import SymbolText.Table.Basic

/-!
# Tables refine the declarations

A table stores its texts in one of three layouts, by keys. Whichever layout it has, it finds the
text of the first symbol declared with a key, and it finds one for exactly the declared values.

Results:
* `find?_ofRun`, `find?_ofRuns`, `find?_ofSymbols`: each layout has the text of the symbol with a
  key, and none for another key.
* `find?_layoutOf`: so does every layout of the runs of a set.
* `find?_of_build`: a table has the text that the declarations alone give.
* `build_lookup`: the same for the texts that a table is asked for, in all layouts.
-/

namespace SymbolText

/-! ## Texts by declarations -/

/-- The first declared symbol with the pattern of a value. -/
def SymbolSet.firstOfPattern? (set : SymbolSet) (v : Int) : Option Symbol :=
  set.symbols.find? fun s => decide (s.value % Word64.modulus = v % Word64.modulus)

/-- The text that the declarations of a set give a value: that of the first symbol with its
pattern, if the value is declared. -/
def SymbolSet.declaredText? (set : SymbolSet) (catalog : Option Catalog) (v : Int) :
    Option Text :=
  if v ∈ set.symbols.map (·.value) then (set.firstOfPattern? v).map (textOf catalog) else none

theorem firstOfPattern?_eq (set : SymbolSet) (mode : Bool) (v : Int) :
    set.firstOfPattern? v = set.symbols.find? (hasKey mode (Word64.reading mode v)) := by
  unfold SymbolSet.firstOfPattern?
  congr 1
  funext s
  simp only [hasKey, keyIn_eq_reading_iff]

theorem declaredText?_of_undeclared {set : SymbolSet} {catalog : Option Catalog} {v : Int}
    (hnone : ∀ s ∈ set.symbols, s.value ≠ v) : set.declaredText? catalog v = none := by
  refine if_neg fun hmem => ?_
  obtain ⟨s, hs, hv⟩ := List.mem_map.1 hmem
  exact hnone s hs hv

theorem declaredText?_of_declared {set : SymbolSet} (catalog : Option Catalog) {v : Int}
    (hsome : ∃ s ∈ set.symbols, s.value = v) :
    ∃ s, set.firstOfPattern? v = some s ∧
      set.declaredText? catalog v = some (textOf catalog s) := by
  obtain ⟨declared, hmem, rfl⟩ := hsome
  have hisSome : (set.firstOfPattern? declared.value).isSome := by
    rw [SymbolSet.firstOfPattern?, List.find?_isSome]
    exact ⟨declared, hmem, by simp⟩
  obtain ⟨s, hs⟩ := Option.isSome_iff_exists.1 hisSome
  refine ⟨s, hs, ?_⟩
  rw [SymbolSet.declaredText?, if_pos (List.mem_map_of_mem hmem), hs, Option.map_some]

/-! ## Runs -/

section Layouts

variable (mode : Bool) (text : Symbol → Text)

/-- In a run, a symbol is found by the distance of its key from the first one. -/
theorem find?_consecutive (first : Symbol) (rest : List Symbol) (k : Int)
    (hchain : (first :: rest).IsChain fun a b => b.keyIn mode = a.keyIn mode + 1) :
    (first :: rest).find? (hasKey mode k) =
      if first.keyIn mode ≤ k then (first :: rest)[(k - first.keyIn mode).toNat]? else none := by
  induction rest generalizing first with
  | nil =>
    by_cases hk : first.keyIn mode = k
    · rw [List.find?_cons_of_pos (by simp [hasKey, hk]), if_pos (by omega)]
      simp [hk]
    · rw [List.find?_cons_of_neg (by simp [hasKey, hk])]
      split
      · rw [List.getElem?_eq_none (by simp only [List.length_singleton]; omega)]
        rfl
      · rfl
  | cons next more ih =>
    obtain ⟨hnext, hrest⟩ := List.isChain_cons_cons.1 hchain
    by_cases hk : first.keyIn mode = k
    · rw [List.find?_cons_of_pos (by simp [hasKey, hk]), if_pos (by omega)]
      simp [hk]
    · rw [List.find?_cons_of_neg (by simp [hasKey, hk]), ih next hrest]
      by_cases hlt : first.keyIn mode < k
      · have hindex : (k - first.keyIn mode).toNat = (k - next.keyIn mode).toNat + 1 := by omega
        rw [if_pos (by omega), if_pos (by omega), hindex, List.getElem?_cons_succ]
      · rw [if_neg (by omega), if_neg (by omega)]

/-- The key of the last symbol of a run, which has consecutive keys. -/
theorem keyIn_last (run : Run)
    (hchain : run.symbols.IsChain fun a b => b.keyIn mode = a.keyIn mode + 1) :
    run.last.keyIn mode = run.first.keyIn mode + run.rest.length := by
  obtain ⟨first, rest⟩ := run
  simp only [Run.symbols] at hchain
  simp only [Run.last]
  induction rest generalizing first with
  | nil => simp
  | cons next more ih =>
    obtain ⟨hnext, hrest⟩ := List.isChain_cons_cons.1 hchain
    rw [List.getLastD_cons, ih next hrest, hnext, List.length_cons]
    push_cast
    omega

/-- Packed texts of a run by the distance of a key from the first one. -/
theorem slice?_run (run : Run) {k : Int} (hk : run.first.keyIn mode ≤ k)
    (hchain : run.symbols.IsChain fun a b => b.keyIn mode = a.keyIn mode + 1) :
    (PackedText.pack (run.symbols.map text)).slice? (k - run.first.keyIn mode) =
      (run.symbols.find? (hasKey mode k)).map text := by
  have hindex : k - run.first.keyIn mode = ((k - run.first.keyIn mode).toNat : Int) := by omega
  rw [hindex, PackedText.slice?_pack, List.getElem?_map]
  simp only [Run.symbols] at hchain ⊢
  rw [find?_consecutive mode _ _ k hchain, if_pos hk]

/-- A key outside of the range of a run belongs to none of its symbols. -/
theorem find?_run_eq_none (run : Run) {k : Int}
    (hk : k < run.first.keyIn mode ∨ run.last.keyIn mode < k)
    (hchain : run.symbols.IsChain fun a b => b.keyIn mode = a.keyIn mode + 1) :
    run.symbols.find? (hasKey mode k) = none := by
  have hlast := keyIn_last mode run hchain
  simp only [Run.symbols] at hchain ⊢
  rw [find?_consecutive mode _ _ k hchain]
  split
  · rw [List.getElem?_eq_none]
    simp only [List.length_cons]
    omega
  · rfl

/-! ## Layouts -/

namespace Layout

/-- The layout of one run has the texts of its symbols. -/
theorem find?_ofRun (run : Run) (k : Int)
    (hchain : run.symbols.IsChain fun a b => b.keyIn mode = a.keyIn mode + 1) :
    (ofRun mode text run).find? k = (run.symbols.find? (hasKey mode k)).map text := by
  have hlast := keyIn_last mode run hchain
  have hsize : ((PackedText.pack (run.symbols.map text)).size : Int) = run.rest.length + 1 := by
    simp [PackedText.size_pack, Run.symbols]
  simp only [ofRun, find?, hsize]
  split
  · rw [find?_run_eq_none mode run (by omega) hchain]
    rfl
  · exact slice?_run mode text run (by omega) hchain

/-- A segment has the texts of the symbols of its run. -/
theorem find?_segmentOf (run : Run) (k : Int)
    (hchain : run.symbols.IsChain fun a b => b.keyIn mode = a.keyIn mode + 1) :
    (segmentOf mode text run).find? k = (run.symbols.find? (hasKey mode k)).map text := by
  unfold segmentOf
  split
  · rename_i hrest
    simp only [Run.symbols, hrest, Segment.find?]
    by_cases hk : k = run.first.keyIn mode
    · rw [if_pos hk, List.find?_cons_of_pos (by simp [hasKey, hk]), Option.map_some]
    · rw [if_neg hk, List.find?_cons_of_neg (by simp [hasKey, Ne.symm hk])]
      rfl
  · simp only [Segment.find?]
    split
    · rename_i hrange
      exact slice?_run mode text run hrange.1 hchain
    · rw [find?_run_eq_none mode run (by omega) hchain]
      rfl

/-- The layout that scans runs has the texts of all their symbols. -/
theorem find?_ofRuns (runs : List Run) (k : Int)
    (hchain : ∀ r ∈ runs, r.symbols.IsChain fun a b => b.keyIn mode = a.keyIn mode + 1) :
    (ofRuns mode text runs).find? k =
      ((runs.flatMap Run.symbols).find? (hasKey mode k)).map text := by
  simp only [ofRuns, find?]
  induction runs with
  | nil => rfl
  | cons run rest ih =>
    obtain ⟨hrun, hrest⟩ := List.forall_mem_cons.1 hchain
    rw [List.map_cons, List.findSome?_cons, find?_segmentOf mode text run k hrun,
      List.flatMap_cons, List.find?_append]
    cases run.symbols.find? (hasKey mode k) with
    | some s => rfl
    | none => exact ih hrest

/-- Cutting the packed texts of symbols apart again gives the text of each. -/
theorem entries_ofSymbols (symbols : List Symbol) :
    (symbols.zipIdx.map fun (s, i) =>
      (s.keyIn mode, ((PackedText.pack (symbols.map text)).slice? (i : Int)).getD [])) =
    symbols.map fun s => (s.keyIn mode, text s) := by
  apply List.ext_getElem?
  intro i
  rw [List.getElem?_map, List.getElem?_map, List.getElem?_zipIdx]
  cases hi : symbols[i]? with
  | none => rfl
  | some s => simp [PackedText.slice?_pack, hi]

/-- Among increasing keys, a key has one symbol at most. -/
theorem filter_increasing (symbols : List Symbol) (k : Int)
    (hinc : symbols.Pairwise fun a b => a.keyIn mode < b.keyIn mode) :
    symbols.filter (hasKey mode k) = (symbols.find? (hasKey mode k)).toList := by
  induction symbols with
  | nil => rfl
  | cons first rest ih =>
    obtain ⟨hfirst, hrest⟩ := List.pairwise_cons.1 hinc
    by_cases hk : first.keyIn mode = k
    · have hnone : rest.find? (hasKey mode k) = none :=
        find?_eq_none_of_lt mode fun s hs => by have := hfirst s hs; omega
      rw [List.filter_cons_of_pos (by simp [hasKey, hk]), ih hrest, hnone,
        List.find?_cons_of_pos (by simp [hasKey, hk])]
      rfl
    · rw [List.filter_cons_of_neg (by simp [hasKey, hk]),
        List.find?_cons_of_neg (by simp [hasKey, hk]), ih hrest]

/-- The layout of single symbols has their texts, if their keys are increasing. -/
theorem find?_ofSymbols (symbols : List Symbol) (k : Int)
    (hinc : symbols.Pairwise fun a b => a.keyIn mode < b.keyIn mode) :
    (ofSymbols mode text symbols).find? k = (symbols.find? (hasKey mode k)).map text := by
  simp only [ofSymbols, find?]
  rw [entries_ofSymbols, Dict.get?_ofList, Dict.lastValue?, List.filter_map]
  have hfilter : symbols.filter ((fun e => decide (e.1 = k)) ∘ fun s => (s.keyIn mode, text s)) =
      (symbols.find? (hasKey mode k)).toList := filter_increasing mode symbols k hinc
  rw [hfilter]
  cases symbols.find? (hasKey mode k) <;> rfl

end Layout

end Layouts

/-! ## Tables -/

namespace Table

variable {set : SymbolSet} {runs : List Run} {locale : String} {catalog : Option Catalog}

theorem comparisonMode_none (set : SymbolSet) :
    comparisonMode set.symbols none = set.isSigned := rfl

/-- Every layout of the runs of a set has the text of the first symbol of a key. -/
theorem find?_layoutOf {strategy : Strategy} {layout : Layout} (text : Symbol → Text)
    (hruns : splitIntoRuns set.symbols none = .ok runs)
    (hlayout : layoutOf strategy set.isSigned text runs = .ok layout) (k : Int) :
    layout.find? k = (set.symbols.find? (hasKey set.isSigned k)).map text := by
  obtain ⟨runs', hsplit, -, hcover, hchain, -⟩ := splitIntoRuns_eq_ok none set.ne_nil
  rw [comparisonMode_none] at hcover hchain
  obtain rfl : runs' = runs := Except.ok.inj (hsplit.symm.trans hruns)
  rw [← find?_distinctIn, ← hcover]
  cases strategy with
  | direct =>
    simp only [layoutOf] at hlayout
    split at hlayout
    · rename_i run
      obtain rfl := Except.ok.inj hlayout
      rw [Layout.find?_ofRun _ _ run k (hchain run List.mem_cons_self)]
      simp only [List.flatMap_cons, List.flatMap_nil, List.append_nil]
    · cases hlayout
  | switch =>
    obtain rfl := Except.ok.inj hlayout
    exact Layout.find?_ofRuns _ _ runs' k hchain
  | map =>
    obtain rfl := Except.ok.inj hlayout
    refine Layout.find?_ofSymbols _ _ _ k ?_
    rw [hcover]
    exact distinctIn_increasing _ _

/-- A table is built by choosing a strategy and laying out the runs. -/
theorem build_eq (strategy : Option Strategy) :
    build set runs locale catalog strategy =
      (strategy.elim (Strategy.ofRunCount runs.length) .ok) >>= fun s =>
        layoutOf s set.isSigned (textOf catalog) runs >>= fun layout =>
          .ok ⟨set.typeName, locale, .ofSymbols set.symbols set.isSigned, layout⟩ := by
  cases strategy <;> rfl

/-- What a table that was built consists of. -/
theorem eq_of_build {strategy : Option Strategy} {t : Table}
    (hbuild : build set runs locale catalog strategy = .ok t) :
    ∃ s layout, layoutOf s set.isSigned (textOf catalog) runs = .ok layout ∧
      t = ⟨set.typeName, locale, .ofSymbols set.symbols set.isSigned, layout⟩ := by
  rw [build_eq] at hbuild
  obtain ⟨s, -, hbuild⟩ := Outcome.bind_eq_ok_iff.1 hbuild
  obtain ⟨layout, hlayout, hbuild⟩ := Outcome.bind_eq_ok_iff.1 hbuild
  exact ⟨s, layout, hlayout, (Except.ok.inj hbuild).symm⟩

/-- Runs can be laid out, directly only if there is one. -/
theorem exists_layoutOf (signed : Bool) (text : Symbol → Text) {s : Strategy}
    (hdirect : s = .direct → runs.length = 1) :
    ∃ layout, layoutOf s signed text runs = .ok layout := by
  cases s with
  | direct =>
    obtain ⟨run, rfl⟩ := List.length_eq_one_iff.1 (hdirect rfl)
    exact ⟨_, rfl⟩
  | switch => exact ⟨_, rfl⟩
  | map => exact ⟨_, rfl⟩

/-- There is a strategy for any runs, and the direct one is chosen for a single run only. -/
theorem exists_ofRunCount (hruns : runs ≠ []) :
    ∃ s, Strategy.ofRunCount runs.length = .ok s ∧ (s = .direct → runs.length = 1) := by
  have hpos := List.length_pos_iff.2 hruns
  unfold Strategy.ofRunCount
  rw [if_neg (by omega)]
  split
  · exact ⟨.direct, rfl, fun _ => by omega⟩
  · split
    · exact ⟨.switch, rfl, fun h => by cases h⟩
    · exact ⟨.map, rfl, fun h => by cases h⟩

/-- A table can be built by every strategy, directly only from a single run. -/
theorem exists_build (set : SymbolSet) (locale : String) (catalog : Option Catalog)
    (hruns : runs ≠ []) {strategy : Option Strategy}
    (hdirect : strategy = some .direct → runs.length = 1) :
    ∃ t, build set runs locale catalog strategy = .ok t := by
  have hchoice : ∃ s, strategy.elim (Strategy.ofRunCount runs.length) .ok = .ok s ∧
      (s = .direct → runs.length = 1) := by
    cases strategy with
    | none => exact exists_ofRunCount hruns
    | some s => exact ⟨s, rfl, fun h => hdirect (congrArg some h)⟩
  obtain ⟨s, hs, hone⟩ := hchoice
  obtain ⟨layout, hlayout⟩ := exists_layoutOf set.isSigned (textOf catalog) hone
  rw [build_eq, hs, Outcome.ok_bind, hlayout, Outcome.ok_bind]
  exact ⟨_, rfl⟩

/-- A table has the text that the declarations give, and no other. -/
theorem find?_of_build {strategy : Option Strategy} {t : Table}
    (hruns : splitIntoRuns set.symbols none = .ok runs)
    (hbuild : build set runs locale catalog strategy = .ok t) (v : Int) :
    t.find? v = set.declaredText? catalog v := by
  obtain ⟨s, layout, hlayout, rfl⟩ := eq_of_build hbuild
  have hfind := find?_layoutOf (textOf catalog) hruns hlayout
  simp only [find?, SymbolSet.declaredText?]
  split
  · rename_i hdeclared
    obtain ⟨declared, hmem, rfl⟩ := List.mem_map.1 hdeclared
    have hkey := KeyDomain.key?_of_declared hmem
    change (KeyDomain.ofSymbols set.symbols set.isSigned).key? declared.value =
      some (declared.keyIn set.isSigned) at hkey
    rw [hkey, Option.bind_some, hfind, firstOfPattern?_eq set set.isSigned]
    rfl
  · rename_i hdeclared
    cases hkey : (KeyDomain.ofSymbols set.symbols set.isSigned).key? v with
    | none => rfl
    | some k =>
      rw [Option.bind_some, hfind, Option.map_eq_none_iff, List.find?_eq_none]
      intro declared hmem hhas
      simp only [hasKey, decide_eq_true_eq] at hhas
      exact hdeclared (KeyDomain.declared_of_key? hmem hkey hhas)

/-- What a table answers: the text that the declarations give, or the text of the value itself. -/
theorem lookup_of_build {strategy : Option Strategy} {t : Table}
    (hruns : splitIntoRuns set.symbols none = .ok runs)
    (hbuild : build set runs locale catalog strategy = .ok t) (v : Int) :
    t.lookup v =
      match set.declaredText? catalog v with
      | some text => .ok text
      | none => fallbackText set.typeName locale v := by
  have hfind := find?_of_build hruns hbuild v
  obtain ⟨s, layout, hlayout, rfl⟩ := eq_of_build hbuild
  show (match find? _ v with
    | some text => Except.ok text
    | none => fallbackText set.typeName locale v) = _
  rw [hfind]

end Table

/-- **Tables refine the declarations.** The runs of a set can be laid out by every strategy, but
directly only if there is one. Whichever it is, the table has a text for exactly the declared
values: that of the first declared symbol with the pattern of the value. Any other value is
answered by the text of the value itself. So all tables of a set agree. -/
theorem build_lookup (set : SymbolSet) (locale : String) (catalog : Option Catalog) :
    ∃ runs, splitIntoRuns set.symbols none = .ok runs ∧
      (∀ strategy : Option Strategy, (strategy = some .direct → runs.length = 1) →
        ∃ t, Table.build set runs locale catalog strategy = .ok t) ∧
      (∀ strategy t, Table.build set runs locale catalog strategy = .ok t → ∀ v : Int,
        ((∀ s ∈ set.symbols, s.value ≠ v) →
          t.contains v = false ∧ t.lookup v = fallbackText set.typeName locale v) ∧
        ((∃ s ∈ set.symbols, s.value = v) →
          t.contains v = true ∧
            ∃ s, set.firstOfPattern? v = some s ∧ t.lookup v = .ok (textOf catalog s))) ∧
      ∀ strategy strategy' t t', Table.build set runs locale catalog strategy = .ok t →
        Table.build set runs locale catalog strategy' = .ok t' →
        ∀ v : Int, t.lookup v = t'.lookup v ∧ t.contains v = t'.contains v := by
  obtain ⟨runs, hruns, hne, -⟩ := splitIntoRuns_eq_ok none set.ne_nil
  refine ⟨runs, hruns, fun strategy => Table.exists_build set locale catalog hne, ?_, ?_⟩
  · intro strategy t hbuild v
    have hlookup := Table.lookup_of_build hruns hbuild v
    rw [Table.contains, Table.find?_of_build hruns hbuild v]
    constructor
    · intro hnone
      rw [declaredText?_of_undeclared hnone] at hlookup ⊢
      exact ⟨rfl, hlookup⟩
    · intro hsome
      obtain ⟨s, hfirst, htext⟩ := declaredText?_of_declared catalog hsome
      rw [htext] at hlookup ⊢
      exact ⟨rfl, s, hfirst, hlookup⟩
  · intro strategy strategy' t t' hbuild hbuild' v
    rw [Table.contains, Table.contains, Table.lookup_of_build hruns hbuild,
      Table.lookup_of_build hruns hbuild', Table.find?_of_build hruns hbuild,
      Table.find?_of_build hruns hbuild']
    exact ⟨rfl, rfl⟩

/-- The greatest unsigned value is declared and minus one is not, though they have one key. -/
theorem build_lookup_wrapping :
    ∃ runs t, splitIntoRuns wrappingSet.symbols none = .ok runs ∧
      Table.build wrappingSet runs "en" none (some .switch) = .ok t ∧
      t.contains 18446744073709551615 = true ∧
      t.lookup 18446744073709551615 = .ok "Top" ∧
      t.contains (-1) = false ∧ t.lookup (-1) = fallbackText "Code" "en" (-1) := by
  obtain ⟨runs, hruns, hexists, hlookup, -⟩ := build_lookup wrappingSet "en" none
  obtain ⟨t, ht⟩ := hexists (some .switch) fun h => by cases h
  obtain ⟨htop, s, hs, htext⟩ := (hlookup _ t ht 18446744073709551615).2 (by decide)
  obtain ⟨hminus, hfallback⟩ := (hlookup _ t ht (-1)).1 (by decide)
  obtain rfl := Option.some.inj hs
  exact ⟨runs, t, hruns, ht, htop, htext, hminus, hfallback⟩

end SymbolText
