import Mathlib.Data.List.Sort
import SymbolText.Proofs.Lookup

/-!
# Aliases and the order of declaration do not change texts

The text of a value is that of the first symbol declared with its pattern. Symbols may therefore
be declared in another order, as long as those of one pattern stay in theirs, and further names of
declared values may follow. A signed alias in an unsigned set makes the whole set compare its
values as signed: the keys of large values are negative then, and the table can have other runs
and another layout, but not other texts.

Results:
* `Reorders.find?_eq`: in another order of this kind, the first symbol of a pattern is the same.
* `distinctIn_congr`: the distinct symbols are told by the first symbol of each key.
* `Reorders.splitIntoRuns_eq`: such an order has the same runs.
* `Rearranges.declaredText?_eq`: a set with aliases in such an order declares the same texts.
* `build_lookup_rearranged`: so its tables answer alike.
-/

namespace SymbolText

/-- Whether a symbol has the pattern of a value. -/
def Symbol.hasPattern (v : Int) (s : Symbol) : Bool :=
  decide (s.value % Word64.modulus = v % Word64.modulus)

/-- Some symbols in another order, in which those of one pattern come in the same order. -/
structure Reorders (symbols reordered : List Symbol) : Prop where
  perm : reordered.Perm symbols
  stable : ∀ s ∈ symbols,
    reordered.filter (Symbol.hasPattern s.value) = symbols.filter (Symbol.hasPattern s.value)

/-- A set of a type with the symbols of another set in such an order, and aliases after them. -/
structure Rearranges (set : SymbolSet) (reordered aliases : List Symbol) (set' : SymbolSet) :
    Prop where
  typeName : set'.typeName = set.typeName
  symbols : set'.symbols = reordered ++ aliases
  reorders : Reorders set.symbols reordered
  /-- An alias has exactly the value of a declared symbol, in whichever signedness. -/
  declared : ∀ a ∈ aliases, ∃ s ∈ set.symbols, s.value = a.value

/-! ## Order -/

namespace Reorders

variable {symbols reordered : List Symbol}

/-- The symbols of a pattern are the same ones, also if there are none. -/
theorem filter_eq (h : Reorders symbols reordered) (v : Int) :
    reordered.filter (Symbol.hasPattern v) = symbols.filter (Symbol.hasPattern v) := by
  by_cases hsome : ∃ s ∈ symbols, Symbol.hasPattern v s = true
  · obtain ⟨s, hs, hv⟩ := hsome
    have hsame : Symbol.hasPattern v = Symbol.hasPattern s.value := by
      funext t
      simp only [Symbol.hasPattern, decide_eq_true_eq] at hv ⊢
      rw [hv]
    rw [hsame, h.stable s hs]
  · have hnone : ∀ s ∈ symbols, ¬ Symbol.hasPattern v s = true :=
      fun s hs hv => hsome ⟨s, hs, hv⟩
    rw [List.filter_eq_nil_iff.2 hnone,
      List.filter_eq_nil_iff.2 fun s hs => hnone s (h.perm.mem_iff.1 hs)]

theorem find?_eq (h : Reorders symbols reordered) (v : Int) :
    reordered.find? (Symbol.hasPattern v) = symbols.find? (Symbol.hasPattern v) := by
  rw [← List.head?_filter, ← List.head?_filter, h.filter_eq]

theorem comparisonMode_eq (h : Reorders symbols reordered) (signed : Option Bool) :
    comparisonMode reordered signed = comparisonMode symbols signed := by
  rw [comparisonMode, comparisonMode, SymbolSet.anySigned, SymbolSet.anySigned, h.perm.any_eq]

end Reorders

/-! ## Distinct symbols -/

/-- A symbol has a key exactly if it has the pattern that the key is the reading of. -/
theorem hasKey_reading (mode : Bool) (v : Int) :
    hasKey mode (Word64.reading mode v) = Symbol.hasPattern v := by
  funext s
  simp only [hasKey, Symbol.hasPattern, keyIn_eq_reading_iff]

/-- The distinct symbols are those that come first of their key. -/
theorem mem_distinctIn_iff (mode : Bool) (symbols : List Symbol) (s : Symbol) :
    s ∈ distinctIn mode symbols ↔ symbols.find? (hasKey mode (s.keyIn mode)) = some s := by
  constructor
  · exact find?_of_mem_distinctIn mode
  · intro hfirst
    rw [← find?_distinctIn] at hfirst
    exact List.mem_of_find?_eq_some hfirst

/-- Since the keys of distinct symbols are increasing, the first symbols of all keys decide about
their order too. -/
theorem distinctIn_congr (mode : Bool) {symbols symbols' : List Symbol}
    (hfirst : ∀ s : Symbol, symbols'.find? (hasKey mode (s.keyIn mode)) =
      symbols.find? (hasKey mode (s.keyIn mode))) :
    distinctIn mode symbols' = distinctIn mode symbols := by
  have : Std.Irrefl fun a b : Symbol => a.keyIn mode < b.keyIn mode :=
    ⟨fun a => Int.lt_irrefl (a.keyIn mode)⟩
  refine List.Pairwise.eq_of_mem_iff (distinctIn_increasing mode symbols')
    (distinctIn_increasing mode symbols) fun s => ?_
  rw [mem_distinctIn_iff, mem_distinctIn_iff, hfirst s]

/-- The runs do not depend on the order of symbols with different patterns. -/
theorem Reorders.splitIntoRuns_eq {symbols reordered : List Symbol}
    (h : Reorders symbols reordered) (signed : Option Bool) :
    splitIntoRuns reordered signed = splitIntoRuns symbols signed := by
  have hempty : reordered.isEmpty = symbols.isEmpty := h.perm.isEmpty_eq
  have hdistinct : distinctIn (comparisonMode symbols signed) reordered =
      distinctIn (comparisonMode symbols signed) symbols := by
    refine distinctIn_congr _ fun s => ?_
    rw [Symbol.keyIn, hasKey_reading, h.find?_eq]
  rw [splitIntoRuns, splitIntoRuns, distinctSymbols, distinctSymbols,
    h.comparisonMode_eq signed, hempty, hdistinct]

/-! ## Aliases -/

theorem firstOfPattern?_eq_find? (set : SymbolSet) (v : Int) :
    set.firstOfPattern? v = set.symbols.find? (Symbol.hasPattern v) := rfl

namespace Rearranges

variable {set set' : SymbolSet} {reordered aliases : List Symbol}

/-- The same values are declared. -/
theorem mem_values_iff (h : Rearranges set reordered aliases set') (v : Int) :
    v ∈ set'.symbols.map (·.value) ↔ v ∈ set.symbols.map (·.value) := by
  rw [h.symbols, List.map_append, List.mem_append, (h.reorders.perm.map _).mem_iff,
    or_iff_left_iff_imp]
  intro halias
  obtain ⟨a, ha, rfl⟩ := List.mem_map.1 halias
  obtain ⟨s, hs, hvalue⟩ := h.declared a ha
  exact List.mem_map.2 ⟨s, hs, hvalue⟩

/-- Of a declared value, a symbol stands before all aliases. -/
theorem firstOfPattern?_eq (h : Rearranges set reordered aliases set') {v : Int}
    (hv : v ∈ set.symbols.map (·.value)) : set'.firstOfPattern? v = set.firstOfPattern? v := by
  obtain ⟨s, hs, -⟩ := declaredText?_of_declared none (List.mem_map.1 hv)
  have hreordered : reordered.find? (Symbol.hasPattern v) = some s := by
    rw [h.reorders.find?_eq, ← firstOfPattern?_eq_find?, hs]
  rw [hs, firstOfPattern?_eq_find?, h.symbols, List.find?_append, hreordered, Option.some_or]

/-- Every value has the text that it had before. -/
theorem declaredText?_eq (h : Rearranges set reordered aliases set') (catalog : Option Catalog)
    (v : Int) : set'.declaredText? catalog v = set.declaredText? catalog v := by
  have hdeclared := h.mem_values_iff v
  unfold SymbolSet.declaredText?
  by_cases hv : v ∈ set.symbols.map (·.value)
  · rw [if_pos hv, if_pos (hdeclared.2 hv), h.firstOfPattern?_eq hv]
  · rw [if_neg hv, if_neg (mt hdeclared.1 hv)]

/-- Tables of both sets answer alike, by whichever strategies they are laid out. -/
theorem lookup_eq (h : Rearranges set reordered aliases set') {runs runs' : List Run}
    {locale : String} {catalog : Option Catalog} {strategy strategy' : Option Strategy}
    {t t' : Table}
    (hruns : splitIntoRuns set.symbols none = .ok runs)
    (hruns' : splitIntoRuns set'.symbols none = .ok runs')
    (hbuild : Table.build set runs locale catalog strategy = .ok t)
    (hbuild' : Table.build set' runs' locale catalog strategy' = .ok t') (v : Int) :
    t'.lookup v = t.lookup v ∧ t'.contains v = t.contains v := by
  have htext := h.declaredText?_eq catalog v
  constructor
  · rw [Table.lookup_of_build hruns' hbuild', Table.lookup_of_build hruns hbuild, htext,
      h.typeName]
  · rw [Table.contains, Table.contains, Table.find?_of_build hruns' hbuild',
      Table.find?_of_build hruns hbuild, htext]

end Rearranges

/-- **Aliases and the order of declaration do not change texts.** Let a set have the symbols of
another one in an order that keeps those of one pattern in theirs, and aliases of declared values
after them. Both sets have tables, each by the strategy that the number of its own runs asks for,
and the tables answer every integer alike. Without aliases the runs are the same as well. -/
theorem build_lookup_rearranged (set set' : SymbolSet) (reordered aliases : List Symbol)
    (h : Rearranges set reordered aliases set') :
    (∀ (locale : String) (catalog : Option Catalog), ∃ runs runs' t t',
      splitIntoRuns set.symbols none = .ok runs ∧
      splitIntoRuns set'.symbols none = .ok runs' ∧
      Table.build set runs locale catalog none = .ok t ∧
      Table.build set' runs' locale catalog none = .ok t' ∧
      ∀ v : Int, t'.lookup v = t.lookup v ∧ t'.contains v = t.contains v) ∧
    (aliases = [] → ∀ signed,
      splitIntoRuns set'.symbols signed = splitIntoRuns set.symbols signed) := by
  constructor
  · intro locale catalog
    obtain ⟨runs, hruns, hne, -⟩ := splitIntoRuns_eq_ok none set.ne_nil
    obtain ⟨runs', hruns', hne', -⟩ := splitIntoRuns_eq_ok none set'.ne_nil
    have hchosen : (none : Option Strategy) ≠ some .direct := by simp
    obtain ⟨t, ht⟩ := Table.exists_build set locale catalog hne hchosen.elim
    obtain ⟨t', ht'⟩ := Table.exists_build set' locale catalog hne' hchosen.elim
    exact ⟨runs, runs', t, t', hruns, hruns', ht, ht', h.lookup_eq hruns hruns' ht ht'⟩
  · rintro rfl signed
    rw [h.symbols, List.append_nil, h.reorders.splitIntoRuns_eq]

/-! ## A set that an alias makes signed -/

/-- The greatest signed value under two names and the integer after it, all unsigned. -/
def unsignedSet : SymbolSet where
  typeName := "Code"
  symbols :=
    [⟨"Code", "Max", 9223372036854775807, false, "Max", "9223372036854775807", by decide⟩,
      ⟨"Code", "Top", 9223372036854775807, false, "Top", "9223372036854775807", by decide⟩,
      ⟨"Code", "Over", 9223372036854775808, false, "Over", "9223372036854775808", by decide⟩]
  ne_nil := List.cons_ne_nil _ _
  owned := by decide

/-- The greatest value comes first here, and a signed name of the other one last. -/
def aliasedSet : SymbolSet where
  typeName := "Code"
  symbols :=
    [⟨"Code", "Over", 9223372036854775808, false, "Over", "9223372036854775808", by decide⟩,
      ⟨"Code", "Max", 9223372036854775807, false, "Max", "9223372036854775807", by decide⟩,
      ⟨"Code", "Top", 9223372036854775807, false, "Top", "9223372036854775807", by decide⟩,
      ⟨"Code", "Last", 9223372036854775807, true, "Last", "9223372036854775807", by decide⟩]
  ne_nil := List.cons_ne_nil _ _
  owned := by decide

theorem rearranges_aliasedSet :
    Rearranges unsignedSet (aliasedSet.symbols.take 3) (aliasedSet.symbols.drop 3) aliasedSet where
  typeName := rfl
  symbols := rfl
  reorders := ⟨by decide, by decide⟩
  declared := by decide

theorem length_runs_unsignedSet :
    (splitIntoRuns unsignedSet.symbols none).toOption.map List.length = some 1 := by
  have hsorted : sortByKey false unsignedSet.symbols = unsignedSet.symbols :=
    List.mergeSort_of_pairwise (by decide)
  have hmode : comparisonMode unsignedSet.symbols none = false := rfl
  rw [splitIntoRuns, distinctSymbols, hmode, distinctIn, hsorted]
  decide

theorem length_runs_aliasedSet :
    (splitIntoRuns aliasedSet.symbols none).toOption.map List.length = some 2 := by
  have hsorted : sortByKey true aliasedSet.symbols = aliasedSet.symbols :=
    List.mergeSort_of_pairwise (by decide)
  have hmode : comparisonMode aliasedSet.symbols none = true := rfl
  rw [splitIntoRuns, distinctSymbols, hmode, distinctIn, hsorted]
  decide

/-- The alias cuts a run in two, since the greatest value is read as a negative one. -/
theorem build_lookup_aliasedSet :
    unsignedSet.isSigned = false ∧ aliasedSet.isSigned = true ∧
    ∃ runs runs' t t', splitIntoRuns unsignedSet.symbols none = .ok runs ∧ runs.length = 1 ∧
      splitIntoRuns aliasedSet.symbols none = .ok runs' ∧ runs'.length = 2 ∧
      Table.build unsignedSet runs "en" none none = .ok t ∧
      Table.build aliasedSet runs' "en" none none = .ok t' ∧
      ∀ v : Int, t'.lookup v = t.lookup v ∧ t'.contains v = t.contains v := by
  obtain ⟨runs, runs', t, t', hruns, hruns', ht, ht', hsame⟩ :=
    (build_lookup_rearranged unsignedSet aliasedSet _ _ rearranges_aliasedSet).1 "en" none
  have hone := length_runs_unsignedSet
  have htwo := length_runs_aliasedSet
  rw [hruns] at hone
  rw [hruns'] at htwo
  exact ⟨rfl, rfl, runs, runs', t, t', hruns, Option.some.inj hone, hruns',
    Option.some.inj htwo, ht, ht', hsame⟩

end SymbolText
