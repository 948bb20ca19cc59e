import Mathlib.Data.List.Chain
import SymbolText.Run

/-!
# Runs cover the symbols and are maximal

The symbols of a type are sorted by their keys, which is stable, so that dropping each symbol
with the key of the one before it keeps the first declared symbol of every key. The result is
cut where the next key is not the next integer.

Results:
* `find?_distinctIn`: the distinct symbols have the first declared symbol of each key.
* `distinctIn_increasing`: their keys are strictly increasing.
* `cutRuns_symbols`, `cutRuns_consecutive`, `cutRuns_apart`: cutting keeps the symbols in order,
  leaves consecutive keys inside of a run, and a gap between two runs.
* `splitIntoRuns_maximal`: splitting a non-empty list of symbols succeeds, and yields its
  maximal runs.
-/

namespace SymbolText

/-- The runs of some symbols that are compared in a mode. -/
structure MaximalRuns (mode : Bool) (symbols : List Symbol) (runs : List Run) : Prop where
  /-- Every symbol has a key, since its value is a pattern. -/
  keyed : ∀ s ∈ symbols, Word64.comparable? mode s.value = some (s.keyIn mode)
  /-- There is a run. -/
  ne_nil : runs ≠ []
  /-- Every run has a symbol. -/
  run_ne_nil : ∀ r ∈ runs, r.symbols ≠ []
  /-- The keys of all runs, one after the other, are strictly increasing. -/
  increasing : (runs.flatMap Run.symbols).Pairwise fun a b => a.keyIn mode < b.keyIn mode
  /-- They are the keys of the given symbols. -/
  keys_iff : ∀ k, k ∈ (runs.flatMap Run.symbols).map (Symbol.keyIn mode) ↔
    k ∈ symbols.map (Symbol.keyIn mode)
  /-- The symbol that is kept of a key is the first given one. -/
  first_declared : ∀ s ∈ runs.flatMap Run.symbols,
    symbols.find? (fun t => decide (t.keyIn mode = s.keyIn mode)) = some s
  /-- Inside of a run, each key is the integer after the one before it. -/
  consecutive : ∀ r ∈ runs, r.symbols.IsChain fun a b => b.keyIn mode = a.keyIn mode + 1
  /-- The first key of a run is beyond the integer after the last key of the run before it. -/
  apart : runs.IsChain fun r r' => r.last.keyIn mode + 2 ≤ r'.first.keyIn mode

/-! ## Sorting -/

variable (mode : Bool)

/-- Whether a symbol has the key `k`. -/
def hasKey (k : Int) (s : Symbol) : Bool := decide (s.keyIn mode = k)

theorem keyLe_trans (a b c : Symbol) (hab : decide (a.keyIn mode ≤ b.keyIn mode) = true)
    (hbc : decide (b.keyIn mode ≤ c.keyIn mode) = true) :
    decide (a.keyIn mode ≤ c.keyIn mode) = true := by
  simp only [decide_eq_true_eq] at *
  omega

theorem keyLe_total (a b : Symbol) :
    (decide (a.keyIn mode ≤ b.keyIn mode) || decide (b.keyIn mode ≤ a.keyIn mode)) = true := by
  simp only [Bool.or_eq_true, decide_eq_true_eq]
  omega

theorem sortByKey_pairwise (symbols : List Symbol) :
    (sortByKey mode symbols).Pairwise fun a b => a.keyIn mode ≤ b.keyIn mode := by
  have h := List.pairwise_mergeSort (keyLe_trans mode) (keyLe_total mode) symbols
  exact h.imp fun hab => by simpa using hab

/-- Symbols of one key keep their order. -/
theorem filter_sortByKey (k : Int) (symbols : List Symbol) :
    (sortByKey mode symbols).filter (hasKey mode k) = symbols.filter (hasKey mode k) := by
  have hle : (symbols.filter (hasKey mode k)).Pairwise
      fun a b => decide (a.keyIn mode ≤ b.keyIn mode) = true := by
    rw [List.pairwise_iff_forall_sublist]
    intro a b hab
    have ha := (List.mem_filter.1 (hab.subset (List.mem_cons_self))).2
    have hb := (List.mem_filter.1 (hab.subset (List.mem_cons_of_mem a List.mem_cons_self))).2
    simp only [hasKey, decide_eq_true_eq] at ha hb ⊢
    omega
  have hsub := List.sublist_mergeSort (keyLe_trans mode) (keyLe_total mode) hle
    List.filter_sublist
  have hsub' := hsub.filter (hasKey mode k)
  rw [List.filter_filter] at hsub'
  simp only [Bool.and_self] at hsub'
  have hlen := ((List.mergeSort_perm symbols
    (fun a b => decide (a.keyIn mode ≤ b.keyIn mode))).filter (hasKey mode k)).length_eq
  exact (hsub'.eq_of_length hlen.symm).symm

theorem find?_sortByKey (k : Int) (symbols : List Symbol) :
    (sortByKey mode symbols).find? (hasKey mode k) = symbols.find? (hasKey mode k) := by
  rw [← List.head?_filter, ← List.head?_filter, filter_sortByKey]

/-! ## Dropping repeated keys -/

theorem lt_of_mem_dropRepeated {symbols : List Symbol} {key : Int}
    (hsorted : symbols.Pairwise fun a b => a.keyIn mode ≤ b.keyIn mode)
    (hkey : ∀ s ∈ symbols, key ≤ s.keyIn mode) :
    ∀ s ∈ dropRepeated mode key symbols, key < s.keyIn mode := by
  induction symbols generalizing key with
  | nil => simp [dropRepeated]
  | cons first rest ih =>
    obtain ⟨hfirst, hrest⟩ := List.pairwise_cons.1 hsorted
    have hle := hkey first List.mem_cons_self
    rw [dropRepeated]
    split
    · exact ih hrest fun s hs => hkey s (List.mem_cons_of_mem first hs)
    · intro s hs
      rcases List.mem_cons.1 hs with rfl | hs
      · omega
      · have := ih hrest hfirst s hs
        omega

theorem dropRepeated_increasing {symbols : List Symbol} (key : Int)
    (hsorted : symbols.Pairwise fun a b => a.keyIn mode ≤ b.keyIn mode) :
    (dropRepeated mode key symbols).Pairwise fun a b => a.keyIn mode < b.keyIn mode := by
  induction symbols generalizing key with
  | nil => simp [dropRepeated]
  | cons first rest ih =>
    obtain ⟨hfirst, hrest⟩ := List.pairwise_cons.1 hsorted
    rw [dropRepeated]
    split
    · exact ih key hrest
    · exact List.pairwise_cons.2 ⟨lt_of_mem_dropRepeated mode hrest hfirst, ih _ hrest⟩

theorem find?_eq_none_of_lt {symbols : List Symbol} {k : Int}
    (hlt : ∀ s ∈ symbols, k < s.keyIn mode) : symbols.find? (hasKey mode k) = none := by
  rw [List.find?_eq_none]
  intro s hs
  have := hlt s hs
  simp only [hasKey, decide_eq_true_eq]
  omega

/-- Of every key beyond the one before, the first symbol stays. -/
theorem find?_dropRepeated {symbols : List Symbol} {key k : Int}
    (hsorted : symbols.Pairwise fun a b => a.keyIn mode ≤ b.keyIn mode) (hk : key < k) :
    (dropRepeated mode key symbols).find? (hasKey mode k) =
      symbols.find? (hasKey mode k) := by
  induction symbols generalizing key with
  | nil => rfl
  | cons first rest ih =>
    obtain ⟨hfirst, hrest⟩ := List.pairwise_cons.1 hsorted
    rw [dropRepeated]
    split
    · rename_i hsame
      have hne : ¬ hasKey mode k first = true := by
        simp only [hasKey, decide_eq_true_eq]
        omega
      rw [List.find?_cons_of_neg hne, ih hrest hk]
    · by_cases hfk : hasKey mode k first = true
      · rw [List.find?_cons_of_pos hfk, List.find?_cons_of_pos hfk]
      · rw [List.find?_cons_of_neg hfk, List.find?_cons_of_neg hfk]
        by_cases hlt : first.keyIn mode < k
        · exact ih hrest hlt
        · -- the keys from here on are beyond `k`, so that neither side has a symbol
          have hne : first.keyIn mode ≠ k := by simpa [hasKey] using hfk
          have hbeyond := lt_of_mem_dropRepeated mode hrest hfirst
          rw [find?_eq_none_of_lt mode (fun s hs => by have := hbeyond s hs; omega),
            find?_eq_none_of_lt mode (fun s hs => by have := hfirst s hs; omega)]

/-! ## Distinct symbols -/

theorem minSigned_le_keyIn (s : Symbol) : Word64.minSigned ≤ s.keyIn mode := by
  have h := Word64.reading_fits mode s.value
  cases mode <;>
    simp only [Symbol.keyIn, Word64.Fits, Word64.minSigned, Word64.maxSigned] at h ⊢ <;> omega

/-- The first symbol has a key that counts as new after an integer below all keys. -/
theorem distinctIn_eq_dropRepeated (symbols : List Symbol) :
    distinctIn mode symbols =
      dropRepeated mode (Word64.minSigned - 1) (sortByKey mode symbols) := by
  unfold distinctIn
  split
  · rename_i heq
    rw [heq, dropRepeated]
  · rename_i first rest heq
    have hnew : first.keyIn mode ≠ Word64.minSigned - 1 := by
      have := minSigned_le_keyIn mode first
      omega
    rw [heq, dropRepeated, if_neg hnew]

theorem distinctIn_increasing (symbols : List Symbol) :
    (distinctIn mode symbols).Pairwise fun a b => a.keyIn mode < b.keyIn mode := by
  rw [distinctIn_eq_dropRepeated]
  exact dropRepeated_increasing mode _ (sortByKey_pairwise mode symbols)

/-- Of every key, the distinct symbols have the first declared symbol. -/
theorem find?_distinctIn (k : Int) (symbols : List Symbol) :
    (distinctIn mode symbols).find? (hasKey mode k) = symbols.find? (hasKey mode k) := by
  by_cases hk : Word64.minSigned ≤ k
  · rw [distinctIn_eq_dropRepeated,
      find?_dropRepeated mode (sortByKey_pairwise mode symbols) (by omega), find?_sortByKey]
  · have hlt : ∀ s : Symbol, k < s.keyIn mode := by
      intro s
      have := minSigned_le_keyIn mode s
      omega
    rw [find?_eq_none_of_lt mode fun s _ => hlt s, find?_eq_none_of_lt mode fun s _ => hlt s]

/-- In a list with increasing keys, a symbol is the first one of its key. -/
theorem find?_of_mem_increasing {symbols : List Symbol} {s : Symbol}
    (hinc : symbols.Pairwise fun a b => a.keyIn mode < b.keyIn mode) (hs : s ∈ symbols) :
    symbols.find? (hasKey mode (s.keyIn mode)) = some s := by
  induction symbols with
  | nil => cases hs
  | cons first rest ih =>
    obtain ⟨hfirst, hrest⟩ := List.pairwise_cons.1 hinc
    rcases List.mem_cons.1 hs with rfl | hs
    · rw [List.find?_cons_of_pos (by simp [hasKey])]
    · have := hfirst s hs
      have hne : ¬ hasKey mode (s.keyIn mode) first = true := by
        simp only [hasKey, decide_eq_true_eq]
        omega
      rw [List.find?_cons_of_neg hne, ih hrest hs]

theorem find?_of_mem_distinctIn {symbols : List Symbol} {s : Symbol}
    (hs : s ∈ distinctIn mode symbols) :
    symbols.find? (hasKey mode (s.keyIn mode)) = some s := by
  rw [← find?_distinctIn]
  exact find?_of_mem_increasing mode (distinctIn_increasing mode symbols) hs

theorem mem_keys_iff_find? (k : Int) (symbols : List Symbol) :
    k ∈ symbols.map (Symbol.keyIn mode) ↔ (symbols.find? (hasKey mode k)).isSome := by
  rw [List.find?_isSome, List.mem_map]
  simp only [hasKey, decide_eq_true_eq]

theorem mem_keys_distinctIn_iff (k : Int) (symbols : List Symbol) :
    k ∈ (distinctIn mode symbols).map (Symbol.keyIn mode) ↔
      k ∈ symbols.map (Symbol.keyIn mode) := by
  rw [mem_keys_iff_find?, mem_keys_iff_find?, find?_distinctIn]

/-! ## Cutting -/

theorem cutRuns_cons (first next : Symbol) (more : List Symbol) :
    cutRuns mode first (next :: more) =
      if next.keyIn mode = first.keyIn mode + 1 then
        (⟨first, (cutRuns mode next more).1.symbols⟩, (cutRuns mode next more).2)
      else (⟨first, []⟩, (cutRuns mode next more).1 :: (cutRuns mode next more).2) :=
  rfl

theorem cutRuns_first (first : Symbol) (rest : List Symbol) :
    (cutRuns mode first rest).1.first = first := by
  cases rest with
  | nil => rfl
  | cons next more =>
    rw [cutRuns_cons]
    split <;> rfl

/-- Cutting keeps the symbols in order. -/
theorem cutRuns_symbols (first : Symbol) (rest : List Symbol) :
    (cutRuns mode first rest).1.symbols ++ (cutRuns mode first rest).2.flatMap Run.symbols =
      first :: rest := by
  induction rest generalizing first with
  | nil => rfl
  | cons next more ih =>
    have hrest := ih next
    rw [cutRuns_cons]
    split
    · simpa [Run.symbols] using hrest
    · simpa [Run.symbols] using hrest

/-- Inside of a run the keys are consecutive. -/
theorem cutRuns_consecutive (first : Symbol) (rest : List Symbol) :
    ∀ r ∈ (cutRuns mode first rest).1 :: (cutRuns mode first rest).2,
      r.symbols.IsChain fun a b => b.keyIn mode = a.keyIn mode + 1 := by
  induction rest generalizing first with
  | nil =>
    intro r hr
    rw [List.mem_singleton.1 hr]
    exact List.isChain_singleton first
  | cons next more ih =>
    obtain ⟨hrun, hruns⟩ := List.forall_mem_cons.1 (ih next)
    rw [cutRuns_cons]
    split
    · rename_i hnext
      refine List.forall_mem_cons.2 ⟨?_, hruns⟩
      have hfirst := cutRuns_first mode next more
      simp only [Run.symbols] at hrun ⊢
      rw [List.isChain_cons_cons, hfirst]
      exact ⟨hnext, by rwa [hfirst] at hrun⟩
    · exact List.forall_mem_cons.2
        ⟨List.isChain_singleton first, List.forall_mem_cons.2 ⟨hrun, hruns⟩⟩

/-- Between two runs, an integer is missing from increasing keys. -/
theorem cutRuns_apart (first : Symbol) (rest : List Symbol)
    (hinc : (first :: rest).Pairwise fun a b => a.keyIn mode < b.keyIn mode) :
    ((cutRuns mode first rest).1 :: (cutRuns mode first rest).2).IsChain
      fun r r' => r.last.keyIn mode + 2 ≤ r'.first.keyIn mode := by
  induction rest generalizing first with
  | nil => exact List.isChain_singleton _
  | cons next more ih =>
    obtain ⟨hfirst, hrest⟩ := List.pairwise_cons.1 hinc
    have hruns := ih next hrest
    rw [cutRuns_cons]
    split
    · -- the longer run ends with the same symbol
      have hlast : (Run.mk first (cutRuns mode next more).1.symbols).last =
          (cutRuns mode next more).1.last := by
        simp only [Run.last, Run.symbols, List.getLastD_cons]
      rw [List.isChain_cons] at hruns ⊢
      rwa [hlast]
    · rename_i hnext
      refine List.isChain_cons_cons.2 ⟨?_, hruns⟩
      have hlt := hfirst next List.mem_cons_self
      rw [cutRuns_first]
      simp only [Run.last, List.getLastD_nil]
      omega

/-! ## Splitting -/

theorem distinctIn_ne_nil {symbols : List Symbol} (hne : symbols ≠ []) :
    distinctIn mode symbols ≠ [] := by
  intro hd
  obtain ⟨s, hs⟩ := List.exists_mem_of_ne_nil symbols hne
  have hkey := (mem_keys_distinctIn_iff mode (s.keyIn mode) symbols).2 (List.mem_map_of_mem hs)
  rw [hd] at hkey
  cases hkey

/-- The runs of a non-empty list exist, have its distinct symbols in order, and are cut exactly
where a key is missing. -/
theorem splitIntoRuns_eq_ok {symbols : List Symbol} (signed : Option Bool)
    (hne : symbols ≠ []) :
    ∃ runs, splitIntoRuns symbols signed = .ok runs ∧ runs ≠ [] ∧
      runs.flatMap Run.symbols = distinctIn (comparisonMode symbols signed) symbols ∧
      (∀ r ∈ runs, r.symbols.IsChain fun a b =>
        b.keyIn (comparisonMode symbols signed) = a.keyIn (comparisonMode symbols signed) + 1) ∧
      runs.IsChain fun r r' =>
        r.last.keyIn (comparisonMode symbols signed) + 2 ≤
          r'.first.keyIn (comparisonMode symbols signed) := by
  set mode := comparisonMode symbols signed with hmode
  have hinc := distinctIn_increasing mode symbols
  cases hd : distinctIn mode symbols with
  | nil => exact absurd hd (distinctIn_ne_nil mode hne)
  | cons first rest =>
    rw [hd] at hinc
    have hdistinct : distinctSymbols symbols signed = .ok (first :: rest) := by
      rw [distinctSymbols, if_neg (by simpa using hne), ← hmode, hd]
    refine ⟨(cutRuns mode first rest).1 :: (cutRuns mode first rest).2, ?_, by simp, ?_,
      cutRuns_consecutive mode first rest, cutRuns_apart mode first rest hinc⟩
    · rw [splitIntoRuns, hdistinct]
      rfl
    · rw [List.flatMap_cons, cutRuns_symbols]

/-- **Runs are maximal.** Splitting a non-empty list of symbols succeeds; the runs have the first
declared symbol of every key in increasing order of keys, and are as long as they can be. -/
theorem splitIntoRuns_maximal (symbols : List Symbol) (signed : Option Bool)
    (hne : symbols ≠ []) :
    ∃ runs, splitIntoRuns symbols signed = .ok runs ∧
      MaximalRuns (signed.getD (symbols.any (·.signed))) symbols runs := by
  obtain ⟨runs, hsplit, hruns, hcover, hconsecutive, hapart⟩ := splitIntoRuns_eq_ok signed hne
  refine ⟨runs, hsplit, fun s _ => comparable?_value _ s, hruns,
    fun r _ => List.cons_ne_nil r.first r.rest, ?_, ?_, ?_, hconsecutive, hapart⟩
  · rw [hcover]
    exact distinctIn_increasing _ symbols
  · intro k
    rw [hcover]
    exact mem_keys_distinctIn_iff _ k symbols
  · intro s hs
    rw [hcover] at hs
    exact find?_of_mem_distinctIn _ hs

/-- The greatest unsigned value has a key next to that of zero in a signed set. -/
def wrappingSet : SymbolSet where
  typeName := "Code"
  symbols :=
    [⟨"Code", "Zero", 0, true, "Zero", "0", by decide⟩,
      ⟨"Code", "Top", 18446744073709551615, false, "Top", "18446744073709551615", by decide⟩,
      ⟨"Code", "Nil", 0, true, "Nil", "0", by decide⟩]
  ne_nil := by simp
  owned := by simp

theorem splitIntoRuns_wrapping :
    wrappingSet.symbols ≠ [] ∧
      ∃ runs, splitIntoRuns wrappingSet.symbols none = .ok runs ∧
        MaximalRuns true wrappingSet.symbols runs :=
  ⟨wrappingSet.ne_nil, splitIntoRuns_maximal wrappingSet.symbols none wrappingSet.ne_nil⟩

end SymbolText
