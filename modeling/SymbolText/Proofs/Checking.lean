import SymbolText.Proofs.Repetitions
import SymbolText.Proofs.Translation

/-!
# Checking accepts what building accepts

A run that builds and a run that only checks need the same: catalogs, a default locale, and symbols
of every requested type. Both get these in the same order, and what either makes of them cannot
fail.

* `Generator.Inputs`, `Generator.inputs`: what both runs need.

Results:
* `outcome_check`, `outcome_build`: what the runs make of it.
* `keys_of_build`: the types of a run, each once, in the order of the requests.
* `check_agrees_build`: both runs fail alike.
-/

namespace SymbolText

namespace Dict

/-- In a dictionary of values by keys of their own, the values have the keys. -/
theorem map_values_ofList {α β : Type} [DecidableEq α] (values : List β) (key : β → α) :
    (ofList (values.map fun v => (key v, v))).values.map key =
      (ofList (values.map fun v => (key v, v))).keys := by
  rw [Dict.values, keys, List.map_map]
  refine List.map_congr_left fun entry hentry => ?_
  have hget := get?_eq_some_iff.2 hentry
  rw [get?_ofList] at hget
  obtain ⟨v, -, hpair⟩ := List.mem_map.1 (mem_of_lastValue? hget)
  obtain ⟨hkey, hvalue⟩ := Prod.mk.inj hpair
  rw [Function.comp_apply, ← hvalue, hkey]

end Dict

namespace Generator

variable {g : Generator} {typeNames : List String} {gen : Generation}

/-! ## What both runs need -/

/-- What both runs need. -/
structure Inputs where
  catalogs : CatalogSet
  resolver : LocaleResolver
  sets : List SymbolSet

/-- The catalogs, the resolver and the requested sets; the first of them that cannot be had is the
failure. -/
def inputs (g : Generator) (typeNames : List String) : Except Error Inputs := do
  let catalogs ← g.catalogs.outcome
  let resolver ← (g.resolver catalogs).outcome
  let sets ← (g.symbolSets typeNames).outcome
  .ok { catalogs, resolver, sets }

theorem inputs_eq_ok_iff {i : Inputs} :
    g.inputs typeNames = .ok i ↔
      g.catalogs.outcome = .ok i.catalogs ∧ (g.resolver i.catalogs).outcome = .ok i.resolver ∧
        (g.symbolSets typeNames).outcome = .ok i.sets := by
  constructor
  · intro hinputs
    obtain ⟨catalogs, hcatalogs, hresolved⟩ := Outcome.bind_eq_ok_iff.1 hinputs
    obtain ⟨resolver, hresolver, hsymbols⟩ := Outcome.bind_eq_ok_iff.1 hresolved
    obtain ⟨sets, hsets, hi⟩ := Outcome.bind_eq_ok_iff.1 hsymbols
    obtain rfl := Except.ok.inj hi
    exact ⟨hcatalogs, hresolver, hsets⟩
  · rintro ⟨hcatalogs, hresolver, hsets⟩
    rw [inputs, hcatalogs, Outcome.ok_bind, hresolver, Outcome.ok_bind, hsets, Outcome.ok_bind]

/-- A run that checks reports on the sets and the catalogs. -/
theorem outcome_check (g : Generator) (typeNames : List String) :
    (g.check typeNames).outcome =
      g.inputs typeNames >>= fun i => .ok (Report.ofSets i.sets i.catalogs) := by
  rw [check, Logged.outcome_bind, inputs]
  cases g.catalogs.outcome with
  | error e => rfl
  | ok catalogs =>
    rw [Outcome.ok_bind, Outcome.ok_bind, Logged.outcome_bind]
    cases (g.resolver catalogs).outcome with
    | error e => rfl
    | ok resolver =>
      rw [Outcome.ok_bind, Outcome.ok_bind, Logged.outcome_bind]
      cases (g.symbolSets typeNames).outcome <;> rfl

/-- A run that builds compiles the sets. -/
theorem outcome_build (g : Generator) (typeNames : List String) :
    (g.build typeNames).outcome =
      g.inputs typeNames >>= fun i =>
        (i.sets.mapM fun set => CompiledType.compile set i.catalogs i.resolver.defaultLocale) >>=
          fun types =>
            .ok ⟨.ofList (types.map fun c => (c.typeName, c)), i.catalogs, i.resolver⟩ := by
  rw [build, Logged.outcome_bind, inputs]
  cases g.catalogs.outcome with
  | error e => rfl
  | ok catalogs =>
    rw [Outcome.ok_bind, Outcome.ok_bind, Logged.outcome_bind]
    cases (g.resolver catalogs).outcome with
    | error e => rfl
    | ok resolver =>
      rw [Outcome.ok_bind, Outcome.ok_bind, Logged.outcome_bind]
      cases (g.symbolSets typeNames).outcome with
      | error e => rfl
      | ok sets => exact Logged.outcome_bind _ _

/-! ## Failures -/

/-- A check fails only for want of what it needs. -/
theorem check_eq_error_iff {e : Error} :
    (g.check typeNames).outcome = .error e ↔ g.inputs typeNames = .error e := by
  rw [outcome_check, Outcome.bind_eq_error_iff]
  exact or_iff_left nofun

/-- So does a run that builds, since every set can be compiled. -/
theorem build_eq_error_iff {e : Error} :
    (g.build typeNames).outcome = .error e ↔ g.inputs typeNames = .error e := by
  rw [outcome_build, Outcome.bind_eq_error_iff]
  refine or_iff_left ?_
  rintro ⟨i, -, hfailed⟩
  obtain ⟨types, htypes⟩ := Outcome.exists_mapM_iff.2 fun set (_ : set ∈ i.sets) =>
    CompiledType.exists_compile set i.catalogs i.resolver.defaultLocale
  rw [htypes] at hfailed
  cases hfailed

/-! ## Types -/

/-- The compiled types are the requested ones, each once, in the order of the requests. -/
theorem keys_of_build (hbuild : (g.build typeNames).outcome = .ok gen) :
    gen.compiled.keys = typeNames.eraseDups := by
  obtain ⟨-, sets, types, -, -, -, hsets, htypes, hcompiled⟩ := build_eq_ok hbuild
  have hnames := map_typeName_of_build hsets htypes fun name set h => typeName_of_symbolSet h
  have hkeys := Dict.keys_update .empty (types.map fun c => (c.typeName, c))
  rw [hcompiled, Dict.ofList, hkeys, List.map_map]
  show ([] ++ types.map CompiledType.typeName).eraseDups = typeNames.eraseDups
  rw [hnames, List.nil_append]

/-- Each is compiled under its own name. -/
theorem map_typeName_values_of_build (hbuild : (g.build typeNames).outcome = .ok gen) :
    gen.compiled.values.map CompiledType.typeName = gen.compiled.keys := by
  obtain ⟨-, -, types, -, -, -, -, -, hcompiled⟩ := build_eq_ok hbuild
  rw [hcompiled]
  exact Dict.map_values_ofList types CompiledType.typeName

/-- **Checking and building agree.** A run that checks fails if and only if a run that builds does,
and with the same error: once the catalogs are loaded, the default locale is found and the sets are
made, every set can be compiled. A run that succeeds has compiled each requested type once, in the
order of the first requests. -/
theorem check_agrees_build (g : Generator) (typeNames : List String) :
    (∀ e, (g.check typeNames).outcome = .error e ↔ (g.build typeNames).outcome = .error e) ∧
    (∀ catalogs resolver sets, g.catalogs.outcome = .ok catalogs →
      (g.resolver catalogs).outcome = .ok resolver →
      (g.symbolSets typeNames).outcome = .ok sets →
      (∀ set ∈ sets, ∃ c, CompiledType.compile set catalogs resolver.defaultLocale = .ok c) ∧
      (∃ r, (g.check typeNames).outcome = .ok r) ∧
      ∃ gen, (g.build typeNames).outcome = .ok gen) ∧
    ∀ gen, (g.build typeNames).outcome = .ok gen →
      gen.compiled.keys = typeNames.eraseDups ∧
      gen.compiled.values.map CompiledType.typeName = typeNames.eraseDups := by
  refine ⟨fun e => check_eq_error_iff.trans build_eq_error_iff.symm, ?_, ?_⟩
  · intro catalogs resolver sets hcatalogs hresolver hsets
    have hinputs : g.inputs typeNames = .ok ⟨catalogs, resolver, sets⟩ :=
      inputs_eq_ok_iff.2 ⟨hcatalogs, hresolver, hsets⟩
    refine ⟨fun set _ => CompiledType.exists_compile set catalogs _, ?_, ?_⟩
    · exact ⟨_, by rw [outcome_check, hinputs, Outcome.ok_bind]⟩
    · cases hbuild : (g.build typeNames).outcome with
      | ok gen => exact ⟨gen, rfl⟩
      | error e =>
        rw [build_eq_error_iff.1 hbuild] at hinputs
        cases hinputs
  · intro gen hbuild
    have hkeys := keys_of_build hbuild
    exact ⟨hkeys, (map_typeName_values_of_build hbuild).trans hkeys⟩

/-- A type that is requested again is compiled once; a type without declarations is refused in both
runs. -/
theorem check_agrees_build_merging :
    (∃ gen, (merging.build ["Code", "Code"]).outcome = .ok gen ∧ gen.compiled.keys = ["Code"]) ∧
      (merging.check ["Code", "Lost"]).outcome = .error (.noValues (.ofString "Lost")) ∧
      (merging.build ["Code", "Lost"]).outcome = .error (.noValues (.ofString "Lost")) := by
  obtain ⟨d, hlocate, hsome, hread, hdefault, hset⟩ := exists_build_iff.1 exists_build_merging
  obtain ⟨-, -, htypes⟩ := check_agrees_build merging ["Code", "Code"]
  obtain ⟨hsame, -, -⟩ := check_agrees_build merging ["Code", "Lost"]
  have htwice : ∃ gen, (merging.build ["Code", "Code"]).outcome = .ok gen :=
    exists_build_iff.2 ⟨d, hlocate, hsome, hread, hdefault, fun t ht => hset t (by simpa using ht)⟩
  obtain ⟨gen, hbuild⟩ := htwice
  have hlost : (merging.check ["Code", "Lost"]).outcome =
      .error (.noValues (.ofString "Lost")) := by
    rw [outcome_build] at hbuild
    obtain ⟨i, hinputs, -⟩ := Outcome.bind_eq_ok_iff.1 hbuild
    obtain ⟨hcatalogs, hresolver, -⟩ := inputs_eq_ok_iff.1 hinputs
    rw [check_eq_error_iff, inputs, hcatalogs, Outcome.ok_bind, hresolver]
    rfl
  exact ⟨⟨gen, hbuild, (htypes gen hbuild).1⟩, hlost, (hsame _).1 hlost⟩

end Generator

end SymbolText
