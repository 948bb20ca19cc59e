import SymbolText.Proofs.Agreement
import SymbolText.Proofs.Generation
import SymbolText.Proofs.Rendering

/-!
# Translation is refused for long numerals only

A translator that comes out of a run finds a table for every request. What it looks up and fills in
is a text, and the one thing that can stop it is an integer whose numeral is too long: the value
that is looked up, if it is not declared, or one in an argument that is not written otherwise.

* `Complete`: a translator whose types have tables for all locales.
* `Translator.Writable`: an argument that can be written in place of a directive.
* `Ends`: how the translation of a symbol ends.

Results:
* `textIn_of_complete`: the texts of declared and of other values.
* `translateIn_ends`: a translation ends with a text or for the numeral of an argument.
* `complete_of_build`: the translator of a run is complete.
* `ends_of_build`: how all requests to the translator of a run end.
-/

namespace SymbolText

namespace Translator

open Template

variable {t : Translator} {typeName locale : String} {c : CompiledType} {n : Int}

/-! ## Look-ups -/

/-- Every compiled type has a table for each locale, with a text for each declared value; any other
value has the text of its numeral. -/
def Complete (t : Translator) : Prop :=
  ∀ typeName c, t.compiled.get? typeName = some c → ∀ locale ∈ t.resolver.locales,
    ∃ table, c.table locale = .ok table ∧ ∀ n,
      ((∃ s ∈ c.set.symbols, s.value = n) → ∃ text, table.lookup n = .ok text) ∧
      ((∀ s ∈ c.set.symbols, s.value ≠ n) → table.lookup n = fallbackText typeName locale n)

/-- A declared value has a text, and any other value has one unless its numeral is too long. -/
theorem textIn_of_complete (hcomplete : t.Complete) (hc : t.compiled.get? typeName = some c)
    (hlocale : locale ∈ t.resolver.locales) (n : Int) :
    ((∃ s ∈ c.set.symbols, s.value = n) → ∃ text, t.textIn typeName n locale = .ok text) ∧
      ((∀ s ∈ c.set.symbols, s.value ≠ n) →
        t.textIn typeName n locale =
          if Numeral.isTooLong n then .error .integerTooLong
          else .ok s!"{typeName}[{locale}]({String.ofList (Numeral.decimal n)})") := by
  obtain ⟨table, htable, hlookup⟩ := hcomplete typeName c hc locale hlocale
  have htext : t.textIn typeName n locale = table.lookup n := by
    rw [textIn, compiledType, hc]
    dsimp only
    rw [Outcome.ok_bind, htable, Outcome.ok_bind]
  rw [htext]
  refine ⟨(hlookup n).1, fun hnone => ?_⟩
  rw [(hlookup n).2 hnone]
  exact Generator.fallbackText_eq typeName locale n

/-- A value with a short numeral has a text. -/
theorem exists_textIn (hcomplete : t.Complete) (hc : t.compiled.get? typeName = some c)
    (hlocale : locale ∈ t.resolver.locales) (hshort : Numeral.isTooLong n = false) :
    ∃ text, t.textIn typeName n locale = .ok text := by
  obtain ⟨hdeclared, hother⟩ := textIn_of_complete hcomplete hc hlocale n
  by_cases hsome : ∃ s ∈ c.set.symbols, s.value = n
  · exact hdeclared hsome
  · have hnone : ∀ s ∈ c.set.symbols, s.value ≠ n := fun s hs hv => hsome ⟨s, hs, hv⟩
    rw [hother hnone, hshort]
    exact ⟨_, rfl⟩

/-! ## Arguments -/

/-- An argument can be written in place of a directive, if there is one: a reference to a compiled
type if it has a text, and anything else as the value that it is. -/
def Writable (t : Translator) (d? : Option Directive) : Argument → Prop
  | .literal v => Template.Writable d? v
  | .reference typeName n =>
    match t.compiled.get? typeName with
    | some c => (∃ s ∈ c.set.symbols, s.value = n) ∨ Numeral.isTooLong n = false
    | none => Template.Writable d? (.int n)

/-- A value without a long numeral makes an argument that can be written anywhere. -/
theorem writable_ofValue {v : Value} (hshort : ¬ v.Overlong) (d? : Option Directive) :
    t.Writable d? (Argument.ofValue typeName v) := by
  have hreference : ∀ typeName n, Numeral.isTooLong n = false →
      t.Writable d? (.reference typeName n) := by
    intro typeName n hn
    rw [Writable]
    cases t.compiled.get? typeName with
    | some c => exact .inr hn
    | none => exact .inr (by simp [Value.Overlong, Value.integers, hn])
  cases v with
  | reference typeName n =>
    exact hreference _ _ (by simpa [Value.Overlong, Value.integers] using hshort)
  | literal v => exact .inr hshort
  | symbol s =>
    rw [Argument.ofValue]
    split
    · exact hreference _ _ (Numeral.isTooLong_of_fits s.fits)
    · exact .inr hshort
  | _ => exact .inr hshort

/-- A long value of a compiled type that is not declared can be written nowhere. -/
theorem not_writable_of_undeclared (hc : t.compiled.get? typeName = some c)
    (hnone : ∀ s ∈ c.set.symbols, s.value ≠ n) (hlong : Numeral.isTooLong n = true)
    (d? : Option Directive) : ¬ t.Writable d? (.reference typeName n) := by
  rw [Writable, hc]
  rintro (⟨s, hs, hvalue⟩ | hshort)
  · exact hnone s hs hvalue
  · rw [hlong] at hshort
    cases hshort

theorem expand_of_compiled (hc : t.compiled.get? typeName = some c) (locale : String) (n : Int) :
    t.expand locale (.reference typeName n) = (t.textIn typeName n locale).map Value.text := by
  rw [expand, hc, textIn, compiledType, hc]
  dsimp only
  rw [Outcome.ok_bind]
  cases c.table locale with
  | error e => rfl
  | ok table =>
    rw [Outcome.ok_bind, Outcome.ok_bind]
    cases table.lookup n <;> rfl

/-- An argument that can be written stands for a value that can. -/
theorem expand_of_writable (hcomplete : t.Complete) (hlocale : locale ∈ t.resolver.locales)
    {d? : Option Directive} {a : Argument} (hwritable : t.Writable d? a) :
    ∃ v, t.expand locale a = .ok v ∧ Template.Writable d? v := by
  cases a with
  | literal v => exact ⟨v, rfl, hwritable⟩
  | reference typeName n =>
    rw [Writable] at hwritable
    cases hc : t.compiled.get? typeName with
    | none =>
      rw [hc] at hwritable
      exact ⟨.int n, by rw [expand, hc], hwritable⟩
    | some c =>
      rw [hc] at hwritable
      have htext : ∃ text, t.textIn typeName n locale = .ok text := by
        rcases hwritable with hdeclared | hshort
        · exact (textIn_of_complete hcomplete hc hlocale n).1 hdeclared
        · exact exists_textIn hcomplete hc hlocale hshort
      obtain ⟨text, htext⟩ := htext
      refine ⟨.text text, ?_, .inr (by simp [Value.Overlong, Value.integers])⟩
      rw [expand_of_compiled hc, htext]
      rfl

/-- One that cannot be written has no value for the same numeral, or stands for a value that
cannot. -/
theorem expand_of_not_writable (hcomplete : t.Complete) (hlocale : locale ∈ t.resolver.locales)
    {d? : Option Directive} {a : Argument} (hrefused : ¬ t.Writable d? a) :
    t.expand locale a = .error .integerTooLong ∨
      ∃ v, t.expand locale a = .ok v ∧ ¬ Template.Writable d? v := by
  cases a with
  | literal v => exact .inr ⟨v, rfl, hrefused⟩
  | reference typeName n =>
    rw [Writable] at hrefused
    cases hc : t.compiled.get? typeName with
    | none =>
      rw [hc] at hrefused
      exact .inr ⟨.int n, by rw [expand, hc], hrefused⟩
    | some c =>
      rw [hc] at hrefused
      obtain ⟨hundeclared, hlong⟩ := not_or.1 hrefused
      have hnone : ∀ s ∈ c.set.symbols, s.value ≠ n :=
        fun s hs hv => hundeclared ⟨s, hs, hv⟩
      rw [expand_of_compiled hc, (textIn_of_complete hcomplete hc hlocale n).2 hnone,
        if_pos (Bool.not_eq_false _ ▸ hlong)]
      exact .inl rfl

theorem expand_cases (hcomplete : t.Complete) (hlocale : locale ∈ t.resolver.locales)
    (a : Argument) :
    (∃ v, t.expand locale a = .ok v) ∨ t.expand locale a = .error .integerTooLong := by
  by_cases hwritable : t.Writable none a
  · obtain ⟨v, hv, -⟩ := expand_of_writable hcomplete hlocale hwritable
    exact .inl ⟨v, hv⟩
  · rcases expand_of_not_writable hcomplete hlocale hwritable with herror | ⟨v, hv, -⟩
    · exact .inr herror
    · exact .inl ⟨v, hv⟩

/-! ## Translations -/

/-- How the translation of a symbol in a locale ends. -/
inductive Ends (t : Translator) (s : Symbol) (locale : String) (args : List Value) :
    Except Error Text → Prop
  /-- Without arguments the text is given as it is. -/
  | verbatim {template : Text} (htemplate : t.textIn s.typeName s.value locale = .ok template)
      (hnone : args = []) : Ends t s locale args (.ok template)
  /-- If all arguments can be written, the text is filled with what they stand for. -/
  | filled {template : Text} {values : List Value}
      (htemplate : t.textIn s.typeName s.value locale = .ok template) (hsome : args ≠ [])
      (hwritable : ∀ (i : Nat) a, (arguments s args)[i]? = some a →
        t.Writable (takers (Piece.ofTemplate template))[i]? a)
      (hvalues : (arguments s args).mapM (t.expand locale) = .ok values) :
      Ends t s locale args (.ok (Template.filled template values))
  /-- The numeral of an argument that cannot be written is refused. -/
  | refused {template : Text} {i : Nat} {a : Argument}
      (htemplate : t.textIn s.typeName s.value locale = .ok template)
      (harg : (arguments s args)[i]? = some a)
      (hrefused : ¬ t.Writable (takers (Piece.ofTemplate template))[i]? a) :
      Ends t s locale args (.error .integerTooLong)

variable {s : Symbol} {args : List Value}

theorem translateIn_of_ne_nil {template : Text}
    (htemplate : t.textIn s.typeName s.value locale = .ok template) (hsome : args ≠ []) :
    t.translateIn s locale args =
      (arguments s args).mapM (t.expand locale) >>= Template.fill template := by
  rw [translateIn, htemplate, Outcome.ok_bind, if_neg]
  rw [List.isEmpty_iff]
  exact hsome

/-- Arguments that can all be written fill a template. -/
theorem exists_values_of_writable (hcomplete : t.Complete) (hlocale : locale ∈ t.resolver.locales)
    {marked : List Argument} {template : Text}
    (hwritable : ∀ (i : Nat) a, marked[i]? = some a →
      t.Writable (takers (Piece.ofTemplate template))[i]? a) :
    ∃ values, marked.mapM (t.expand locale) = .ok values ∧
      Template.fill template values = .ok (Template.filled template values) := by
  obtain ⟨values, hvalues⟩ : ∃ values, marked.mapM (t.expand locale) = .ok values := by
    refine Outcome.exists_mapM_iff.2 fun a ha => ?_
    obtain ⟨i, hi⟩ := List.mem_iff_getElem?.1 ha
    obtain ⟨v, hv, -⟩ := expand_of_writable hcomplete hlocale (hwritable i a hi)
    exact ⟨v, hv⟩
  refine ⟨values, hvalues, Template.fill_of_writable template fun i v hv => ?_⟩
  have hplace := Outcome.getElem?_of_mapM hvalues i
  rw [hv, Option.map_some] at hplace
  obtain ⟨a, ha, hexpand⟩ := Option.map_eq_some_iff.1 hplace
  obtain ⟨v', hv', hwritten⟩ := expand_of_writable hcomplete hlocale (hwritable i a ha)
  rw [hexpand] at hv'
  rwa [Except.ok.inj hv']

/-- One argument that cannot be written at its place is enough to refuse them. -/
theorem fill_expanded_of_not_writable (hcomplete : t.Complete)
    (hlocale : locale ∈ t.resolver.locales) {marked : List Argument} {template : Text} {i : Nat}
    {a : Argument} (ha : marked[i]? = some a)
    (hrefused : ¬ t.Writable (takers (Piece.ofTemplate template))[i]? a) :
    marked.mapM (t.expand locale) >>= Template.fill template = .error .integerTooLong := by
  -- an argument that stands for no value is refused before the template is filled
  by_cases hexpand : ∃ a ∈ marked, t.expand locale a = .error .integerTooLong
  · rw [Outcome.mapM_eq_error (fun a _ => expand_cases hcomplete hlocale a) hexpand]
    rfl
  · obtain ⟨values, hvalues⟩ := Outcome.exists_mapM_iff.2 fun a (ha : a ∈ marked) =>
      (expand_cases hcomplete hlocale a).resolve_right fun h => hexpand ⟨a, ha, h⟩
    have hplace := Outcome.getElem?_of_mapM hvalues i
    rw [ha, Option.map_some] at hplace
    rcases expand_of_not_writable hcomplete hlocale hrefused with herror | ⟨v, hv, hrefused⟩
    · exact absurd ⟨a, List.mem_of_getElem? ha, herror⟩ hexpand
    · rw [hv] at hplace
      obtain ⟨v', hv', hsame⟩ := Option.map_eq_some_iff.1 hplace.symm
      obtain rfl := Except.ok.inj hsame
      rw [hvalues, Outcome.ok_bind]
      exact Template.fill_of_not_writable template hv' hrefused

/-- A translation in a supported locale ends with a text, or for the numeral of an argument. -/
theorem translateIn_ends (hcomplete : t.Complete) (hc : t.compiled.get? s.typeName = some c)
    (hlocale : locale ∈ t.resolver.locales) (args : List Value) :
    t.Ends s locale args (t.translateIn s locale args) := by
  obtain ⟨template, htemplate⟩ :=
    exists_textIn hcomplete hc hlocale (Numeral.isTooLong_of_fits s.fits)
  by_cases hnil : args = []
  · subst hnil
    rw [translateIn, htemplate]
    exact .verbatim htemplate rfl
  rw [translateIn_of_ne_nil htemplate hnil]
  by_cases hwritable : ∀ (i : Nat) a, (arguments s args)[i]? = some a →
      t.Writable (takers (Piece.ofTemplate template))[i]? a
  · obtain ⟨values, hvalues, hfill⟩ := exists_values_of_writable hcomplete hlocale hwritable
    rw [hvalues, Outcome.ok_bind, hfill]
    exact .filled htemplate hnil hwritable hvalues
  · simp only [Classical.not_forall] at hwritable
    obtain ⟨i, a, ha, hrefused⟩ := hwritable
    rw [fill_expanded_of_not_writable hcomplete hlocale ha hrefused]
    exact .refused htemplate ha hrefused

/-- An argument that can be written nowhere is refused. -/
theorem Ends.eq_error {result : Except Error Text} (hends : t.Ends s locale args result) {i : Nat}
    {a : Argument} (ha : (arguments s args)[i]? = some a) (hrefused : ∀ d?, ¬ t.Writable d? a) :
    result = .error .integerTooLong := by
  cases hends with
  | verbatim _ hnone =>
    rw [hnone] at ha
    cases ha
  | filled _ _ hwritable _ => exact absurd (hwritable i a ha) (hrefused _)
  | refused => rfl

/-- Arguments without long numerals are never refused. -/
theorem Ends.exists_text {result : Except Error Text} (hends : t.Ends s locale args result)
    (hshort : ∀ arg ∈ args, ¬ arg.Overlong) : ∃ text, result = .ok text := by
  cases hends with
  | verbatim htemplate _ => exact ⟨_, rfl⟩
  | filled htemplate _ _ _ => exact ⟨_, rfl⟩
  | refused _ harg hrefused =>
    rw [arguments, List.getElem?_map] at harg
    obtain ⟨v, hv, rfl⟩ := Option.map_eq_some_iff.1 harg
    exact absurd (writable_ofValue (hshort v (List.mem_of_getElem? hv)) _) hrefused

end Translator

/-! ## Runs -/

namespace LocaleResolver

/-- A carrier asks for a locale as a request does. -/
theorem exists_resolve (r : LocaleResolver) (carrier : Option Carrier) :
    ∃ requested, r.resolveCarried carrier = r.resolve requested := by
  cases carrier with
  | none => exact ⟨.null, rfl⟩
  | some carrier => exact ⟨_, resolveCarried_some r carrier⟩

theorem resolveCarried_mem (r : LocaleResolver) (carrier : Option Carrier) :
    r.resolveCarried carrier ∈ r.locales := by
  obtain ⟨requested, hrequested⟩ := exists_resolve r carrier
  rw [hrequested]
  exact r.resolve_mem requested

end LocaleResolver

/-- An error is raised with the text of its symbol. -/
theorem TranslatedError.raised_wrap (t : Translator) (s : Symbol) (cause : Option Failure)
    (requested : Value) (args : List Value) :
    (wrap t s cause requested args).map (·.raised) = t.translate s requested args := by
  rw [wrap_eq]
  cases t.translate s requested args <;> rfl

namespace Generator

open Translator

variable {g : Generator} {typeNames : List String} {gen : Generation} {typeName : String}

/-- The set of a requested type is of this type. -/
theorem typeName_of_symbolSet {set : SymbolSet}
    (hset : (g.symbolSet typeName).outcome = .ok set) : set.typeName = typeName := by
  rw [symbolSet, Logged.outcome_bind] at hset
  obtain ⟨declarations, -, hmade⟩ := Outcome.bind_eq_ok_iff.1 hset
  split at hmade
  · cases hmade
  · obtain ⟨declared, -, hsymbols⟩ := Outcome.bind_eq_ok_iff.1 hmade
    obtain ⟨symbols, -, hofSymbols⟩ := Outcome.bind_eq_ok_iff.1 hsymbols
    exact (ofSymbols_eq_ok hofSymbols).1

/-- A compiled type of a run was compiled for its catalogs. -/
theorem compile_of_mem_values (hbuild : (g.build typeNames).outcome = .ok gen) {c : CompiledType}
    (hc : c ∈ gen.compiled.values) :
    CompiledType.compile c.set gen.catalogs gen.resolver.defaultLocale = .ok c := by
  obtain ⟨-, sets, types, -, -, -, -, htypes, hcompiled⟩ := build_eq_ok hbuild
  rw [hcompiled] at hc
  have hmem := Dict.mem_of_mem_values_ofList CompiledType.typeName hc
  obtain ⟨set, -, hcompile⟩ := Outcome.exists_of_mem_result htypes hmem
  obtain ⟨-, -, -, -, hset⟩ := CompiledType.compile_eq_ok hcompile
  exact hset ▸ hcompile

/-- The translator has the compiled types under their names. -/
theorem mem_values_of_get? {c : CompiledType}
    (hc : gen.translator.compiled.get? typeName = some c) :
    c ∈ gen.compiled.values ∧ c.typeName = typeName := by
  have hlast : Dict.lastValue? typeName (gen.compiled.values.map fun c => (c.typeName, c)) =
      some c := (Dict.get?_ofList _ _).symm.trans hc
  obtain ⟨c', hvalue, hpair⟩ := List.mem_map.1 (Dict.mem_of_lastValue? hlast)
  obtain ⟨hname, rfl⟩ := Prod.mk.inj hpair
  exact ⟨hvalue, hname⟩

/-- A type of the translator of a run was compiled for its catalogs. -/
theorem compile_of_get? (hbuild : (g.build typeNames).outcome = .ok gen) {c : CompiledType}
    (hc : gen.translator.compiled.get? typeName = some c) :
    CompiledType.compile c.set gen.catalogs gen.resolver.defaultLocale = .ok c ∧
      c.typeName = typeName := by
  obtain ⟨hvalue, hname⟩ := mem_values_of_get? hc
  exact ⟨compile_of_mem_values hbuild hvalue, hname⟩

/-- The translator of a run has a table for every request. -/
theorem complete_of_build (hbuild : (g.build typeNames).outcome = .ok gen) :
    gen.translator.Complete := by
  obtain ⟨d, -, -, -, hload, hresolver, -⟩ := build_eq_ok hbuild
  obtain ⟨-, -, hcatalogs⟩ := CatalogDirectory.loadAll_eq_ok_iff.1 hload
  rw [hcatalogs] at hresolver
  intro typeName c hc locale hlocale
  obtain ⟨hcompile, hname⟩ := compile_of_get? hbuild hc
  -- a supported locale asks for itself, and so it is the locale of a catalog
  have hcatalog : d.catalogOf locale ∈ d.catalogSet.catalogs := by
    have hself : gen.resolver.resolve (.ofString locale) = locale :=
      LocaleResolver.resolve_of_mem (Text.string?_ofString locale) hlocale
    have hserved := (CatalogDirectory.serves_resolve hresolver (.ofString locale)).2
    rwa [hself] at hserved
  rw [hcatalogs] at hcompile
  obtain ⟨table, htable, hlookup⟩ :=
    CompiledType.table_of_compile hcompile d.nodup_locales_catalogSet hcatalog
  rw [CatalogDirectory.locale_catalogOf] at htable hlookup
  refine ⟨table, htable, fun n => ⟨fun hdeclared => ?_, fun hnone => ?_⟩⟩
  · obtain ⟨s, -, htext⟩ := declaredText?_of_declared (some (d.catalogOf locale)) hdeclared
    exact ⟨_, by rw [hlookup n, htext]⟩
  · rw [hlookup n, declaredText?_of_undeclared hnone, ← hname, CompiledType.typeName]

/-- It has the set of every requested type. -/
theorem exists_compiled (hbuild : (g.build typeNames).outcome = .ok gen)
    (htype : typeName ∈ typeNames) :
    ∃ c, (g.symbolSet typeName).outcome = .ok c.set ∧
      gen.translator.compiled.get? typeName = some c := by
  obtain ⟨set, c, hset, hcompile, hcompiled⟩ :=
    compiled_of_build hbuild htype fun name set h => typeName_of_symbolSet h
  obtain ⟨-, -, -, -, rfl⟩ := CompiledType.compile_eq_ok hcompile
  refine ⟨c, hset, ?_⟩
  rw [compiledType] at hcompiled
  split at hcompiled
  · rename_i c' hc
    rw [hc, Except.ok.inj hcompiled]
  · cases hcompiled

/-- **Only long numerals are refused.** A look-up of a declared value gives a text, and that of any
other value the type, the locale and the numeral, unless this is too long. The text of a symbol can
always be given in the default locale. Translations, be they for a request, for a carrier or for an
error, end with a text or are refused for the numeral of an argument: arguments that hold no long
numeral are never refused. In the text an argument that its directive cannot write stands with its
type. -/
theorem ends_of_build (hbuild : (g.build typeNames).outcome = .ok gen)
    (htype : typeName ∈ typeNames) :
    (∃ set, (g.symbolSet typeName).outcome = .ok set ∧ ∀ n requested,
      ((∃ s ∈ set.symbols, s.value = n) →
        ∃ text, gen.translator.lookup typeName n requested = .ok text) ∧
      ((∀ s ∈ set.symbols, s.value ≠ n) →
        gen.translator.lookup typeName n requested =
          if Numeral.isTooLong n then .error .integerTooLong
          else .ok
            s!"{typeName}[{gen.resolver.resolve requested}]({String.ofList (Numeral.decimal n)})")) ∧
    ∀ s : Symbol, s.typeName = typeName →
      (∃ text, gen.translator.text s = .ok text) ∧
      ∀ args,
        (∀ requested, gen.translator.Ends s (gen.resolver.resolve requested) args
          (gen.translator.translate s requested args)) ∧
        (∀ carrier, gen.translator.Ends s (gen.resolver.resolveCarried carrier) args
          (gen.translator.translateCarried s carrier args)) ∧
        (∀ cause requested,
          (TranslatedError.wrap gen.translator s cause requested args).map (·.raised) =
            gen.translator.translate s requested args) ∧
        (∀ cause carrier,
          (TranslatedError.wrapCarried gen.translator s cause carrier args).map (·.raised) =
            gen.translator.translateCarried s carrier args) ∧
        ((∀ arg ∈ args, ¬ arg.Overlong) → ∀ requested carrier,
          (∃ text, gen.translator.translate s requested args = .ok text) ∧
            ∃ text, gen.translator.translateCarried s carrier args = .ok text) := by
  have hcomplete := complete_of_build hbuild
  obtain ⟨c, hset, hc⟩ := exists_compiled hbuild htype
  refine ⟨⟨c.set, hset, fun n requested => ?_⟩, ?_⟩
  · exact textIn_of_complete hcomplete hc (gen.resolver.resolve_mem requested) n
  · rintro s rfl
    have hends : ∀ requested args, gen.translator.Ends s (gen.resolver.resolve requested) args
        (gen.translator.translate s requested args) := fun requested =>
      translateIn_ends hcomplete hc (gen.resolver.resolve_mem requested)
    have hcarried : ∀ carrier args, gen.translator.Ends s (gen.resolver.resolveCarried carrier)
        args (gen.translator.translateCarried s carrier args) := fun carrier =>
      translateIn_ends hcomplete hc (gen.resolver.resolveCarried_mem carrier)
    have hnone : ∀ arg ∈ ([] : List Value), ¬ arg.Overlong := fun arg harg => by cases harg
    refine ⟨(hends .null []).exists_text hnone, fun args => ⟨fun requested => hends requested args,
      fun carrier => hcarried carrier args,
      fun cause requested => TranslatedError.raised_wrap _ s cause requested args,
      fun cause carrier => ?_,
      fun hshort requested carrier => ⟨(hends requested args).exists_text hshort,
        (hcarried carrier args).exists_text hshort⟩⟩⟩
    obtain ⟨requested, hrequested⟩ := gen.resolver.exists_resolve carrier
    have hresolver : gen.translator.resolver = gen.resolver := rfl
    rw [TranslatedError.wrapCarried, translateCarried, hresolver, hrequested]
    exact TranslatedError.raised_wrap _ s cause requested args

/-! ### Requests with short and with long numerals -/

/-- A symbol of the type that the run is for. -/
def okSymbol : Symbol := ⟨"Code", "Ok", -1, true, "Ok", "-1", by decide⟩

theorem resolve_merging (hbuild : (merging.build ["Code"]).outcome = .ok gen) :
    gen.resolver.resolve .null = "fr" := by
  obtain ⟨-, -, -, -, -, hresolver, -⟩ := build_eq_ok hbuild
  rcases (LocaleResolver.ofLocales_eq_ok hresolver).2 with hgiven | ⟨hnone, -⟩
  · exact (Option.some.inj hgiven).symm
  · cases hnone

/-- A value that is not declared is written, and so are arguments without long numerals. -/
theorem ends_of_build_merging :
    ∃ gen, (merging.build ["Code"]).outcome = .ok gen ∧ "Code" ∈ ["Code"] ∧
      gen.translator.lookup "Code" 5 .null = .ok "Code[fr](5)" ∧
      (∃ text, gen.translator.text okSymbol = .ok text) ∧
      ∃ text, gen.translator.translate okSymbol .null [.list [.int 7], .reference "Code" 5] =
        .ok text := by
  obtain ⟨gen, hbuild⟩ := exists_build_merging
  have htype : "Code" ∈ ["Code"] := List.mem_singleton_self _
  obtain ⟨⟨set, hset, hlookup⟩, hends⟩ := ends_of_build hbuild htype
  obtain ⟨htext, hargs⟩ := hends okSymbol rfl
  obtain ⟨-, -, -, -, hshort⟩ := hargs [.list [.int 7], .reference "Code" 5]
  refine ⟨gen, hbuild, htype, ?_, htext, (hshort (by decide) .null none).1⟩
  have hnone : ∀ s ∈ set.symbols, s.value ≠ 5 := by
    obtain rfl := Except.ok.inj hset
    decide
  rw [(hlookup 5 .null).2 hnone, resolve_merging hbuild]
  rfl

/-- The numeral of a value with 4301 digits is refused, and so is one in an argument. -/
theorem lookup_merging_long :
    ∃ gen, (merging.build ["Code"]).outcome = .ok gen ∧
      gen.translator.lookup "Code" (10 ^ Numeral.maxDigits) .null = .error .integerTooLong ∧
      gen.translator.translate okSymbol .null [.reference "Code" (10 ^ Numeral.maxDigits)] =
        .error .integerTooLong := by
  obtain ⟨gen, hbuild⟩ := exists_build_merging
  have hcomplete := complete_of_build hbuild
  obtain ⟨c, hset, hc⟩ := exists_compiled hbuild (List.mem_singleton_self "Code")
  have hlong : Numeral.isTooLong (10 ^ Numeral.maxDigits) = true := by
    rw [Numeral.isTooLong_iff, Int.natAbs_pow]
    exact Nat.pow_le_pow_left (by decide) _
  have hnone : ∀ s ∈ c.set.symbols, s.value ≠ 10 ^ Numeral.maxDigits := by
    intro s hs hvalue
    rw [← hvalue, Numeral.isTooLong_of_fits s.fits] at hlong
    cases hlong
  have hlookup := (textIn_of_complete hcomplete hc (gen.resolver.resolve_mem .null) _).2 hnone
  rw [hlong] at hlookup
  have hends : gen.translator.Ends okSymbol (gen.resolver.resolve .null)
      [.reference "Code" (10 ^ Numeral.maxDigits)] _ :=
    translateIn_ends hcomplete hc (gen.resolver.resolve_mem .null) _
  have hmarked : (arguments okSymbol [.reference "Code" (10 ^ Numeral.maxDigits)])[0]? =
      some (.reference "Code" (10 ^ Numeral.maxDigits)) := rfl
  have hrefused := hends.eq_error hmarked (not_writable_of_undeclared hc hnone hlong)
  exact ⟨gen, hbuild, hlookup, hrefused⟩

end Generator

end SymbolText
