import SymbolText.Proofs.Resolution
import SymbolText.Proofs.Runs
import SymbolText.Proofs.Substitution
import SymbolText.TranslatedError

/-!
# The ways to a text agree

A symbol is translated for a requested locale, for what a carrier holds, as the text of an error, or
by its value. All ways resolve a locale and mark the arguments, and an error does both once more
when it is asked for its text again. They agree since resolving a supported locale and marking
marked arguments change nothing.

* `Replaces`: an argument in place of another one that means the same.
* `TranslatedError.Tells`: an error that has the text of a symbol. `TranslatedError.Keeps`: an error
  that has kept what another one tells.

Results:
* `resolve_resolve`, `arguments_toValue`: resolving and marking a second time.
* `wrap_eq`: a translated error exists if the text does, and has it.
* `restore_restore`, `text_restore`: what is stored once is stored for good.
* `translate_agrees`: all ways to a text agree.
-/

namespace SymbolText

/-! ## Resolving and marking twice -/

namespace LocaleResolver

/-- A resolved locale is resolved to itself. -/
theorem resolve_resolve (r : LocaleResolver) (requested : Value) :
    r.resolve (.ofString (r.resolve requested)) = r.resolve requested :=
  resolve_of_mem (Text.string?_ofString _) (r.resolve_mem requested)

/-- A carrier asks for what it holds, and for nothing if it does not hold the key. -/
theorem resolveCarried_some (r : LocaleResolver) (carrier : Carrier) :
    r.resolveCarried (some carrier) = r.resolve ((carried? carrier r.carrierKey).getD .null) := by
  rw [resolveCarried, Option.bind_some]
  cases carried? carrier r.carrierKey <;> rfl

end LocaleResolver

namespace Translator

variable {t : Translator} {s : Symbol}

/-- Marked arguments stay as they are. -/
theorem arguments_toValue (s : Symbol) (marked : List Argument) :
    arguments s (marked.map Argument.toValue) = marked := by
  rw [arguments, List.map_map]
  calc marked.map (Argument.ofValue s.typeName ∘ Argument.toValue)
      = marked.map id := List.map_congr_left fun a _ => Argument.ofValue_toValue s.typeName a
    _ = marked := List.map_id marked

/-- The arguments count only by what they are marked as. -/
theorem translateIn_congr {args args' : List Value} (locale : String)
    (hargs : arguments s args = arguments s args') :
    t.translateIn s locale args = t.translateIn s locale args' := by
  have hempty := congrArg List.isEmpty hargs
  rw [arguments, arguments, List.isEmpty_map, List.isEmpty_map] at hempty
  rw [translateIn, translateIn, hempty, hargs]

/-- An argument in place of another one of the text of a symbol. -/
inductive Replaces (s : Symbol) : Value → Value → Prop
  | itself (v : Value) : Replaces s v v
  /-- A symbol of the same type is referred to. -/
  | reference (u : Symbol) (htype : u.typeName = s.typeName) :
    Replaces s (.reference u.typeName u.value) (.symbol u)
  /-- Another value that is not marked is marked as one that stands as it is. -/
  | literal (v : Value) (hsymbol : ∀ u, v = .symbol u → u.typeName ≠ s.typeName)
    (hreference : ∀ typeName value, v ≠ .reference typeName value)
    (hliteral : ∀ w, v ≠ .literal w) : Replaces s (.literal v) v

theorem ofValue_of_replaces {v w : Value} (hreplaces : Replaces s v w) :
    Argument.ofValue s.typeName v = Argument.ofValue s.typeName w := by
  cases hreplaces with
  | itself => rfl
  | reference u htype => exact (if_pos htype).symm
  | literal _ hsymbol hreference hliteral =>
    cases w with
    | symbol u => exact (if_neg (hsymbol u rfl)).symm
    | reference typeName value => exact absurd rfl (hreference typeName value)
    | literal w => exact absurd rfl (hliteral w)
    | _ => rfl

theorem arguments_of_replaces {args args' : List Value}
    (hreplaces : List.Forall₂ (Replaces s) args' args) : arguments s args' = arguments s args := by
  induction hreplaces with
  | nil => rfl
  | cons hfirst _ ih =>
    rw [arguments, arguments, List.map_cons, List.map_cons, ofValue_of_replaces hfirst]
    exact congrArg _ ih

end Translator

/-! ## Errors -/

namespace TranslatedError

open Translator

variable {t : Translator} {s : Symbol} {cause : Option Failure} {requested : Value}
  {args : List Value}

/-- An error in a supported locale tells the text of its symbol. -/
theorem translate_raised (t : Translator) (s : Symbol) (requested : Value) (args : List Value)
    (raised : Text) (cause : Option Failure) :
    Translated.translate
        ⟨some t, raised, s, t.resolver.resolve requested, arguments s args, cause⟩ =
      t.translate s requested args := by
  show t.translateIn s (t.resolver.resolve (.ofString (t.resolver.resolve requested)))
    ((arguments s args).map Argument.toValue) = t.translateIn s (t.resolver.resolve requested) args
  rw [LocaleResolver.resolve_resolve]
  exact translateIn_congr _ (arguments_toValue s _)

/-- An error with the text of a symbol exists if the text does. -/
theorem wrap_eq (t : Translator) (s : Symbol) (cause : Option Failure) (requested : Value)
    (args : List Value) :
    wrap t s cause requested args = (t.translate s requested args).map fun text =>
      ⟨some t, text, s, t.resolver.resolve requested, arguments s args, cause⟩ := by
  rw [wrap, Translated.raise, translate_raised]

theorem wrapCarried_some (t : Translator) (s : Symbol) (cause : Option Failure)
    (carrier : Carrier) (args : List Value) :
    wrapCarried t s cause (some carrier) args =
      wrap t s cause ((LocaleResolver.carried? carrier t.resolver.carrierKey).getD .null) args := by
  rw [wrapCarried, wrap, LocaleResolver.resolveCarried_some]

/-- An error depends on its arguments only by what they are marked as. -/
theorem wrap_congr {args' : List Value} (hargs : arguments s args = arguments s args') :
    wrap t s cause requested args = wrap t s cause requested args' := by
  have htranslate : t.translate s requested args = t.translate s requested args' :=
    translateIn_congr _ hargs
  rw [wrap_eq, wrap_eq, htranslate, hargs]

/-! ### Stored errors -/

/-- An error that is put together again from what it stores. -/
def rebuild (e : TranslatedError) : Except Error TranslatedError := e.stored e.cause

/-- An error has kept what another one tells. -/
structure Keeps (r e : TranslatedError) : Prop where
  symbol_eq : r.symbol = e.symbol
  locale_eq : r.locale = e.locale
  arguments_eq : r.arguments = e.arguments
  translate_eq : r.translate = e.translate
  format_eq : r.format = e.format

/-- What is stored of an error: its text in place of its translator. -/
theorem stored_eq_ok {e r : TranslatedError} {kept : Option Failure}
    (hstored : e.stored kept = .ok r) :
    ∃ text, e.translate = .ok text ∧
      r = ⟨none, text, e.symbol, e.locale, e.arguments, kept⟩ := by
  rw [Translated.stored] at hstored
  cases htext : e.translate with
  | error failure =>
    rw [htext] at hstored
    cases hstored
  | ok text =>
    rw [htext] at hstored
    exact ⟨text, rfl, (Except.ok.inj hstored).symm⟩

theorem translate_of_stored {e r : TranslatedError} {kept : Option Failure}
    (hstored : e.stored kept = .ok r) : r.translate = e.translate := by
  obtain ⟨text, htext, rfl⟩ := stored_eq_ok hstored
  exact htext.symm

/-- The text of an error with that of its cause depends on the two texts only. -/
theorem format_congr {r e : TranslatedError} (htranslate : r.translate = e.translate)
    (hcause : r.cause.map Failure.text = e.cause.map Failure.text) : r.format = e.format := by
  cases he : e.cause with
  | none =>
    rw [he, Option.map_none, Option.map_eq_none_iff] at hcause
    rw [format, format, he, hcause, htranslate]
  | some cause =>
    rw [he, Option.map_some] at hcause
    obtain ⟨kept, hr, htext⟩ := Option.map_eq_some_iff.1 hcause
    rw [format, format, he, hr]
    dsimp only
    rw [htranslate, htext]

/-- What is stored with a cause of the same text keeps what the error tells. -/
theorem keeps_of_stored {e r : TranslatedError} {kept : Option Failure}
    (hstored : e.stored kept = .ok r) (hkept : kept.map Failure.text = e.cause.map Failure.text) :
    r.Keeps e ∧ r.cause = kept := by
  have htranslate := translate_of_stored hstored
  obtain ⟨text, -, rfl⟩ := stored_eq_ok hstored
  exact ⟨⟨rfl, rfl, rfl, htranslate, format_congr htranslate hkept⟩, rfl⟩

/-- An error without a translator is put together as it is. -/
theorem rebuild_of_none {e : TranslatedError} (hnone : e.translator = none) :
    e.rebuild = .ok e := by
  obtain ⟨translator, raised, symbol, locale, arguments, cause⟩ := e
  obtain rfl : translator = none := hnone
  rfl

end TranslatedError

namespace Failure

theorem restore_translated (e : TranslatedError) :
    (translated e).restore = (TranslatedError.restore e).map translated := by
  obtain ⟨translator, raised, symbol, locale, arguments, cause⟩ := e
  cases cause with
  | none => rfl
  | some cause =>
    rw [restore, TranslatedError.restore, Option.mapM_some]
    cases cause.restore <;> rfl

/-- A cause is stored if there is one. -/
theorem mapM_restore_eq_ok {cause kept : Option Failure} (hkept : cause.mapM restore = .ok kept) :
    cause = none ∧ kept = none ∨
      ∃ f f', cause = some f ∧ kept = some f' ∧ f.restore = .ok f' := by
  cases cause with
  | none => exact .inl ⟨rfl, (Except.ok.inj hkept).symm⟩
  | some f =>
    rw [Option.mapM_some] at hkept
    cases hrestore : f.restore with
    | error failure =>
      rw [hrestore] at hkept
      cases hkept
    | ok f' =>
      rw [hrestore] at hkept
      exact .inr ⟨f, f', rfl, (Except.ok.inj hkept).symm, hrestore⟩

theorem restore_translated_eq_ok {e : TranslatedError} {f' : Failure}
    (hrestore : (translated e).restore = .ok f') :
    ∃ kept r, e.cause.mapM restore = .ok kept ∧ e.stored kept = .ok r ∧ f' = translated r := by
  rw [restore_translated] at hrestore
  cases hrestored : TranslatedError.restore e with
  | error failure =>
    rw [hrestored] at hrestore
    cases hrestore
  | ok r =>
    rw [hrestored] at hrestore
    obtain ⟨kept, hkept, hstored⟩ := Outcome.bind_eq_ok_iff.1 hrestored
    exact ⟨kept, r, hkept, hstored, (Except.ok.inj hrestore).symm⟩

/-- An error that was stored has the text that it had. -/
theorem text_restore {f f' : Failure} (hrestore : f.restore = .ok f') : f'.text = f.text := by
  cases f with
  | fault kind args => rw [← Except.ok.inj hrestore]
  | translated e =>
    obtain ⟨kept, r, -, hstored, rfl⟩ := restore_translated_eq_ok hrestore
    exact TranslatedError.translate_of_stored hstored

/-- What was stored with a cause that is stored for good is stored for good. -/
theorem restore_of_stored {e r : TranslatedError} {kept : Option Failure}
    (hstored : e.stored kept = .ok r) (hkept : kept.mapM restore = .ok kept) :
    TranslatedError.restore r = .ok r := by
  obtain ⟨text, -, rfl⟩ := TranslatedError.stored_eq_ok hstored
  exact Outcome.bind_eq_ok_iff.2 ⟨kept, hkept, rfl⟩

/-- An error that was stored is stored as it is. -/
theorem restore_restore {f f' : Failure} (hrestore : f.restore = .ok f') :
    f'.restore = .ok f' := by
  induction f using restore.induct generalizing f' with
  | case1 kind args =>
    obtain rfl := Except.ok.inj hrestore
    rfl
  | case2 t raised s locale arguments =>
    obtain ⟨kept, r, hkept, hstored, rfl⟩ := restore_translated_eq_ok hrestore
    obtain rfl : none = kept := Except.ok.inj hkept
    rw [restore_translated, restore_of_stored hstored rfl]
    rfl
  | case3 t raised s locale arguments cause ih =>
    obtain ⟨kept, r, hkept, hstored, rfl⟩ := restore_translated_eq_ok hrestore
    rcases mapM_restore_eq_ok hkept with ⟨hnone, -⟩ | ⟨f, f', hsome, rfl, hcause⟩
    · cases hnone
    · obtain rfl := Option.some.inj hsome
      have hagain : (some f').mapM restore = .ok (some f') := by
        rw [Option.mapM_some, ih hcause]
        rfl
      rw [restore_translated, restore_of_stored hstored hagain]
      rfl

end Failure

/-! ## Agreement -/

namespace TranslatedError

open Translator

/-- An error tells the text of a symbol for a request: as its message, whenever it is asked for it,
and again if it is raised anew from what it has. -/
structure Tells (t : Translator) (s : Symbol) (cause : Option Failure) (requested : Value)
    (args : List Value) (text : Text) (e : TranslatedError) : Prop where
  symbol_eq : e.symbol = s
  locale_eq : e.locale = t.resolver.resolve requested
  arguments_eq : e.arguments = arguments s args
  cause_eq : e.cause = cause
  raised_eq : e.raised = text
  message_eq : (Failure.translated e).text = .ok text
  translate_eq : e.translate = .ok text
  again : wrap t e.symbol e.cause (.ofString e.locale) (e.arguments.map Argument.toValue) = .ok e

variable {t : Translator} {s : Symbol} {requested : Value} {args : List Value} {text : Text}

/-- There is an error for every text, and it tells this text. -/
theorem exists_tells (htext : t.translate s requested args = .ok text) (cause : Option Failure) :
    ∃ e, wrap t s cause requested args = .ok e ∧ Tells t s cause requested args text e := by
  have hwrap := wrap_eq t s cause requested args
  have htranslate := translate_raised t s requested args text cause
  rw [htext] at hwrap htranslate
  refine ⟨_, hwrap, rfl, rfl, rfl, rfl, rfl, htranslate, htranslate, ?_⟩
  have hagain : t.translate s (.ofString (t.resolver.resolve requested))
      ((arguments s args).map Argument.toValue) = .ok text := htranslate
  rw [wrap_eq, hagain, LocaleResolver.resolve_resolve, arguments_toValue]
  rfl

/-- An error with a text is put together again from what it stores, and then stays as it is. -/
theorem exists_rebuild {e : TranslatedError} (htext : e.translate = .ok text) :
    ∃ r, e.rebuild = .ok r ∧ r.Keeps e ∧ r.cause = e.cause ∧ r.rebuild = .ok r := by
  have hstored : e.rebuild = .ok ⟨none, text, e.symbol, e.locale, e.arguments, e.cause⟩ := by
    rw [rebuild, Translated.stored, htext]
    rfl
  obtain ⟨hkeeps, hcause⟩ := keeps_of_stored hstored rfl
  exact ⟨_, hstored, hkeeps, hcause, rebuild_of_none rfl⟩

/-- So is one whose cause is stored too. -/
theorem exists_restore {e : TranslatedError} (htext : e.translate = .ok text)
    {kept : Option Failure} (hkept : e.cause.mapM Failure.restore = .ok kept) :
    ∃ r, restore e = .ok r ∧ r.Keeps e ∧ r.cause = kept ∧ restore r = .ok r := by
  have hstored : e.stored kept = .ok ⟨none, text, e.symbol, e.locale, e.arguments, kept⟩ := by
    rw [Translated.stored, htext]
    rfl
  have htexts : kept.map Failure.text = e.cause.map Failure.text ∧
      kept.mapM Failure.restore = .ok kept := by
    rcases Failure.mapM_restore_eq_ok hkept with ⟨hnone, rfl⟩ | ⟨f, f', hsome, rfl, hrestore⟩
    · rw [hnone]
      exact ⟨rfl, rfl⟩
    · rw [hsome, Option.mapM_some, Failure.restore_restore hrestore, Option.map_some,
        Option.map_some, Failure.text_restore hrestore]
      exact ⟨rfl, rfl⟩
  obtain ⟨hkeeps, hcause⟩ := keeps_of_stored hstored htexts.1
  exact ⟨_, Outcome.bind_eq_ok_iff.2 ⟨kept, hkept, hstored⟩, hkeeps, hcause,
    Failure.restore_of_stored hstored htexts.2⟩

/-- **The ways to a text agree.** If a symbol has a text for a request and some arguments, then:
a carrier leads to the text for what it holds; the text of the default locale is that for no
request; a look-up by value gives the text without arguments; arguments may be replaced by what they
are marked as; and an error with the text exists, tells it however often it is asked, and keeps it,
with its cause, when it is stored, be it once or repeatedly. -/
theorem translate_agrees (htext : t.translate s requested args = .ok text) :
    (∀ carrier, t.translateCarried s (some carrier) args =
      t.translate s ((LocaleResolver.carried? carrier t.resolver.carrierKey).getD .null) args) ∧
    t.translateCarried s none args = t.translate s .null args ∧
    t.text s = t.translate s .null [] ∧
    t.lookup s.typeName s.value requested = t.translate s requested [] ∧
    (∀ args', List.Forall₂ (Replaces s) args' args → t.translate s requested args' = .ok text ∧
      ∀ cause, wrap t s cause requested args' = wrap t s cause requested args) ∧
    (∀ cause carrier, wrapCarried t s cause (some carrier) args =
      wrap t s cause ((LocaleResolver.carried? carrier t.resolver.carrierKey).getD .null) args) ∧
    (∀ cause, wrapCarried t s cause none args = wrap t s cause .null args) ∧
    ∀ cause, ∃ e, wrap t s cause requested args = .ok e ∧
      Tells t s cause requested args text e ∧
      (∃ r, e.rebuild = .ok r ∧ r.Keeps e ∧ r.cause = cause ∧ r.rebuild = .ok r) ∧
      ∀ kept, cause.mapM Failure.restore = .ok kept →
        ∃ r, restore e = .ok r ∧ r.Keeps e ∧ r.cause = kept ∧ restore r = .ok r := by
  refine ⟨fun carrier => ?_, rfl, rfl, ?_, fun args' hreplaces => ?_,
    fun cause carrier => wrapCarried_some t s cause carrier args, fun cause => rfl,
    fun cause => ?_⟩
  · rw [translateCarried, Translator.translate, LocaleResolver.resolveCarried_some]
  · rw [lookup, Translator.translate, translateIn]
    cases t.textIn s.typeName s.value (t.resolver.resolve requested) <;> rfl
  · -- both lists are marked alike
    have hargs := arguments_of_replaces hreplaces
    refine ⟨?_, fun cause => wrap_congr hargs⟩
    rw [← htext]
    exact translateIn_congr _ hargs
  · obtain ⟨e, hwrap, htells⟩ := exists_tells htext cause
    obtain ⟨r, hrebuild⟩ := exists_rebuild htells.translate_eq
    rw [htells.cause_eq] at hrebuild
    refine ⟨e, hwrap, htells, ⟨r, hrebuild⟩, fun kept hkept => ?_⟩
    exact exists_restore htells.translate_eq (htells.cause_eq ▸ hkept)

/-! ### A text with arguments of all kinds -/

/-- A translator with a locale that has no table of its own. -/
def notices : Translator where
  compiled := .ofList
    [("Code",
      { set := wrappingSet
        runs := []
        strategy := .map
        locales := ["en"]
        ordinals := [("en", 0)]
        defaultLocale := "en"
        tables := .ofList
          [("en", ⟨"Code", "en", .ofSymbols wrappingSet.symbols true,
            .map (.ofList [(0, "%s, %v and %d%%"), (-1, "%d")])⟩)] })]
  resolver := ⟨["en", "fr"], "en", "locale", by decide⟩

/-- The symbol of zero and that of the greatest value. -/
def zero : Symbol := wrappingSet.symbols[0]

@[inherit_doc zero]
def top : Symbol := wrappingSet.symbols[1]

/-- A symbol of the type, one that stands as it is, and one of a type that was not compiled. -/
def noticeArgs : List Value := [.symbol top, .literal (.symbol top), .reference "Other" 5]

/-- The parts of the text of zero. -/
def noticeParts : List Template.Part :=
  [.directive ⟨[], [], none, 's'⟩ (by decide), .literal ", ",
    .directive ⟨[], [], none, 'v'⟩ (by decide), .literal " and ",
    .directive ⟨[], [], none, 'd'⟩ (by decide), .literal "%"]

theorem translate_notices :
    notices.translate zero (.ofString "fr") noticeArgs = .ok "%d, Top and 5%" := by
  have htemplate : Text.ofString "%s, %v and %d%%" = Template.templateOf noticeParts := rfl
  show Template.fill "%s, %v and %d%%" [.ofString "%d", .symbol top, .int 5] = _
  rw [htemplate, Template.fill, Template.ofTemplate_templateOf]
  rfl

/-- The text is the same through a carrier and for other arguments of the same meaning, and it is
kept by a stored error. -/
theorem translate_agrees_notices :
    notices.translate zero (.ofString "fr") noticeArgs = .ok "%d, Top and 5%" ∧
      notices.translateCarried zero (some [(.ofString "locale", .ofString "fr")]) noticeArgs =
        .ok "%d, Top and 5%" ∧
      notices.translate zero (.ofString "fr")
        [.reference "Code" 18446744073709551615, .literal (.symbol top), .reference "Other" 5] =
        .ok "%d, Top and 5%" ∧
      ∃ e r, wrap notices zero (some (.fault .key [.ofString "k"])) (.ofString "fr") noticeArgs =
          .ok e ∧
        e.rebuild = .ok r ∧ format r = .ok "%d, Top and 5% ('k')" := by
  obtain ⟨hcarried, -, -, -, hreplaced, -, -, hwrap⟩ := translate_agrees translate_notices
  refine ⟨translate_notices, ?_, ?_, ?_⟩
  · rw [hcarried]
    exact translate_notices
  · refine (hreplaced _ (.cons (.reference top rfl) ?_)).1
    exact .cons (.itself _) (.cons (.itself _) .nil)
  · obtain ⟨e, he, htells, ⟨r, hrebuild, hkeeps, -⟩, -⟩ :=
      hwrap (some (.fault .key [.ofString "k"]))
    refine ⟨e, r, he, hrebuild, ?_⟩
    rw [hkeeps.format_eq, format, htells.cause_eq]
    dsimp only
    rw [htells.translate_eq]
    rfl

end TranslatedError

end SymbolText
