import SymbolText.Translator

/-!
# Translated errors

A translated error carries the text of a symbol and may wrap another error. While it has its
translator its text is translated anew; an error that was stored and restored has none and keeps
the text it had.

Models of `TranslatedError` and of `Translator.wrap`.

* `Failure`: the errors that can be wrapped, and `Failure.text`.
* `TranslatedError.wrap`: a translated error that wraps another.
* `TranslatedError.translate`, `format`: its text, and the text with that of the wrapped
  error.
* `TranslatedError.restore`: the error after it was stored and restored.
-/

namespace SymbolText

/-- The kinds of errors that are no translated errors. -/
inductive FaultKind
  | value
  | runtime
  /-- An error about a key, which shows a single argument as a literal. -/
  | key
  | general
  /-- An error about a catalog, which keeps its first argument only. -/
  | catalog
  deriving DecidableEq, Repr

/-- The text of a symbol as an error, which may wrap an error of type `ε` (`TranslatedError`). -/
structure Translated (ε : Type) where
  /-- Absent once the error was stored. -/
  translator : Option Translator
  /-- The text that the error was raised with. -/
  raised : Text
  symbol : Symbol
  locale : String
  arguments : List Argument
  cause : Option ε

/-- An error that can be wrapped. -/
inductive Failure
  | fault (kind : FaultKind) (args : List Value)
  | translated (e : Translated Failure)

/-- An error with the text of a symbol. -/
abbrev TranslatedError := Translated Failure

namespace Translated

/-- The text of a translated error (`TranslatedError.translate`). -/
def translate {ε : Type} (e : Translated ε) : Except Error Text :=
  match e.translator with
  | none => .ok e.raised
  | some t => t.translate e.symbol (.ofString e.locale) (e.arguments.map Argument.toValue)

/-- A translated error in a supported locale (`TranslatedError.__init__`). -/
def raise {ε : Type} (t : Translator) (s : Symbol) (locale : String) (cause : Option ε)
    (args : List Value) : Except Error (Translated ε) :=
  let e : Translated ε := ⟨some t, [], s, locale, Translator.arguments s args, cause⟩
  e.translate.map fun text => { e with raised := text }

/-- What is kept of a translated error once it is stored with what it wraps
(`TranslatedError.__reduce__`). -/
def stored {ε : Type} (e : Translated ε) (cause : Option ε) : Except Error (Translated ε) :=
  e.translate.map fun text => { e with translator := none, raised := text, cause := cause }

end Translated

namespace Failure

/-- The error of a kind with some arguments. -/
def ofKind (kind : FaultKind) (args : List Value) : Failure :=
  match kind with
  | .catalog => fault kind (args.take 1)
  | _ => fault kind args

/-- The text of the arguments of an error, unless a numeral in it is too long. -/
def faultText? : FaultKind → List Value → Option Text
  | _, [] => some []
  | .key, [v] => v.inspect?.map Text.ofChars
  | _, [v] => v.show?
  | _, args => (inspectTuple? args).map Text.ofChars

/-- The text of an error. -/
def text : Failure → Except Error Text
  | translated e => e.translate
  | fault kind args => orTooLong (faultText? kind args)

/-- An error after it was stored and restored (`_restore_translated_error`). -/
def restore : Failure → Except Error Failure
  | fault kind args => .ok (fault kind args)
  | translated ⟨t, raised, s, locale, arguments, none⟩ =>
    (Translated.stored ⟨t, raised, s, locale, arguments, none⟩ none).map translated
  | translated ⟨t, raised, s, locale, arguments, some cause⟩ => do
    let kept ← restore cause
    (Translated.stored ⟨t, raised, s, locale, arguments, some cause⟩ (some kept)).map translated

end Failure

namespace TranslatedError

/-- An error with the text of a symbol in a requested locale (`Translator.wrap`). -/
def wrap (t : Translator) (s : Symbol) (cause : Option Failure) (requested : Value)
    (args : List Value) : Except Error TranslatedError :=
  Translated.raise t s (t.resolver.resolve requested) cause args

/-- An error with the text of a symbol in the locale that a carrier asks for
(`Translator.wrap_from_carrier`). -/
def wrapCarried (t : Translator) (s : Symbol) (cause : Option Failure)
    (carrier : Option Carrier) (args : List Value) : Except Error TranslatedError :=
  Translated.raise t s (t.resolver.resolveCarried carrier) cause args

/-- The text of an error, followed by that of the wrapped one (`TranslatedError.format`). -/
def format (e : TranslatedError) : Except Error Text :=
  match e.cause with
  | none => e.translate
  | some cause => do
    let text ← e.translate
    let wrapped ← cause.text
    .ok (text ++ Text.ofString " (" ++ wrapped ++ Text.ofString ")")

/-- A translated error after it was stored and restored (`_restore_translated_error`). -/
def restore (e : TranslatedError) : Except Error TranslatedError := do
  let kept ← e.cause.mapM Failure.restore
  e.stored kept

end TranslatedError

end SymbolText
