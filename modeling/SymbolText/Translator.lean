import SymbolText.LocaleResolver
import SymbolText.Table.Compiled
import SymbolText.Template.Basic

/-!
# Translators

A translator has the tables of several types and resolves requests for a locale. The text of a
symbol is looked up in the table of its type for the resolved locale, and filled with arguments
if there are any.

The model of `Translator`.

* `Argument`: what is substituted: a symbol of the translated type by its own text, anything
  else as it is.
* `Translator.translate`, `translateCarried`: the text of a symbol with arguments.
* `Translator.lookup`: the text of a value.
* `Translator.text`: the text of a symbol in the default locale.
-/

namespace SymbolText

/-- An argument of a text (`SymbolRef`, `Literal`). -/
inductive Argument
  /-- The symbol of a type that has a value. -/
  | reference (typeName : String) (value : Int)
  /-- A value as it is. -/
  | literal (value : Value)

namespace Argument

/-- A value becomes an argument in the text of a symbol of a type (`Translator.to_arguments`): a
symbol of that type is referred to, and what is marked already stays as it is. -/
def ofValue (typeName : String) : Value → Argument
  | .reference t v => .reference t v
  | .literal v => .literal v
  | .symbol s =>
    if s.typeName = typeName then .reference s.typeName s.value else .literal (.symbol s)
  | v => .literal v

/-- The marked value of an argument. -/
def toValue : Argument → Value
  | reference t v => .reference t v
  | literal v => .literal v

/-- Marking leaves a marked value as it is. -/
theorem ofValue_toValue (typeName : String) (a : Argument) :
    ofValue typeName a.toValue = a := by
  cases a <;> rfl

end Argument

/-- The tables of types and the resolver of locales (`Translator`). -/
structure Translator where
  compiled : Dict String CompiledType
  resolver : LocaleResolver

namespace Translator

/-- The translator of compiled types, where a later type of a name replaces an earlier. -/
def ofTypes (types : List CompiledType) (resolver : LocaleResolver) : Translator :=
  ⟨.ofList (types.map fun c => (c.typeName, c)), resolver⟩

/-- The compiled type of a name (`Translator.compiled_type`). -/
def compiledType (t : Translator) (typeName : String) : Except Error CompiledType :=
  match t.compiled.get? typeName with
  | some c => .ok c
  | none => .error (.notCompiled typeName)

/-- The arguments of the text of a symbol (`Translator.to_arguments`). -/
def arguments (s : Symbol) (args : List Value) : List Argument :=
  args.map (Argument.ofValue s.typeName)

/-- The text of a value of a type in a supported locale. -/
def textIn (t : Translator) (typeName : String) (value : Int) (locale : String) :
    Except Error Text := do
  let c ← t.compiledType typeName
  let table ← c.table locale
  table.lookup value

/-- What an argument stands for in a supported locale (`Translator._expand`); a value of a type that
was not compiled stands for itself. -/
def expand (t : Translator) (locale : String) : Argument → Except Error Value
  | .literal v => .ok v
  | .reference typeName value =>
    match t.compiled.get? typeName with
    | none => .ok (.int value)
    | some c => do
      let table ← c.table locale
      .ok (.text (← table.lookup value))

/-- The text of a symbol with arguments in a supported locale (`Translator._trans`). -/
def translateIn (t : Translator) (s : Symbol) (locale : String) (args : List Value) :
    Except Error Text := do
  let template ← t.textIn s.typeName s.value locale
  if args.isEmpty then .ok template
  else
    let values ← (arguments s args).mapM (t.expand locale)
    Template.fill template values

/-- The text of a symbol with arguments in a requested locale (`Translator.translate`). -/
def translate (t : Translator) (s : Symbol) (requested : Value) (args : List Value) :
    Except Error Text :=
  t.translateIn s (t.resolver.resolve requested) args

/-- The text of a symbol with arguments in the locale that a carrier asks for
(`Translator.translate_from_carrier`). -/
def translateCarried (t : Translator) (s : Symbol) (carrier : Option Carrier)
    (args : List Value) : Except Error Text :=
  t.translateIn s (t.resolver.resolveCarried carrier) args

/-- The text of a value of a type in a requested locale (`Translator.lookup`). -/
def lookup (t : Translator) (typeName : String) (value : Int) (requested : Value) :
    Except Error Text :=
  t.textIn typeName value (t.resolver.resolve requested)

/-- The text of a symbol in the default locale (`Translator.text`). -/
def text (t : Translator) (s : Symbol) : Except Error Text :=
  t.translateIn s t.resolver.defaultLocale []

end Translator

end SymbolText
