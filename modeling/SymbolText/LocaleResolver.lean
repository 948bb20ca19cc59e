import SymbolText.Log
import SymbolText.Text.Order
import SymbolText.Value.Key

/-!
# Locale resolution

Requests for a locale are resolved to one of the supported locales: a supported locale to itself
and everything else to the default locale.

The model of `LocaleResolver`.

* `LocaleResolver`: the supported locales in order with the default one.
* `LocaleResolver.ofLocales`: the default is the first locale unless another one is given.
* `LocaleResolver.resolve`: resolves a requested value.
* `LocaleResolver.resolveCarried`: resolves what a carrier of settings holds.
-/

namespace SymbolText

/-- Supported locales and the default among them (`LocaleResolver`). -/
structure LocaleResolver where
  /-- The supported locales, each once, in order. -/
  locales : List String
  defaultLocale : String
  /-- The key under which carriers hold a locale. -/
  carrierKey : String
  /-- The default locale is supported. -/
  default_mem : defaultLocale ∈ locales

/-- Settings by their keys, where a later setting of a key replaces an earlier. -/
abbrev Carrier := List (Value × Value)

/-- The carrier of some settings, whose keys have to be values that can be keys
(`LocaleCarrier`). -/
def Carrier.ofSettings (settings : List (Value × Value)) : Except Error Carrier :=
  Value.dictionary settings

namespace LocaleResolver

/-- The key under which carriers hold a locale unless another one is chosen
(`DEFAULT_CARRIER_KEY`). -/
def standardCarrierKey : String := "i18nLocale"

/-- A text that is given and not empty. -/
def given? (s : Option String) : Option String := s.filter (· ≠ "")

/-- The resolver for some locales (`LocaleResolver.__init__`). An empty default or carrier key
counts as none. -/
def ofLocales (locales : List String) (defaultLocale carrierKey : Option String) :
    Logged LocaleResolver :=
  let ordered := Text.sortStrings locales.eraseDups
  let carrierKey := (given? carrierKey).getD standardCarrierKey
  match given? defaultLocale with
  | none =>
    match ordered with
    | [] => .of (.error .noLocales)
    | first :: rest =>
      .of (.ok ⟨first :: rest, first, carrierKey, List.mem_cons_self⟩)
  | some locale =>
    if ordered = [] then .of (.error .noLocales)
    else if h : locale ∈ ordered then .of (.ok ⟨ordered, locale, carrierKey, h⟩)
    else .fail [.unknownDefault locale ordered] (.unknownDefault locale ordered)

/-- Whether a value is a supported locale (`LocaleResolver.is_supported`). -/
def isSupported (r : LocaleResolver) (v : Value) : Bool :=
  v.string?.any r.locales.contains

/-- The position of a supported locale, asked for by a value that can be a key
(`LocaleResolver.ordinal`). -/
def ordinal? (r : LocaleResolver) (v : Value) : Except Error (Option Nat) := do
  v.checkKey
  .ok (v.string?.bind r.locales.idxOf?)

/-- The locale that a request is resolved to (`LocaleResolver.resolve`). -/
def resolve (r : LocaleResolver) (v : Value) : String :=
  (v.string?.filter r.locales.contains).getD r.defaultLocale

/-- What a carrier holds under a key. -/
def carried? (carrier : Carrier) (key : String) : Option Value :=
  (carrier.reverse.find? fun setting => decide (setting.1.string? = some key)).map (·.2)

/-- The locale that a carrier asks for (`LocaleResolver.resolve_from_carrier`); there may be no
carrier. -/
def resolveCarried (r : LocaleResolver) (carrier : Option Carrier) : String :=
  match carrier.bind (carried? · r.carrierKey) with
  | some v => r.resolve v
  | none => r.defaultLocale

end LocaleResolver

end SymbolText
