import SymbolText.Catalog.Directory

/-!
# Settings

The settings of a run are given as values, or else as texts in an environment, and otherwise have
defaults. A setting is given under its label, or else under its own name.

The model of `StringerSettings`.

* `Setting`: the settings, with `Setting.label` and `Setting.name`.
* `Settings`: their values.
* `Settings.read`: the values that are given, or the problems with them, at most one for each
  setting.
* `Settings.numberOfText`: the integer that a text gives; a fraction of zeros is allowed.
-/

namespace SymbolText

/-- The settings, in the order in which they are read. -/
inductive Setting
  | developmentPrefix
  | logLevel
  | catalogPath
  | catalogExtension
  | defaultLocale
  | carrierKey
  | workers
  deriving DecidableEq, Repr

namespace Setting

/-- The name of a setting. -/
def name : Setting → String
  | developmentPrefix => "PREFIX"
  | logLevel => "LOG_LEVEL"
  | catalogPath => "CATALOG_PATH"
  | catalogExtension => "CATALOG_EXTENSION"
  | defaultLocale => "DEFAULT_LOCALE"
  | carrierKey => "CARRIER_KEY"
  | workers => "PARSE_WORKERS"

/-- The label under which a setting is given. -/
def label : Setting → String
  | developmentPrefix => "PREFIX"
  | logLevel => "LOG_LEVEL"
  | catalogPath => "STRINGER_CATALOG_PATH"
  | catalogExtension => "STRINGER_CATALOG_EXTENSION"
  | defaultLocale => "STRINGER_DEFAULT_LOCALE"
  | carrierKey => "STRINGER_CTX_KEY"
  | workers => "STRINGER_PARSE_WORKERS"

end Setting

/-- What is wrong with the value of a setting. -/
inductive SettingProblem
  /-- A text is needed. -/
  | notText
  /-- Octets that are no text. -/
  | notUtf8
  /-- An integer is needed. -/
  | notInteger
  /-- The text is no integer. -/
  | malformedInteger
  /-- The number has a fraction. -/
  | fractional
  /-- The number is not finite. -/
  | notFinite
  /-- The number is too large. -/
  | tooLarge
  /-- The number is not positive. -/
  | notPositive
  deriving DecidableEq, Repr

/-- The values of the settings (`StringerSettings`). -/
structure Settings where
  /-- A prefix that marks development. -/
  developmentPrefix : String
  logLevel : String
  catalogPath : String
  /-- The extension of catalog files. -/
  catalogExtension : String
  /-- The default locale; empty for the first one. -/
  defaultLocale : String
  carrierKey : String
  /-- The number of files that are read at a time. -/
  workers : Int
  /-- At least one file is read at a time. -/
  workers_pos : 0 < workers

namespace Settings

/-- The settings when nothing is given. -/
def standard : Settings where
  developmentPrefix := ""
  logLevel := "INFO"
  catalogPath := "i18n"
  catalogExtension := "toml"
  defaultLocale := ""
  carrierKey := "i18nLocale"
  workers := 4
  workers_pos := by decide

/-- Whether a run is one of production (`StringerSettings.is_production`): no prefix marks it as
development. -/
def isProduction (s : Settings) : Bool := s.developmentPrefix.isEmpty

/-- The default locale, if one is set (`StringerSettings.default_locale_override`). -/
def defaultLocale? (s : Settings) : Option String :=
  if s.defaultLocale.isEmpty then none else some s.defaultLocale

/-! ## Integers -/

/-- A digit other than zero. -/
def isPositiveDigit (c : Char) : Bool := c.isDigit && c != '0'

/-- What follows zeros and underscores from a digit or a minus sign on, with the last of them
where a point or nothing comes next. -/
def afterZeros (last : Char) : List Char → Option (List Char)
  | [] => some [last]
  | c :: rest =>
    if c = '0' ∨ c = '_' then afterZeros c rest
    else if isPositiveDigit c ∨ c = '-' then some (c :: rest)
    else if c = '.' then some (last :: c :: rest)
    else none

/-- Drops leading zeros, but not the only one. -/
def dropLeadingZeros : List Char → Option (List Char)
  | [] => none
  | c :: rest =>
    if c = '0' then afterZeros c rest
    else if isPositiveDigit c ∨ c = '-' then some (c :: rest)
    else none

/-- Drops a plus sign, which no minus sign may follow. -/
def dropPlus : List Char → Option (List Char)
  | '+' :: '-' :: _ => none
  | '+' :: rest => some rest
  | text => some text

/-- Drops a fraction of one or more zeros. -/
def dropZeroFraction (text : List Char) : List Char :=
  match Text.cut? '.' text with
  | some (whole, fraction) =>
    if fraction ≠ [] ∧ fraction.all (· = '0') then whole else text
  | none => text

/-- Whether no two underscores are next to each other. -/
def underscoresApart : List Char → Bool
  | '_' :: '_' :: _ => false
  | _ :: rest => underscoresApart rest
  | [] => true

/-- Drops underscores that stand inside a text one by one. -/
def dropUnderscores (text : List Char) : List Char :=
  if text.head? = some '_' ∨ text.getLast? = some '_' ∨ !underscoresApart text then text
  else text.filter (· ≠ '_')

/-- A minus sign at the front of a text and what follows it. -/
def splitMinus : List Char → Bool × List Char
  | '-' :: rest => (true, rest)
  | text => (false, text)

/-- The integer of a plain numeral: zero, or digits that do not start with a zero, after a minus
sign or none. Digits that are too many count as such even if more follows them. -/
def plainNumber (text : List Char) : Except SettingProblem Int :=
  let (negative, body) := splitMinus text
  let digits := body.takeWhile Char.isDigit
  if body = ['0'] then .ok 0
  else if !body.head?.any isPositiveDigit then .error .malformedInteger
  else if Numeral.maxDigits < digits.length + negative.toNat then .error .tooLarge
  else if digits.length < body.length then .error .malformedInteger
  else .ok (Numeral.signed negative (Numeral.ofDigits 10 0 digits))

/-- The plain numeral that a text stands for if blanks around it, a plus sign, leading zeros, a
fraction of zeros and inner underscores are left out. -/
def plainForm? (text : List Char) : Option (List Char) := do
  let (negative, body) := splitMinus (← dropPlus (Text.trim Text.isNumeralBlank text))
  let body := dropUnderscores (dropZeroFraction (← dropLeadingZeros body))
  some (if negative then '-' :: body else body)

/-- The integer that a text gives. -/
def numberOfText (text : List Char) : Except SettingProblem Int :=
  match plainNumber text, plainForm? text with
  | .error .malformedInteger, some plain => plainNumber plain
  | outcome, _ => outcome

/-- The integer that a value gives. -/
def numberOf : Value → Except SettingProblem Int
  | .bool b => .ok (if b then 1 else 0)
  | .int n => .ok n
  | .text s =>
    match Text.chars? s with
    | some chars => numberOfText chars
    | none => .error .malformedInteger
  | .bytes octets =>
    match Text.Utf8.decode octets with
    | .ok text => numberOfText text
    | .error _ => .error .malformedInteger
  | .float x =>
    match x.truncate?, x.toInt? with
    | none, _ => .error .notFinite
    | some _, none => .error .fractional
    | some _, some n =>
      if Word64.minSigned < n ∧ n ≤ Word64.maxSigned then .ok n else .error .tooLarge
  | _ => .error .notInteger

/-- A number of workers (`StringerSettings.validate_parse_workers`). -/
def workersOf (v : Value) : Except SettingProblem { n : Int // 0 < n } :=
  match numberOf v with
  | .error p => .error p
  | .ok n => if h : 0 < n then .ok ⟨n, h⟩ else .error .notPositive

/-! ## Texts -/

/-- The text that a value gives. -/
def textOf : Value → Except SettingProblem String
  | .text s =>
    match Text.string? s with
    | some s => .ok s
    | none => .error .notUtf8
  | .bytes octets =>
    match Text.Utf8.decode octets with
    | .ok text => .ok (String.ofList text)
    | .error _ => .error .notUtf8
  | _ => .error .notText

/-- The extension that a value gives, of which a text is trimmed and loses its leading dots
(`StringerSettings.normalize_extension`). -/
def extensionOf (v : Value) : Except SettingProblem String :=
  match v.string? with
  | some s => .ok (CatalogDirectory.dropDots (String.ofList (Text.trim Text.isBlank s.toList)))
  | none => textOf v

/-! ## Reading -/

/-- The value that is given for a setting, with the name under which problems with it are found.
Given values come before the environment, and a label before a name, but problems with a value
under both are found under the name. -/
def given? (values : List (String × Value)) (environment : List (String × String))
    (s : Setting) : Option (String × Value) :=
  let inEnvironment (name : String) :=
    (Dict.valueIn? name environment).map fun text => (name, Value.ofString text)
  match Dict.valueIn? s.label values, Dict.valueIn? s.name values with
  | some v, some _ => some (s.name, v)
  | some v, none => some (s.label, v)
  | none, some v => some (s.name, v)
  | none, none => inEnvironment s.label <|> inEnvironment s.name

/-- The problem with what is given for a setting, if there is one, by the name of the place. -/
def problem? {α : Type} (given : Option (String × Value)) :
    Except SettingProblem α → Option (String × SettingProblem)
  | .ok _ => none
  | .error p => given.map fun (place, _) => (place, p)

/-- The reports on a number of workers. -/
def workerEvents (given : Option (String × Value)) : List Event :=
  match given.map (numberOf ·.2) with
  | some (.ok n) => if 0 < n then [] else [.workerCount n]
  | _ => []

/-- What a value that may be given reads as. -/
def orDefault {α : Type} (default : α) (f : Value → Except SettingProblem α) :
    Option (String × Value) → Except SettingProblem α
  | some (_, v) => f v
  | none => .ok default

/-- The settings of some values and an environment, or the problems by the names of their
places. -/
def read (values : List (String × Value)) (environment : List (String × String)) :
    List Event × Except (List (String × SettingProblem)) Settings :=
  let given := given? values environment
  let text (default : String) (s : Setting) := orDefault default textOf (given s)
  let developmentPrefix := text standard.developmentPrefix .developmentPrefix
  let logLevel := text standard.logLevel .logLevel
  let catalogPath := text standard.catalogPath .catalogPath
  let catalogExtension :=
    orDefault standard.catalogExtension extensionOf (given .catalogExtension)
  let defaultLocale := text standard.defaultLocale .defaultLocale
  let carrierKey := text standard.carrierKey .carrierKey
  let workers := orDefault ⟨standard.workers, standard.workers_pos⟩ workersOf (given .workers)
  let outcome := match developmentPrefix, logLevel, catalogPath, catalogExtension, defaultLocale,
      carrierKey, workers with
    | .ok developmentPrefix, .ok logLevel, .ok catalogPath, .ok catalogExtension,
      .ok defaultLocale, .ok carrierKey, .ok ⟨workers, workers_pos⟩ =>
      .ok
        { developmentPrefix, logLevel, catalogPath, catalogExtension, defaultLocale, carrierKey
          workers, workers_pos }
    | _, _, _, _, _, _, _ => .error <|
      [problem? (given .developmentPrefix) developmentPrefix, problem? (given .logLevel) logLevel,
        problem? (given .catalogPath) catalogPath,
        problem? (given .catalogExtension) catalogExtension,
        problem? (given .defaultLocale) defaultLocale, problem? (given .carrierKey) carrierKey,
        problem? (given .workers) workers].filterMap id
  (workerEvents (given .workers), outcome)

end Settings

end SymbolText
