import SymbolText.Calendar
import SymbolText.Files.Path
import SymbolText.Text.Utf8
import SymbolText.Value.Show

/-!
# Errors

Every way in which building or using tables can fail is one constructor of `Error`, which
carries what the failure is about. The wording is in `Error.message` alone.

* `ReadFailure`: why a file cannot be read, with `Refusal` for what the system says.
* `Error`: the causes.
* `Error.message`, `Error.path?`, `Error.key?`: the wording, and the file and the key that an
  error names.
-/

namespace SymbolText

/-- A reason for which the system does not open a regular file, such as that it is not permitted:
its number and its wording. -/
structure Refusal where
  number : Nat
  wording : String
  deriving DecidableEq, Repr

/-- Why the file at a path cannot be read. -/
inductive ReadFailure
  | notFound
  | notDirectory
  | isDirectory
  /-- The path, or a name on the way, is longer than it may be. -/
  | nameTooLong
  /-- There is a regular file that cannot be opened. -/
  | refused (reason : Refusal)
  deriving DecidableEq, Repr

/-- The wording of a failure to read the file at a path. -/
def ReadFailure.message (f : ReadFailure) (path : Path) : String :=
  let what := match f with
    | .notFound => "[Errno 2] No such file or directory"
    | .notDirectory => "[Errno 20] Not a directory"
    | .isDirectory => "[Errno 21] Is a directory"
    | .nameTooLong => "[Errno 36] File name too long"
    | .refused reason => s!"[Errno {reason.number}] {reason.wording}"
  s!"{what}: {Text.Literal.ofString path.render}"

/-- The causes of failure. -/
inductive Error
  /-- The value of a symbol is out of the range of its signedness (`SymbolValueError`). -/
  | valueOutOfRange (typeName name : Value) (value : Int) (signed : Bool)
  /-- There are no symbols to split into runs (`NoValuesError`). -/
  | noSymbols
  /-- A type has no symbols (`NoValuesError`). -/
  | noValues (typeName : Value)
  /-- A symbol of another type in the set of a type. -/
  | foreignSymbol (name owner typeName : Value)
  /-- A text or octets that denote no integer of a base, by their literal. -/
  | malformedInteger (base : Nat) (literal : String)
  /-- A value of a type that has no integers. -/
  | notNumeric (typeName : String)
  /-- What is not a number as an integer. -/
  | integerOfNaN
  /-- An infinity as an integer. -/
  | integerOfInfinity
  /-- A numeral with more digits than numerals may have. -/
  | numeralTooLong (digits : Nat)
  /-- An integer whose numeral would have more digits than numerals may have. -/
  | integerTooLong
  /-- More parts than the two, a numeral and its base, that an integer is made of. -/
  | integerParts (count : Nat)
  /-- A value of a type that cannot be a base. -/
  | baseType (typeName : String)
  /-- A number that cannot be a base. -/
  | baseRange
  /-- What is not a numeral beside a base. -/
  | baseWithoutNumeral
  /-- A number without any characters beside its sign. -/
  | emptyNumber
  /-- A text that denotes no floating-point number, by its literal. -/
  | malformedFloat (literal : String)
  /-- An integer beyond all floating-point numbers. -/
  | integerBeyondFloats
  /-- A number beyond all code points. -/
  | codePointBeyond
  /-- A number beyond all words of 31 bits in place of a code point. -/
  | codePointBeyondWords
  /-- A text that denotes no truth value. -/
  | unknownTruth (text : Text)
  /-- A text that has not the form of a date or a moment. -/
  | malformedTime
  /-- A mapping in place of the text of a date or a moment. -/
  | timeOfMapping
  /-- The parts of a date or a moment are not possible. -/
  | impossibleTime (fault : Calendar.Fault)
  /-- A value of a type whose values may change cannot be a key. -/
  | unhashable (typeName : String)
  /-- Values of two types that have no order between them. -/
  | unordered (left right : String)
  /-- A name of a type that has no characters. -/
  | nameWithoutLength (typeName : String)
  /-- A name or locale that is not there. -/
  | unknownKey (key : Text)
  /-- A type that was not compiled. -/
  | notCompiled (typeName : String)
  /-- A number of runs that is not positive. -/
  | runCount (count : Int)
  /-- A direct table of other than one run. -/
  | directRuns (count : Nat)
  /-- A text beyond the last of a packed sequence. -/
  | packedIndex
  /-- An index beyond all that a sequence can have. -/
  | indexBeyondWords
  /-- A resolver for no locales (`ConfigurationError`). -/
  | noLocales
  /-- A default locale that is not among the locales (`InvalidDefaultLocaleError`). -/
  | unknownDefault (locale : String) (locales : List String)
  /-- A catalog root that is not a directory (`CatalogError`). -/
  | rootNotDirectory (root : Path)
  /-- The path of a catalog root, or of what is beneath it, is too long to be looked at. -/
  | pathTooLong (path : Path)
  /-- A catalog root without catalog files (`CatalogError`). -/
  | noCatalogs (root : Path) (extension : String)
  /-- A locale without catalog files (`CatalogError`). -/
  | noCatalogOf (locale : String) (root : Path)
  /-- A catalog file that cannot be read (`CatalogError`). -/
  | unreadableCatalog (path : Path) (failure : ReadFailure)
  /-- A catalog that is not in UTF-8 (`CatalogError`); the failure is absent where a zero octet near
  the start shows it. -/
  | catalogEncoding (path : String) (failure : Option Text.Utf8.Failure)
  /-- A catalog value that does not start with a quote (`CatalogError`). -/
  | unquotedValue (path key : String)
  /-- A catalog value with an unknown escape (`CatalogError`). -/
  | unknownEscape (path key : String)
  /-- A member of an enumeration with a name that has a meaning of its own. -/
  | reservedName (name : String)
  /-- Members of an enumeration that are to be ignored, by the literal of their names. -/
  | ignoredMembers (literal : String)
  /-- A second member of a name, by the literals of the name and of the first value. -/
  | repeatedMember (name value : String)
  /-- Names that members of an enumeration cannot have, by their literals. -/
  | invalidNames (literals : List String)
  /-- Members in another order than the announced one, by the literals of both. -/
  | memberOrder (members announced : String)
  /-- A value in place of an operation on members of an enumeration. -/
  | notCallable (typeName : String)
  /-- Integer members of an enumeration cannot have their values set. -/
  | valueNotSet
  /-- What is not a text as the qualified name of an enumeration. -/
  | qualifiedName (typeName : String)
  /-- A value of a type without items in place of a sequence of names. -/
  | notIterable (typeName : String)
  /-- Announced fields of members that are integers. -/
  | fieldsOfIntegers
  /-- What is not a text as the name of a field. -/
  | fieldNotText (typeName : String)
  /-- A text that is no word as the name of a field. -/
  | fieldNotWord
  /-- All attributes of a member as a field. -/
  | fieldOfAttributes
  /-- What refers to a member as a field. -/
  | fieldOfReferences
  /-- A field with a name that is taken, by its literal. -/
  | fieldTaken (literal : String)
  /-- A field of a member of an enumeration that has no value. -/
  | fieldUnset (owner name : String)
  /-- A value as the place in which operations find their enumeration. -/
  | notPlace (typeName : String)
  /-- A zero character in the name of an enumeration. -/
  | nullInName
  /-- An enumeration member whose value is not an integer (`ConfigurationError`). -/
  | memberNotInteger (typeName name : String)
  /-- A zero character in a path. -/
  | nullInPath
  /-- A symbol file that cannot be read (`ConfigurationError`). -/
  | unreadableSymbols (path : Path) (failure : ReadFailure)
  /-- A symbol file that is not in UTF-8. -/
  | symbolsEncoding (failure : Text.Utf8.Failure)
  /-- A symbol file that is not a document of its format (`ConfigurationError`). -/
  | symbolsMalformed (path : Path)
  /-- A symbol file that is not a mapping (`ConfigurationError`). -/
  | symbolsNotMapping (path : Path)
  /-- A type in a symbol file that has no mapping of symbols (`ConfigurationError`). -/
  | typeNotMapping (path : Path) (typeName : Value)
  /-- A symbol in a symbol file whose value is not an integer (`ConfigurationError`). -/
  | symbolNotInteger (path : Path) (typeName name : Value)

/-- A text, where a numeral in it may be too long. -/
def orTooLong {α : Type} : Option α → Except Error α
  | some text => .ok text
  | none => .error .integerTooLong

namespace Error

/-- The wording of a signedness. -/
def signednessName (signed : Bool) : String := if signed then "signed" else "unsigned"

/-- The plain text of a value inside a message. -/
def shown (v : Value) : Text := v.show?.getD []

/-- The limit on the length of numerals, as messages word it. -/
def numeralLimit : String :=
  s!"Exceeds the limit ({Numeral.maxDigits} digits) for integer string conversion"

/-- What to do about the limit on the length of numerals. -/
def numeralAdvice : String := "use sys.set_int_max_str_digits() to increase the limit"

/-- The wording of an error. -/
def message : Error → Text
  | valueOutOfRange typeName name value signed =>
    List.flatten
      ["value ", Text.ofChars (Numeral.decimal value), " of `", shown typeName, ".", shown name,
        "` does not fit a ", signednessName signed, " 64-bit integer"]
  | noSymbols => "No values defined"
  | noValues typeName => "No values defined for type " ++ shown typeName
  | foreignSymbol name owner typeName =>
    List.flatten
      ["Symbol `", shown name, "` belongs to `", shown owner, "`, not `", shown typeName, "`"]
  | malformedInteger base literal => s!"invalid literal for int() with base {base}: {literal}"
  | notNumeric typeName =>
    "int() argument must be a string, a bytes-like object or a real number, not " ++
      s!"'{typeName}'"
  | integerOfNaN => "cannot convert float NaN to integer"
  | integerOfInfinity => "cannot convert float infinity to integer"
  | numeralTooLong digits => s!"{numeralLimit}: value has {digits} digits; {numeralAdvice}"
  | integerTooLong => s!"{numeralLimit}; {numeralAdvice}"
  | integerParts count => s!"int() takes at most 2 arguments ({count} given)"
  | baseType typeName => s!"'{typeName}' object cannot be interpreted as an integer"
  | baseRange => "int() base must be >= 2 and <= 36, or 0"
  | baseWithoutNumeral => "int() can't convert non-string with explicit base"
  | emptyNumber => "string index out of range"
  | malformedFloat literal => s!"could not convert string to float: {literal}"
  | integerBeyondFloats => "int too large to convert to float"
  | codePointBeyond => "chr() arg not in range(0x110000)"
  | codePointBeyondWords => "Python int too large to convert to C int"
  | unknownTruth text => text
  | malformedTime => "'NoneType' object has no attribute 'groupdict'"
  | timeOfMapping => "expected string or bytes-like object, got 'list'"
  | impossibleTime fault => fault.message
  | unhashable typeName => s!"unhashable type: '{typeName}'"
  | unordered left right =>
    s!"'<' not supported between instances of '{left}' and '{right}'"
  | nameWithoutLength typeName => s!"object of type '{typeName}' has no len()"
  | unknownKey key => key
  | notCompiled typeName => s!"Type `{typeName}` was not compiled"
  | runCount count => s!"run count must be positive, got {String.ofList (Numeral.decimal count)}"
  | directRuns count => s!"direct table needs exactly one run, got {count}"
  | packedIndex => "array index out of range"
  | indexBeyondWords => "cannot fit 'int' into an index-sized integer"
  | noLocales => "No locales discovered"
  | unknownDefault locale locales =>
    s!"default locale `{locale}` is not among discovered locales: " ++
      String.intercalate ", " locales
  | rootNotDirectory root => s!"catalog path option applies only to directory: {root.render}"
  | pathTooLong path => ReadFailure.nameTooLong.message path
  | noCatalogs root extension =>
    s!"No valid catalog file found in {root.render}, please write locale .{extension} files first"
  | noCatalogOf locale root => s!"No catalog files found for locale {locale} in {root.render}"
  | unreadableCatalog path failure =>
    s!"read catalog file `{path.render}` occur err {failure.message path}"
  | catalogEncoding path failure =>
    s!"catalog file `{path}` must be using UTF-8 coding" ++
      (match failure with
      | some f => s!": {f.message}"
      | none => "")
  | unquotedValue path key =>
    s!"value of key `{key}` in catalog file `{path}` must be using double quotes"
  | unknownEscape path key =>
    s!"value of key `{key}` in catalog file `{path}` parse failed, " ++
      "backslash(\\) may be used incorrectly"
  | reservedName name =>
    s!"_sunder_ names, such as {Text.Literal.ofString name}, are reserved for future Enum use"
  | ignoredMembers literal => s!"_ignore_ cannot specify already set names: {literal}"
  | repeatedMember name value => s!"{name} already defined as {value}"
  | invalidNames literals => s!"invalid enum member name(s) " ++ String.intercalate "," literals
  | memberOrder members announced =>
    s!"member order does not match _order_:\n  {members}\n  {announced}"
  | notCallable typeName => s!"'{typeName}' object is not callable"
  | valueNotSet => "_value_ not set in __new__, unable to create it"
  | qualifiedName typeName => s!"type __qualname__ must be a str, not {typeName}"
  | notIterable typeName => s!"'{typeName}' object is not iterable"
  | fieldsOfIntegers => "nonempty __slots__ not supported for subtype of 'IntEnum'"
  | fieldNotText typeName => s!"__slots__ items must be strings, not '{typeName}'"
  | fieldNotWord => "__slots__ must be identifiers"
  | fieldOfAttributes => "__dict__ slot disallowed: we already got one"
  | fieldOfReferences =>
    "__weakref__ slot disallowed: either we already got one, or __itemsize__ != 0"
  | fieldTaken literal => s!"{literal} in __slots__ conflicts with class variable"
  | fieldUnset owner name => s!"'{owner}' object has no attribute '{name}'"
  | notPlace typeName => s!"__classcell__ must be a nonlocal cell, not <class '{typeName}'>"
  | nullInName => "type name must not contain null characters"
  | nullInPath => "embedded null byte"
  | memberNotInteger typeName name => s!"can't handle non-integer constant {typeName}.{name}"
  | unreadableSymbols path failure =>
    s!"read symbol file `{path.render}` occur err {failure.message path}"
  | symbolsEncoding failure => failure.message
  | symbolsMalformed path => s!"Failed to parse {path.render}"
  | symbolsNotMapping path =>
    s!"symbol file `{path.render}` must map type names to declarations"
  | typeNotMapping path typeName =>
    List.flatten
      ["type `", shown typeName, "` in `", path.render, "` must define a `symbols` mapping"]
  | symbolNotInteger path typeName name =>
    List.flatten
      ["value of `", shown typeName, ".", shown name, "` in `", path.render,
        "` must be an integer"]

/-- The file or directory that an error names. -/
def path? : Error → Option String
  | rootNotDirectory root | noCatalogs root _ | noCatalogOf _ root => some root.render
  | unreadableCatalog path _ => some path.render
  | catalogEncoding path _ | unquotedValue path _ | unknownEscape path _ => some path
  | unreadableSymbols path _ | symbolsMalformed path | symbolsNotMapping path => some path.render
  | typeNotMapping path _ | symbolNotInteger path _ _ => some path.render
  | _ => none

/-- The catalog key, symbol, type or locale that an error names. -/
def key? : Error → Option Value
  | valueOutOfRange _ name _ _ => some name
  | noValues typeName => some typeName
  | unknownDefault locale _ => some (.ofString locale)
  | noCatalogOf locale _ => some (.ofString locale)
  | unquotedValue _ key | unknownEscape _ key => some (.ofString key)
  | memberNotInteger _ name => some (.ofString name)
  | typeNotMapping _ typeName => some typeName
  | symbolNotInteger _ _ name => some (.text (shown name))
  | _ => none

end Error

end SymbolText
