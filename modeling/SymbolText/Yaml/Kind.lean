import SymbolText.Number.Numeral
import SymbolText.Text.CodePoint
import SymbolText.Text.Line
import SymbolText.Yaml.Time

/-!
# Kinds of nodes

Every node has a kind, which its tag names or, for a plain scalar without a tag, the form of its
text: nothing, a truth value, a number, a date, or text.

* `Kind`, `Kind.ofTag`: the kinds, and the one that a tag names.
* `isInteger`, `isFloat`: the written forms of numbers. Integers are decimal, or of another base by
  what they start with, and a colon separates the digits of base sixty.
* `Kind.ofPlain`: the kind of a plain scalar.
-/

namespace SymbolText.Yaml

/-- The kinds of nodes. -/
inductive Kind
  | null
  | bool
  | integer
  | float
  | binary
  | time
  | text
  | sequence
  | mapping
  | set
  /-- A sequence of mappings with one entry each. -/
  | pairs
  /-- The key of mappings to merge. -/
  | merge
  /-- The key of a default value. -/
  | default
  | unknown
  deriving DecidableEq, Repr

/-- The kind that a tag names. -/
def Kind.ofTag (tag : String) : Kind :=
  match tag with
  | "tag:yaml.org,2002:null" => .null
  | "tag:yaml.org,2002:bool" => .bool
  | "tag:yaml.org,2002:int" => .integer
  | "tag:yaml.org,2002:float" => .float
  | "tag:yaml.org,2002:binary" => .binary
  | "tag:yaml.org,2002:timestamp" => .time
  | "tag:yaml.org,2002:str" => .text
  | "tag:yaml.org,2002:seq" => .sequence
  | "tag:yaml.org,2002:map" => .mapping
  | "tag:yaml.org,2002:set" => .set
  | "tag:yaml.org,2002:pairs" | "tag:yaml.org,2002:omap" => .pairs
  | "tag:yaml.org,2002:merge" => .merge
  | "tag:yaml.org,2002:value" => .default
  | _ => .unknown

/-! ## Digits -/

/-- A digit of a base up to ten, or an underscore. -/
def isDigitOf (base : Nat) (c : Char) : Bool := Numeral.isNumeralChar base c

/-- The pieces of a sequence between the occurrences of `sep`. -/
def cutAt {α : Type} [DecidableEq α] (sep : α) : List α → List (List α)
  | [] => [[]]
  | a :: rest =>
    match cutAt sep rest with
    | [] => [[a]]
    | piece :: more => if a = sep then [] :: piece :: more else (a :: piece) :: more

/-- Whether a piece is a digit of base sixty: one or two decimal digits. -/
def isSexagesimalDigit : List Char → Bool
  | [a] => a.isDigit
  | [a, b] => '0' ≤ a && a ≤ '5' && b.isDigit
  | _ => false

/-- Whether a text consists of digits of base sixty, of which the first has the form `p`. -/
def isSexagesimal (p : List Char → Bool) (text : List Char) : Bool :=
  match cutAt ':' text with
  | first :: second :: more => p first && (second :: more).all isSexagesimalDigit
  | _ => false

/-! ## Integers -/

/-- Whether a text is a decimal numeral without a leading zero; underscores may follow its first
digit. -/
def isDecimal : List Char → Bool
  | [] => false
  | c :: rest => c.isDigit && c != '0' && rest.all (isDigitOf 10)

/-- Whether a text is written as an integer. -/
def isInteger (text : List Char) : Bool :=
  match (Numeral.splitSign text).2 with
  | '0' :: 'b' :: digits => !digits.isEmpty && digits.all (isDigitOf 2)
  | '0' :: 'x' :: digits => !digits.isEmpty && digits.all (isDigitOf 16)
  | '0' :: digits => digits.all (isDigitOf 8)
  | body => isDecimal body || isSexagesimal isDecimal body

/-! ## Floating-point numbers -/

/-- Whether a text is an exponent: nothing, or a letter, a sign and digits. -/
def isExponent : List Char → Bool
  | [] => true
  | e :: sign :: digits =>
    (e = 'e' || e = 'E') && (sign = '+' || sign = '-') && !digits.isEmpty &&
      digits.all Char.isDigit
  | _ => false

/-- Whether a text is a fraction with an exponent. -/
def isFraction (text : List Char) : Bool := isExponent (text.dropWhile (isDigitOf 10))

/-- Whether a text starts with a digit and goes on with digits and underscores. -/
def isWhole : List Char → Bool
  | [] => false
  | c :: rest => c.isDigit && rest.all (isDigitOf 10)

/-- Whether a text is a word for infinity, after a point. -/
def isInfinity (word : List Char) : Bool :=
  ["inf", "Inf", "INF"].contains (String.ofList word)

/-- Whether a text is a word for what is not a number, after a point. -/
def isNaN (word : List Char) : Bool := ["nan", "NaN", "NAN"].contains (String.ofList word)

/-- Whether a number with a point is written by what comes before and after the point. -/
def isPointed (signed : Bool) (whole fraction : List Char) : Bool :=
  if whole.isEmpty then
    isInfinity fraction ||
      !signed && (isNaN fraction || fraction.head?.any Char.isDigit && isFraction fraction)
  else
    isWhole whole && isFraction fraction ||
      isSexagesimal isWhole whole && fraction.all (isDigitOf 10)

/-- Whether a text is written as a floating-point number. -/
def isFloat (text : List Char) : Bool :=
  let body := (Numeral.splitSign text).2
  match Text.cut? '.' body with
  | some (whole, fraction) => isPointed (decide (body.length < text.length)) whole fraction
  | none => false

/-! ## Plain scalars -/

/-- Whether a text is written as a truth value. -/
def isBool (text : String) : Bool :=
  ["yes", "Yes", "YES", "no", "No", "NO", "true", "True", "TRUE", "false", "False", "FALSE",
    "on", "On", "ON", "off", "Off", "OFF"].contains text

/-- Whether a text denotes nothing. -/
def isNull (text : String) : Bool := ["", "~", "null", "Null", "NULL"].contains text

/-- The indicators that denote nothing as texts. -/
def isReserved (text : String) : Bool := ["!", "&", "*"].contains text

/-- The kind of a plain scalar on one line. -/
def Kind.ofLine (text : List Char) : Kind :=
  let s := String.ofList text
  if isBool s then .bool
  else if isFloat text then .float
  else if isInteger text then .integer
  else if s = "<<" then .merge
  else if isNull s then .null
  else if isTime text then .time
  else if s = "=" then .default
  else if isReserved s then .unknown
  else .text

/-- A text without a line end that comes last, but for a line end alone. -/
def withoutLastBreak (text : List Char) : List Char :=
  if text.getLast? = some '\n' ∧ text ≠ ['\n'] then text.dropLast else text

/-- The kind of a scalar by its text, where a line end that comes last does not count. -/
def Kind.ofPlain (text : Text) : Kind :=
  match Text.chars? text with
  | some chars => .ofLine (withoutLastBreak chars)
  | none => .text

end SymbolText.Yaml
