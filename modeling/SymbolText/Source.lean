import SymbolText.Enumeration.Basic
import SymbolText.Files.Tree
import SymbolText.Log
import SymbolText.Text.Delivery
import SymbolText.Yaml.Fault

/-!
# Sources of symbols

A source knows the declarations of some types, in the order of their declaration, aliases
included. It is made of declarations themselves, of enumerations, or of a symbol file.

Models of `StaticSymbolSource`, `EnumSymbolSource` and `YAMLSymbolSource`; what `safe_load` makes of
a text is a parameter.

* `SymbolSource`: the types with their declarations.
* `SymbolSource.Reader`: what reads the texts of symbol files.
* `SymbolSource.ofDeclarations`, `ofEnumerations`: sources in memory.
* `SymbolSource.ofFile`: the source of a symbol file, which maps each type to its signedness and
  its symbols.
* `SymbolSource.typeNames`, `load`: the types, and the declarations of one.
* `SymbolSource.hasTextNames`: the sources that runs work on.
-/

namespace SymbolText

/-- The types of a source (`SymbolSource`); those of an unusable type are an error. -/
structure SymbolSource where
  types : List (Value × Except Error (List Declaration))

namespace SymbolSource

/-- The names of the types in the order of their first declaration (`SymbolSource.type_names`). -/
def typeNames (s : SymbolSource) : List Value := s.types.map (·.1)

/-- The declarations of a type, whose name has to be a value that can be a key
(`SymbolSource.load`); an unknown type has none. -/
def load (s : SymbolSource) (typeName : Value) : Except Error (List Declaration) := do
  typeName.checkKey
  match Value.entry? typeName s.types with
  | some declarations => declarations
  | none => .ok []

/-- Whether the names of all that is declared are texts, as they are meant to be. -/
def hasTextNames (s : SymbolSource) : Bool :=
  s.types.all fun (_, declarations) =>
    match declarations with
    | .ok ds => ds.all (·.name.text?.isSome)
    | .error _ => true

/-! ## Declarations -/

/-- Adds a declaration to those of its type. -/
def addDeclaration (d : Declaration) :
    List (Value × List Declaration) → List (Value × List Declaration)
  | [] => [(d.typeName, [d])]
  | (t, ds) :: rest =>
    if t.same d.typeName then (t, ds ++ [d]) :: rest else (t, ds) :: addDeclaration d rest

/-- The source of some declarations, whose types have to be values that can be keys
(`StaticSymbolSource`). -/
def ofDeclarations (declarations : List Declaration) : Except Error SymbolSource := do
  declarations.forM fun d => d.typeName.checkKey
  let grouped := declarations.foldl (fun types d => addDeclaration d types) []
  .ok ⟨grouped.map fun (t, ds) => (t, .ok ds)⟩

/-! ## Enumerations -/

/-- The source of some enumerations as they are written, of which the last of a name counts
(`EnumSymbolSource`). -/
def ofEnumerations (drafts : List Enumeration.Draft) : Except Error SymbolSource := do
  let enumerations ← drafts.mapM Enumeration.Draft.build
  let named : Dict String Enumeration := .ofList (enumerations.map fun e => (e.name, e))
  .ok ⟨named.entries.map fun (name, e) => (.ofString name, e.declarations)⟩

/-! ## Symbol files -/

/-- The entry of a dictionary under a text. -/
def partOf? (entries : List (Value × Value)) (name : String) : Option Value :=
  Value.entry? (.ofString name) entries

/-- A value that may be left out: one that counts as false is an empty dictionary. -/
def orEmpty (v : Value) : Value := if v.isTruthy then v else .dict []

/-- The plain text of a value as a name. -/
def nameOf (v : Value) : Except Error Text := orTooLong v.show?

/-- The declaration of a symbol in a symbol file, whose name is shown as a text
(`YAMLSymbolSource._parse_type`). -/
def declareSymbol (path : Path) (typeName : Value) (signed : Bool) (symbol : Value × Value) :
    Except Error Declaration :=
  match symbol.2.integer? with
  | some n => do
    let name ← nameOf symbol.1
    .ok ⟨typeName, .text name, .int n, .bool signed⟩
  | none => do
    let _ ← nameOf typeName
    let _ ← nameOf symbol.1
    .error (.symbolNotInteger path typeName symbol.1)

/-- The failure of a type without a mapping of symbols. -/
def noMapping {α : Type} (path : Path) (typeName : Value) : Except Error α := do
  let _ ← nameOf typeName
  .error (.typeNotMapping path typeName)

/-- The declarations of a type in a symbol file (`YAMLSymbolSource._parse_type`). -/
def declareType (path : Path) (typeName body : Value) : Except Error (List Declaration) :=
  match body with
  | .dict entries =>
    match orEmpty ((partOf? entries "symbols").getD .null) with
    | .dict symbols =>
      let signed := ((partOf? entries "signed").getD (.bool true)).isTruthy
      symbols.mapM (declareSymbol path typeName signed)
    | _ => noMapping path typeName
  | _ => noMapping path typeName

/-- The source that the value of a symbol file describes (`YAMLSymbolSource.__init__`). -/
def ofValue (path : Path) (v : Value) : Except Error SymbolSource :=
  match orEmpty v with
  | .dict entries => do
    let types ← entries.mapM fun (typeName, body) => do
      .ok (typeName, ← declareType path typeName body)
    .ok ⟨types.map fun (t, ds) => (t, .ok ds)⟩
  | _ => .error (.symbolsNotMapping path)

/-- What reads the texts of symbol files (`safe_load`). Which texts have values, and which ones, is
up to it. -/
structure Reader where
  /-- The value of a text, or why it has none. -/
  read : List Char → Except Yaml.Fault Value
  /-- Why reading stops in a text that goes on, if it does before what follows is asked for. -/
  stop? : List Char → Option Yaml.Fault

/-- The failure of a symbol file whose text has a fault. -/
def faulty {α : Type} (path : Path) : Yaml.Fault → Logged α
  | .malformed => .fail [.symbolsMalformed path] (.symbolsMalformed path)
  | .unreadable e => .of (.error e)

/-- The value of a symbol file (`YAMLSymbolSource.__init__`). Octets that are not UTF-8 count unless
reading stops within what is delivered before. -/
def readValue (reader : Reader) (path : Path) (octets : List UInt8) : Logged Value :=
  match Text.deliver octets with
  | .ok text =>
    match reader.read text with
    | .ok v => .of (.ok v)
    | .error fault => faulty path fault
  | .error interruption =>
    match reader.stop? interruption.delivered with
    | some fault => faulty path fault
    | none => .of (.error (.symbolsEncoding interruption.failure))

/-- The source of a symbol file (`YAMLSymbolSource.__init__`). -/
def ofFile (reader : Reader) (tree : FileTree) (path : Path) : Logged SymbolSource :=
  if path.hasNull then .of (.error .nullInPath)
  else match tree.read path with
    | .error failure => .of (.error (.unreadableSymbols path failure))
    | .ok octets => do
      let v ← readValue reader path octets
      .of (ofValue path v)

end SymbolSource

end SymbolText
