import SymbolText.Calendar
import SymbolText.Catalog.Basic
import SymbolText.Catalog.Directory
import SymbolText.Catalog.File
import SymbolText.Catalog.Session
import SymbolText.Catalog.Set
import SymbolText.Component
import SymbolText.Dict
import SymbolText.Enumeration.Basic
import SymbolText.Enumeration.Field
import SymbolText.Enumeration.Name
import SymbolText.Enumeration.Scope
import SymbolText.Error
import SymbolText.Files.Path
import SymbolText.Files.Tree
import SymbolText.Generation
import SymbolText.LocaleResolver
import SymbolText.Log
import SymbolText.Number.Binary64
import SymbolText.Number.Decimal
import SymbolText.Number.FloatArithmetic
import SymbolText.Number.FloatText
import SymbolText.Number.Numeral
import SymbolText.Proofs.Keys
import SymbolText.Proofs.Packing
import SymbolText.Proofs.Runs
import SymbolText.Report
import SymbolText.Run
import SymbolText.Settings
import SymbolText.Source
import SymbolText.Symbol.Basic
import SymbolText.Symbol.Declaration
import SymbolText.Symbol.Declared
import SymbolText.Symbol.Key
import SymbolText.Symbol.Set
import SymbolText.Table.Basic
import SymbolText.Table.Compiled
import SymbolText.Table.Packed
import SymbolText.Template.Basic
import SymbolText.Template.Directive
import SymbolText.Template.Format
import SymbolText.Text.Base64
import SymbolText.Text.Blank
import SymbolText.Text.CodePoint
import SymbolText.Text.DecimalDigit
import SymbolText.Text.Delivery
import SymbolText.Text.Line
import SymbolText.Text.Literal
import SymbolText.Text.LowerCase
import SymbolText.Text.Order
import SymbolText.Text.Printable
import SymbolText.Text.Quoted
import SymbolText.Text.Utf8
import SymbolText.TranslatedError
import SymbolText.Translator
import SymbolText.Value.Basic
import SymbolText.Value.Integer
import SymbolText.Value.Key
import SymbolText.Value.Order
import SymbolText.Value.Show
import SymbolText.Word64
import SymbolText.Yaml.Atom
import SymbolText.Yaml.Cursor
import SymbolText.Yaml.Document
import SymbolText.Yaml.Fault
import SymbolText.Yaml.Kind
import SymbolText.Yaml.Layout
import SymbolText.Yaml.Node
import SymbolText.Yaml.Property
import SymbolText.Yaml.Reader
import SymbolText.Yaml.Scalar
import SymbolText.Yaml.Time
import SymbolText.Yaml.Token
import SymbolText.Proofs.Lookup
import SymbolText.Proofs.CatalogRoundTrip
import SymbolText.Proofs.Discovery
import SymbolText.Proofs.Loading
import SymbolText.Proofs.Resolution
import SymbolText.Proofs.Declarations
import SymbolText.Proofs.Generation
import SymbolText.Proofs.Substitution
import SymbolText.Proofs.Agreement
import SymbolText.Proofs.Rendering
import SymbolText.Proofs.Translation
import SymbolText.Proofs.Consistency
import SymbolText.Proofs.Workers
import SymbolText.Proofs.Checking
import SymbolText.Proofs.Locales
import SymbolText.Proofs.Pasting
import SymbolText.Proofs.SharedCatalogs
import SymbolText.Proofs.Success
import SymbolText.Proofs.QuotedGrammar
import SymbolText.Proofs.Aliases
import SymbolText.Proofs.Merging
import SymbolText.Proofs.Concatenation
import SymbolText.Proofs.Partition
import SymbolText.Proofs.Unreadable
import SymbolText.Proofs.Interleaving
import SymbolText.Proofs.CatalogLayout
import SymbolText.Proofs.EncodingVerbs
import SymbolText.Proofs.QuotedVerb
import SymbolText.Proofs.Delivery
import SymbolText.Proofs.SymbolFiles
import SymbolText.Proofs.DocumentDepth
