import SymbolText.Text.CodePoint

/-!
# Tokens of documents

The pieces that a document is made of, in the order of the text. The start and end of a block
are tokens of their own, which indentation gives rise to.

* `Token`: the tokens.
* `TagName`: the name of a tag as it is written.
-/

namespace SymbolText.Yaml

/-- The name of a tag: a suffix, after the handle of a prefix or alone. -/
structure TagName where
  handle : Option String
  suffix : String
  deriving DecidableEq, Repr

/-- The tokens of documents. -/
inductive Token
  /-- The version that a document is for. -/
  | version (major : Nat)
  /-- A handle that stands for a prefix of tags. -/
  | tagHandle (handle stem : String)
  /-- Another directive. -/
  | directive
  | documentStart
  | documentEnd
  | blockSequenceStart
  | blockMappingStart
  | blockEnd
  | flowSequenceStart
  | flowSequenceEnd
  | flowMappingStart
  | flowMappingEnd
  /-- The comma between the items of a flow collection. -/
  | flowEntry
  /-- The hyphen before an item of a block sequence. -/
  | blockEntry
  | key
  | value
  /-- A node that stands elsewhere under an anchor. -/
  | reference (name : String)
  | anchor (name : String)
  | tag (name : TagName)
  | scalar (text : Text) (plain : Bool)
  /-- The end of the text. -/
  | textEnd
  deriving DecidableEq

end SymbolText.Yaml
