import SymbolText.Template.Format

/-!
# Filling in templates

The directives of a template take the arguments in order. Nothing is refused: a directive
without an argument and arguments without a directive are shown in the text.

The model of `sprintf`.

* `fill`: what is written for a template with arguments.
-/

namespace SymbolText.Template

/-- The descriptions of arguments that no directive took (`sprintf`). -/
def extra : List Value → Except Error Text
  | [] => .ok []
  | args => do
    let described ← args.mapM Directive.describe
    .ok (Text.ofString "%!(EXTRA " ++ Text.joinWith (Text.ofString ", ") described ++ ")")

/-- What stands in place of a directive without an argument (`sprintf`). -/
def missing (verb : Char) : Text := Text.ofChars ('%' :: '!' :: verb :: "(MISSING)".toList)

/-- What is written for pieces, whose directives take the arguments in order. -/
def fillPieces : List Piece → List Value → Except Error Text
  | [], args => extra args
  | .literal p :: pieces, args => (fillPieces pieces args).map (p :: ·)
  | .directive d :: pieces, args =>
    if d.verb = '%' then (fillPieces pieces args).map (.char '%' :: ·)
    else
      match args with
      | [] => (fillPieces pieces []).map (missing d.verb ++ ·)
      | arg :: args => do
        let text ← d.format arg
        let rest ← fillPieces pieces args
        .ok (text ++ rest)

/-- What is written for a template with arguments (`sprintf`). -/
def fill (template : Text) (args : List Value) : Except Error Text :=
  fillPieces (Piece.ofTemplate template) args

end SymbolText.Template
