import SymbolText.Text.CodePoint
import SymbolText.Text.DecimalDigit

/-!
# Directives and pieces of a template

A template is a text with directives in it. A directive is a percent sign, any flags, an
optional width, an optional precision after a point, and a letter or a second percent sign. A
percent sign that starts no directive stands for itself.

The model of the pattern `_DIRECTIVE`.

* `Directive`: the parts of a directive, and `Directive.render`, its written form.
* `Directive.parse?`: the directive after a percent sign.
* `Piece`, `Piece.ofTemplate`: a template as single code points and directives.

The digits of a width or precision may be those of any script here; which of them can be
followed is decided when the directive is applied.
-/

namespace SymbolText

/-- A directive of a template (`_DIRECTIVE`). -/
structure Directive where
  flags : List Char
  /-- The digits of the width; none if it is absent. -/
  width : List Char
  /-- The digits of the precision, if it is there. -/
  precision : Option (List Char)
  verb : Char
  deriving DecidableEq, Repr

namespace Directive

/-- The characters that are flags. -/
def isFlag (c : Char) : Bool := c = '-' || c = '+' || c = '#' || c = ' ' || c = '0'

/-- The characters that end a directive. -/
def isVerb (c : Char) : Bool := c.isAlpha || c = '%'

/-- The precision at the front of a text: a point followed by at least one digit. -/
def splitPrecision : Text → Option (List Char) × Text
  | .char '.' :: rest =>
    let (digits, later) := Text.span Text.isDecimalDigit rest
    if digits = [] then (none, .char '.' :: rest) else (some digits, later)
  | text => (none, text)

/-- The directive whose percent sign came just before a text, and what follows it (`_DIRECTIVE`). -/
def parse? (text : Text) : Option (Directive × Text) :=
  let (flags, text) := Text.span isFlag text
  let (width, text) := Text.span Text.isDecimalDigit text
  let (precision, text) := splitPrecision text
  match text with
  | .char verb :: rest =>
    if isVerb verb then some (⟨flags, width, precision, verb⟩, rest) else none
  | _ => none

/-- The written form of a directive. -/
def render (d : Directive) : List Char :=
  '%' :: (d.flags ++ d.width ++ (d.precision.elim [] ('.' :: ·)) ++ [d.verb])

theorem length_splitPrecision_le (text : Text) :
    (splitPrecision text).2.length ≤ text.length := by
  unfold splitPrecision
  split
  · rename_i rest
    have := Text.length_span_le Text.isDecimalDigit rest
    dsimp only
    split
    · simp
    · simp only [List.length_cons]
      omega
  · simp

/-- A directive takes at least its verb. -/
theorem length_lt_of_parse? {text rest : Text} {d : Directive}
    (h : parse? text = some (d, rest)) : rest.length < text.length := by
  simp only [parse?] at h
  have h₁ := Text.length_span_le isFlag text
  have h₂ := Text.length_span_le Text.isDecimalDigit (Text.span isFlag text).2
  have h₃ := length_splitPrecision_le
    (Text.span Text.isDecimalDigit (Text.span isFlag text).2).2
  split at h
  · rename_i verb tail heq
    split at h
    · simp only [Option.some.injEq, Prod.mk.injEq] at h
      rw [heq, List.length_cons] at h₃
      rw [← h.2]
      omega
    · simp at h
  · simp at h

end Directive

/-- A part of a template. -/
inductive Piece
  /-- A code point that stands for itself. -/
  | literal (p : CodePoint)
  | directive (d : Directive)
  deriving DecidableEq

namespace Piece

/-- The pieces of a template, from left to right. -/
def ofTemplate (template : Text) : List Piece :=
  match template with
  | [] => []
  | p :: rest =>
    if p = .char '%' then
      match h : Directive.parse? rest with
      | some (d, rest') =>
        have := Directive.length_lt_of_parse? h
        .directive d :: ofTemplate rest'
      | none => .literal p :: ofTemplate rest
    else .literal p :: ofTemplate rest
termination_by template.length

end Piece

end SymbolText
