/-!
# White space

What counts as white space depends on what is trimmed.

* `isAsciiBlank`: the six ASCII white-space characters.
* `isNumeralBlank`: white space of any script, which numerals are trimmed of.
* `isBlank`: the same with the four ASCII information separators.
* `isLineBlank`: space, tab, line feed and carriage return, which the parts of a catalog line
  are trimmed of.
-/

namespace SymbolText.Text

/-- The six ASCII white-space characters: tab to carriage return, and the space. -/
def isAsciiBlank (c : Char) : Bool :=
  c.toNat = 0x20 || (Nat.ble 0x9 c.toNat && Nat.ble c.toNat 0xd)

/-- White space above ASCII. -/
def isWideBlank (c : Char) : Bool :=
  c.toNat = 0x85 || c.toNat = 0xa0 || c.toNat = 0x1680 ||
    (Nat.ble 0x2000 c.toNat && Nat.ble c.toNat 0x200a) ||
    c.toNat = 0x2028 || c.toNat = 0x2029 || c.toNat = 0x202f || c.toNat = 0x205f ||
    c.toNat = 0x3000

/-- The ASCII separators of files, groups, records and units. -/
def isInformationSeparator (c : Char) : Bool :=
  Nat.ble 0x1c c.toNat && Nat.ble c.toNat 0x1f

/-- White space of any script. -/
def isNumeralBlank (c : Char) : Bool := isAsciiBlank c || isWideBlank c

/-- White space of any script, with the ASCII information separators. -/
def isBlank (c : Char) : Bool := isNumeralBlank c || isInformationSeparator c

/-- The characters that lines, keys and values of a catalog are trimmed of (`_TRIM`). -/
def isLineBlank (c : Char) : Bool :=
  c = ' ' || c = '\t' || c = '\n' || c = '\r'

end SymbolText.Text
