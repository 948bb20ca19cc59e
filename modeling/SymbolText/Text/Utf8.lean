/-!
# UTF-8

Encoding of texts as octets, and a decoder that says where and why octets are not UTF-8.

* `encodeChar`, `encode`: one to four octets for each character.
* `decode`: the text, or the first failure. A failure covers the octets from the first that
  cannot be read to the end of the longest start of a character there, and has one of three
  reasons: an octet that starts no character, an octet that cannot continue one, or the end
  of the data inside of one.
* `decodePortion`: the text of octets that may end inside a character.
* `Failure.message`: its wording.
-/

namespace SymbolText.Text.Utf8

/-! ## Encoding -/

/-- The continuation octet that carries the six lowest bits of `n`. -/
def continuation (n : Nat) : UInt8 := UInt8.ofNat (0x80 + n % 64)

/-- The octets of one character. -/
def encodeChar (c : Char) : List UInt8 :=
  let n := c.toNat
  if n < 0x80 then [UInt8.ofNat n]
  else if n < 0x800 then [UInt8.ofNat (0xc0 + n / 64), continuation n]
  else if n < 0x10000 then
    [UInt8.ofNat (0xe0 + n / 4096), continuation (n / 64), continuation n]
  else
    [UInt8.ofNat (0xf0 + n / 262144), continuation (n / 4096), continuation (n / 64),
      continuation n]

/-- The octets of a text (`encode`). -/
def encode (text : List Char) : List UInt8 := text.flatMap encodeChar

/-! ## Decoding -/

/-- Why octets are not UTF-8. -/
inductive Reason
  /-- An octet that starts no character. -/
  | invalidStart
  /-- An octet that cannot continue the character begun before it. -/
  | invalidContinuation
  /-- The data ends inside a character. -/
  | unexpectedEnd
  deriving DecidableEq, Repr

/-- The octets that cannot be read: `count` of them from position `position` on, the first
being `octet`. -/
structure Failure where
  reason : Reason
  octet : UInt8
  position : Nat
  count : Nat
  deriving DecidableEq, Repr

/-- Whether an octet may continue a character. -/
def isContinuation (b : UInt8) : Bool := Nat.ble 0x80 b.toNat && Nat.blt b.toNat 0xc0

/-- Whether `second` may follow `lead`: beside being a continuation it must neither allow a
shorter form, nor a surrogate, nor a code point above U+10FFFF. -/
def isSecond (lead second : UInt8) : Bool :=
  isContinuation second &&
    (if lead.toNat = 0xe0 then Nat.ble 0xa0 second.toNat
    else if lead.toNat = 0xed then Nat.blt second.toNat 0xa0
    else if lead.toNat = 0xf0 then Nat.ble 0x90 second.toNat
    else if lead.toNat = 0xf4 then Nat.blt second.toNat 0x90
    else true)

/-- What a lead octet announces: the number of octets that follow and the value of its own
bits; `none` if it starts no character. -/
def announced? (lead : UInt8) : Option (Nat × Nat) :=
  let n := lead.toNat
  if n < 0x80 then some (0, n)
  else if n < 0xc2 then none
  else if n < 0xe0 then some (1, n - 0xc0)
  else if n < 0xf0 then some (2, n - 0xe0)
  else if n < 0xf5 then some (3, n - 0xf0)
  else none

/-- The outcome of reading one character. -/
inductive Step
  /-- The character's code point, the number of its octets and the octets after it. -/
  | character (code count : Nat) (rest : List UInt8)
  /-- The reason of a failure and the number of octets it covers. -/
  | failure (reason : Reason) (count : Nat)
  deriving DecidableEq, Repr

/-- Reads `more` further continuation octets after `seen` octets with the value `code`. -/
def readContinuations (code : Nat) : Nat → Nat → List UInt8 → Step
  | 0, seen, rest => .character code seen rest
  | _ + 1, seen, [] => .failure .unexpectedEnd seen
  | more + 1, seen, b :: rest =>
    if isContinuation b then
      readContinuations (code * 64 + (b.toNat - 0x80)) more (seen + 1) rest
    else .failure .invalidContinuation seen

/-- Reads the character that starts with `lead`. -/
def readChar (lead : UInt8) (rest : List UInt8) : Step :=
  match announced? lead with
  | none => .failure .invalidStart 1
  | some (0, code) => .character code 1 rest
  | some (more + 1, code) =>
    match rest with
    | [] => .failure .unexpectedEnd 1
    | second :: rest =>
      if isSecond lead second then
        readContinuations (code * 64 + (second.toNat - 0x80)) more 2 rest
      else .failure .invalidContinuation 1

theorem length_of_readContinuations {code more seen code' count : Nat}
    {octets rest : List UInt8}
    (h : readContinuations code more seen octets = .character code' count rest) :
    rest.length ≤ octets.length := by
  induction more generalizing code seen octets with
  | zero => simp only [readContinuations, Step.character.injEq] at h; simp [h.2.2]
  | succ more ih =>
    cases octets with
    | nil => simp [readContinuations] at h
    | cons b octets =>
      rw [readContinuations] at h
      split at h
      · have := ih h
        simp only [List.length_cons]
        omega
      · simp at h

/-- Reading a character consumes its octets. -/
theorem length_of_readChar {lead : UInt8} {octets rest : List UInt8} {code count : Nat}
    (h : readChar lead octets = .character code count rest) : rest.length ≤ octets.length := by
  unfold readChar at h
  split at h
  · simp at h
  · simp only [Step.character.injEq] at h
    simp [h.2.2]
  · split at h
    · simp at h
    · split at h
      · have := length_of_readContinuations h
        simp only [List.length_cons]
        omega
      · simp at h

/-- The text of the octets from position `position` on, or the first failure. -/
def decodeFrom (position : Nat) : List UInt8 → Except Failure (List Char)
  | [] => .ok []
  | lead :: octets =>
    match h : readChar lead octets with
    | .failure reason count => .error ⟨reason, lead, position, count⟩
    | .character code count rest =>
      have : rest.length ≤ octets.length := length_of_readChar h
      (decodeFrom (position + count) rest).map (Char.ofNat code :: ·)
termination_by octets => octets.length

/-- The text of UTF-8 octets, or the first failure (`decode`). -/
def decode (octets : List UInt8) : Except Failure (List Char) := decodeFrom 0 octets

/-- Whether a failure comes from the end of the octets. Two octets of a surrogate count as the start
of a character here. -/
def Failure.isAtEnd (f : Failure) (octets : List UInt8) : Bool :=
  f.reason = .unexpectedEnd ||
    match octets.drop f.position with
    | [0xed, second] => isContinuation second
    | _ => false

/-- The text of octets that may end inside a character, and the octets of that character; or the
first other failure. -/
def decodePortion (octets : List UInt8) : Except Failure (List Char × List UInt8) :=
  match decode octets with
  | .ok text => .ok (text, [])
  | .error f =>
    if f.isAtEnd octets then
      (decode (octets.take f.position)).map fun text => (text, octets.drop f.position)
    else .error f

/-! ## Wording -/

/-- The wording of a reason. -/
def Reason.message : Reason → String
  | .invalidStart => "invalid start byte"
  | .invalidContinuation => "invalid continuation byte"
  | .unexpectedEnd => "unexpected end of data"

/-- The lower-case hexadecimal digits of an octet. -/
def hexOctet (b : UInt8) : List Char :=
  [Nat.digitChar (b.toNat / 16), Nat.digitChar (b.toNat % 16)]

/-- The wording of a failure: a single octet is shown, several are given by their first and
last position. -/
def Failure.message (f : Failure) : String :=
  let what :=
    if f.count = 1 then s!"byte 0x{String.ofList (hexOctet f.octet)} in position {f.position}"
    else s!"bytes in position {f.position}-{f.position + f.count - 1}"
  s!"'utf-8' codec can't decode {what}: {f.reason.message}"

end SymbolText.Text.Utf8
