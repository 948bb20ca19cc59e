import SymbolText.Proofs.Delivery
import SymbolText.Proofs.SymbolValues
import SymbolText.Proofs.Utf8
import SymbolText.Yaml.Reader

/-!
# Which symbol files are accepted, and how others fail

A symbol file is accepted if it is UTF-8 and its text has a value that is accepted. What value a
text has is up to the reader, which may refuse it as malformed, but is taken to fail in no other
way. A file that is not of its format fails with its path. Two things fail without it: octets that
are not UTF-8, and names with numerals that are too long.

* `Reader.Decides`: a reader that gives values or finds texts malformed.
* `Reads`: the value of some octets.
* `Refused`: octets in which the reader finds a fault.
* `IsRefused`: the failures with the path of the file, each with what is wrong in it.
* `Escapes`: the failures without the path.

Results:
* `readValue_cases`: octets have a value, or fail.
* `readValue_of_interrupted`: octets that are not UTF-8, where the reader asks for more.
* `ofFile_exact`: which files are accepted, what their sources load, and how the others fail.
* `ofFile_undecodable`: an octet that is not UTF-8, and an empty sequence.
-/

namespace SymbolText.SymbolSource

/-! ## Specification -/

/-- A reader that decides on octets: it gives values or finds texts malformed, and asks for a text
before it fails. -/
structure Reader.Decides (reader : Reader) (octets : List UInt8) : Prop where
  read : ∀ text fault, Text.deliver octets = .ok text → reader.read text = .error fault →
    fault = .malformed
  stop : ∀ i fault, Text.deliver octets = .error i → reader.stop? i.delivered = some fault →
    fault = .malformed
  stop?_nil : reader.stop? [] = none

/-- The value of octets, which are UTF-8. -/
def Reads (reader : Reader) (octets : List UInt8) (v : Value) : Prop :=
  ∃ raw, Text.Utf8.decode octets = .ok raw ∧ reader.read (Text.unifyLineEnds raw) = .ok v

/-- The reader finds a fault in the text of octets, or in what is delivered of it before they turn
out not to be UTF-8. -/
inductive Refused (reader : Reader) (octets : List UInt8) : Prop
  | whole {text : List Char} {fault : Yaml.Fault} (htext : Text.deliver octets = .ok text)
    (hfault : reader.read text = .error fault)
  | interrupted {i : Text.Interruption} {fault : Yaml.Fault} (hi : Text.deliver octets = .error i)
    (hfault : reader.stop? i.delivered = some fault)

/-- The failures of symbol files that are not of their format. -/
inductive IsRefused (reader : Reader) (path : Path) (octets : List UInt8) : Error → Prop
  | malformed (h : Refused reader octets) : IsRefused reader path octets (.symbolsMalformed path)
  | value {v : Value} (hread : Reads reader octets v) {e : Error} (h : Refuses path v e) :
    IsRefused reader path octets e

/-- The failures of symbol files for other reasons than their format. -/
inductive Escapes (reader : Reader) (octets : List UInt8) : Error → Prop
  | encoding (failure : Text.Utf8.Failure) (h : ∀ text, Text.Utf8.decode octets ≠ .ok text) :
    Escapes reader octets (.symbolsEncoding failure)
  | name {v : Value} (hread : Reads reader octets v) {name : Value} (hname : Names v name)
    (hlong : name.Overlong) : Escapes reader octets .integerTooLong

variable {reader : Reader} {tree : FileTree} {path : Path} {octets : List UInt8}

theorem IsRefused.path? {e : Error} (h : IsRefused reader path octets e) :
    e.path? = some path.render := by
  cases h with
  | malformed => rfl
  | value _ h => exact h.path?

/-! ## Octets -/

theorem readValue_of_reads {v : Value} (h : Reads reader octets v) :
    (readValue reader path octets).outcome = .ok v := by
  obtain ⟨raw, hraw, hv⟩ := h
  rw [readValue, Text.deliver_eq_ok_iff.2 ⟨raw, hraw, rfl⟩]
  dsimp only
  rw [hv]
  rfl

/-- Octets that are not UTF-8 count if the reader asks for more than is delivered before. -/
theorem readValue_of_interrupted {i : Text.Interruption} (hi : Text.deliver octets = .error i)
    (hstop : reader.stop? i.delivered = none) :
    (readValue reader path octets).outcome = .error (.symbolsEncoding i.failure) := by
  rw [readValue, hi]
  dsimp only
  rw [hstop]
  rfl

/-- Octets have a value, or fail as malformed or for their encoding. -/
theorem readValue_cases (hreader : reader.Decides octets) (path : Path) :
    (∃ v, Reads reader octets v) ∨ ∃ e, (readValue reader path octets).outcome = .error e ∧
      (IsRefused reader path octets e ∨ Escapes reader octets e) := by
  cases hdeliver : Text.deliver octets with
  | ok text =>
    cases htext : reader.read text with
    | ok v =>
      obtain ⟨raw, hraw, rfl⟩ := Text.deliver_eq_ok_iff.1 hdeliver
      exact .inl ⟨v, raw, hraw, htext⟩
    | error fault =>
      obtain rfl := hreader.read text fault hdeliver htext
      refine .inr ⟨_, ?_, .inl (.malformed (.whole hdeliver htext))⟩
      rw [readValue, hdeliver]
      dsimp only
      rw [htext]
      rfl
  | error i =>
    cases hstop : reader.stop? i.delivered with
    | none =>
      exact .inr ⟨_, readValue_of_interrupted hdeliver hstop,
        .inr (.encoding i.failure (Text.decode_ne_of_deliver_error hdeliver))⟩
    | some fault =>
      obtain rfl := hreader.stop i fault hdeliver hstop
      refine .inr ⟨_, ?_, .inl (.malformed (.interrupted hdeliver hstop))⟩
      rw [readValue, hdeliver]
      dsimp only
      rw [hstop]
      rfl

/-- Nothing is delivered of a short file that is not UTF-8. -/
theorem readValue_of_undecodable (reader : Reader) (hstop : reader.stop? [] = none)
    (hnone : ∀ text, Text.Utf8.decode octets ≠ .ok text)
    (hshort : octets.length ≤ Text.Delivery.pieceSize) (path : Path) :
    ∃ failure, (readValue reader path octets).outcome = .error (.symbolsEncoding failure) := by
  cases hdeliver : Text.deliver octets with
  | ok text =>
    obtain ⟨raw, hraw, -⟩ := Text.deliver_eq_ok_iff.1 hdeliver
    exact absurd hraw (hnone raw)
  | error i =>
    have hdelivered : i.delivered = [] := Text.delivered_eq_nil hdeliver hshort
    exact ⟨i.failure, readValue_of_interrupted hdeliver (by rw [hdelivered, hstop])⟩

/-! ## Files -/

section

variable (hpath : path.hasNull = false) (hread : tree.read path = .ok octets)

include hpath hread

theorem outcome_ofFile :
    (ofFile reader tree path).outcome =
      (readValue reader path octets).outcome >>= ofValue path := by
  rw [ofFile, hpath, if_neg Bool.false_ne_true, hread]
  exact Logged.outcome_bind _ _

theorem ofFile_of_error {e : Error} (h : (readValue reader path octets).outcome = .error e) :
    (ofFile reader tree path).outcome = .error e := by
  rw [outcome_ofFile hpath hread, h]
  rfl

theorem ofFile_of_reads {v : Value} (h : Reads reader octets v) :
    (ofFile reader tree path).outcome = ofValue path v := by
  rw [outcome_ofFile hpath hread, readValue_of_reads h, Outcome.ok_bind]

variable (hreader : reader.Decides octets)

include hreader

/-- A file has the source of its value, or fails for its octets. -/
theorem ofFile_cases :
    (∃ v, Reads reader octets v ∧ (ofFile reader tree path).outcome = ofValue path v) ∨
      ∃ e, (ofFile reader tree path).outcome = .error e ∧
        (IsRefused reader path octets e ∨ Escapes reader octets e) := by
  rcases readValue_cases hreader path with ⟨v, hv⟩ | ⟨e, he, hkind⟩
  · exact .inl ⟨v, hv, ofFile_of_reads hpath hread hv⟩
  · exact .inr ⟨e, ofFile_of_error hpath hread he, hkind⟩

theorem exists_ofFile_iff :
    (∃ s, (ofFile reader tree path).outcome = .ok s) ↔
      ∃ v, Reads reader octets v ∧ Accepted v := by
  constructor
  · rintro ⟨s, hs⟩
    rcases ofFile_cases hpath hread hreader with ⟨v, hv, hvalue⟩ | ⟨e, he, -⟩
    · exact ⟨v, hv, exists_ofValue_iff.1 ⟨s, hvalue.symm.trans hs⟩⟩
    · cases he.symm.trans hs
  · rintro ⟨v, hv, haccepted⟩
    rw [ofFile_of_reads hpath hread hv]
    exact exists_ofValue_iff.2 haccepted

/-- **A symbol file is accepted exactly if it is UTF-8 and the reader has a value for its text that
is a mapping of types to mappings of names to integers**, where a value that counts as false may
stand in place of the outer mapping and of the symbols of a type. Then each type loads its
declarations; else the failure has the path of the file or is for another reason than its format.
Octets that are not UTF-8 are such a reason unless the reader stops before, which it cannot in a
file of a single piece. -/
theorem ofFile_exact :
    ((∃ s, (ofFile reader tree path).outcome = .ok s) ↔
      ∃ v, Reads reader octets v ∧ Accepted v) ∧
    (∀ s, (ofFile reader tree path).outcome = .ok s →
      ∃ v entries, Reads reader octets v ∧ v.StandsFor entries ∧ s.IsOf entries) ∧
    (∀ e, (ofFile reader tree path).outcome = .error e →
      IsRefused reader path octets e ∧ e.path? = some path.render ∨ Escapes reader octets e) ∧
    (∀ i, Text.deliver octets = .error i → reader.stop? i.delivered = none →
      (ofFile reader tree path).outcome = .error (.symbolsEncoding i.failure)) ∧
    ((∀ text, Text.Utf8.decode octets ≠ .ok text) → octets.length ≤ Text.Delivery.pieceSize →
      ∃ failure, (ofFile reader tree path).outcome = .error (.symbolsEncoding failure) ∧
        (Error.symbolsEncoding failure).path? = none) := by
  refine ⟨exists_ofFile_iff hpath hread hreader, ?_, ?_, ?_, ?_⟩
  · intro s hs
    rcases ofFile_cases hpath hread hreader with ⟨v, hv, hvalue⟩ | ⟨e, he, -⟩
    · obtain ⟨entries, hentries, htypes⟩ := exists_of_ofValue_eq_ok (hvalue.symm.trans hs)
      exact ⟨v, entries, hv, hentries, isOf_of_forall₂ htypes⟩
    · cases he.symm.trans hs
  · intro e he
    rcases ofFile_cases hpath hread hreader with ⟨v, hv, hvalue⟩ | ⟨e', he', hkind⟩
    · rcases error_of_ofValue (hvalue.symm.trans he) with hrefused | ⟨rfl, name, hname, hlong⟩
      · exact .inl ⟨.value hv hrefused, hrefused.path?⟩
      · exact .inr (.name hv hname hlong)
    · obtain rfl : e' = e := Except.error.inj (he'.symm.trans he)
      rcases hkind with hrefused | hescapes
      · exact .inl ⟨hrefused, hrefused.path?⟩
      · exact .inr hescapes
  · intro i hi hstop
    exact ofFile_of_error hpath hread (readValue_of_interrupted hi hstop)
  · intro hnone hshort
    obtain ⟨failure, hfailure⟩ :=
      readValue_of_undecodable reader hreader.stop?_nil hnone hshort path
    exact ⟨failure, ofFile_of_error hpath hread hfailure, rfl⟩

end

/-! ### Some files -/

/-- A working directory with a symbol file. -/
def holding (octets : List UInt8) : FileTree :=
  ⟨⟨[(["symbols.yml"], .file (.octets octets))], List.pairwise_singleton _ _⟩⟩

/-- A type with symbols that are not signed. -/
def unsignedCodes : List Char :=
  "Code: \x7bsigned: no, symbols: \x7bOk: 1, Late: 2\x7d\x7d".toList

/-- The source of a document in a file. -/
def ofDocument (text : List Char) : Logged SymbolSource :=
  ofFile (Yaml.reader Yaml.fileDepth) (holding (Text.Utf8.encode text)) ⟨["symbols.yml"]⟩

/-- The reader of documents has a value for the text. -/
theorem decides_unsignedCodes :
    (Yaml.reader Yaml.fileDepth).Decides (Text.Utf8.encode unsignedCodes) := by
  have hdeliver : Text.deliver (Text.Utf8.encode unsignedCodes) = .ok unsignedCodes :=
    Text.deliver_eq_ok_iff.2 ⟨unsignedCodes, Text.Utf8.decode_encode _, by decide⟩
  have hvalue : ((Yaml.reader Yaml.fileDepth).read unsignedCodes).isOk = true := by
    decide +kernel
  refine ⟨?_, ?_, rfl⟩
  · intro text fault htext hfault
    obtain rfl : unsignedCodes = text := Except.ok.inj (hdeliver.symm.trans htext)
    rw [hfault] at hvalue
    cases hvalue
  · intro i fault hi
    cases hdeliver.symm.trans hi

/-- The symbols of a file are loaded in order, with the signedness of their type. -/
theorem ofFile_exact_unsignedCodes :
    (holding (Text.Utf8.encode unsignedCodes)).read ⟨["symbols.yml"]⟩ =
        .ok (Text.Utf8.encode unsignedCodes) ∧
      (Yaml.reader Yaml.fileDepth).Decides (Text.Utf8.encode unsignedCodes) ∧
      ∃ s v entries, (ofDocument unsignedCodes).outcome = .ok s ∧
        Reads (Yaml.reader Yaml.fileDepth) (Text.Utf8.encode unsignedCodes) v ∧
        v.StandsFor entries ∧ s.IsOf entries ∧
        (s.load (.ofString "Code")).toOption.map (·.map fun d =>
          (d.name.string?, d.value.integer?, d.signed.isTruthy)) =
            some [(some "Ok", some 1, false), (some "Late", some 2, false)] := by
  have hread : (holding (Text.Utf8.encode unsignedCodes)).read ⟨["symbols.yml"]⟩ =
      .ok (Text.Utf8.encode unsignedCodes) := rfl
  obtain ⟨-, hloads, -⟩ := ofFile_exact rfl hread decides_unsignedCodes
  have hloaded : ((ofDocument unsignedCodes).outcome >>= fun s =>
        s.load (.ofString "Code")).toOption.map (·.map fun d =>
      (d.name.string?, d.value.integer?, d.signed.isTruthy)) =
        some [(some "Ok", some 1, false), (some "Late", some 2, false)] := by
    decide +kernel
  cases hs : (ofDocument unsignedCodes).outcome with
  | error e =>
    rw [hs] at hloaded
    cases hloaded
  | ok s =>
    rw [hs, Outcome.ok_bind] at hloaded
    obtain ⟨v, entries, hv, hentries, hof⟩ := hloads s hs
    exact ⟨hread, decides_unsignedCodes, s, v, entries, rfl, hv, hentries, hof, hloaded⟩

/-- An octet that is not UTF-8 fails without the path of the file, and an empty sequence is accepted
in place of a mapping. -/
theorem ofFile_undecodable :
    (∃ failure, (ofFile (Yaml.reader Yaml.fileDepth) (holding [0xff]) ⟨["symbols.yml"]⟩).outcome =
        .error (.symbolsEncoding failure) ∧ (Error.symbolsEncoding failure).path? = none) ∧
      ∃ s, (ofDocument ['[', ']']).outcome = .ok s := by
  constructor
  · have hnone : ∀ text, Text.Utf8.decode [0xff] ≠ .ok text := by
      intro text htext
      rw [Text.Utf8.decode, Text.Utf8.decodeFrom_failure rfl] at htext
      cases htext
    obtain ⟨failure, hfailure⟩ := readValue_of_undecodable (Yaml.reader Yaml.fileDepth) rfl hnone
      (by decide) ⟨["symbols.yml"]⟩
    exact ⟨failure, ofFile_of_error rfl rfl hfailure, rfl⟩
  · have hok : (ofDocument ['[', ']']).outcome.isOk = true := by
      decide +kernel
    cases hs : (ofDocument ['[', ']']).outcome with
    | error e =>
      rw [hs] at hok
      cases hok
    | ok s => exact ⟨s, rfl⟩

end SymbolText.SymbolSource
