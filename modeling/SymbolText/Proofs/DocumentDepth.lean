import SymbolText.Proofs.SymbolValues
import SymbolText.Yaml.Reader

/-!
# How much of a document matters to a symbol file

A document has a value to every depth, which has null in place of the collections beyond it. The
types, what is said of each and the symbols of each are three layers, and what lies deeper makes no
difference: an integer is not a collection, and whether a collection is empty shows at its first
layer.

Results:
* `partValue_cases`: how the value of a part depends on the depth.
* `declareType_partValue`: the layers that matter for a type.
* `ofValue_value`, `ofFile_reader`: only the first layers of a document matter.
-/

namespace SymbolText

namespace Value

variable {α β : Type}

/-- The value of a key among entries that are made one by one. -/
theorem entry?_map (key : Value) (k : α → Value) (f : α → β) (entries : List α) :
    entry? key (entries.map fun e => (k e, f e)) =
      (entries.find? fun e => (k e).same key).map f := by
  unfold entry?
  rw [List.find?_map, Option.map_map]
  rfl

end Value

/-! ## Values of a document -/

namespace Yaml.Document

variable (d : Document)

theorem partValue_atom (n : Nat) (a : Atom) : d.partValue n (.atom a) = a.toValue := by
  rw [partValue.eq_def]

/-- The value of a part to some depth: the same for all depths, or a sequence or a mapping of parts
to one depth less. -/
theorem partValue_cases (p : Part) :
    (∃ v, ∀ n, d.partValue (n + 1) p = v) ∨
    (∃ items : List Part, ∀ n, d.partValue (n + 1) p = .list (items.map (d.partValue n))) ∨
    ∃ entries : List (Atom × Part), ∀ n,
      d.partValue (n + 1) p = .dict (entries.map fun e => (e.1.toValue, d.partValue n e.2)) := by
  cases p with
  | atom a => exact .inl ⟨a.toValue, fun n => d.partValue_atom (n + 1) a⟩
  | collection number =>
    simp only [partValue]
    cases d.contents[number]? with
    | none => exact .inl ⟨.null, fun _ => rfl⟩
    | some contents =>
      cases contents with
      | sequence items => exact .inr (.inl ⟨items, fun _ => rfl⟩)
      | mapping entries => exact .inr (.inr ⟨entries, fun _ => rfl⟩)
      | other isEmpty => exact .inl ⟨.list (if isEmpty then [] else [.null]), fun _ => rfl⟩

/-- No collection is an integer. -/
theorem integer?_partValue (n : Nat) (p : Part) :
    (d.partValue n p).integer? = (d.partValue 0 p).integer? := by
  cases p with
  | atom a => rw [partValue_atom, partValue_atom]
  | collection number =>
    cases n with
    | zero => rfl
    | succ n =>
      simp only [partValue]
      split <;> rfl

/-- Whether a collection is empty shows at its first layer. -/
theorem isTruthy_partValue (n : Nat) (p : Part) :
    (d.partValue (n + 1) p).isTruthy = (d.partValue 1 p).isTruthy := by
  rcases d.partValue_cases p with ⟨v, hv⟩ | ⟨items, hitems⟩ | ⟨entries, hentries⟩
  · rw [hv, hv]
  · rw [hitems, hitems, Value.isTruthy, Value.isTruthy, List.isEmpty_map, List.isEmpty_map]
  · rw [hentries, hentries, Value.isTruthy, Value.isTruthy, List.isEmpty_map, List.isEmpty_map]

end Yaml.Document

namespace SymbolSource

open Yaml

variable {path : Path} {typeName : Value} {signed : Bool}

/-! ## Declarations of a document -/

theorem declareSymbol_congr {key v w : Value} (h : v.integer? = w.integer?) :
    declareSymbol path typeName signed (key, v) = declareSymbol path typeName signed (key, w) := by
  rw [declareSymbol, declareSymbol, h]

variable (d : Document)

theorem declareSymbols_partValue (n : Nat) (p : Part) :
    declareSymbols path typeName signed (d.partValue (n + 1) p) =
      declareSymbols path typeName signed (d.partValue 1 p) := by
  rw [declareSymbols, declareSymbols, orEmpty, orEmpty, d.isTruthy_partValue n p]
  cases (d.partValue 1 p).isTruthy with
  | false => rfl
  | true =>
    rw [if_pos rfl, if_pos rfl]
    rcases d.partValue_cases p with ⟨v, hv⟩ | ⟨items, hitems⟩ | ⟨entries, hentries⟩
    · rw [hv, hv]
    · rw [hitems, hitems]
    · rw [hentries, hentries]
      dsimp only
      rw [List.mapM_map, List.mapM_map]
      congr 1
      funext e
      exact declareSymbol_congr (d.integer?_partValue n e.2)

theorem partOf?_partValue (entries : List (Atom × Part)) (name : String) (n : Nat) :
    partOf? (entries.map fun e => (e.1.toValue, d.partValue n e.2)) name =
      (entries.find? fun e => e.1.toValue.same (.ofString name)).map
        fun e => d.partValue n e.2 :=
  Value.entry?_map _ _ _ _

theorem declareType_partValue (n : Nat) (p : Part) :
    declareType path typeName (d.partValue (n + 2) p) =
      declareType path typeName (d.partValue 2 p) := by
  rcases d.partValue_cases p with ⟨v, hv⟩ | ⟨items, hitems⟩ | ⟨entries, hentries⟩
  · rw [hv, hv]
  · rw [hitems, hitems]
    rfl
  · have hsigned : ((partOf? (entries.map fun e => (e.1.toValue, d.partValue (n + 1) e.2))
          "signed").getD (.bool true)).isTruthy =
        ((partOf? (entries.map fun e => (e.1.toValue, d.partValue 1 e.2))
          "signed").getD (.bool true)).isTruthy := by
      rw [partOf?_partValue, partOf?_partValue]
      cases entries.find? fun e => e.1.toValue.same (.ofString "signed") with
      | none => rfl
      | some e => exact d.isTruthy_partValue n e.2
    rw [hentries, hentries, declareType_dict, declareType_dict, hsigned,
      partOf?_partValue d entries "symbols" (n + 1), partOf?_partValue d entries "symbols" 1]
    cases entries.find? fun e => e.1.toValue.same (.ofString "symbols") with
    | none => rfl
    | some e => exact declareSymbols_partValue d n e.2

/-- **Only the types, what is said of each and its symbols matter**: to any greater depth the value
of a document describes the same source. -/
theorem ofValue_value {depth : Nat} (hdepth : fileDepth ≤ depth) :
    ofValue path (d.value depth) = ofValue path (d.value fileDepth) := by
  obtain ⟨n, rfl⟩ := Nat.exists_eq_add_of_le' hdepth
  rw [Document.value, Document.value, ofValue, ofValue, orEmpty, orEmpty, fileDepth,
    d.isTruthy_partValue (n + 2), d.isTruthy_partValue 2]
  -- the root counts as true at both depths or at neither
  cases (d.partValue 1 d.root).isTruthy with
  | false => rfl
  | true =>
    rw [if_pos rfl, if_pos rfl]
    rcases d.partValue_cases d.root with ⟨v, hv⟩ | ⟨items, hitems⟩ | ⟨entries, hentries⟩
    · rw [hv, hv]
    · rw [hitems, hitems]
    · rw [hentries, hentries]
      dsimp only
      rw [List.mapM_map, List.mapM_map]
      congr 2
      funext e
      rw [Function.comp, Function.comp, declareType_partValue]

/-- The source of a symbol file is the same for every depth to which documents are read. -/
theorem ofFile_reader {depth : Nat} (hdepth : fileDepth ≤ depth) (tree : FileTree) (path : Path) :
    ofFile (reader depth) tree path = ofFile (reader fileDepth) tree path := by
  unfold ofFile
  split
  · rfl
  · cases tree.read path with
    | error failure => rfl
    | ok octets =>
      dsimp only
      unfold readValue
      cases Text.deliver octets with
      | error i => rfl
      | ok text =>
        dsimp only [reader]
        cases readDocument text with
        | error stop => rfl
        | ok d => exact congrArg Logged.of (ofValue_value d hdepth)

end SymbolSource

end SymbolText
