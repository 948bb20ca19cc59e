import SymbolText.Proofs.Outcome
import SymbolText.Proofs.Rendering
import SymbolText.Source

/-!
# What the value of a symbol file declares

A source has a declaration for each symbol of each type, in the order of the file. A value that
counts as false stands for an empty mapping, whatever it is, in place of the whole file and of the
symbols of a type. In place of a type it does not.

* `Value.StandsFor`: the entries that a value has in place of a mapping.
* `Describes`, `Declares`, `DeclaresAll`: what the mapping of a type says, and what is declared.
* `Accepted`: the values of symbol files that are accepted.
* `IsOf`: the source of some entries, by what it loads.
* `Names`: the names in a value, which failures show.
* `Refuses`: the failures to declare a value, with the path of the file.

Results:
* `declareType_eq_ok_iff`, `exists_of_ofValue_eq_ok`: what is declared for a type and for a file.
* `exists_ofValue_iff`: which values are accepted.
* `isOf_of_forall₂`: what the source of a file loads.
* `error_of_ofValue`: how values fail that are not accepted.
-/

namespace SymbolText

/-! ## Specification -/

/-- The entries that a value has in place of a mapping: its own if it is one, and none if it counts
as false. -/
inductive Value.StandsFor : Value → List (Value × Value) → Prop
  | mapping (entries : List (Value × Value)) : StandsFor (.dict entries) entries
  | nothing {v : Value} (h : v.isTruthy = false) : StandsFor v []

namespace SymbolSource

/-- What the mapping of a type says: its symbols, which are signed unless it says otherwise. -/
structure Describes (parts : List (Value × Value)) (signed : Bool)
    (symbols : List (Value × Value)) : Prop where
  signedness : (partOf? parts "signed").elim true Value.isTruthy = signed
  symbols : (partOf? parts "symbols").elim (symbols = []) (·.StandsFor symbols)

/-- The declaration of a symbol, under the text of its name and with the signedness of its type. -/
structure Declares (typeName : Value) (signed : Bool) (symbol : Value × Value) (d : Declaration) :
    Prop where
  typeName : d.typeName = typeName
  name : ∃ name, symbol.1.show? = some name ∧ d.name = .text name
  value : ∃ n, symbol.2 = .int n ∧ d.value = .int n
  signed : d.signed = .bool signed

/-- The declarations of a type: one for each symbol, in order. -/
def DeclaresAll (entry : Value × Value) (ds : List Declaration) : Prop :=
  ∃ parts signed symbols, entry.2 = .dict parts ∧ Describes parts signed symbols ∧
    List.Forall₂ (Declares entry.1 signed) symbols ds

/-- The entries of a file as they are found in its source: each type with its declarations. -/
def Found (entry : Value × Value) (type : Value × Except Error (List Declaration)) : Prop :=
  type.1 = entry.1 ∧ ∃ ds, type.2 = .ok ds ∧ DeclaresAll entry ds

/-- A symbol with an integer for its value and a name that can be written. -/
structure IsDeclarable (symbol : Value × Value) : Prop where
  integer : ∃ n, symbol.2 = .int n
  name : ¬ symbol.1.Overlong

/-- The value of a symbol file that is accepted: a mapping of types, each with a mapping. -/
def Accepted (v : Value) : Prop :=
  ∃ entries, v.StandsFor entries ∧ ∀ entry ∈ entries, ∃ parts signed symbols,
    entry.2 = .dict parts ∧ Describes parts signed symbols ∧ ∀ symbol ∈ symbols, IsDeclarable symbol

/-- The source of the entries of a symbol file. A type that is there loads its declarations. -/
structure IsOf (s : SymbolSource) (entries : List (Value × Value)) : Prop where
  typeNames : s.typeNames = entries.map (·.1)
  load : ∀ typeName, typeName.checkKey = .ok () →
    ∀ entry, entries.find? (·.1.same typeName) = some entry →
      ∃ ds, s.load typeName = .ok ds ∧ DeclaresAll entry ds
  load_unknown : ∀ typeName, typeName.checkKey = .ok () →
    entries.find? (·.1.same typeName) = none → s.load typeName = .ok []

/-- The names in the value of a symbol file: those of its types and of their symbols. -/
inductive Names (v : Value) : Value → Prop
  | type {entries : List (Value × Value)} (hv : v.StandsFor entries) {entry : Value × Value}
    (hentry : entry ∈ entries) : Names v entry.1
  | symbol {entries : List (Value × Value)} (hv : v.StandsFor entries) {entry : Value × Value}
    (hentry : entry ∈ entries) {parts symbols : List (Value × Value)} {signed : Bool}
    (hbody : entry.2 = .dict parts) (hparts : Describes parts signed symbols)
    {symbol : Value × Value} (hsymbol : symbol ∈ symbols) : Names v symbol.1

/-- The failures to declare a value, each with what is wrong in the value. -/
inductive Refuses (path : Path) (v : Value) : Error → Prop
  | notMapping (h : ∀ entries, ¬ v.StandsFor entries) : Refuses path v (.symbolsNotMapping path)
  | typeNotMapping {entries : List (Value × Value)} (hv : v.StandsFor entries)
    {entry : Value × Value} (hentry : entry ∈ entries)
    (h : ∀ parts signed symbols, entry.2 = .dict parts → ¬ Describes parts signed symbols) :
    Refuses path v (.typeNotMapping path entry.1)
  | symbolNotInteger {entries : List (Value × Value)} (hv : v.StandsFor entries)
    {entry : Value × Value} (hentry : entry ∈ entries) {parts symbols : List (Value × Value)}
    {signed : Bool} (hbody : entry.2 = .dict parts) (hparts : Describes parts signed symbols)
    {symbol : Value × Value} (hsymbol : symbol ∈ symbols) (h : ∀ n, symbol.2 ≠ .int n) :
    Refuses path v (.symbolNotInteger path entry.1 symbol.1)

theorem Refuses.path? {path : Path} {v : Value} {e : Error} (h : Refuses path v e) :
    e.path? = some path.render := by
  cases h <;> rfl

end SymbolSource

/-! ## Values of symbol files -/

namespace SymbolSource

/-- The declarations of a type with the value of its symbols. -/
def declareSymbols (path : Path) (typeName : Value) (signed : Bool) (v : Value) :
    Except Error (List Declaration) :=
  match orEmpty v with
  | .dict symbols => symbols.mapM (declareSymbol path typeName signed)
  | _ => noMapping path typeName

variable {path : Path} {typeName : Value} {signed : Bool}

theorem declareType_dict (parts : List (Value × Value)) :
    declareType path typeName (.dict parts) =
      declareSymbols path typeName ((partOf? parts "signed").getD (.bool true)).isTruthy
        ((partOf? parts "symbols").getD .null) := rfl

theorem orEmpty_eq_dict_iff {v : Value} {entries : List (Value × Value)} :
    orEmpty v = .dict entries ↔ v.StandsFor entries := by
  constructor
  · intro h
    rw [orEmpty] at h
    split at h
    · rw [h]
      exact .mapping entries
    · rename_i hfalse
      cases h
      exact .nothing (Bool.eq_false_iff.2 hfalse)
  · rintro (⟨_⟩ | ⟨hfalse⟩)
    · cases entries with
      | nil => rfl
      | cons entry rest => rfl
    · rw [orEmpty, hfalse]
      rfl

theorem describes_iff {parts symbols : List (Value × Value)} {signed : Bool} :
    Describes parts signed symbols ↔
      ((partOf? parts "signed").getD (.bool true)).isTruthy = signed ∧
        orEmpty ((partOf? parts "symbols").getD .null) = .dict symbols := by
  have hsigned : ((partOf? parts "signed").getD (.bool true)).isTruthy =
      (partOf? parts "signed").elim true Value.isTruthy := by
    cases partOf? parts "signed" <;> rfl
  have hsymbols : orEmpty ((partOf? parts "symbols").getD .null) = .dict symbols ↔
      (partOf? parts "symbols").elim (symbols = []) (·.StandsFor symbols) := by
    cases partOf? parts "symbols" with
    | none => rw [Option.getD_none, Option.elim_none, orEmpty, Value.isTruthy, if_neg nofun,
        Value.dict.injEq, eq_comm]
    | some v => exact orEmpty_eq_dict_iff
  rw [hsigned, hsymbols]
  exact ⟨fun h => ⟨h.signedness, h.symbols⟩, fun h => ⟨h.1, h.2⟩⟩

/-- The mapping of a type is read symbol by symbol. -/
theorem declareType_of_describes {parts symbols : List (Value × Value)}
    (h : Describes parts signed symbols) :
    declareType path typeName (.dict parts) =
      symbols.mapM (declareSymbol path typeName signed) := by
  obtain ⟨hsigned, hsymbols⟩ := describes_iff.1 h
  rw [declareType_dict, declareSymbols, hsigned, hsymbols]

theorem declareType_cases (path : Path) (typeName body : Value) :
    (∃ parts signed symbols, body = .dict parts ∧ Describes parts signed symbols) ∨
    (∀ parts signed symbols, body = .dict parts → ¬ Describes parts signed symbols) ∧
      declareType path typeName body = noMapping path typeName := by
  unfold declareType
  split
  · rename_i parts
    split
    · rename_i symbols hsymbols
      exact .inl ⟨parts, _, symbols, rfl, describes_iff.2 ⟨rfl, hsymbols⟩⟩
    · rename_i hnone
      refine .inr ⟨?_, rfl⟩
      rintro _ signed symbols ⟨⟩ hparts
      exact hnone symbols (describes_iff.1 hparts).2
  · rename_i hnone
    exact .inr ⟨fun parts _ _ hbody => absurd hbody (hnone parts), rfl⟩

/-- The entries of a file are read type by type. -/
theorem ofValue_of_standsFor {v : Value} {entries : List (Value × Value)}
    (h : v.StandsFor entries) :
    ofValue path v =
      (entries.mapM fun entry => (declareType path entry.1 entry.2).map (entry.1, ·)).map
        fun types => ⟨types.map fun type => (type.1, .ok type.2)⟩ := by
  rw [ofValue, orEmpty_eq_dict_iff.2 h]
  rfl

theorem ofValue_cases (path : Path) (v : Value) :
    (∃ entries, v.StandsFor entries) ∨
    (∀ entries, ¬ v.StandsFor entries) ∧ ofValue path v = .error (.symbolsNotMapping path) := by
  unfold ofValue
  split
  · rename_i entries hentries
    exact .inl ⟨entries, orEmpty_eq_dict_iff.1 hentries⟩
  · rename_i hnone
    exact .inr ⟨fun entries hv => hnone entries (orEmpty_eq_dict_iff.2 hv), rfl⟩

/-! ### Success -/

theorem noMapping_ne_ok {α : Type} (a : α) : noMapping path typeName ≠ .ok a := by
  unfold noMapping
  cases nameOf typeName <;> exact Outcome.error_ne_ok

theorem integer?_eq_some_iff {v : Value} {n : Int} : v.integer? = some n ↔ v = .int n := by
  cases v <;> simp [Value.integer?]

theorem nameOf_eq_ok_iff {v : Value} {name : Text} : nameOf v = .ok name ↔ v.show? = some name := by
  unfold nameOf orTooLong
  cases v.show? <;> simp

theorem declareSymbol_eq_ok_iff {symbol : Value × Value} {d : Declaration} :
    declareSymbol path typeName signed symbol = .ok d ↔ Declares typeName signed symbol d := by
  unfold declareSymbol
  split
  · rename_i n hn
    rw [Outcome.bind_eq_ok_iff]
    constructor
    · rintro ⟨name, hname, hd⟩
      cases hd
      exact ⟨rfl, ⟨name, nameOf_eq_ok_iff.1 hname, rfl⟩, ⟨n, integer?_eq_some_iff.1 hn, rfl⟩, rfl⟩
    · rintro ⟨rfl, ⟨name, hname, hdname⟩, ⟨m, hm, hdvalue⟩, hdsigned⟩
      obtain rfl : m = n := Option.some.inj ((integer?_eq_some_iff.2 hm).symm.trans hn)
      refine ⟨name, nameOf_eq_ok_iff.2 hname, ?_⟩
      rw [← hdname, ← hdvalue, ← hdsigned]
  · rename_i hnone
    refine iff_of_false ?_ ?_
    · cases nameOf typeName with
      | error e => exact Outcome.error_ne_ok
      | ok text => cases nameOf symbol.1 <;> exact Outcome.error_ne_ok
    · rintro ⟨-, -, ⟨n, hn, -⟩, -⟩
      rw [integer?_eq_some_iff.2 hn] at hnone
      cases hnone

theorem exists_declares_iff {symbol : Value × Value} :
    (∃ d, Declares typeName signed symbol d) ↔ IsDeclarable symbol := by
  constructor
  · rintro ⟨d, -, ⟨name, hname, -⟩, ⟨n, hn, -⟩, -⟩
    exact ⟨⟨n, hn⟩, (Value.isSome_show?_iff symbol.1).1 (by rw [hname]; rfl)⟩
  · rintro ⟨⟨n, hn⟩, hname⟩
    obtain ⟨name, hname⟩ := Option.isSome_iff_exists.1 ((Value.isSome_show?_iff symbol.1).2 hname)
    exact ⟨⟨typeName, .text name, .int n, .bool signed⟩, rfl, ⟨name, hname, rfl⟩, ⟨n, hn, rfl⟩, rfl⟩

theorem declareType_eq_ok_iff {entry : Value × Value} {ds : List Declaration} :
    declareType path entry.1 entry.2 = .ok ds ↔ DeclaresAll entry ds := by
  constructor
  · intro h
    rcases declareType_cases path entry.1 entry.2 with
      ⟨parts, signed, symbols, hbody, hparts⟩ | ⟨-, hrefused⟩
    · rw [hbody, declareType_of_describes hparts, Outcome.mapM_eq_ok_iff_forall₂] at h
      simp only [declareSymbol_eq_ok_iff] at h
      exact ⟨parts, signed, symbols, hbody, hparts, h⟩
    · exact absurd (hrefused.symm.trans h) (noMapping_ne_ok ds)
  · rintro ⟨parts, signed, symbols, hbody, hparts, h⟩
    rw [hbody, declareType_of_describes hparts, Outcome.mapM_eq_ok_iff_forall₂]
    simp only [declareSymbol_eq_ok_iff]
    exact h

/-- Every item of a list has its partner in another one. -/
theorem exists_of_mem_forall₂ {α β : Type} {R : α → β → Prop} {as : List α} {bs : List β}
    (h : List.Forall₂ R as bs) {a : α} (ha : a ∈ as) : ∃ b, R a b := by
  induction h with
  | nil => cases ha
  | cons hfirst _ ih =>
    rcases List.mem_cons.1 ha with rfl | hrest
    · exact ⟨_, hfirst⟩
    · exact ih hrest

theorem exists_declareType_iff {entry : Value × Value} :
    (∃ ds, declareType path entry.1 entry.2 = .ok ds) ↔ ∃ parts signed symbols,
      entry.2 = .dict parts ∧ Describes parts signed symbols ∧
        ∀ symbol ∈ symbols, IsDeclarable symbol := by
  constructor
  · rintro ⟨ds, h⟩
    obtain ⟨parts, signed, symbols, hbody, hparts, hall⟩ := declareType_eq_ok_iff.1 h
    refine ⟨parts, signed, symbols, hbody, hparts, fun symbol hsymbol => ?_⟩
    exact exists_declares_iff.1 (exists_of_mem_forall₂ hall hsymbol)
  · rintro ⟨parts, signed, symbols, hbody, hparts, hall⟩
    rw [hbody, declareType_of_describes hparts, Outcome.exists_mapM_iff]
    intro symbol hsymbol
    obtain ⟨d, hd⟩ := exists_declares_iff.2 (hall symbol hsymbol)
    exact ⟨d, declareSymbol_eq_ok_iff.2 hd⟩

/-- A file is declared type by type. -/
theorem exists_of_ofValue_eq_ok {v : Value} {s : SymbolSource} (h : ofValue path v = .ok s) :
    ∃ entries, v.StandsFor entries ∧ List.Forall₂ Found entries s.types := by
  rcases ofValue_cases path v with ⟨entries, hv⟩ | ⟨-, hrefused⟩
  · rw [ofValue_of_standsFor hv] at h
    obtain ⟨types, htypes, rfl⟩ := Outcome.map_eq_ok_iff.1 h
    refine ⟨entries, hv, List.forall₂_map_right_iff.2 ?_⟩
    refine (Outcome.mapM_eq_ok_iff_forall₂.1 htypes).imp ?_
    intro entry type htype
    obtain ⟨ds, hds, rfl⟩ := Outcome.map_eq_ok_iff.1 htype
    exact ⟨rfl, ds, rfl, declareType_eq_ok_iff.1 hds⟩
  · cases hrefused.symm.trans h

theorem exists_ofValue_iff {v : Value} : (∃ s, ofValue path v = .ok s) ↔ Accepted v := by
  constructor
  · rintro ⟨s, h⟩
    obtain ⟨entries, hv, hfound⟩ := exists_of_ofValue_eq_ok h
    refine ⟨entries, hv, fun entry hentry => ?_⟩
    obtain ⟨type, -, ds, -, hds⟩ := exists_of_mem_forall₂ hfound hentry
    have hdeclared : declareType path entry.1 entry.2 = .ok ds := declareType_eq_ok_iff.2 hds
    exact exists_declareType_iff.1 ⟨ds, hdeclared⟩
  · rintro ⟨entries, hv, hall⟩
    have htypes : ∃ types, (entries.mapM fun entry =>
        (declareType path entry.1 entry.2).map (entry.1, ·)) = .ok types := by
      refine Outcome.exists_mapM_iff.2 fun entry hentry => ?_
      obtain ⟨ds, hds⟩ := exists_declareType_iff.2 (hall entry hentry)
      exact ⟨(entry.1, ds), Outcome.map_eq_ok_iff.2 ⟨ds, hds, rfl⟩⟩
    obtain ⟨types, htypes⟩ := htypes
    rw [ofValue_of_standsFor hv]
    exact ⟨_, Outcome.map_eq_ok_iff.2 ⟨types, htypes, rfl⟩⟩

/-! ### Loading -/

/-- A type is found in a source if and as it is found in the entries. -/
theorem rel_find? {entries : List (Value × Value)}
    {types : List (Value × Except Error (List Declaration))}
    (h : List.Forall₂ Found entries types) (typeName : Value) :
    Option.Rel Found (entries.find? (·.1.same typeName)) (types.find? (·.1.same typeName)) := by
  induction h with
  | nil => exact .none
  | @cons entry type entries types hfirst _ ih =>
    rw [List.find?_cons, List.find?_cons, hfirst.1]
    cases entry.1.same typeName with
    | true => exact .some hfirst
    | false => exact ih

theorem load_eq {s : SymbolSource} {typeName : Value} (hkey : typeName.checkKey = .ok ()) :
    s.load typeName = ((s.types.find? (·.1.same typeName)).map (·.2)).getD (.ok []) := by
  rw [load, hkey, Outcome.ok_bind, Value.entry?]
  cases s.types.find? (·.1.same typeName) <;> rfl

theorem typeNames_of_forall₂ {entries : List (Value × Value)}
    {types : List (Value × Except Error (List Declaration))}
    (h : List.Forall₂ Found entries types) : types.map (·.1) = entries.map (·.1) := by
  induction h with
  | nil => rfl
  | cons hfirst _ ih => rw [List.map_cons, List.map_cons, ih, hfirst.1]

theorem isOf_of_forall₂ {s : SymbolSource} {entries : List (Value × Value)}
    (h : List.Forall₂ Found entries s.types) : s.IsOf entries where
  typeNames := typeNames_of_forall₂ h
  load typeName hkey entry hentry := by
    have hrel := rel_find? h typeName
    rw [load_eq hkey]
    rw [hentry] at hrel
    generalize s.types.find? (·.1.same typeName) = found at hrel ⊢
    cases hrel with
    | some hfound =>
      obtain ⟨-, ds, hds, hall⟩ := hfound
      exact ⟨ds, hds, hall⟩
  load_unknown typeName hkey hnone := by
    have hrel := rel_find? h typeName
    rw [load_eq hkey]
    rw [hnone] at hrel
    generalize s.types.find? (·.1.same typeName) = found at hrel ⊢
    cases hrel with
    | none => rfl

/-! ### Failure -/

theorem nameOf_eq_error {v : Value} {e : Error} (h : nameOf v = .error e) :
    e = .integerTooLong ∧ v.Overlong := by
  rw [← Value.show?_eq_none_iff]
  unfold nameOf orTooLong at h
  split at h
  · cases h
  · rename_i hnone
    cases h
    exact ⟨rfl, hnone⟩

theorem error_of_noMapping {α : Type} {e : Error}
    (h : (noMapping path typeName : Except Error α) = .error e) :
    e = .typeNotMapping path typeName ∨ e = .integerTooLong ∧ typeName.Overlong := by
  rcases Outcome.bind_eq_error_iff.1 h with hname | ⟨_, -, h⟩
  · exact .inr (nameOf_eq_error hname)
  · cases h
    exact .inl rfl

theorem error_of_declareSymbol {symbol : Value × Value} {e : Error}
    (h : declareSymbol path typeName signed symbol = .error e) :
    e = .symbolNotInteger path typeName symbol.1 ∧ (∀ n, symbol.2 ≠ .int n) ∨
      e = .integerTooLong ∧ (typeName.Overlong ∨ symbol.1.Overlong) := by
  unfold declareSymbol at h
  split at h
  · rcases Outcome.bind_eq_error_iff.1 h with hname | ⟨_, -, h⟩
    · obtain ⟨he, hlong⟩ := nameOf_eq_error hname
      exact .inr ⟨he, .inr hlong⟩
    · cases h
  · rename_i hnone
    rcases Outcome.bind_eq_error_iff.1 h with htype | ⟨_, -, h⟩
    · obtain ⟨he, hlong⟩ := nameOf_eq_error htype
      exact .inr ⟨he, .inl hlong⟩
    · rcases Outcome.bind_eq_error_iff.1 h with hname | ⟨_, -, h⟩
      · obtain ⟨he, hlong⟩ := nameOf_eq_error hname
        exact .inr ⟨he, .inr hlong⟩
      · cases h
        refine .inl ⟨rfl, fun n hn => ?_⟩
        rw [integer?_eq_some_iff.2 hn] at hnone
        cases hnone

/-- A value fails for what is wrong in it, unless a name is too long to be shown. -/
theorem error_of_ofValue {v : Value} {e : Error} (h : ofValue path v = .error e) :
    Refuses path v e ∨ e = .integerTooLong ∧ ∃ name, Names v name ∧ name.Overlong := by
  rcases ofValue_cases path v with ⟨entries, hv⟩ | ⟨hnone, hrefused⟩
  · -- some type fails, and so does one of its symbols unless it has none to be read
    rw [ofValue_of_standsFor hv] at h
    obtain ⟨entry, hentry, hfailed⟩ :=
      Outcome.exists_mem_of_mapM_error (Outcome.map_eq_error_iff.1 h)
    replace hfailed := Outcome.map_eq_error_iff.1 hfailed
    rcases declareType_cases path entry.1 entry.2 with
      ⟨parts, signed, symbols, hbody, hparts⟩ | ⟨hnone, hrefused⟩
    · rw [hbody, declareType_of_describes hparts] at hfailed
      obtain ⟨symbol, hsymbol, hfailed⟩ := Outcome.exists_mem_of_mapM_error hfailed
      rcases error_of_declareSymbol hfailed with ⟨rfl, hinteger⟩ | ⟨he, hlong | hlong⟩
      · exact .inl (.symbolNotInteger hv hentry hbody hparts hsymbol hinteger)
      · exact .inr ⟨he, entry.1, .type hv hentry, hlong⟩
      · exact .inr ⟨he, symbol.1, .symbol hv hentry hbody hparts hsymbol, hlong⟩
    · rw [hrefused] at hfailed
      rcases error_of_noMapping hfailed with rfl | ⟨he, hlong⟩
      · exact .inl (.typeNotMapping hv hentry hnone)
      · exact .inr ⟨he, entry.1, .type hv hentry, hlong⟩
  · cases hrefused.symm.trans h
    exact .inl (.notMapping hnone)

end SymbolSource

end SymbolText
