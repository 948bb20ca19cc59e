import SymbolText.Generation
import SymbolText.Proofs.Lookup
import SymbolText.Proofs.Outcome

/-!
# Sets have the symbols that are declared

A source groups declarations by their types, and the set of a type has one symbol for each of
its declarations, in order. So the first symbol with a pattern comes from the first declaration
with it.

Results:
* `grouped?_addDeclaration`, `load_of_ofDeclarations`: a source has the declarations of a type in
  order.
* `symbolSet_eq_ok`: the symbols of a set are what those declarations declare.
* `symbolSet_eq_error_iff`: in a run, the set of a type is refused only for what is declared.
* `isFirstDeclaration_of_find?`: the first symbol of a pattern comes from the first declaration with
  it.
-/

namespace SymbolText

/-! ## Equality with a text -/

theorem Value.same_text {v : Value} {s : Text} : v.same (.text s) = true ↔ v = .text s := by
  cases v with
  | text t => simp [Value.same]
  | float x =>
    simp only [Value.same, Value.comparedInteger?, Value.number?, reduceCtorEq, iff_false]
    cases x.toInt? <;> simp
  | _ => simp [Value.same, Value.comparedInteger?, Value.number?]

theorem Value.text_same {v : Value} {s : Text} : (Value.text s).same v = true ↔ v = .text s := by
  cases v with
  | text t =>
    simp only [Value.same, beq_iff_eq, Value.text.injEq]
    exact eq_comm
  | float x =>
    simp only [Value.same, Value.comparedInteger?, Value.number?, reduceCtorEq, iff_false]
    cases x.toInt? <;> simp
  | _ => simp [Value.same, Value.comparedInteger?, Value.number?]

theorem Value.eq_text_of_text? {v : Value} {s : Text} (h : v.text? = some s) : v = .text s := by
  cases v with
  | text t => rw [Option.some.inj h]
  | _ => cases h

namespace SymbolSource

/-! ## Sources -/

/-- The declarations of a type. -/
def ofType (typeName : Text) (declarations : List Declaration) : List Declaration :=
  declarations.filter fun d => d.typeName.same (.text typeName)

section Grouping

variable {α : Type} (typeName : Text)

/-- What is grouped under a type. -/
def grouped? (types : List (Value × α)) : Option α := Value.entry? (.text typeName) types

theorem grouped?_cons (t : Value) (group : α) (rest : List (Value × α)) :
    grouped? typeName ((t, group) :: rest) =
      if t.same (.text typeName) then some group else grouped? typeName rest := by
  rw [grouped?, Value.entry?, List.find?_cons]
  dsimp only
  cases t.same (.text typeName) <;> rfl

theorem grouped?_map {β : Type} (f : α → β) (types : List (Value × α)) :
    grouped? typeName (types.map fun e => (e.1, f e.2)) = (grouped? typeName types).map f := by
  induction types with
  | nil => rfl
  | cons e rest ih =>
    rw [List.map_cons, grouped?_cons, grouped?_cons, ih]
    split <;> rfl

/-- A declaration is added to those of its own type only. -/
theorem grouped?_addDeclaration (d : Declaration) (types : List (Value × List Declaration)) :
    grouped? typeName (addDeclaration d types) =
      if d.typeName.same (.text typeName) then some ((grouped? typeName types).getD [] ++ [d])
      else grouped? typeName types := by
  induction types with
  | nil =>
    rw [addDeclaration, grouped?_cons]
    rfl
  | cons entry rest ih =>
    obtain ⟨t, ds⟩ := entry
    have hself := Value.same_text.2 (rfl : Value.text typeName = _)
    rw [addDeclaration]
    -- the declaration is added here, passes its own type, or is none of it
    by_cases ht : t = .text typeName
    · subst ht
      by_cases hd : d.typeName = .text typeName
      · rw [hd, if_pos hself, if_pos hself, grouped?_cons, grouped?_cons, if_pos hself,
          if_pos hself, Option.getD_some]
      · rw [if_neg (mt Value.text_same.1 hd), if_neg (mt Value.same_text.1 hd),
          grouped?_cons, grouped?_cons, if_pos hself, if_pos hself]
    · have hpass := mt Value.same_text.1 ht
      rw [grouped?_cons, if_neg hpass]
      split
      · rename_i hsame
        have hd : d.typeName ≠ .text typeName := fun h => hpass (h ▸ hsame)
        rw [grouped?_cons, if_neg hpass, if_neg (mt Value.same_text.1 hd)]
      · rw [grouped?_cons, if_neg hpass, ih]

theorem grouped?_foldl (declarations : List Declaration)
    (types : List (Value × List Declaration)) :
    (grouped? typeName
        (declarations.foldl (fun types d => addDeclaration d types) types)).getD [] =
      (grouped? typeName types).getD [] ++ ofType typeName declarations := by
  induction declarations generalizing types with
  | nil => exact (List.append_nil _).symm
  | cons d rest ih =>
    have hcons : ofType typeName (d :: rest) =
        if d.typeName.same (.text typeName) then d :: ofType typeName rest
        else ofType typeName rest := List.filter_cons
    rw [List.foldl_cons, ih, grouped?_addDeclaration, hcons]
    split
    · rw [Option.getD_some, List.append_assoc, List.singleton_append]
    · rfl

end Grouping

theorem load_text (source : SymbolSource) (typeName : Text) :
    source.load (.text typeName) = (grouped? typeName source.types).getD (.ok []) := by
  have hkey : (Value.text typeName).checkKey = .ok () := rfl
  rw [load, hkey, Outcome.ok_bind, grouped?]
  cases Value.entry? (.text typeName) source.types <;> rfl

/-- A source of declarations has those of a type in order. -/
theorem load_of_ofDeclarations {declarations : List Declaration} {source : SymbolSource}
    (hsource : ofDeclarations declarations = .ok source) (typeName : Text) :
    source.load (.text typeName) = .ok (ofType typeName declarations) := by
  obtain ⟨-, -, hgroup⟩ := Outcome.bind_eq_ok_iff.1 hsource
  obtain rfl := Except.ok.inj hgroup
  have hgrouped := grouped?_foldl typeName declarations []
  have hnone : (grouped? typeName ([] : List (Value × List Declaration))).getD [] = [] := rfl
  rw [hnone, List.nil_append] at hgrouped
  rw [load_text, grouped?_map typeName Except.ok, ← hgrouped]
  cases grouped? typeName
    (declarations.foldl (fun types d => addDeclaration d types) []) <;> rfl

end SymbolSource

/-! ## Sets -/

/-- The symbol of a declaration. -/
def symbolOf (typeName : String) (d : Declaration) : Except Error Symbol := do
  DeclaredSymbol.toSymbol typeName (← d.check)

/-- What is declared has the name of the declaration and its value. -/
theorem Declaration.check_eq_ok {d : Declaration} {declared : DeclaredSymbol}
    (hcheck : d.check = .ok declared) :
    declared.name = d.name ∧ d.value.toInteger = .ok declared.value := by
  obtain ⟨value, hvalue, hfits⟩ := Outcome.bind_eq_ok_iff.1 hcheck
  dsimp only at hfits
  split at hfits
  · obtain rfl := Except.ok.inj hfits
    exact ⟨rfl, hvalue⟩
  · cases hfits

/-- The symbol of a declaration has its name, as its key too, and its value. -/
theorem symbolOf_eq_ok {typeName : String} {d : Declaration} {s : Symbol}
    (hsymbol : symbolOf typeName d = .ok s) :
    d.name = .text s.name ∧ s.key = s.name ∧ d.value.toInteger = .ok s.value := by
  obtain ⟨declared, hcheck, hmake⟩ := Outcome.bind_eq_ok_iff.1 hsymbol
  obtain ⟨hdeclared, hvalue⟩ := Declaration.check_eq_ok hcheck
  obtain ⟨name, hname, hmade⟩ := Outcome.bind_eq_ok_iff.1 hmake
  obtain rfl := Except.ok.inj hmade
  rw [DeclaredSymbol.nameText] at hname
  split at hname
  · rename_i text htext
    obtain rfl := Except.ok.inj hname
    exact ⟨hdeclared ▸ Value.eq_text_of_text? htext, rfl, hvalue⟩
  · cases hname

theorem ofSymbols_eq_ok {typeName : String} {symbols : List Symbol} {set : SymbolSet}
    (hset : SymbolSet.ofSymbols typeName symbols = .ok set) :
    set.typeName = typeName ∧ set.symbols = symbols := by
  unfold SymbolSet.ofSymbols at hset
  split at hset
  · cases hset
  · split at hset
    · cases hset
    · obtain rfl := Except.ok.inj hset
      exact ⟨rfl, rfl⟩

theorem mapM_check_of_ofDeclarations {typeName : Value} {ds : List Declaration}
    {declared : DeclaredSet} (hset : DeclaredSet.ofDeclarations typeName ds = .ok declared) :
    ds.mapM Declaration.check = .ok declared.members := by
  obtain ⟨members, hmembers, hrest⟩ := Outcome.bind_eq_ok_iff.1 hset
  rw [hmembers]
  cases members with
  | nil =>
    obtain ⟨-, -, hnone⟩ := Outcome.bind_eq_ok_iff.1 hrest
    cases hnone
  | cons first rest =>
    obtain ⟨-, -, hkeys⟩ := Outcome.bind_eq_ok_iff.1 hrest
    obtain ⟨-, -, hmade⟩ := Outcome.bind_eq_ok_iff.1 hkeys
    obtain rfl := Except.ok.inj hmade
    rfl

/-- The set of a requested type has the symbols of its declarations in order. -/
theorem symbolSet_eq_ok {g : Generator} {declarations : List Declaration}
    (hsource : SymbolSource.ofDeclarations declarations = .ok g.source) {typeName : String}
    {set : SymbolSet} (hset : (g.symbolSet typeName).outcome = .ok set) :
    set.typeName = typeName ∧
      (SymbolSource.ofType (.ofString typeName) declarations).mapM (symbolOf typeName) =
        .ok set.symbols := by
  rw [Generator.symbolSet, Logged.outcome_bind] at hset
  obtain ⟨ds, hds, hmade⟩ := Outcome.bind_eq_ok_iff.1 hset
  rw [Logged.outcome_of, Value.ofString, SymbolSource.load_of_ofDeclarations hsource] at hds
  obtain rfl := Except.ok.inj hds
  split at hmade
  · cases hmade
  · obtain ⟨declared, hdeclared, hsymbols⟩ := Outcome.bind_eq_ok_iff.1 hmade
    obtain ⟨symbols, hmembers, hofSymbols⟩ := Outcome.bind_eq_ok_iff.1 hsymbols
    obtain ⟨htype, rfl⟩ := ofSymbols_eq_ok hofSymbols
    exact ⟨htype, Outcome.mapM_bind_of_ok (mapM_check_of_ofDeclarations hdeclared) hmembers⟩

/-! ## Names in a run -/

/-- The declarations of a source whose names are texts have texts for their names. -/
theorem SymbolSource.isSome_text?_of_load {source : SymbolSource}
    (htexts : source.hasTextNames = true) {typeName : Value} {ds : List Declaration}
    (hload : source.load typeName = .ok ds) : ∀ d ∈ ds, d.name.text?.isSome := by
  obtain ⟨-, -, hfound⟩ := Outcome.bind_eq_ok_iff.1 hload
  split at hfound
  · rename_i group hentry
    subst hfound
    obtain ⟨⟨t, _⟩, hfind, rfl⟩ := Option.map_eq_some_iff.1 hentry
    have hgroup := List.all_eq_true.1 htexts _ (List.mem_of_find?_eq_some hfind)
    exact List.all_eq_true.1 hgroup
  · obtain rfl := Except.ok.inj hfound
    exact nofun

/-- What is declared under a text is a symbol. -/
theorem DeclaredSymbol.exists_toSymbol (typeName : String) {declared : DeclaredSymbol}
    (hname : declared.name.text?.isSome) :
    ∃ s, declared.toSymbol typeName = .ok s ∧ s.typeName = typeName := by
  obtain ⟨text, htext⟩ := Option.isSome_iff_exists.1 hname
  have hnameText : nameText declared.name = .ok text := by rw [nameText, htext]
  have hmade : declared.toSymbol typeName = .ok
      { typeName
        name := text
        value := declared.value
        signed := declared.signed
        key := text
        text := declared.text
        fits := declared.fits } := by
    rw [toSymbol, hnameText]
    rfl
  exact ⟨_, hmade, rfl⟩

/-- Symbols of one type are a set. -/
theorem exists_ofSymbols {typeName : String} {symbols : List Symbol} (hne : symbols ≠ [])
    (howned : ∀ s ∈ symbols, s.typeName = typeName) :
    ∃ set, SymbolSet.ofSymbols typeName symbols = .ok set := by
  cases symbols with
  | nil => exact absurd rfl hne
  | cons first rest =>
    rw [SymbolSet.ofSymbols]
    split
    · rename_i s hforeign
      have htype := howned s (List.mem_of_find?_eq_some hforeign)
      simpa [htype] using List.find?_some hforeign
    · exact ⟨_, rfl⟩

/-- A set of declarations under texts is refused only for what is declared. -/
theorem SymbolSet.ofDeclarations_eq_error_iff {typeName : String} {ds : List Declaration}
    (hnames : ∀ d ∈ ds, d.name.text?.isSome) {e : Error} :
    SymbolSet.ofDeclarations typeName ds = .error e ↔
      DeclaredSet.ofDeclarations (.ofString typeName) ds = .error e := by
  refine ⟨fun h => ?_, fun h => Outcome.bind_eq_error_iff.2 (.inl h)⟩
  rcases Outcome.bind_eq_error_iff.1 h with hdeclared | ⟨declared, hdeclared, hrest⟩
  · exact hdeclared
  · -- every member has a symbol of the type, so there is a set
    have hmade : ∀ m ∈ declared.members,
        ∃ s, m.toSymbol typeName = .ok s ∧ s.typeName = typeName := by
      intro m hm
      obtain ⟨d, hd, hcheck⟩ :=
        Outcome.exists_of_mem_result (mapM_check_of_ofDeclarations hdeclared) hm
      exact DeclaredSymbol.exists_toSymbol typeName
        ((Declaration.check_eq_ok hcheck).1 ▸ hnames d hd)
    obtain ⟨symbols, hsymbols⟩ :=
      Outcome.exists_mapM_iff.2 fun m hm => (hmade m hm).imp fun _ h => h.1
    have hne : symbols ≠ [] := by
      rintro rfl
      exact declared.ne_nil (List.map_eq_nil_iff.1 (Outcome.mapM_eq_ok_iff.1 hsymbols))
    have howned : ∀ s ∈ symbols, s.typeName = typeName := by
      intro s hs
      obtain ⟨m, hm, hsymbol⟩ := Outcome.exists_of_mem_result hsymbols hs
      obtain ⟨s', hsymbol', htype⟩ := hmade m hm
      rw [hsymbol] at hsymbol'
      exact Except.ok.inj hsymbol' ▸ htype
    obtain ⟨set, hset⟩ := exists_ofSymbols hne howned
    rw [hsymbols, Outcome.ok_bind, hset] at hrest
    cases hrest

/-- In a run, the set of a requested type is refused only for what is declared: its names never
are, so that building and checking refuse the same. -/
theorem Generator.symbolSet_eq_error_iff {g : Generator} {typeName : String} {e : Error} :
    (g.symbolSet typeName).outcome = .error e ↔
      g.source.load (.ofString typeName) = .error e ∨
        ∃ ds, g.source.load (.ofString typeName) = .ok ds ∧
          DeclaredSet.ofDeclarations (.ofString typeName) ds = .error e := by
  rw [symbolSet, Logged.outcome_bind, Logged.outcome_of, Outcome.bind_eq_error_iff]
  refine or_congr_right (exists_congr fun ds => and_congr_right fun hload => ?_)
  split
  · rename_i hnone
    obtain rfl := List.isEmpty_iff.1 hnone
    have hempty : DeclaredSet.ofDeclarations (.ofString typeName) [] =
        .error (.noValues (.ofString typeName)) := rfl
    have hrefused : (Logged.fail [Event.noValues typeName]
        (Error.noValues (.ofString typeName)) : Logged SymbolSet).outcome =
          .error (.noValues (.ofString typeName)) := rfl
    rw [hempty, hrefused, Except.error.injEq, Except.error.injEq]
  · exact SymbolSet.ofDeclarations_eq_error_iff
      (SymbolSource.isSome_text?_of_load g.textNames hload)

/-! ## First declarations -/

/-- A declaration of a type has the pattern of a value. -/
def Declaration.HasPattern (typeName : String) (v : Int) (d : Declaration) : Prop :=
  d.typeName = .ofString typeName ∧
    ∃ n, d.value.toInteger = .ok n ∧ n % Word64.modulus = v % Word64.modulus

/-- The first of some declarations of a type that has the pattern of a value. -/
def IsFirstDeclaration (declarations : List Declaration) (typeName : String) (v : Int)
    (d : Declaration) : Prop :=
  ∃ before after, declarations = before ++ d :: after ∧ d.HasPattern typeName v ∧
    ∀ b ∈ before, ¬ b.HasPattern typeName v

variable {typeName : String} {declarations : List Declaration} {symbols : List Symbol}

/-- A value is declared by a declaration of the type if a symbol has it. -/
theorem exists_symbol_iff
    (hsymbols : (SymbolSource.ofType (.ofString typeName) declarations).mapM
      (symbolOf typeName) = .ok symbols) (v : Int) :
    (∃ s ∈ symbols, s.value = v) ↔
      ∃ d ∈ declarations, d.typeName = .ofString typeName ∧ d.value.toInteger = .ok v := by
  constructor
  · rintro ⟨s, hs, rfl⟩
    obtain ⟨d, hd, hsymbol⟩ := Outcome.exists_of_mem_result hsymbols hs
    obtain ⟨hmem, htype⟩ := List.mem_filter.1 hd
    exact ⟨d, hmem, Value.same_text.1 htype, (symbolOf_eq_ok hsymbol).2.2⟩
  · rintro ⟨d, hmem, htype, hvalue⟩
    have hd : d ∈ SymbolSource.ofType (.ofString typeName) declarations :=
      List.mem_filter.2 ⟨hmem, Value.same_text.2 htype⟩
    obtain ⟨s, hs, hsymbol⟩ := Outcome.exists_of_mem hsymbols hd
    have hvalue' := (symbolOf_eq_ok hsymbol).2.2
    rw [hvalue] at hvalue'
    exact ⟨s, hs, (Except.ok.inj hvalue').symm⟩

/-- The first symbol with the pattern of a value comes from the first declaration with it. -/
theorem isFirstDeclaration_of_find?
    (hsymbols : (SymbolSource.ofType (.ofString typeName) declarations).mapM
      (symbolOf typeName) = .ok symbols) {v : Int} {s : Symbol}
    (hfirst : symbols.find? (fun s => decide (s.value % Word64.modulus = v % Word64.modulus)) =
      some s) :
    ∃ d, IsFirstDeclaration declarations typeName v d ∧ symbolOf typeName d = .ok s := by
  obtain ⟨hs, front, back, rfl, hfront⟩ := List.find?_eq_some_iff_append.1 hfirst
  have hmap := Outcome.mapM_eq_ok_iff.1 hsymbols
  rw [List.map_append, List.map_cons] at hmap
  obtain ⟨before, rest, htype, hbefore, hrest⟩ := List.map_eq_append_iff.1 hmap
  obtain ⟨d, after, rfl, hd, -⟩ := List.map_eq_cons_iff.1 hrest
  obtain ⟨before', rest', rfl, rfl, hrest'⟩ := List.filter_eq_append_iff.1 htype
  obtain ⟨skipped, after', rfl, hskipped, hsame, -⟩ := List.filter_eq_cons_iff.1 hrest'
  refine ⟨d, ⟨before' ++ skipped, after', (List.append_assoc _ _ _).symm, ?_, ?_⟩, hd⟩
  · exact ⟨Value.same_text.1 hsame, s.value, (symbolOf_eq_ok hd).2.2, of_decide_eq_true hs⟩
  · rintro b hb ⟨hb_type, n, hn, hcongruent⟩
    rcases List.mem_append.1 hb with hb | hb
    · -- a declaration of the type has a symbol, which comes before the first one
      have hmem : symbolOf typeName b ∈ front.map Except.ok := by
        rw [← hbefore]
        exact List.mem_map_of_mem (List.mem_filter.2 ⟨hb, Value.same_text.2 hb_type⟩)
      obtain ⟨s', hs', hsymbol⟩ := List.mem_map.1 hmem
      have hvalue := (symbolOf_eq_ok hsymbol.symm).2.2
      rw [hn] at hvalue
      obtain rfl := Except.ok.inj hvalue
      exact absurd hcongruent (by simpa using hfront s' hs')
    · exact hskipped b hb (Value.same_text.2 hb_type)

end SymbolText
