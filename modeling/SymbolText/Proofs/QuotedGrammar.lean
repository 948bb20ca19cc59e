import SymbolText.Text.Quoted

/-!
# The grammar of quoted texts

The body of a quoted text goes up to the first quote that is not escaped, or to the end. It is read
exactly if it consists of plain characters and of the six escapes, with one exception: a backslash
at the very end of a text without a closing quote begins no escape, and is dropped.

The grammar is over code points. A surrogate is a plain one, and no letter of an escape.

* `escapes`: the six escapes, each a letter with its character.
* `body`: what is between the quotes.
* `Decodes`: the bodies of the grammar, with their texts.
* `Reads`: the bodies that are read. `Faulty`: those with a backslash before another letter.

Results:
* `mem_escapes_iff`: which escapes there are.
* `body_append`: what follows the body.
* `scanTextBody?_eq_some_iff`, `scanTextBody?_eq_none_iff`: which bodies are read, and which are
  refused.
* `scanText?_iff`: the same for quoted texts, and for the characters of catalogs.
-/

namespace SymbolText.Text.Quoted

/-! ## Escapes -/

/-- The letters of the six escapes, with the characters that they stand for. -/
def escapes : List (CodePoint × CodePoint) :=
  [('0', '\x00'), ('t', '\t'), ('n', '\n'), ('r', '\r'), ('"', '"'), ('\\', '\\')].map
    fun (letter, c) => (.char letter, .char c)

/-- What a letter after a backslash stands for. -/
def unescapeText? (letter : CodePoint) : Option CodePoint :=
  (letter.char?.bind unescape?).map .char

theorem mem_escapes_iff {letter c : CodePoint} :
    (letter, c) ∈ escapes ↔ unescapeText? letter = some c := by
  cases letter with
  | surrogate i => simp [escapes, unescapeText?, CodePoint.char?]
  | char l =>
    rw [unescapeText?, CodePoint.char?, Option.bind_some, unescape?]
    repeat' split
    all_goals simp_all [escapes, eq_comm]

theorem forall_not_mem_escapes_iff {letter : CodePoint} :
    (∀ c, (letter, c) ∉ escapes) ↔ unescapeText? letter = none := by
  rw [Option.eq_none_iff_forall_ne_some]
  exact forall_congr' fun c => not_congr mem_escapes_iff

/-! ## Bodies -/

/-- The body of a quoted text, of which the opening quote is taken off: what is before the first
quote that is not escaped, or everything. A backslash escapes the character after it. -/
def body : Text → Text
  | .char '"' :: _ => []
  | .char '\\' :: letter :: rest => .char '\\' :: letter :: body rest
  | c :: rest => c :: body rest
  | [] => []

theorem body_quote (rest : Text) : body (.char '"' :: rest) = [] :=
  rfl

theorem body_escape (letter : CodePoint) (rest : Text) :
    body (.char '\\' :: letter :: rest) = .char '\\' :: letter :: body rest :=
  rfl

theorem body_plain {c : CodePoint} (rest : Text) (hquote : c ≠ .char '"')
    (hbackslash : c ≠ .char '\\') :
    body (c :: rest) = c :: body rest :=
  body.eq_3 c rest hquote fun _ _ h => absurd h hbackslash

/-- What may be behind the opening quote: nothing, a single backslash, the closing quote, an escaped
character or a plain one. -/
theorem body_induction {P : Text → Prop} (hnil : P []) (hdangling : P [.char '\\'])
    (hquote : ∀ rest, P (.char '"' :: rest))
    (hescape : ∀ letter rest, P rest → P (.char '\\' :: letter :: rest))
    (hplain : ∀ c rest, c ≠ .char '"' → c ≠ .char '\\' → P rest → P (c :: rest))
    (text : Text) :
    P text := by
  induction text using body.induct with
  | case1 rest => exact hquote rest
  | case2 letter rest ih => exact hescape letter rest ih
  | case3 c rest hne hpair ih =>
    by_cases hbackslash : c = .char '\\'
    · subst hbackslash
      cases rest with
      | nil => exact hdangling
      | cons letter rest => exact absurd rfl (hpair letter rest rfl)
    · exact hplain c rest hne hbackslash ih
  | case4 => exact hnil

/-- The body is followed by the closing quote, or by nothing. -/
theorem body_append (text : Text) :
    ∃ tail, text = body text ++ tail ∧ ∀ c ∈ tail.head?, c = .char '"' := by
  induction text using body_induction with
  | hnil => exact ⟨[], rfl, nofun⟩
  | hdangling => exact ⟨[], rfl, nofun⟩
  | hquote rest => exact ⟨.char '"' :: rest, by rw [body_quote, List.nil_append], by simp⟩
  | hescape letter rest ih =>
    obtain ⟨tail, htail, hhead⟩ := ih
    exact ⟨tail, by rw [body_escape, List.cons_append, List.cons_append, ← htail], hhead⟩
  | hplain c rest hquote hbackslash ih =>
    obtain ⟨tail, htail, hhead⟩ := ih
    exact ⟨tail, by rw [body_plain rest hquote hbackslash, List.cons_append, ← htail], hhead⟩

/-! ## Bodies that are read -/

/-- A body of plain characters and escapes, with the text that it stands for. -/
inductive Decodes : Text → Text → Prop
  | nil : Decodes [] []
  | plain {c : CodePoint} {body text : Text} (hquote : c ≠ .char '"')
      (hbackslash : c ≠ .char '\\') (h : Decodes body text) : Decodes (c :: body) (c :: text)
  | escape {letter c : CodePoint} {body text : Text} (hescape : (letter, c) ∈ escapes)
      (h : Decodes body text) : Decodes (.char '\\' :: letter :: body) (c :: text)

/-- A body is read as a text: it is of the grammar, or would be without the backslash at its end. -/
def Reads (body text : Text) : Prop :=
  Decodes body text ∨ ∃ front, body = front ++ [.char '\\'] ∧ Decodes front text

theorem reads_nil {text : Text} : Reads [] text ↔ text = [] := by
  constructor
  · rintro (h | ⟨front, hfront, -⟩)
    · cases h
      rfl
    · simp at hfront
  · rintro rfl
    exact .inl .nil

theorem reads_dangling {text : Text} : Reads [.char '\\'] text ↔ text = [] := by
  constructor
  · rintro (h | ⟨front, hfront, h⟩)
    · cases h
      contradiction
    · obtain rfl : front = [] := by simpa using hfront
      cases h
      rfl
  · rintro rfl
    exact .inr ⟨[], rfl, .nil⟩

theorem reads_plain {c : CodePoint} {body text : Text} (hquote : c ≠ .char '"')
    (hbackslash : c ≠ .char '\\') :
    Reads (c :: body) text ↔ ∃ rest, Reads body rest ∧ c :: rest = text := by
  constructor
  · rintro (h | ⟨front, hfront, h⟩)
    · cases h with
      | plain _ _ h => exact ⟨_, .inl h, rfl⟩
      | escape => contradiction
    · cases front with
      | nil =>
        obtain ⟨rfl, -⟩ := List.cons.inj hfront
        contradiction
      | cons d front =>
        obtain ⟨rfl, hbody⟩ := List.cons.inj hfront
        cases h with
        | plain _ _ h => exact ⟨_, .inr ⟨front, hbody, h⟩, rfl⟩
        | escape => contradiction
  · rintro ⟨rest, h | ⟨front, rfl, h⟩, rfl⟩
    · exact .inl (.plain hquote hbackslash h)
    · exact .inr ⟨c :: front, rfl, .plain hquote hbackslash h⟩

theorem reads_escape {letter : CodePoint} {body text : Text} :
    Reads (.char '\\' :: letter :: body) text ↔
      ∃ c, (letter, c) ∈ escapes ∧ ∃ rest, Reads body rest ∧ c :: rest = text := by
  constructor
  · rintro (h | ⟨front, hfront, h⟩)
    · cases h with
      | plain => contradiction
      | escape hescape h => exact ⟨_, hescape, _, .inl h, rfl⟩
    · cases h with
      | nil => simp at hfront
      | plain _ hbackslash => exact absurd (List.cons.inj hfront).1.symm hbackslash
      | escape hescape h =>
        simp only [List.cons_append, List.cons.injEq, true_and] at hfront
        obtain ⟨rfl, hbody⟩ := hfront
        exact ⟨_, hescape, _, .inr ⟨_, hbody, h⟩, rfl⟩
  · rintro ⟨c, hescape, rest, h | ⟨front, rfl, h⟩, rfl⟩
    · exact .inl (.escape hescape h)
    · exact .inr ⟨.char '\\' :: letter :: front, rfl, .escape hescape h⟩

theorem scanTextBody?_escape (letter : CodePoint) (rest : Text) :
    scanTextBody? false (.char '\\' :: letter :: rest) =
      (unescapeText? letter).bind fun c => (scanTextBody? false rest).map (c :: ·) := by
  rw [unescapeText?]
  cases h : letter.char?.bind unescape? <;> simp [scanTextBody?, h]

theorem scanTextBody?_plain {c : CodePoint} (rest : Text) (hquote : c ≠ .char '"')
    (hbackslash : c ≠ .char '\\') :
    scanTextBody? false (c :: rest) = (scanTextBody? false rest).map (c :: ·) := by
  rw [scanTextBody?, if_neg Bool.false_ne_true, if_neg hquote, if_neg hbackslash]

/-- Reading finds the text of a body that can be read. -/
theorem scanTextBody?_eq_some_iff (rest text : Text) :
    scanTextBody? false rest = some text ↔ Reads (body rest) text := by
  induction rest using body_induction generalizing text with
  | hnil => rw [scanTextBody?, body, reads_nil, Option.some.injEq, eq_comm]
  | hdangling =>
    rw [show body [.char '\\'] = [.char '\\'] from rfl, reads_dangling, eq_comm]
    simp [scanTextBody?]
  | hquote rest =>
    rw [body_quote, reads_nil, eq_comm]
    simp [scanTextBody?]
  | hescape letter rest ih =>
    rw [scanTextBody?_escape, body_escape, reads_escape, Option.bind_eq_some_iff]
    simp only [Option.map_eq_some_iff, ih, mem_escapes_iff]
  | hplain c rest hquote hbackslash ih =>
    rw [scanTextBody?_plain rest hquote hbackslash, body_plain rest hquote hbackslash,
      reads_plain hquote hbackslash]
    simp only [Option.map_eq_some_iff, ih]

/-! ## Bodies that are refused -/

/-- Every backslash has a letter of its own after it. -/
inductive Paired : Text → Prop
  | nil : Paired []
  | plain {c : CodePoint} {body : Text} (hbackslash : c ≠ .char '\\') (h : Paired body) :
      Paired (c :: body)
  | escape {letter : CodePoint} {body : Text} (h : Paired body) :
      Paired (.char '\\' :: letter :: body)

/-- Some backslash comes before a letter that makes no escape. -/
def Faulty (body : Text) : Prop :=
  ∃ front letter back, body = front ++ .char '\\' :: letter :: back ∧ Paired front ∧
    ∀ c, (letter, c) ∉ escapes

theorem not_faulty_nil : ¬ Faulty [] := by
  rintro ⟨front, letter, back, hbody, -⟩
  simp at hbody

theorem not_faulty_dangling : ¬ Faulty [.char '\\'] := by
  rintro ⟨front, letter, back, hbody, -⟩
  have hlength := congrArg List.length hbody
  simp only [List.length_append, List.length_cons, List.length_nil] at hlength
  omega

theorem faulty_plain {c : CodePoint} {body : Text} (hbackslash : c ≠ .char '\\') :
    Faulty (c :: body) ↔ Faulty body := by
  constructor
  · rintro ⟨front, letter, back, hbody, hpaired, hletter⟩
    cases hpaired with
    | nil => exact absurd (List.cons.inj hbody).1 hbackslash
    | plain _ h => exact ⟨_, letter, back, (List.cons.inj hbody).2, h, hletter⟩
    | escape => exact absurd (List.cons.inj hbody).1 hbackslash
  · rintro ⟨front, letter, back, rfl, hpaired, hletter⟩
    exact ⟨c :: front, letter, back, rfl, .plain hbackslash hpaired, hletter⟩

theorem faulty_escape {letter : CodePoint} {body : Text} :
    Faulty (.char '\\' :: letter :: body) ↔ (∀ c, (letter, c) ∉ escapes) ∨ Faulty body := by
  constructor
  · rintro ⟨front, letter', back, hbody, hpaired, hletter⟩
    cases hpaired with
    | nil =>
      simp only [List.nil_append, List.cons.injEq, true_and] at hbody
      exact .inl (hbody.1 ▸ hletter)
    | plain hbackslash => exact absurd (List.cons.inj hbody).1.symm hbackslash
    | escape h =>
      simp only [List.cons_append, List.cons.injEq, true_and] at hbody
      exact .inr ⟨_, letter', back, hbody.2, h, hletter⟩
  · rintro (hletter | ⟨front, letter', back, rfl, hpaired, hletter⟩)
    · exact ⟨[], letter, body, rfl, .nil, hletter⟩
    · exact ⟨.char '\\' :: letter :: front, letter', back, rfl, .escape hpaired, hletter⟩

/-- Reading fails only at a backslash before another letter, wherever in the body it is. -/
theorem scanTextBody?_eq_none_iff (rest : Text) :
    scanTextBody? false rest = none ↔ Faulty (body rest) := by
  induction rest using body_induction with
  | hnil => simp [scanTextBody?, body, not_faulty_nil]
  | hdangling => simp [scanTextBody?, body, not_faulty_dangling]
  | hquote rest => simp [scanTextBody?, body_quote, not_faulty_nil]
  | hescape letter rest ih =>
    rw [scanTextBody?_escape, body_escape, faulty_escape, ← ih, forall_not_mem_escapes_iff]
    cases unescapeText? letter <;> simp
  | hplain c rest hquote hbackslash ih =>
    rw [scanTextBody?_plain rest hquote hbackslash, body_plain rest hquote hbackslash,
      faulty_plain hbackslash, ← ih, Option.map_eq_none_iff]

/-- **Quoted texts are those of the grammar, but for a backslash at the end.** The body goes up to
the closing quote, or to the end. It is read as its text if it consists of plain characters and
escapes, and so it is if only a backslash follows them, which is dropped. Nothing else is read: what
is refused has a backslash before a letter that makes no escape. The characters of a catalog are
read alike. -/
theorem scanText?_iff (rest : Text) :
    (∃ tail, rest = body rest ++ tail ∧ ∀ c ∈ tail.head?, c = .char '"') ∧
    (∀ text, scanText? (.char '"' :: rest) = some text ↔
      Decodes (body rest) text ∨
        ∃ front, body rest = front ++ [.char '\\'] ∧ Decodes front text) ∧
    (scanText? (.char '"' :: rest) = none ↔
      ∃ front letter back, body rest = front ++ .char '\\' :: letter :: back ∧ Paired front ∧
        ∀ c, (letter, c) ∉ escapes) ∧
    ∀ cs, rest = ofChars cs →
      scanText? (.char '"' :: rest) = (scan? ('"' :: cs)).map ofChars := by
  have hscan : scanText? (.char '"' :: rest) = scanTextBody? false rest := by
    rw [scanText?, if_pos rfl]
  refine ⟨body_append rest, ?_, ?_, ?_⟩
  · rw [hscan]
    exact scanTextBody?_eq_some_iff rest
  · rw [hscan]
    exact scanTextBody?_eq_none_iff rest
  · rintro cs rfl
    exact scanText?_ofChars ('"' :: cs)

/-- A text that ends with a backslash is read, though this makes no escape, and loses it. -/
theorem scanText?_dangling :
    scanText? (.ofString "\"a\\") = some (.ofString "a") ∧
      scan? ['"', 'a', '\\'] = some ['a'] ∧
      body (.ofString "a\\") = .ofString "a\\" ∧ ¬ ∃ text, Decodes (.ofString "a\\") text := by
  refine ⟨by decide, by decide, by decide, ?_⟩
  rintro ⟨text, h⟩
  have hbody : Text.ofString "a\\" = [.char 'a', .char '\\'] := rfl
  rw [hbody] at h
  cases h with
  | plain _ _ h =>
    cases h
    contradiction

end SymbolText.Text.Quoted
