import SymbolText.Proofs.Outcome
import SymbolText.Template.Basic

/-!
# Filling in is one pass of substitutions

A template is written from parts: texts, in which every percent sign is doubled, and directives.
Reading it from the left finds these parts again, since a directive ends with its letter and a
doubled sign is read before anything that follows it. Filling in then puts each argument in the
place of its directive, and what is put there is not read again.

* `Directive.IsForm`: what a directive is written from. `Directive.normalize`: the directive that is
  read, where zeros in front of a width are flags.
* `Part`, `templateOf`: parts, and the template that is written from them.
* `Standing`: the texts that stand for the parts.

Results:
* `parse?_form`: a written directive is read, whatever follows it.
* `ofTemplate_templateOf`: a written template has the pieces of its parts.
* `fill_templateOf`: what is written for such a template.
-/

namespace SymbolText

/-! ## Runs of characters -/

/-- A run in front of a character of another class. -/
theorem Text.span_append_cons {p : Char → Bool} {run : List Char} (hrun : ∀ c ∈ run, p c = true)
    {c : Char} (hc : p c = false) (rest : Text) :
    Text.span p (Text.ofChars run ++ .char c :: rest) = (run, .char c :: rest) := by
  induction run with
  | nil => simp [Text.ofChars, Text.span, hc]
  | cons first more ih =>
    obtain ⟨hfirst, hmore⟩ := List.forall_mem_cons.1 hrun
    have hcons : Text.ofChars (first :: more) ++ .char c :: rest =
        .char first :: (Text.ofChars more ++ .char c :: rest) := rfl
    rw [hcons, Text.span, if_pos hfirst, ih hmore]

/-- A decimal digit is none of the signs and letters of ASCII. -/
theorem Text.toNat_of_isDecimalDigit {c : Char} (hc : Text.isDecimalDigit c = true) :
    48 ≤ c.toNat ∧ c.toNat ≤ 57 ∨ 1632 ≤ c.toNat := by
  obtain ⟨d, hd⟩ := Option.isSome_iff_exists.1 hc
  obtain ⟨base, hbase, -⟩ := Option.map_eq_some_iff.1 hd
  have hrange := List.find?_some hbase
  have hzero : ∀ n ∈ zeroDigits, n = 48 ∨ 1632 ≤ n := by decide
  have hcases := hzero base (List.mem_of_find?_eq_some hbase)
  simp only [Bool.and_eq_true, Nat.ble_eq, Nat.blt_eq] at hrange
  omega

/-- A character of a class is none of some characters outside of it. -/
theorem ne_of_class {p : Char → Bool} {c : Char} (hc : p c = true) {signs : List Char}
    (hsigns : signs.any p = false) : ∀ sign ∈ signs, c ≠ sign := by
  intro sign hsign heq
  exact List.any_eq_false.1 hsigns sign hsign (heq ▸ hc)

namespace Directive

/-! ## Written directives -/

/-- A directive is written with flags, decimal digits and a letter. -/
structure IsForm (d : Directive) : Prop where
  flags : ∀ c ∈ d.flags, isFlag c = true
  width : ∀ c ∈ d.width, Text.isDecimalDigit c = true
  /-- A point is followed by a digit. -/
  precision : ∀ digits ∈ d.precision, digits ≠ [] ∧ ∀ c ∈ digits, Text.isDecimalDigit c = true
  letter : d.verb.isAlpha = true

instance (d : Directive) : Decidable d.IsForm :=
  decidable_of_iff
    (d.flags.all isFlag && d.width.all Text.isDecimalDigit &&
      d.precision.all (fun digits => !digits.isEmpty && digits.all Text.isDecimalDigit) &&
      d.verb.isAlpha)
    (by
      simp only [Bool.and_eq_true, List.all_eq_true, Option.all_eq_true, Bool.not_eq_true',
        List.isEmpty_eq_false_iff]
      exact ⟨fun ⟨⟨⟨hflags, hwidth⟩, hprecision⟩, hletter⟩ => ⟨hflags, hwidth, hprecision, hletter⟩,
        fun h => ⟨⟨⟨h.flags, h.width⟩, h.precision⟩, h.letter⟩⟩)

/-- The directive that is read where one is written: zeros in front of the width are flags. -/
def normalize (d : Directive) : Directive :=
  { d with
    flags := d.flags ++ d.width.takeWhile (· = '0')
    width := d.width.dropWhile (· = '0') }

theorem render_normalize (d : Directive) : d.normalize.render = d.render := by
  simp [render, normalize, List.append_assoc]

theorem isForm_normalize {d : Directive} (hform : d.IsForm) : d.normalize.IsForm where
  flags := by
    intro c hc
    rcases List.mem_append.1 hc with hc | hc
    · exact hform.flags c hc
    · obtain rfl : c = '0' := of_decide_eq_true (List.all_eq_true.1 List.all_takeWhile c hc)
      rfl
  width := fun c hc => hform.width c ((List.dropWhile_sublist _).subset hc)
  precision := hform.precision
  letter := hform.letter

theorem head?_normalize (d : Directive) : d.normalize.width.head? ≠ some '0' := by
  have hhead := List.head?_dropWhile_not (· = '0') d.width
  intro hzero
  rw [normalize] at hzero
  simp [hzero] at hhead

/-- The zero of ASCII is the only decimal digit that is a flag. -/
theorem isFlag_of_isDecimalDigit {c : Char} (hc : Text.isDecimalDigit c = true) (hne : c ≠ '0') :
    isFlag c = false := by
  have hsigns : ∀ sign ∈ ['-', '+', '#', ' '], c ≠ sign := ne_of_class hc rfl
  simp only [List.mem_cons, List.not_mem_nil, or_false, forall_eq_or_imp, forall_eq] at hsigns
  simp [isFlag, hne, hsigns]

/-- A letter is no flag, no digit and no point. -/
theorem classes_of_isAlpha {c : Char} (hc : c.isAlpha = true) :
    isFlag c = false ∧ Text.isDecimalDigit c = false ∧ c ≠ '.' := by
  have hsigns : ∀ sign ∈ ['-', '+', '#', ' ', '0', '.'], c ≠ sign := ne_of_class hc rfl
  simp only [List.mem_cons, List.not_mem_nil, or_false, forall_eq_or_imp, forall_eq] at hsigns
  have hdigit : Text.isDecimalDigit c = false := by
    have hrange : 65 ≤ c.toNat ∧ c.toNat ≤ 90 ∨ 97 ≤ c.toNat ∧ c.toNat ≤ 122 := by
      rcases Bool.or_eq_true_iff.1 hc with hupper | hlower
      · exact .inl (of_decide_eq_true hupper)
      · obtain ⟨hfirst, hlast⟩ := Bool.and_eq_true_iff.1 hlower
        exact .inr ⟨of_decide_eq_true hfirst, of_decide_eq_true hlast⟩
    refine Bool.eq_false_iff.2 fun hdigit => ?_
    have := Text.toNat_of_isDecimalDigit hdigit
    omega
  exact ⟨by simp [isFlag, hsigns], hdigit, hsigns.2.2.2.2.2⟩

/-! ## Reading a written directive -/

/-- A written precision is read in front of a letter. -/
theorem splitPrecision_form {d : Directive} (hform : d.IsForm) (rest : Text) :
    splitPrecision (Text.ofChars (d.precision.elim [] ('.' :: ·)) ++ .char d.verb :: rest) =
      (d.precision, .char d.verb :: rest) := by
  obtain ⟨-, hdigit, hpoint⟩ := classes_of_isAlpha hform.letter
  cases hprecision : d.precision with
  | none =>
    show splitPrecision (.char d.verb :: rest) = (none, .char d.verb :: rest)
    unfold splitPrecision
    split
    · rename_i heq
      exact absurd (CodePoint.char.inj (List.cons.inj heq).1) hpoint
    · rfl
  | some digits =>
    obtain ⟨hne, hdigits⟩ := hform.precision digits hprecision
    have hspan := Text.span_append_cons hdigits hdigit rest
    show splitPrecision (.char '.' :: (Text.ofChars digits ++ .char d.verb :: rest)) = _
    rw [splitPrecision, hspan]
    exact if_neg hne

/-- What follows the width of a written directive does not begin with a flag or a digit. -/
theorem exists_tail_cons {d : Directive} (hform : d.IsForm) (rest : Text) :
    ∃ c tail, isFlag c = false ∧ Text.isDecimalDigit c = false ∧
      Text.ofChars (d.precision.elim [] ('.' :: ·)) ++ .char d.verb :: rest = .char c :: tail := by
  cases d.precision with
  | none =>
    obtain ⟨hflag, hdigit, -⟩ := classes_of_isAlpha hform.letter
    exact ⟨d.verb, rest, hflag, hdigit, rfl⟩
  | some digits => exact ⟨'.', _, rfl, by decide, rfl⟩

/-- A directive whose width does not begin with a zero is read as it is written. -/
theorem parse?_of_head? {d : Directive} (hform : d.IsForm) (hzero : d.width.head? ≠ some '0')
    (rest : Text) :
    parse? (Text.ofChars (d.flags ++ d.width ++ d.precision.elim [] ('.' :: ·) ++ [d.verb]) ++
      rest) = some (d, rest) := by
  obtain ⟨c, tail, hflag, hdigit, htail⟩ := exists_tail_cons hform rest
  have htext : Text.ofChars
      (d.flags ++ d.width ++ d.precision.elim [] ('.' :: ·) ++ [d.verb]) ++ rest =
      Text.ofChars d.flags ++ (Text.ofChars d.width ++ .char c :: tail) := by
    rw [← htail]
    simp only [Text.ofChars_append, List.append_assoc]
    rfl
  have hwidth := Text.span_append_cons hform.width hdigit tail
  have hflags :
      Text.span isFlag (Text.ofChars d.flags ++ (Text.ofChars d.width ++ .char c :: tail)) =
        (d.flags, Text.ofChars d.width ++ .char c :: tail) := by
    -- they end before a digit that is no zero, or before what follows the width
    cases hd : d.width with
    | nil => exact Text.span_append_cons hform.flags hflag tail
    | cons first more =>
      have hne : first ≠ '0' := by
        rintro rfl
        exact hzero (by rw [hd]; rfl)
      have hfirst := hform.width first (by rw [hd]; exact List.mem_cons_self)
      exact Text.span_append_cons hform.flags (isFlag_of_isDecimalDigit hfirst hne) _
  have hverb : isVerb d.verb = true := by simp [isVerb, hform.letter]
  rw [htext, parse?, hflags]
  dsimp only
  rw [hwidth]
  dsimp only
  rw [← htail, splitPrecision_form hform]
  exact if_pos hverb

/-- A written directive is read, whatever follows it. -/
theorem parse?_form {d : Directive} (hform : d.IsForm) (rest : Text) :
    parse? (Text.ofChars d.render.tail ++ rest) = some (d.normalize, rest) := by
  rw [← render_normalize]
  exact parse?_of_head? (isForm_normalize hform) (head?_normalize d) rest

end Directive

/-! ## Written templates -/

namespace Piece

theorem ofTemplate_cons {p : CodePoint} (hp : p ≠ .char '%') (rest : Text) :
    ofTemplate (p :: rest) = .literal p :: ofTemplate rest := by
  rw [ofTemplate, if_neg hp]

theorem ofTemplate_directive {rest later : Text} {d : Directive}
    (hparse : Directive.parse? rest = some (d, later)) :
    ofTemplate (.char '%' :: rest) = .directive d :: ofTemplate later := by
  rw [ofTemplate, if_pos rfl]
  split
  · rename_i heq
    obtain ⟨rfl, rfl⟩ := Prod.mk.inj (Option.some.inj (heq.symm.trans hparse))
    rfl
  · rename_i heq
    rw [hparse] at heq
    cases heq

end Piece

namespace Template

/-- A part that a template is written from. -/
inductive Part
  /-- A text that is to stand as it is. -/
  | literal (text : Text)
  | directive (d : Directive) (form : d.IsForm)

/-- A text with every percent sign doubled. -/
def doubled (text : Text) : Text := text.flatMap fun p => if p = .char '%' then [p, p] else [p]

namespace Part

/-- The written form of a part. -/
def written : Part → Text
  | literal text => doubled text
  | directive d _ => .ofChars d.render

/-- Whether a part is a directive. -/
def isDirective : Part → Bool
  | literal _ => false
  | directive .. => true

/-- The pieces that are read where a part is written; of a doubled sign the second is the verb. -/
def pieces : Part → List Piece
  | literal text =>
    text.map fun p => if p = .char '%' then .directive ⟨[], [], none, '%'⟩ else .literal p
  | directive d _ => [.directive d.normalize]

/-- A written part is read, whatever follows it. -/
theorem ofTemplate_written (part : Part) (rest : Text) :
    Piece.ofTemplate (part.written ++ rest) = part.pieces ++ Piece.ofTemplate rest := by
  cases part with
  | directive d form => exact Piece.ofTemplate_directive (Directive.parse?_form form rest)
  | literal text =>
    simp only [written, pieces, doubled]
    induction text with
    | nil => rfl
    | cons p more ih =>
      rw [List.flatMap_cons, List.map_cons, List.append_assoc]
      by_cases hp : p = .char '%'
      · subst hp
        have hsecond : ∀ pieces, (.directive ⟨[], [], none, '%'⟩ :: pieces) ++
            Piece.ofTemplate rest = .directive ⟨[], [], none, '%'⟩ :: (pieces ++
              Piece.ofTemplate rest) := fun pieces => rfl
        rw [if_pos rfl, if_pos rfl, hsecond, ← ih]
        exact Piece.ofTemplate_directive rfl
      · rw [if_neg hp, if_neg hp, List.cons_append, List.cons_append, ← ih]
        exact Piece.ofTemplate_cons hp _

end Part

/-- The template that is written from parts. -/
def templateOf (parts : List Part) : Text := parts.flatMap Part.written

/-- A written template has the pieces of its parts. -/
theorem ofTemplate_templateOf (parts : List Part) :
    Piece.ofTemplate (templateOf parts) = parts.flatMap Part.pieces := by
  induction parts with
  | nil => rw [templateOf, List.flatMap_nil, Piece.ofTemplate, List.flatMap_nil]
  | cons part rest ih =>
    rw [templateOf, List.flatMap_cons, Part.ofTemplate_written, List.flatMap_cons, ← ih]
    rfl

/-! ## What stands for the parts -/

/-- The number of directives among the first `n` parts. -/
def directivesBefore (parts : List Part) (n : Nat) : Nat := (parts.take n).countP Part.isDirective

/-- What stands for a part: a literal stands for itself, and a directive for what it makes of the
argument at its position, if there is one. -/
def Part.standing (arg? : Option Value) : Part → Except Error Text
  | literal text => .ok text
  | directive d _ =>
    match arg? with
    | some arg => d.normalize.format arg
    | none => .ok (missing d.verb)

/-- The texts that stand for parts, one for each, where the position of a directive is the number of
directives before it. -/
def Standing (parts : List Part) (args : List Value) (texts : List Text) : Prop :=
  ∀ i : Nat, texts[i]?.map Except.ok =
    parts[i]?.map (Part.standing args[directivesBefore parts i]?)

/-- A value with its type, as one that is left over is shown. -/
def described (v : Value) : Text := Text.ofString v.typeName ++ .char '=' :: v.show?.getD []

/-- The list of the arguments that are left over, if there are any. -/
def surplus : List Value → Text
  | [] => []
  | args =>
    Text.ofString "%!(EXTRA " ++ Text.joinWith (Text.ofString ", ") (args.map described) ++
      Text.ofString ")"

theorem standing_nil (args : List Value) : Standing [] args [] := fun _ => rfl

/-- A directive takes the first argument, and the parts after it stand for the others. -/
theorem standing_cons {part : Part} {parts : List Part} {args : List Value} {text : Text}
    {texts : List Text} (htext : part.standing args[0]? = .ok text)
    (hrest : Standing parts (if part.isDirective then args.tail else args) texts) :
    Standing (part :: parts) args (text :: texts) := by
  intro i
  cases i with
  | zero => exact congrArg some htext.symm
  | succ i =>
    have hposition : (if part.isDirective then args.tail else args)[directivesBefore parts i]? =
        args[directivesBefore (part :: parts) (i + 1)]? := by
      rw [directivesBefore, directivesBefore, List.take_succ_cons, List.countP_cons]
      split
      · rw [List.getElem?_tail]
      · rfl
    rw [List.getElem?_cons_succ, List.getElem?_cons_succ, hrest i, hposition]

/-- Parts and arguments determine the texts that stand for them. -/
theorem standing_unique {parts : List Part} {args : List Value} {texts texts' : List Text}
    (htexts : Standing parts args texts) (htexts' : Standing parts args texts') :
    texts = texts' := by
  refine List.ext_getElem? fun i => ?_
  have hok : Function.Injective (Except.ok : Text → Except Error Text) := fun _ _ => Except.ok.inj
  exact Option.map_injective hok ((htexts i).trans (htexts' i).symm)

/-! ## Filling in -/

theorem describe_of_isSome {v : Value} (hshown : v.show?.isSome) :
    Directive.describe v = .ok (described v) := by
  obtain ⟨text, htext⟩ := Option.isSome_iff_exists.1 hshown
  rw [Directive.describe, described, htext]
  rfl

theorem exists_format (d : Directive) {v : Value} (hshown : v.show?.isSome) :
    ∃ text, d.format v = .ok text := by
  rw [Directive.format]
  split
  · exact ⟨_, rfl⟩
  · rw [describe_of_isSome hshown]
    exact ⟨_, rfl⟩

/-- Arguments that can be shown can be listed. -/
theorem extra_eq_surplus {args : List Value} (hshown : ∀ arg ∈ args, arg.show?.isSome) :
    extra args = .ok (surplus args) := by
  cases args with
  | nil => rfl
  | cons first more =>
    have hlist : (first :: more).mapM Directive.describe = .ok ((first :: more).map described) := by
      rw [Outcome.mapM_eq_ok_iff, List.map_map]
      exact List.map_congr_left fun arg harg => describe_of_isSome (hshown arg harg)
    rw [extra, hlist]
    · rfl
    · exact List.cons_ne_nil first more

/-- A doubled percent sign takes no argument. -/
theorem fillPieces_percent {d : Directive} (hverb : d.verb = '%') (pieces : List Piece)
    (args : List Value) :
    fillPieces (.directive d :: pieces) args = (fillPieces pieces args).map (.char '%' :: ·) := by
  cases args <;> rw [fillPieces, if_pos hverb]

/-- A literal is written before the rest. -/
theorem fillPieces_literal (text : Text) (pieces : List Piece) (args : List Value) :
    fillPieces ((Part.literal text).pieces ++ pieces) args =
      (fillPieces pieces args).map (text ++ ·) := by
  rw [Part.pieces]
  induction text with
  | nil =>
    show fillPieces pieces args = (fillPieces pieces args).map ([] ++ ·)
    cases fillPieces pieces args <;> rfl
  | cons p more ih =>
    rw [List.map_cons, List.cons_append]
    have hstep : ∀ result : Except Error Text,
        (result.map (more ++ ·)).map (p :: ·) = result.map (p :: more ++ ·) := by
      rintro (e | rest) <;> rfl
    by_cases hp : p = .char '%'
    · rw [if_pos hp, fillPieces_percent rfl, ih, ← hp, hstep]
    · rw [if_neg hp, fillPieces, ih, hstep]

/-- The letter of a directive is no percent sign. -/
theorem verb_normalize_ne {d : Directive} (form : d.IsForm) : d.normalize.verb ≠ '%' := by
  intro hverb
  have hletter := form.letter
  rw [show d.verb = '%' from hverb] at hletter
  cases hletter

/-- A directive is written before the rest. -/
theorem fillPieces_directive {d : Directive} (form : d.IsForm) (pieces : List Piece)
    {args : List Value} {text rest : Text}
    (htext : (Part.directive d form).standing args[0]? = .ok text)
    (hrest : fillPieces pieces args.tail = .ok rest) :
    fillPieces ((Part.directive d form).pieces ++ pieces) args = .ok (text ++ rest) := by
  have hletter := verb_normalize_ne form
  rw [Part.pieces, List.singleton_append]
  cases args with
  | nil =>
    obtain rfl := Except.ok.inj htext
    rw [List.tail_nil] at hrest
    rw [fillPieces, if_neg hletter, hrest]
    rfl
  | cons arg more =>
    have hformat : d.normalize.format arg = .ok text := htext
    rw [List.tail_cons] at hrest
    rw [fillPieces, if_neg hletter, hformat, Outcome.ok_bind, hrest]
    rfl

/-- What is written for parts: what stands for each, and then the arguments that are left over. -/
theorem fillPieces_parts (parts : List Part) {args : List Value}
    (hshown : ∀ arg ∈ args, arg.show?.isSome) :
    ∃ texts, Standing parts args texts ∧
      fillPieces (parts.flatMap Part.pieces) args =
        .ok (texts.flatten ++ surplus (args.drop (parts.countP Part.isDirective))) := by
  induction parts generalizing args with
  | nil => exact ⟨[], standing_nil args, extra_eq_surplus hshown⟩
  | cons part rest ih =>
    rw [List.flatMap_cons]
    cases part with
    | literal text =>
      obtain ⟨texts, hstanding, hfill⟩ := ih hshown
      refine ⟨text :: texts, standing_cons rfl hstanding, ?_⟩
      rw [fillPieces_literal, hfill, List.countP_cons_of_neg (by simp [Part.isDirective]),
        List.flatten_cons, List.append_assoc]
      rfl
    | directive d form =>
      have hfirst : ∃ text, (Part.directive d form).standing args[0]? = .ok text := by
        cases args with
        | nil => exact ⟨_, rfl⟩
        | cons arg more => exact exists_format _ (hshown arg List.mem_cons_self)
      obtain ⟨text, htext⟩ := hfirst
      have hlater : ∀ arg ∈ args.tail, arg.show?.isSome :=
        fun arg harg => hshown arg (List.mem_of_mem_tail harg)
      obtain ⟨texts, hstanding, hfill⟩ := ih hlater
      refine ⟨text :: texts, standing_cons htext hstanding, ?_⟩
      rw [fillPieces_directive form _ htext hfill, List.countP_cons_of_pos rfl, List.drop_tail,
        List.flatten_cons, List.append_assoc]

/-- A text with doubled percent signs is written as it was. -/
theorem fill_doubled (text rest : Text) (args : List Value) :
    fill (doubled text ++ rest) args = (fill rest args).map (text ++ ·) := by
  rw [fill, ← Part.written, Part.ofTemplate_written, fillPieces_literal]
  rfl

/-- What is written for a directive is followed by what the rest of the template makes of the other
arguments. -/
theorem fill_directive {d : Directive} (form : d.IsForm) {arg : Value} {text : Text}
    (htext : d.normalize.format arg = .ok text) (rest : Text) (more : List Value) :
    fill (.ofChars d.render ++ rest) (arg :: more) = (fill rest more).map (text ++ ·) := by
  have hread := (Part.directive d form).ofTemplate_written rest
  rw [Part.written] at hread
  rw [fill, hread, Part.pieces, List.singleton_append, fillPieces,
    if_neg (verb_normalize_ne form), htext, Outcome.ok_bind, fill]
  cases fillPieces (Piece.ofTemplate rest) more <;> rfl

/-- **Filling in is one pass of substitutions.** A template that is written from parts is filled
with what stands for each of them in order, followed by the list of the arguments beyond the last
directive. So a text with doubled percent signs is given back by filling in nothing, and what an
argument was turned into is not read again: the rest of the template is filled as if it stood
alone. -/
theorem fill_templateOf (parts : List Part) (args : List Value)
    (hshown : ∀ arg ∈ args, arg.show?.isSome) :
    (∃ texts, Standing parts args texts ∧
      fill (templateOf parts) args =
        .ok (texts.flatten ++ surplus (args.drop (parts.countP Part.isDirective)))) ∧
      (∀ text, fill (doubled text) [] = .ok text) ∧
      ∀ d : Directive, d.IsForm → ∀ arg text, d.normalize.format arg = .ok text →
        ∀ rest more, fill (.ofChars d.render ++ rest) (arg :: more) =
          (fill rest more).map (text ++ ·) := by
  refine ⟨?_, ?_, fun d form arg text htext => fill_directive form htext⟩
  · rw [fill, ofTemplate_templateOf]
    exact fillPieces_parts parts hshown
  · intro text
    have hnil : fill [] [] = .ok [] := by
      rw [fill, Piece.ofTemplate]
      rfl
    have hfill := fill_doubled text [] []
    rw [List.append_nil, hnil] at hfill
    rw [hfill]
    exact congrArg Except.ok (List.append_nil text)

/-! ### A template full of percent signs -/

/-- A sign before a directive, a directive with a zero in front of its width, and one that is given
a text that looks like a directive. -/
def signParts : List Part :=
  [.literal "5%d%", .directive ⟨[], ['0', '5'], none, 'd'⟩ (by decide),
    .directive ⟨['-'], [], some ['2'], 's'⟩ (by decide), .literal "%"]

/-- Their arguments, with one more than there are directives. -/
def signArgs : List Value := [.int 7, .ofString "%d", .null]

theorem fill_templateOf_signs :
    (∀ arg ∈ signArgs, arg.show?.isSome) ∧
      templateOf signParts = "5%%d%%%05d%-.2s%%" ∧
      fill "5%%d%%%05d%-.2s%%" signArgs = .ok "5%d%00007%d%%!(EXTRA NoneType=None)" := by
  have hshown : ∀ arg ∈ signArgs, arg.show?.isSome := by decide
  have htemplate : templateOf signParts = "5%%d%%%05d%-.2s%%" := rfl
  refine ⟨hshown, htemplate, ?_⟩
  obtain ⟨⟨texts, hstanding, hfill⟩, -⟩ := fill_templateOf signParts signArgs hshown
  have htexts : Standing signParts signArgs (["5%d%", "00007", "%d", "%"].map Text.ofString) := by
    rintro (- | - | - | - | i) <;> rfl
  rw [← htemplate, hfill, standing_unique hstanding htexts]
  rfl

end Template

end SymbolText
