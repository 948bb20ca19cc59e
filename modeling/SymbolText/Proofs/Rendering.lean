import Mathlib.Algebra.Group.Nat.Defs
import SymbolText.Proofs.Substitution

/-!
# What cannot be rendered

A numeral may have 4300 digits. A longer one is not written, be it alone, in the literal of a value
around it, or where a value is described because its directive cannot write it. Nothing else stops a
template from being filled.

* `Value.Overlong`: a value that shows an integer with too long a numeral.
* `takers`: the directives of a template that take arguments, and `Writable`, the values that can be
  written in place of one.
* `filled`: what the arguments of a template make of it, piece by piece.

Results:
* `isTooLong_iff`: the integers with too long a numeral.
* `show?_eq_none_iff`: a value has no text exactly if it is overlong.
* `fill_of_writable`: a template is filled if every argument can be written at its place.
* `fill_of_not_writable`: it is refused for the numeral of one that cannot.
-/

namespace SymbolText

/-! ## Numerals -/

namespace Numeral

/-- The numeral of an integer is too long from a power of ten on. -/
theorem isTooLong_iff {n : Int} : isTooLong n = true ↔ 10 ^ maxDigits ≤ n.natAbs := by
  have hlength : (magnitude 10 n.natAbs).length ≤ maxDigits ↔ n.natAbs < 10 ^ maxDigits :=
    Nat.length_toDigits_le_iff (by decide) (by decide)
  rw [isTooLong, Nat.blt_eq, ← Nat.not_le, hlength, Nat.not_lt]

/-- The values of symbols have short numerals. -/
theorem isTooLong_of_fits {signed : Bool} {n : Int} (hfits : Word64.Fits signed n) :
    isTooLong n = false := by
  have hword : n.natAbs < 10 ^ 20 := by
    cases signed <;> simp only [Word64.Fits, Word64.minSigned, Word64.maxSigned,
      Word64.maxUnsigned] at hfits <;> omega
  have hpower : 10 ^ 20 ≤ 10 ^ maxDigits := Nat.pow_le_pow_right (by decide) (by decide)
  rw [Bool.eq_false_iff, Ne, isTooLong_iff, Nat.not_le]
  exact Nat.lt_of_lt_of_le hword hpower

theorem decimal?_eq_none_iff {n : Int} : decimal? n = none ↔ isTooLong n = true := by
  rw [decimal?]
  cases isTooLong n <;> simp

end Numeral

/-! ## Values -/

namespace Value

mutual
/-- The integers that the literal of a value shows, without the values of symbols. -/
def integers : Value → List Int
  | int n => [n]
  | reference _ n => [n]
  | list items => integersOfItems items
  | tuple items => integersOfItems items
  | dict entries => integersOfEntries entries
  | literal v => integers v
  | _ => []
/-- The integers that the literals of the items of a sequence show. -/
def integersOfItems : List Value → List Int
  | [] => []
  | v :: rest => integers v ++ integersOfItems rest
/-- The integers that the literals of the entries of a dictionary show. -/
def integersOfEntries : List (Value × Value) → List Int
  | [] => []
  | (k, v) :: rest => integers k ++ integers v ++ integersOfEntries rest
end

/-- A value that shows an integer with too long a numeral. -/
def Overlong (v : Value) : Prop := ∃ n ∈ v.integers, Numeral.isTooLong n = true

instance (v : Value) : Decidable v.Overlong :=
  inferInstanceAs (Decidable (∃ n ∈ v.integers, Numeral.isTooLong n = true))

mutual
/-- A value has no literal exactly if it is overlong. -/
theorem inspect?_eq_none_iff : (v : Value) → (v.inspect? = none ↔ v.Overlong)
  | null | bool _ | float _ | text _ | bytes _ | symbol _ => by
    simp [inspect?, Overlong, integers]
  | int n => by
    simp [inspect?, Overlong, integers, Numeral.decimal?_eq_none_iff]
  | reference typeName n => by
    simp [inspect?, Overlong, integers, Numeral.decimal?_eq_none_iff]
  | list items => by
    rw [inspect?, Option.map_eq_none_iff, inspectItems?_eq_none_iff items, Overlong, integers]
  | tuple items => by
    rw [inspect?, Option.map_eq_none_iff, inspectItems?_eq_none_iff items, Overlong, integers]
  | dict entries => by
    rw [inspect?, Option.map_eq_none_iff, inspectEntries?_eq_none_iff entries, Overlong, integers]
  | literal v => by
    rw [inspect?, Option.map_eq_none_iff, inspect?_eq_none_iff v, Overlong, Overlong, integers]
theorem inspectItems?_eq_none_iff : (items : List Value) →
    (inspectItems? items = none ↔ ∃ n ∈ integersOfItems items, Numeral.isTooLong n = true)
  | [] => by simp [inspectItems?, integersOfItems]
  | v :: rest => by
    simp only [integersOfItems, List.mem_append, or_and_right, exists_or]
    rw [← inspectItems?_eq_none_iff rest, ← Overlong, ← inspect?_eq_none_iff v, inspectItems?]
    cases inspect? v <;> cases inspectItems? rest <;> simp
theorem inspectEntries?_eq_none_iff : (entries : List (Value × Value)) →
    (inspectEntries? entries = none ↔
      ∃ n ∈ integersOfEntries entries, Numeral.isTooLong n = true)
  | [] => by simp [inspectEntries?, integersOfEntries]
  | (k, v) :: rest => by
    simp only [integersOfEntries, List.mem_append, or_and_right, exists_or]
    rw [← inspectEntries?_eq_none_iff rest, ← Overlong, ← Overlong, ← inspect?_eq_none_iff k,
      ← inspect?_eq_none_iff v, inspectEntries?]
    cases inspect? k <;> cases inspect? v <;> cases inspectEntries? rest <;> simp
end

/-- A value has no plain text exactly if it is overlong. -/
theorem show?_eq_none_iff (v : Value) : v.show? = none ↔ v.Overlong := by
  cases v with
  | text s => simp [show?, Overlong, integers]
  | symbol s => simp [show?, Overlong, integers]
  | _ => rw [show?, Option.map_eq_none_iff, inspect?_eq_none_iff] <;> rintro _ ⟨⟩

theorem isSome_show?_iff (v : Value) : v.show?.isSome ↔ ¬ v.Overlong := by
  rw [← show?_eq_none_iff, Option.isSome_iff_ne_none]

end Value

/-! ## Directives -/

namespace Directive

/-- What stands for a value that a directive cannot write: the letter, and the value with its
type. -/
def inline (d : Directive) (v : Value) : Text :=
  Text.ofChars ['%', '!', d.verb, '('] ++ Template.described v ++ Text.ofString ")"

/-- What a directive makes of a value. -/
def written (d : Directive) (v : Value) : Text := (d.write? v).getD (d.inline v)

theorem describe_of_overlong {v : Value} (hlong : v.Overlong) :
    describe v = .error .integerTooLong := by
  rw [describe, (Value.show?_eq_none_iff v).2 hlong]
  rfl

end Directive

namespace Template

/-- The directives of pieces that take arguments, in order. -/
def takers (pieces : List Piece) : List Directive :=
  pieces.filterMap fun
    | .literal _ => none
    | .directive d => if d.verb = '%' then none else some d

/-- A value can be written in place of a directive, if there is one, or together with its type. -/
def Writable (d? : Option Directive) (v : Value) : Prop :=
  (d?.bind (·.write? v)).isSome ∨ ¬ v.Overlong

/-- What stands for a piece: a code point or a percent sign for itself, and another directive for
what it makes of the argument at its place, if there is one. -/
def standingFor (arg? : Option Value) : Piece → Text
  | .literal p => [p]
  | .directive d =>
    if d.verb = '%' then [.char '%'] else arg?.elim (missing d.verb) d.written

/-- What stands for pieces, where the place of an argument is the number of directives before it
that take arguments. -/
def standings (pieces : List Piece) (args : List Value) : List Text :=
  pieces.mapIdx fun i piece => standingFor args[(takers (pieces.take i)).length]? piece

/-- What arguments make of a template: what stands for its pieces, and the arguments that are left
over. -/
def filled (template : Text) (args : List Value) : Text :=
  let pieces := Piece.ofTemplate template
  (standings pieces args).flatten ++ surplus (args.drop (takers pieces).length)

/-! ## Filling in -/

theorem writable_none {v : Value} : Writable none v ↔ ¬ v.Overlong := by
  rw [Writable, Option.bind_none]
  exact or_iff_right (by decide)

theorem format_of_writable {d : Directive} {v : Value} (hwritable : Writable (some d) v) :
    d.format v = .ok (d.written v) := by
  rw [Directive.format, Directive.written]
  cases hwrite : d.write? v with
  | some text => rfl
  | none =>
    have hshown : ¬ v.Overlong := by
      rw [Writable, Option.bind_some, hwrite] at hwritable
      exact hwritable.resolve_left (by decide)
    dsimp only
    rw [describe_of_isSome ((Value.isSome_show?_iff v).2 hshown)]
    rfl

theorem format_of_not_writable {d : Directive} {v : Value} (hrefused : ¬ Writable (some d) v) :
    d.format v = .error .integerTooLong := by
  obtain ⟨hnone, hlong⟩ := not_or.1 hrefused
  rw [Option.bind_some, Option.not_isSome_iff_eq_none] at hnone
  rw [Directive.format, hnone]
  dsimp only
  rw [Directive.describe_of_overlong (Decidable.not_not.1 hlong)]
  rfl

/-- An argument that is left over is listed unless it is overlong. -/
theorem extra_of_overlong {args : List Value} (hlong : ∃ arg ∈ args, arg.Overlong) :
    extra args = .error .integerTooLong := by
  have honly : ∀ arg ∈ args, (∃ text, Directive.describe arg = .ok text) ∨
      Directive.describe arg = .error .integerTooLong := by
    intro arg _
    by_cases h : arg.Overlong
    · exact .inr (Directive.describe_of_overlong h)
    · exact .inl ⟨_, describe_of_isSome ((Value.isSome_show?_iff arg).2 h)⟩
  obtain ⟨arg, hmem, hoverlong⟩ := hlong
  have hlist := Outcome.mapM_eq_error honly
    ⟨arg, hmem, Directive.describe_of_overlong hoverlong⟩
  rw [extra, hlist]
  · rfl
  · exact List.ne_nil_of_mem hmem

theorem takers_cons (piece : Piece) (pieces : List Piece) :
    takers (piece :: pieces) = takers [piece] ++ takers pieces := by
  rw [← List.singleton_append, takers, List.filterMap_append]
  rfl

/-- The arguments that a piece takes are not there for the pieces after it. -/
theorem standings_cons (piece : Piece) (pieces : List Piece) (args : List Value) :
    standings (piece :: pieces) args =
      standingFor args[0]? piece :: standings pieces (args.drop (takers [piece]).length) := by
  rw [standings, List.mapIdx_cons, standings]
  refine congrArg _ (congrArg (List.mapIdx · pieces) (funext fun i => funext fun later => ?_))
  rw [List.take_succ_cons, takers_cons, List.length_append, List.getElem?_drop]

/-- A piece takes no argument, or it is a directive that takes one. -/
theorem takers_singleton (piece : Piece) :
    takers [piece] = [] ∨ ∃ d, piece = .directive d ∧ d.verb ≠ '%' ∧ takers [piece] = [d] := by
  cases piece with
  | literal p => exact .inl rfl
  | directive d =>
    by_cases hverb : d.verb = '%'
    · exact .inl (by simp [takers, hverb])
    · exact .inr ⟨d, rfl, hverb, by simp [takers, hverb]⟩

/-- What is written for a piece, given the argument at its place. -/
def writePiece (arg? : Option Value) : Piece → Except Error Text
  | .literal p => .ok [p]
  | .directive d =>
    if d.verb = '%' then .ok [.char '%'] else arg?.elim (.ok (missing d.verb)) d.format

/-- A piece is written before the pieces after it. -/
theorem fillPieces_cons (piece : Piece) (rest : List Piece) (args : List Value) :
    fillPieces (piece :: rest) args = writePiece args[0]? piece >>= fun text =>
      (fillPieces rest (args.drop (takers [piece]).length)).map (text ++ ·) := by
  cases piece with
  | literal p =>
    rw [fillPieces]
    rfl
  | directive d =>
    by_cases hverb : d.verb = '%'
    · have hnone : takers [.directive d] = [] := by simp [takers, hverb]
      rw [fillPieces_percent hverb, writePiece, if_pos hverb, hnone]
      rfl
    · have hone : takers [.directive d] = [d] := by simp [takers, hverb]
      rw [writePiece, if_neg hverb, hone]
      cases args with
      | nil =>
        rw [fillPieces, if_neg hverb]
        rfl
      | cons arg more =>
        rw [fillPieces, if_neg hverb]
        refine congrArg (d.format arg >>= ·) (funext fun text => ?_)
        rw [List.length_singleton, List.drop_one, List.tail_cons]
        cases fillPieces rest more <;> rfl

/-- A piece is written as what stands for it, if its directive can write the argument. -/
theorem writePiece_of_writable {arg? : Option Value} {piece : Piece}
    (hwritable : ∀ d ∈ takers [piece], ∀ arg ∈ arg?, Writable (some d) arg) :
    writePiece arg? piece = .ok (standingFor arg? piece) := by
  rcases takers_singleton piece with hnone | ⟨d, rfl, hverb, hone⟩
  · cases piece with
    | literal p => rfl
    | directive d =>
      have hverb : d.verb = '%' := by simpa [takers] using hnone
      rw [writePiece, standingFor, if_pos hverb, if_pos hverb]
  · rw [writePiece, standingFor, if_neg hverb, if_neg hverb]
    cases arg? with
    | none => rfl
    | some arg => exact format_of_writable (hwritable d (hone ▸ List.mem_singleton_self d) arg rfl)

theorem writePiece_of_not_writable {arg : Value} {piece : Piece} {d : Directive}
    (hd : d ∈ takers [piece]) (hrefused : ¬ Writable (some d) arg) :
    writePiece (some arg) piece = .error .integerTooLong := by
  rcases takers_singleton piece with hnone | ⟨d', rfl, hverb, hone⟩
  · rw [hnone] at hd
    cases hd
  · rw [hone] at hd
    obtain rfl := List.mem_singleton.1 hd
    rw [writePiece, if_neg hverb]
    exact format_of_not_writable hrefused

/-- The arguments at the places of directives after a piece are those that it does not take. -/
theorem getElem?_takers_cons (piece : Piece) (rest : List Piece) (i : Nat) :
    (takers (piece :: rest))[(takers [piece]).length + i]? = (takers rest)[i]? := by
  rw [takers_cons piece rest, List.getElem?_append_right (Nat.le_add_right _ _),
    Nat.add_sub_cancel_left]

theorem getElem?_takers_of_mem {piece : Piece} {d : Directive} (hd : d ∈ takers [piece])
    (rest : List Piece) : (takers (piece :: rest))[0]? = some d := by
  rcases takers_singleton piece with hnone | ⟨d', -, -, hone⟩
  · rw [hnone] at hd
    cases hd
  · rw [hone] at hd
    obtain rfl := List.mem_singleton.1 hd
    rw [takers_cons piece rest, hone]
    rfl

/-- Pieces are written if every argument can be written at its place. -/
theorem fillPieces_of_writable (pieces : List Piece) {args : List Value}
    (hwritable : ∀ (i : Nat) arg, args[i]? = some arg → Writable (takers pieces)[i]? arg) :
    fillPieces pieces args =
      .ok ((standings pieces args).flatten ++ surplus (args.drop (takers pieces).length)) := by
  induction pieces generalizing args with
  | nil =>
    refine extra_eq_surplus fun arg harg => ?_
    obtain ⟨i, hi⟩ := List.mem_iff_getElem?.1 harg
    exact (Value.isSome_show?_iff arg).2 (writable_none.1 (hwritable i arg hi))
  | cons piece rest ih =>
    have hpiece : writePiece args[0]? piece = .ok (standingFor args[0]? piece) := by
      refine writePiece_of_writable fun d hd arg harg => ?_
      have hfirst := hwritable 0 arg harg
      rwa [getElem?_takers_of_mem hd] at hfirst
    have hlater : ∀ (i : Nat) arg, (args.drop (takers [piece]).length)[i]? = some arg →
        Writable (takers rest)[i]? arg := by
      intro i arg harg
      rw [List.getElem?_drop] at harg
      have hplace := hwritable _ arg harg
      rwa [getElem?_takers_cons] at hplace
    rw [fillPieces_cons, hpiece, Outcome.ok_bind, ih hlater, standings_cons, List.flatten_cons,
      takers_cons piece rest, List.length_append, ← List.drop_drop, List.append_assoc]
    rfl

/-- They are refused if one argument cannot be. -/
theorem fillPieces_of_not_writable (pieces : List Piece) {args : List Value} {i : Nat} {arg : Value}
    (harg : args[i]? = some arg) (hrefused : ¬ Writable (takers pieces)[i]? arg) :
    fillPieces pieces args = .error .integerTooLong := by
  induction pieces generalizing args i with
  | nil =>
    have hlong : arg.Overlong := Decidable.not_not.1 (mt writable_none.2 hrefused)
    exact extra_of_overlong ⟨arg, List.mem_of_getElem? harg, hlong⟩
  | cons piece rest ih =>
    rw [fillPieces_cons]
    by_cases hpiece : ∀ d ∈ takers [piece], ∀ arg ∈ args[0]?, Writable (some d) arg
    · -- the piece is written, so the argument is not the one that it takes
      have hplace : (takers [piece]).length ≤ i := by
        rcases takers_singleton piece with hnone | ⟨d, -, -, hone⟩
        · rw [hnone]
          exact Nat.zero_le i
        · have hd : d ∈ takers [piece] := hone ▸ List.mem_singleton_self d
          have hpos : i ≠ 0 := by
            rintro rfl
            rw [getElem?_takers_of_mem hd] at hrefused
            exact hrefused (hpiece d hd arg harg)
          rw [hone]
          exact Nat.pos_of_ne_zero hpos
      obtain ⟨j, rfl⟩ := Nat.exists_eq_add_of_le hplace
      rw [getElem?_takers_cons] at hrefused
      rw [writePiece_of_writable hpiece, Outcome.ok_bind,
        ih ((List.getElem?_drop ..).trans harg) hrefused]
      rfl
    · simp only [Classical.not_forall] at hpiece
      obtain ⟨d, hd, first, hfirst, hrefused⟩ := hpiece
      rw [Option.mem_def.1 hfirst, writePiece_of_not_writable hd hrefused]
      rfl

/-- A template is filled if every argument can be written at its place. -/
theorem fill_of_writable (template : Text) {args : List Value}
    (hwritable : ∀ (i : Nat) arg, args[i]? = some arg →
      Writable (takers (Piece.ofTemplate template))[i]? arg) :
    fill template args = .ok (filled template args) :=
  fillPieces_of_writable _ hwritable

/-- It is refused if one cannot. -/
theorem fill_of_not_writable (template : Text) {args : List Value} {i : Nat} {arg : Value}
    (harg : args[i]? = some arg)
    (hrefused : ¬ Writable (takers (Piece.ofTemplate template))[i]? arg) :
    fill template args = .error .integerTooLong :=
  fillPieces_of_not_writable _ harg hrefused

end Template

end SymbolText
