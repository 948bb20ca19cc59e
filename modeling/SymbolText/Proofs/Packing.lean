import Mathlib.Algebra.BigOperators.Group.List.Lemmas
import Mathlib.Algebra.GroupWithZero.Nat
import SymbolText.Table.Packed

/-!
# Packed texts give back what was packed

The offset at an index is the total length of the texts before it, so that cutting between two
neighbouring offsets yields the text that was packed there.

Results:
* `getElem?_boundaries`, `offset?_pack`: an offset is the length of all texts before it.
* `slice?_pack`: the text at an index that is not negative.
* `pairwise_boundaries`, `getLast?_boundaries`: offsets never decrease, and the last one is the
  total length.
* `offsetWidth_le_iff`: the width is the least in which a number has room.
* `pack_exact`: packing loses nothing, and all offsets have room in the width.
-/

namespace SymbolText.PackedText

theorem getElem?_boundaries (start : Nat) (texts : List Text) (i : Nat) :
    (boundaries start (texts.map List.length))[i]? =
      if i ≤ texts.length then some (start + (texts.take i).flatten.length) else none := by
  induction texts generalizing start i with
  | nil =>
    cases i with
    | zero => rfl
    | succ i => simp [boundaries]
  | cons text rest ih =>
    cases i with
    | zero => simp [boundaries]
    | succ i =>
      rw [List.map_cons, boundaries, List.getElem?_cons_succ, ih]
      simp only [List.length_cons, Nat.add_le_add_iff_right, List.take_succ_cons,
        List.flatten_cons, List.length_append, Nat.add_assoc]

theorem length_boundaries (start : Nat) (lengths : List Nat) :
    (boundaries start lengths).length = lengths.length + 1 := by
  induction lengths generalizing start with
  | nil => rfl
  | cons n rest ih => simp [boundaries, ih]

/-- There are as many packed texts as were given. -/
theorem size_pack (texts : List Text) : (pack texts).size = texts.length := by
  simp [size, pack, length_boundaries]

/-- An offset is the length of all texts before it. -/
theorem offset?_pack (texts : List Text) (i : Nat) :
    (pack texts).offset? i =
      if i ≤ texts.length then some (texts.take i).flatten.length else none := by
  have hneg : ¬ (i : Int) < 0 := by omega
  simp only [offset?, if_neg hneg, Int.toNat_natCast, pack, List.getElem?_toArray,
    getElem?_boundaries, Nat.zero_add]

/-- The text at an index from zero on is the one that was packed there. -/
theorem slice?_pack (texts : List Text) (i : Nat) : (pack texts).slice? i = texts[i]? := by
  have hnext : ((i : Int) + 1) = ((i + 1 : Nat) : Int) := by push_cast; rfl
  rw [slice?, hnext, offset?_pack, offset?_pack]
  by_cases hi : i < texts.length
  · rw [if_pos (by omega), if_pos (by omega), List.getElem?_eq_getElem hi]
    rw [← List.drop_take_succ_flatten_eq_getElem texts i hi, List.drop_take, List.length_flatten,
      List.length_flatten, List.map_take, List.map_take]
    simp only [pack, Array.toList_extract, List.extract_eq_take_drop]
  · rw [if_neg (by omega : ¬ i + 1 ≤ texts.length), List.getElem?_eq_none (by omega)]
    split <;> simp_all

/-! ## Offsets -/

theorem bounds_of_mem_boundaries {start offset : Nat} {lengths : List Nat}
    (h : offset ∈ boundaries start lengths) : start ≤ offset ∧ offset ≤ start + lengths.sum := by
  induction lengths generalizing start with
  | nil =>
    rw [boundaries, List.mem_singleton] at h
    simp [h]
  | cons n rest ih =>
    rw [boundaries, List.mem_cons] at h
    rw [List.sum_cons]
    rcases h with rfl | h
    · omega
    · have := ih h
      omega

theorem pairwise_boundaries (start : Nat) (lengths : List Nat) :
    (boundaries start lengths).Pairwise (· ≤ ·) := by
  induction lengths generalizing start with
  | nil => exact List.pairwise_singleton _ _
  | cons n rest ih =>
    rw [boundaries, List.pairwise_cons]
    refine ⟨fun offset h => ?_, ih (start + n)⟩
    have := (bounds_of_mem_boundaries h).1
    omega

theorem getLast?_boundaries (start : Nat) (lengths : List Nat) :
    (boundaries start lengths).getLast? = some (start + lengths.sum) := by
  induction lengths generalizing start with
  | nil => rfl
  | cons n rest ih =>
    have hne : boundaries (start + n) rest ≠ [] := by cases rest <;> exact List.cons_ne_nil _ _
    rw [boundaries, List.getLast?_cons_of_ne_nil hne, ih, List.sum_cons, Nat.add_assoc]

theorem back?_pack (texts : List Text) :
    (pack texts).offsets.back? = some (texts.map List.length).sum := by
  rw [pack, List.back?_toArray, getLast?_boundaries, Nat.zero_add]

theorem size_blob_pack (texts : List Text) :
    (pack texts).blob.size = (texts.map List.length).sum := by
  rw [pack, List.size_toArray, List.length_flatten]

/-! ## Widths -/

/-- The widths that offsets can have. -/
def widths : List Nat := [8, 16, 32]

theorem offsetWidth_mem (n : Int) : offsetWidth n ∈ widths := by
  unfold offsetWidth widths
  split
  · decide
  · split <;> decide

/-- The width is the least in which a number has room. -/
theorem offsetWidth_le_iff {n width : Nat} (hn : n < 2 ^ 32) (hwidth : width ∈ widths) :
    offsetWidth n ≤ width ↔ n < 2 ^ width := by
  simp only [widths, List.mem_cons, List.not_mem_nil, or_false] at hwidth
  unfold offsetWidth
  rcases hwidth with rfl | rfl | rfl <;> split <;> (try split) <;> omega

/-! ## Packing -/

/-- **Packing loses nothing, and the offsets have room.** There are as many packed texts as were
given, and each index gives the text of its place. The offsets never decrease from zero to the
length of all texts together. Their width is the least of the three in which this length has room,
and so has every offset. -/
theorem pack_exact (texts : List Text) (htotal : (texts.map List.length).sum < 2 ^ 32) :
    (pack texts).size = texts.length ∧
    (∀ (i : Nat) (hi : i < texts.length), (pack texts).slice i = .ok texts[i]) ∧
    (pack texts).offsets.toList.Pairwise (· ≤ ·) ∧
    (pack texts).offsets[0]? = some 0 ∧
    (pack texts).offsets.back? = some (pack texts).blob.size ∧
    (pack texts).width ∈ widths ∧
    (∀ width ∈ widths, (pack texts).width ≤ width ↔ (pack texts).blob.size < 2 ^ width) ∧
    ∀ offset ∈ (pack texts).offsets, offset < 2 ^ (pack texts).width := by
  have hwidth : (pack texts).width = offsetWidth (texts.map List.length).sum := by
    rw [width, back?_pack, Option.getD_some]
  have hleast : ∀ width ∈ widths,
      (pack texts).width ≤ width ↔ (pack texts).blob.size < 2 ^ width := by
    intro width hmem
    rw [hwidth, size_blob_pack]
    exact offsetWidth_le_iff htotal hmem
  have hmem : (pack texts).width ∈ widths := hwidth ▸ offsetWidth_mem _
  refine ⟨size_pack texts, ?_, pairwise_boundaries 0 _, ?_, ?_, hmem, hleast, ?_⟩
  · intro i hi
    rw [slice, slice?_pack, List.getElem?_eq_getElem hi]
  · rw [pack, List.getElem?_toArray, getElem?_boundaries, if_pos (Nat.zero_le _)]
    rfl
  · rw [back?_pack, size_blob_pack]
  · intro offset hoffset
    have hroom := (hleast _ hmem).1 (Nat.le_refl _)
    have hle := (bounds_of_mem_boundaries (List.mem_toArray.1 hoffset)).2
    rw [size_blob_pack] at hroom
    omega

/-- Three texts, of which one is empty, with one character more than a width of eight has room
for. -/
def wideTexts : List Text := [List.replicate 255 (.char 'a'), [], [.char '漢']]

/-- The second text is empty between two equal offsets, and one character makes the offsets wide. -/
theorem pack_exact_wideTexts :
    (wideTexts.map List.length).sum < 2 ^ 32 ∧
      (pack wideTexts).slice 1 = .ok [] ∧ (pack wideTexts).slice 2 = .ok [.char '漢'] ∧
      (pack wideTexts).offsets = #[0, 255, 255, 256] ∧
      (pack wideTexts).width ≤ 16 ∧ ¬ (pack wideTexts).width ≤ 8 := by
  have htotal : (wideTexts.map List.length).sum < 2 ^ 32 := by decide +kernel
  have hsize : (pack wideTexts).blob.size = 256 := by decide +kernel
  obtain ⟨-, hslice, -, -, -, -, hleast, -⟩ := pack_exact wideTexts htotal
  refine ⟨htotal, hslice 1 (by decide), hslice 2 (by decide), by decide +kernel, ?_, ?_⟩
  · rw [hleast 16 (by decide), hsize]
    decide
  · rw [hleast 8 (by decide), hsize]
    decide

end SymbolText.PackedText
