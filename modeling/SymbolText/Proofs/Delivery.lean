import SymbolText.Proofs.Outcome
import SymbolText.Text.Delivery

/-!
# Portions give the text of all octets

A text is delivered from octets that are decoded portion by portion. A portion may end inside of a
character, whose octets are then decoded with the next portion, or between the two characters of a
line end, of which the first is held back. Neither changes the text.

Results:
* `decode_append_eq_ok_iff`: octets in two parts, of which the first is decoded.
* `of_decodePortion_eq_ok`, `decode_ne_of_decodePortion_error`: what a portion says of all octets.
* `unifyLineEnds_append`: line ends of two texts.
* `Delivery.run_eq_ok_iff`: what is delivered when some portions have been decoded.
* `deliver_eq_ok_iff`: octets are delivered exactly if they are UTF-8.
* `length_delivered_lt`, `delivered_eq_nil`: fewer characters than octets are delivered before an
  interruption, and none if the octets do not make a piece.
-/

namespace SymbolText.Text

namespace Utf8

/-! ## Octets in parts -/

/-- The octets that a character takes are followed by any others. -/
theorem exists_of_readContinuations {code more seen code' count : Nat}
    {octets rest : List UInt8}
    (h : readContinuations code more seen octets = .character code' count rest) :
    ∃ taken, octets = taken ++ rest ∧ count = seen + taken.length ∧
      ∀ tail, readContinuations code more seen (taken ++ tail) = .character code' count tail := by
  induction more generalizing code seen octets with
  | zero =>
    simp only [readContinuations, Step.character.injEq] at h
    obtain ⟨rfl, rfl, rfl⟩ := h
    exact ⟨[], rfl, rfl, fun tail => rfl⟩
  | succ more ih =>
    cases octets with
    | nil => simp [readContinuations] at h
    | cons b octets =>
      rw [readContinuations] at h
      split at h
      · rename_i hb
        obtain ⟨taken, rfl, rfl, htail⟩ := ih h
        refine ⟨b :: taken, rfl, by rw [List.length_cons]; omega, fun tail => ?_⟩
        rw [List.cons_append, readContinuations, if_pos hb, htail]
      · simp at h

/-- Only the end of the octets makes a failure that more octets could undo. -/
theorem readContinuations_failure_append {code more seen count : Nat} {reason : Reason}
    {octets : List UInt8} (h : readContinuations code more seen octets = .failure reason count)
    (hreason : reason ≠ .unexpectedEnd) (tail : List UInt8) :
    readContinuations code more seen (octets ++ tail) = .failure reason count := by
  induction more generalizing code seen octets with
  | zero => simp [readContinuations] at h
  | succ more ih =>
    cases octets with
    | nil =>
      simp only [readContinuations, Step.failure.injEq] at h
      exact absurd h.1.symm hreason
    | cons b octets =>
      rw [readContinuations] at h
      rw [List.cons_append, readContinuations]
      split at h
      · rename_i hb
        rw [if_pos hb]
        exact ih h
      · rename_i hb
        rw [if_neg hb]
        exact h

theorem readChar_failure_append {lead : UInt8} {octets : List UInt8} {reason : Reason}
    {count : Nat} (h : readChar lead octets = .failure reason count)
    (hreason : reason ≠ .unexpectedEnd) (tail : List UInt8) :
    readChar lead (octets ++ tail) = .failure reason count := by
  unfold readChar at h ⊢
  split at h
  · exact h
  · simp at h
  · cases octets with
    | nil =>
      simp only [Step.failure.injEq] at h
      exact absurd h.1.symm hreason
    | cons second octets =>
      simp only [List.cons_append] at h ⊢
      split at h
      · rename_i hsecond
        rw [if_pos hsecond]
        exact readContinuations_failure_append h hreason tail
      · rename_i hsecond
        rw [if_neg hsecond]
        exact h

/-- A character takes its lead octet and some octets after it, which are followed by any others. -/
theorem exists_of_readChar {lead : UInt8} {octets rest : List UInt8} {code count : Nat}
    (h : readChar lead octets = .character code count rest) :
    ∃ taken, octets = taken ++ rest ∧ count = taken.length + 1 ∧
      ∀ tail, readChar lead (taken ++ tail) = .character code count tail := by
  unfold readChar at h ⊢
  split at h
  · simp at h
  · simp only [Step.character.injEq] at h
    obtain ⟨rfl, rfl, rfl⟩ := h
    exact ⟨[], rfl, rfl, fun tail => rfl⟩
  · cases octets with
    | nil => simp at h
    | cons second octets =>
      simp only at h
      split at h
      · rename_i hsecond
        obtain ⟨taken, rfl, rfl, htail⟩ := exists_of_readContinuations h
        refine ⟨second :: taken, rfl, by rw [List.length_cons]; omega, fun tail => ?_⟩
        simp only [List.cons_append, if_pos hsecond, htail]
      · simp at h

theorem readChar_append {lead : UInt8} {octets rest : List UInt8} {code count : Nat}
    (h : readChar lead octets = .character code count rest) (tail : List UInt8) :
    readChar lead (octets ++ tail) = .character code count (rest ++ tail) := by
  obtain ⟨taken, rfl, -, htail⟩ := exists_of_readChar h
  rw [List.append_assoc, htail]

/-! ## Texts in parts -/

theorem decodeFrom_character {position code count : Nat} {lead : UInt8} {octets rest : List UInt8}
    (h : readChar lead octets = .character code count rest) :
    decodeFrom position (lead :: octets) =
      (decodeFrom (position + count) rest).map (Char.ofNat code :: ·) := by
  rw [decodeFrom]
  split
  · rename_i heq
    rw [h] at heq
    cases heq
  · rename_i heq
    rw [h] at heq
    cases heq
    rfl

theorem decodeFrom_failure {position count : Nat} {reason : Reason} {lead : UInt8}
    {octets : List UInt8} (h : readChar lead octets = .failure reason count) :
    decodeFrom position (lead :: octets) = .error ⟨reason, lead, position, count⟩ := by
  rw [decodeFrom]
  split
  · rename_i heq
    rw [h] at heq
    cases heq
    rfl
  · rename_i heq
    rw [h] at heq
    cases heq

/-- After octets that are decoded, decoding goes on at the position behind them. -/
theorem decodeFrom_append {position : Nat} {front : List UInt8} {text : List Char}
    (h : decodeFrom position front = .ok text) (back : List UInt8) :
    decodeFrom position (front ++ back) =
      (decodeFrom (position + front.length) back).map (text ++ ·) := by
  induction position, front using decodeFrom.induct generalizing text with
  | case1 position =>
    rw [decodeFrom, Except.ok.injEq] at h
    subst h
    cases hback : decodeFrom position back <;> simp [hback, Except.map]
  | case2 position lead octets reason count hread =>
    rw [decodeFrom_failure hread] at h
    cases h
  | case3 position lead octets code count rest hread _ ih =>
    rw [decodeFrom_character hread] at h
    obtain ⟨later, hlater, rfl⟩ := Outcome.map_eq_ok_iff.1 h
    obtain ⟨taken, htaken, hcount, -⟩ := exists_of_readChar hread
    have hlength : position + count + rest.length = position + (lead :: octets).length := by
      rw [htaken, hcount, List.length_cons, List.length_append]
      omega
    rw [List.cons_append, decodeFrom_character (readChar_append hread back), ih hlater, hlength]
    cases decodeFrom (position + (lead :: octets).length) back <;> rfl

/-- More octets do not undo a failure that is not at the end. -/
theorem decodeFrom_error_append {position : Nat} {front : List UInt8} {f : Failure}
    (h : decodeFrom position front = .error f) (hreason : f.reason ≠ .unexpectedEnd)
    (back : List UInt8) : decodeFrom position (front ++ back) = .error f := by
  induction position, front using decodeFrom.induct with
  | case1 position =>
    rw [decodeFrom] at h
    cases h
  | case2 position lead octets reason count hread =>
    rw [decodeFrom_failure hread] at h
    obtain rfl := Except.error.inj h
    exact decodeFrom_failure (readChar_failure_append hread hreason back)
  | case3 position lead octets code count rest hread _ ih =>
    rw [decodeFrom_character hread] at h
    rw [List.cons_append, decodeFrom_character (readChar_append hread back),
      ih (Outcome.map_eq_error_iff.1 h)]
    rfl

/-- The octets before a failure are decoded. -/
theorem exists_of_decodeFrom_error {position : Nat} {octets : List UInt8} {f : Failure}
    (h : decodeFrom position octets = .error f) :
    ∃ front back text, octets = front ++ back ∧ f.position = position + front.length ∧
      decodeFrom position front = .ok text := by
  induction position, octets using decodeFrom.induct with
  | case1 position =>
    rw [decodeFrom] at h
    cases h
  | case2 position lead octets reason count hread =>
    rw [decodeFrom_failure hread] at h
    obtain rfl := Except.error.inj h
    exact ⟨[], lead :: octets, [], rfl, rfl, by rw [decodeFrom]⟩
  | case3 position lead octets code count rest hread _ ih =>
    rw [decodeFrom_character hread] at h
    obtain ⟨front, back, text, hrest, hposition, hfront⟩ := ih (Outcome.map_eq_error_iff.1 h)
    obtain ⟨taken, rfl, rfl, htail⟩ := exists_of_readChar hread
    refine ⟨lead :: (taken ++ front), back, Char.ofNat code :: text, ?_, ?_, ?_⟩
    · rw [hrest, List.cons_append, List.append_assoc]
    · rw [hposition, List.length_cons, List.length_append]
      omega
    · rw [decodeFrom_character (htail front), hfront]
      rfl

/-- Whether octets are decoded does not depend on their position. -/
theorem decodeFrom_eq_ok_iff {octets : List UInt8} {text : List Char} (p q : Nat) :
    decodeFrom p octets = .ok text ↔ decodeFrom q octets = .ok text := by
  induction p, octets using decodeFrom.induct generalizing q text with
  | case1 position => rw [decodeFrom, decodeFrom]
  | case2 position lead octets reason count hread =>
    rw [decodeFrom_failure hread, decodeFrom_failure hread]
    exact iff_of_false Outcome.error_ne_ok Outcome.error_ne_ok
  | case3 position lead octets code count rest hread _ ih =>
    rw [decodeFrom_character hread, decodeFrom_character hread]
    simp only [Outcome.map_eq_ok_iff, ih (q + count)]

/-- Octets after a part that is decoded are decoded on their own. -/
theorem decode_append_eq_ok_iff {front : List UInt8} {text : List Char}
    (h : decode front = .ok text) {back : List UInt8} {whole : List Char} :
    decode (front ++ back) = .ok whole ↔ ∃ rest, decode back = .ok rest ∧ text ++ rest = whole := by
  rw [decode, decodeFrom_append h, Outcome.map_eq_ok_iff]
  simp only [decode, decodeFrom_eq_ok_iff (0 + front.length) 0]

theorem length_le_of_decodeFrom {position : Nat} {octets : List UInt8} {text : List Char}
    (h : decodeFrom position octets = .ok text) : text.length ≤ octets.length := by
  induction position, octets using decodeFrom.induct generalizing text with
  | case1 position =>
    rw [decodeFrom, Except.ok.injEq] at h
    rw [← h]
    exact Nat.le_refl _
  | case2 position lead octets reason count hread =>
    rw [decodeFrom_failure hread] at h
    cases h
  | case3 position lead octets code count rest hread _ ih =>
    rw [decodeFrom_character hread] at h
    obtain ⟨later, hlater, rfl⟩ := Outcome.map_eq_ok_iff.1 h
    obtain ⟨taken, rfl, -, -⟩ := exists_of_readChar hread
    have hlength := ih hlater
    rw [List.length_cons, List.length_cons, List.length_append]
    omega

/-! ## Portions -/

theorem reason_ne_of_isAtEnd {f : Failure} {octets : List UInt8} (h : ¬ f.isAtEnd octets = true) :
    f.reason ≠ .unexpectedEnd := by
  intro hreason
  simp [Failure.isAtEnd, hreason] at h

/-- What is left of a portion is not decoded without what follows. -/
theorem of_decodePortion_eq_ok {octets cut : List UInt8} {text : List Char}
    (h : decodePortion octets = .ok (text, cut)) :
    ∃ front, octets = front ++ cut ∧ decode front = .ok text ∧
      ∀ rest, decode cut = .ok rest → cut = [] := by
  unfold decodePortion at h
  split at h
  · rename_i whole hwhole
    cases h
    exact ⟨octets, (List.append_nil octets).symm, hwhole, fun _ _ => rfl⟩
  · rename_i f hfailure
    split at h
    · obtain ⟨text', hfront, heq⟩ := Outcome.map_eq_ok_iff.1 h
      cases heq
      refine ⟨octets.take f.position, (List.take_append_drop _ _).symm, hfront, ?_⟩
      intro rest hrest
      have hwhole := (decode_append_eq_ok_iff hfront).2 ⟨rest, hrest, rfl⟩
      rw [List.take_append_drop, hfailure] at hwhole
      cases hwhole
    · cases h

/-- A portion that is refused is not decoded with what follows either. -/
theorem decode_ne_of_decodePortion_error {octets : List UInt8} {f : Failure}
    (h : decodePortion octets = .error f) (tail : List UInt8) (text : List Char) :
    decode (octets ++ tail) ≠ .ok text := by
  unfold decodePortion at h
  split at h
  · cases h
  · rename_i f' hfailure
    obtain ⟨front, back, text', hoctets, hposition, hfront⟩ := exists_of_decodeFrom_error hfailure
    split at h
    · -- the octets before the failure are decoded, so that the portion is not refused
      rw [Nat.zero_add] at hposition
      rw [hoctets, hposition, List.take_left, decode, hfront] at h
      cases h
    · rename_i hend
      rw [decode, decodeFrom_error_append hfailure (reason_ne_of_isAtEnd hend)]
      exact Outcome.error_ne_ok

end Utf8

/-! ## Line ends -/

theorem unifyLineEnds_return {rest : List Char} (h : rest.head? ≠ some '\n') :
    unifyLineEnds ('\r' :: rest) = '\n' :: unifyLineEnds rest :=
  unifyLineEnds.eq_2 rest fun later hrest => h (by rw [hrest, List.head?_cons])

theorem unifyLineEnds_plain {c : Char} (h : c ≠ '\r') (rest : List Char) :
    unifyLineEnds (c :: rest) = c :: unifyLineEnds rest :=
  unifyLineEnds.eq_3 c rest (fun _ hc _ => h hc) h

theorem getLast?_cons_of_eq_some {c last : Char} {rest : List Char}
    (h : rest.getLast? = some last) : (c :: rest).getLast? = some last := by
  rw [List.getLast?_cons, h, Option.getD_some]

/-- Line ends become line feeds in two texts apart, unless a line end is cut in two. -/
theorem unifyLineEnds_append {a b : List Char}
    (h : a.getLast? = some '\r' → b.head? ≠ some '\n') :
    unifyLineEnds (a ++ b) = unifyLineEnds a ++ unifyLineEnds b := by
  induction a using unifyLineEnds.induct with
  | case1 rest ih =>
    have hrest := ih fun hlast => h (getLast?_cons_of_eq_some (getLast?_cons_of_eq_some hlast))
    rw [List.cons_append, List.cons_append, unifyLineEnds, hrest, unifyLineEnds, List.cons_append]
  | case2 rest hne ih =>
    have hrest := ih fun hlast => h (getLast?_cons_of_eq_some hlast)
    have hhead : (rest ++ b).head? ≠ some '\n' := by
      cases rest with
      | nil => exact h rfl
      | cons c rest =>
        intro hc
        obtain rfl := Option.some.inj hc
        exact hne rest rfl
    have hhead' : rest.head? ≠ some '\n' := by
      intro hc
      obtain ⟨later, hlater⟩ := List.head?_eq_some_iff.1 hc
      exact hne later hlater
    rw [List.cons_append, unifyLineEnds_return hhead, unifyLineEnds_return hhead', hrest,
      List.cons_append]
  | case3 c rest _ hc ih =>
    have hrest := ih fun hlast => h (getLast?_cons_of_eq_some hlast)
    rw [List.cons_append, unifyLineEnds_plain hc, unifyLineEnds_plain hc, hrest, List.cons_append]
  | case4 => rfl

/-- A carriage return at the end of a text may as well come in front of the next one. -/
theorem unifyLineEnds_held (piece later : List Char) :
    unifyLineEnds (if piece.getLast? == some '\r' then piece.dropLast else piece) ++
        unifyLineEnds (if piece.getLast? == some '\r' then '\r' :: later else later) =
      unifyLineEnds (piece ++ later) := by
  by_cases hlast : piece.getLast? = some '\r'
  · obtain ⟨front, rfl⟩ := List.getLast?_eq_some_iff.1 hlast
    rw [if_pos (beq_iff_eq.2 hlast), if_pos (beq_iff_eq.2 hlast), List.dropLast_concat,
      List.append_assoc, List.singleton_append]
    exact (unifyLineEnds_append fun _ => by simp).symm
  · rw [if_neg (fun h => hlast (beq_iff_eq.1 h)), if_neg (fun h => hlast (beq_iff_eq.1 h))]
    exact (unifyLineEnds_append fun h => absurd h hlast).symm

theorem length_unifyLineEnds_le (text : List Char) : (unifyLineEnds text).length ≤ text.length := by
  induction text using unifyLineEnds.induct with
  | case1 rest ih =>
    rw [unifyLineEnds, List.length_cons, List.length_cons, List.length_cons]
    omega
  | case2 rest hne ih =>
    rw [unifyLineEnds.eq_2 rest hne, List.length_cons, List.length_cons]
    omega
  | case3 c rest _ hc ih =>
    rw [unifyLineEnds_plain hc, List.length_cons, List.length_cons]
    omega
  | case4 => exact Nat.le_refl _

/-- A carriage return that is held back counts as a character of its text. -/
theorem length_held_le (piece : List Char) :
    (unifyLineEnds (if piece.getLast? == some '\r' then piece.dropLast else piece)).length +
        (if piece.getLast? == some '\r' then ['\r'] else []).length ≤ piece.length := by
  split
  · rename_i hlast
    obtain ⟨front, rfl⟩ := List.getLast?_eq_some_iff.1 (beq_iff_eq.1 hlast)
    rw [List.dropLast_concat, List.length_append]
    exact Nat.add_le_add_right (length_unifyLineEnds_le front) 1
  · exact length_unifyLineEnds_le piece

namespace Delivery

/-! ## Texts in portions -/

/-- The characters that come next: a carriage return that is held back, and those of a text. -/
def ahead (d : Delivery) (text : List Char) : List Char := if d.held then '\r' :: text else text

theorem ahead_append (d : Delivery) (a b : List Char) : d.ahead (a ++ b) = d.ahead a ++ b := by
  unfold ahead
  split <;> rfl

/-- A portion adds its text, of which a carriage return at the end is held back. -/
theorem text_add (d : Delivery) (octets : Nat) (text : List Char) (cut : List UInt8)
    (later : List Char) :
    (d.add octets text cut).text.toList ++ unifyLineEnds ((d.add octets text cut).ahead later) =
      d.text.toList ++ unifyLineEnds (d.ahead (text ++ later)) := by
  rw [ahead_append, ← unifyLineEnds_held, ← List.append_assoc]
  congr 1
  exact Array.toList_append

theorem run_portion {d : Delivery} {octets cut : List UInt8} {text : List Char}
    (hne : octets ≠ [])
    (h : Utf8.decodePortion (d.cut ++ octets.take d.portion) = .ok (text, cut)) :
    d.run octets =
      (d.add (octets.take d.portion).length text cut).run (octets.drop d.portion) := by
  rw [run, if_neg hne]
  simp only [h]

theorem run_refused {d : Delivery} {octets : List UInt8} {f : Utf8.Failure} (hne : octets ≠ [])
    (h : Utf8.decodePortion (d.cut ++ octets.take d.portion) = .error f) :
    d.run octets = .error (d.interrupt f) := by
  rw [run, if_neg hne]
  simp only [h]

/-- Decoding portion by portion gives the text of all octets together. -/
theorem run_eq_ok_iff (d : Delivery) (octets : List UInt8) (text : List Char)
    (hcut : ∀ rest, Utf8.decode d.cut = .ok rest → d.cut = []) :
    d.run octets = .ok text ↔
      ∃ raw, Utf8.decode (d.cut ++ octets) = .ok raw ∧
        d.text.toList ++ unifyLineEnds (d.ahead raw) = text := by
  induction d, octets using run.induct generalizing text with
  | case1 d rest hrest =>
    have hnil : Utf8.decode d.cut = .ok [] := by
      rw [hcut rest hrest, Utf8.decode, Utf8.decodeFrom]
    have hend : unifyLineEnds (d.ahead []) = if d.held then ['\n'] else [] := by
      unfold ahead
      split <;> rfl
    rw [run, if_pos rfl, hnil, List.append_nil, hnil]
    simp [hend]
  | case2 d f hfailure =>
    rw [run, if_pos rfl, hfailure, List.append_nil, hfailure]
    refine iff_of_false Outcome.error_ne_ok ?_
    rintro ⟨raw, hraw, -⟩
    cases hraw
  | case3 d octets hne next portion cut hportion ih =>
    obtain ⟨front, hfront, hdecoded, hincomplete⟩ := Utf8.of_decodePortion_eq_ok hportion
    -- what the end of the portion cuts off goes in front of the octets that follow
    have hoctets : d.cut ++ octets = front ++ (cut ++ octets.drop d.portion) := by
      rw [← List.append_assoc, ← hfront, List.append_assoc, List.take_append_drop]
    rw [run_portion hne hportion, ih text hincomplete, hoctets]
    simp only [Utf8.decode_append_eq_ok_iff hdecoded, text_add]
    constructor
    · rintro ⟨raw, hraw, htext⟩
      exact ⟨portion ++ raw, ⟨raw, hraw, rfl⟩, htext⟩
    · rintro ⟨_, ⟨raw, hraw, rfl⟩, htext⟩
      exact ⟨raw, hraw, htext⟩
  | case4 d octets hne next f hportion =>
    rw [run_refused hne hportion]
    refine iff_of_false Outcome.error_ne_ok ?_
    rintro ⟨raw, hraw, -⟩
    rw [← List.take_append_drop d.portion octets, ← List.append_assoc] at hraw
    exact Utf8.decode_ne_of_decodePortion_error hportion _ raw hraw

/-! ## Interruptions -/

/-- The number of characters that have been decoded, with the octets that are cut off. -/
def taken (d : Delivery) : Nat := d.text.size + (d.ahead []).length + d.cut.length

theorem taken_add_le (d : Delivery) (octets : Nat) (text : List Char) (cut : List UInt8) :
    (d.add octets text cut).taken ≤
      d.text.size + (d.ahead []).length + text.length + cut.length := by
  have hahead : (d.ahead text).length = (d.ahead []).length + text.length := by
    rw [← List.length_append, ← ahead_append, List.nil_append]
  have hheld := length_held_le (d.ahead text)
  have htext : (d.add octets text cut).text.size = d.text.size +
      (unifyLineEnds (if (d.ahead text).getLast? == some '\r' then (d.ahead text).dropLast
        else d.ahead text)).length := Array.size_append
  have hahead' : (d.add octets text cut).ahead [] =
      if (d.ahead text).getLast? == some '\r' then ['\r'] else [] := rfl
  have hcut : (d.add octets text cut).cut = cut := rfl
  rw [taken, htext, hahead', hcut]
  omega

theorem length_delivered_le (d : Delivery) (f : Utf8.Failure) :
    (d.interrupt f).delivered.length ≤ d.text.size := by
  rw [interrupt, Array.length_toList, Array.size_extract]
  omega

/-- Whole pieces are delivered before an interruption. -/
theorem pieceSize_dvd_length_delivered {d : Delivery} {octets : List UInt8} {i : Interruption}
    (h : d.run octets = .error i) : pieceSize ∣ i.delivered.length := by
  have hpieces : ∀ (d : Delivery) (f : Utf8.Failure),
      pieceSize ∣ (d.interrupt f).delivered.length := by
    intro d f
    have hcomplete : d.complete ≤ d.text.size := Nat.sub_le _ _
    rw [interrupt, Array.length_toList, Array.size_extract, Nat.min_eq_left hcomplete, Nat.sub_zero]
    exact Nat.dvd_sub_mod d.text.size
  induction d, octets using run.induct with
  | case1 d rest hrest =>
    rw [run, if_pos rfl, hrest] at h
    cases h
  | case2 d f hfailure =>
    rw [run, if_pos rfl, hfailure] at h
    cases h
    exact hpieces d f
  | case3 d octets hne next portion cut hportion ih =>
    rw [run_portion hne hportion] at h
    exact ih h
  | case4 d octets hne next f hportion =>
    rw [run_refused hne hportion] at h
    cases h
    exact hpieces d f

/-- Fewer characters are delivered before an interruption than octets have been taken and follow. -/
theorem length_delivered_lt_of_run {d : Delivery} {octets : List UInt8} {i : Interruption}
    (h : d.run octets = .error i) : i.delivered.length < d.taken + octets.length := by
  induction d, octets using run.induct with
  | case1 d rest hrest =>
    rw [run, if_pos rfl, hrest] at h
    cases h
  | case2 d f hfailure =>
    rw [run, if_pos rfl, hfailure] at h
    cases h
    have hcut : d.cut ≠ [] := by
      intro hnil
      rw [hnil, Utf8.decode, Utf8.decodeFrom] at hfailure
      cases hfailure
    have hdelivered := d.length_delivered_le f
    have hlength := List.length_pos_iff.2 hcut
    unfold taken
    omega
  | case3 d octets hne next portion cut hportion ih =>
    obtain ⟨front, hfront, hdecoded, -⟩ := Utf8.of_decodePortion_eq_ok hportion
    rw [run_portion hne hportion] at h
    have hdelivered := ih h
    have htaken := taken_add_le d next.length portion cut
    have hportion := Utf8.length_le_of_decodeFrom hdecoded
    have hfront' := congrArg List.length hfront
    have hsplit : next.length + (octets.drop d.portion).length = octets.length := by
      rw [← List.length_append, List.take_append_drop]
    rw [List.length_append, List.length_append] at hfront'
    unfold taken at hdelivered htaken ⊢
    omega
  | case4 d octets hne next f hportion =>
    rw [run_refused hne hportion] at h
    cases h
    have hdelivered := d.length_delivered_le f
    have hlength := List.length_pos_iff.2 hne
    unfold taken
    omega

end Delivery

theorem length_delivered_lt {octets : List UInt8} {i : Interruption}
    (h : deliver octets = .error i) : i.delivered.length < octets.length := by
  have hlength := Delivery.length_delivered_lt_of_run h
  have hstart : Delivery.start.taken = 0 := rfl
  rwa [hstart, Nat.zero_add] at hlength

/-- Nothing is delivered before an interruption of no more octets than a piece has characters. -/
theorem delivered_eq_nil {octets : List UInt8} {i : Interruption} (h : deliver octets = .error i)
    (hshort : octets.length ≤ Delivery.pieceSize) : i.delivered = [] := by
  have hlength := length_delivered_lt h
  have hpieces := Delivery.pieceSize_dvd_length_delivered h
  exact List.eq_nil_of_length_eq_zero (Nat.eq_zero_of_dvd_of_lt hpieces (by omega))

/-- **Octets are delivered exactly if they are UTF-8**, as the text that they encode with line feeds
for all line ends, however they are cut into portions. -/
theorem deliver_eq_ok_iff {octets : List UInt8} {text : List Char} :
    deliver octets = .ok text ↔
      ∃ raw, Utf8.decode octets = .ok raw ∧ unifyLineEnds raw = text :=
  Delivery.run_eq_ok_iff .start octets text fun _ _ => rfl

theorem decode_ne_of_deliver_error {octets : List UInt8} {i : Interruption}
    (h : deliver octets = .error i) (text : List Char) : Utf8.decode octets ≠ .ok text := by
  intro htext
  rw [deliver_eq_ok_iff.2 ⟨text, htext, rfl⟩] at h
  cases h

end SymbolText.Text
