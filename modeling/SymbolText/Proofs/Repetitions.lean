import Mathlib.Data.Set.Card
import SymbolText.Proofs.Resolution

/-!
# Lists and dictionaries without repetitions

Results:
* `nodup_eraseDups`, `eraseDups_append_of_subset`: repetitions are left out.
* `find?_key_eq_some_iff`: finding an item by a key that no other item has.
* `length_eq_ncard`: the length of a list without repetitions is the number of its items.
* `keys_update`: the keys of a dictionary after several insertions.
* `nodup_flatMap_entries`: what comes from different entries is different.
-/

namespace SymbolText

/-! ## Lists without repetitions -/

section Repetitions

variable {α : Type} [BEq α] [LawfulBEq α]

theorem nodup_eraseDups (items : List α) : items.eraseDups.Nodup := by
  cases items with
  | nil => exact List.nodup_nil
  | cons a rest =>
    rw [List.eraseDups_cons, List.nodup_cons]
    refine ⟨?_, nodup_eraseDups _⟩
    simp
termination_by items.length
decreasing_by exact Nat.lt_succ_of_le (List.length_filter_le _ rest)

/-- An item that came before is left out. -/
theorem eraseDups_append_cons {items : List α} {a : α} (ha : a ∈ items) (more : List α) :
    (items ++ a :: more).eraseDups = (items ++ more).eraseDups := by
  rw [List.eraseDups_append, List.eraseDups_append]
  simp [List.removeAll, ha]

theorem eraseDups_append_of_subset {items more : List α} (hmore : ∀ a ∈ more, a ∈ items) :
    (items ++ more).eraseDups = items.eraseDups := by
  induction more with
  | nil => rw [List.append_nil]
  | cons a rest ih =>
    obtain ⟨ha, hrest⟩ := List.forall_mem_cons.1 hmore
    rw [eraseDups_append_cons ha, ih hrest]

theorem eraseDups_eraseDups_append (items more : List α) :
    (items.eraseDups ++ more).eraseDups = (items ++ more).eraseDups := by
  have hsame : more.removeAll items.eraseDups = more.removeAll items := by
    simp [List.removeAll]
  rw [List.eraseDups_append, List.eraseDups_append, hsame,
    eraseDups_of_nodup (nodup_eraseDups items)]

end Repetitions

/-- Among items with different keys, the one with a key is found. -/
theorem find?_key_eq_some_iff {α κ : Type} [DecidableEq κ] {key : α → κ} {items : List α}
    (hnodup : (items.map key).Nodup) {k : κ} {a : α} :
    items.find? (fun b => decide (key b = k)) = some a ↔ a ∈ items ∧ key a = k := by
  constructor
  · intro hfind
    exact ⟨List.mem_of_find?_eq_some hfind, by simpa using List.find?_some hfind⟩
  · rintro ⟨ha, rfl⟩
    cases hfind : items.find? fun b => decide (key b = key a) with
    | none =>
      have hnone := List.find?_eq_none.1 hfind a ha
      simp at hnone
    | some b =>
      have hkey : key b = key a := by simpa using List.find?_some hfind
      rw [List.inj_on_of_nodup_map hnodup (List.mem_of_find?_eq_some hfind) ha hkey]

/-- The length of a list without repetitions is the number of its items. -/
theorem length_eq_ncard {α : Type} {items : List α} {p : α → Prop} (hnodup : items.Nodup)
    (hmem : ∀ a, a ∈ items ↔ p a) : items.length = {a | p a}.ncard := by
  classical
  have hset : {a | p a} = (items.toFinset : Set α) := by
    ext a
    rw [Set.mem_ofPred_eq, ← hmem a, Finset.mem_coe, List.mem_toFinset]
  rw [hset, Set.ncard_coe_finset, List.toFinset_card_of_nodup hnodup]

namespace Dict

variable {α β γ : Type}

/-- Items that tell the key that they come from are not repeated. -/
theorem nodup_flatMap_entries (d : Dict α β) {items : α × β → List γ} (key : γ → α)
    (hnodup : ∀ e ∈ d.entries, (items e).Nodup) (hkey : ∀ e, ∀ x ∈ items e, key x = e.1) :
    (d.entries.flatMap items).Nodup := by
  refine List.nodup_flatMap.2 ⟨hnodup, ?_⟩
  refine (List.pairwise_map.1 d.nodup).imp fun {e e'} hne x hx hx' => ?_
  exact hne ((hkey e x hx).symm.trans (hkey e' x hx'))

theorem eq_empty_of_keys {d : Dict α β} (hkeys : d.keys = []) : d = .empty := by
  obtain ⟨entries, hnodup⟩ := d
  obtain rfl : entries = [] := List.map_eq_nil_iff.1 hkeys
  rfl

variable [DecidableEq α]

/-- A second value of a key replaces the first. -/
theorem insert_insert (d : Dict α β) (k : α) (v w : β) :
    (d.insert k v).insert k w = d.insert k w := by
  have hentries : ∀ entries : List (α × β),
      setEntry k w (setEntry k v entries) = setEntry k w entries := by
    intro entries
    induction entries with
    | nil => simp [setEntry]
    | cons e rest ih =>
      obtain ⟨k', v'⟩ := e
      by_cases hk : k' = k
      · simp [setEntry, hk]
      · simp [setEntry, hk, ih]
  simp [insert, hentries]

/-- The keys after several insertions. -/
theorem keys_update (d : Dict α β) (entries : List (α × β)) :
    (d.update entries).keys = (d.keys ++ entries.map Prod.fst).eraseDups := by
  induction entries generalizing d with
  | nil =>
    rw [List.map_nil, List.append_nil]
    exact (eraseDups_of_nodup d.nodup).symm
  | cons e rest ih =>
    have hstep : d.update (e :: rest) = (d.insert e.1 e.2).update rest := rfl
    rw [hstep, ih, keys_insert, List.map_cons]
    split
    · rename_i hmem
      exact (eraseDups_append_cons hmem _).symm
    · rw [List.append_assoc, List.singleton_append]

theorem mem_keys_iff {d : Dict α β} {k : α} : k ∈ d.keys ↔ ∃ v, d.get? k = some v := by
  rw [← contains_iff, contains, Option.isSome_iff_exists]

end Dict

end SymbolText
