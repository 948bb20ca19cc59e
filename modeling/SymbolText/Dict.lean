/-!
# Ordered dictionaries

A dictionary with distinct keys in the order of their first insertion: writing a key that is
there replaces its value and keeps its place.

* `Dict`: the type, and `Dict.empty`, `insert`, `get?`, `contains`, `keys`, `values`.
* `Dict.update`, `Dict.ofList`: inserting all entries of a list.
* `lastValue?`: the value of the last entry of a key in a list.

Results: `get?_insert` and `keys_insert` say what an insertion does to values and to keys;
`get?_update` and `get?_ofList` say that of several entries of a key the last one counts.
-/

namespace SymbolText

/-- Entries with distinct keys, in the order of first insertion (`dict`). -/
structure Dict (α β : Type) where
  entries : List (α × β)
  nodup : (entries.map Prod.fst).Nodup

namespace Dict

variable {α β : Type}

/-- The dictionary without entries. -/
def empty : Dict α β := ⟨[], by simp⟩

instance : Inhabited (Dict α β) := ⟨empty⟩

/-- The keys in order. -/
def keys (d : Dict α β) : List α := d.entries.map Prod.fst

/-- The values in the order of their keys. -/
def values (d : Dict α β) : List β := d.entries.map Prod.snd

/-- The number of entries. -/
def size (d : Dict α β) : Nat := d.entries.length

/-- Whether there are no entries. -/
def isEmpty (d : Dict α β) : Bool := d.entries.isEmpty

variable [DecidableEq α]

/-- The entries with the value of `k` set: in place if there is one, at the end otherwise. -/
def setEntry (k : α) (v : β) : List (α × β) → List (α × β)
  | [] => [(k, v)]
  | (k', v') :: rest => if k' = k then (k, v) :: rest else (k', v') :: setEntry k v rest

/-- The value of `k` in a list of entries. -/
def valueIn? (k : α) : List (α × β) → Option β
  | [] => none
  | (k', v) :: rest => if k' = k then some v else valueIn? k rest

/-! ## Entry lists -/

theorem map_fst_setEntry (k : α) (v : β) (entries : List (α × β)) :
    (setEntry k v entries).map Prod.fst =
      if k ∈ entries.map Prod.fst then entries.map Prod.fst
      else entries.map Prod.fst ++ [k] := by
  induction entries with
  | nil => simp [setEntry]
  | cons e rest ih =>
    obtain ⟨k', v'⟩ := e
    by_cases h : k' = k
    · simp [setEntry, h]
    · have h' : ¬ k = k' := fun e => h e.symm
      simp only [setEntry, h, if_false, List.map_cons, ih, List.mem_cons, h', false_or]
      split <;> simp

theorem nodup_map_fst_setEntry (k : α) (v : β) {entries : List (α × β)}
    (h : (entries.map Prod.fst).Nodup) : ((setEntry k v entries).map Prod.fst).Nodup := by
  rw [map_fst_setEntry]
  split
  · exact h
  · rename_i hk
    rw [List.nodup_append]
    refine ⟨h, by simp, ?_⟩
    intro a ha b hb
    rw [List.mem_singleton.1 hb]
    exact fun e => hk (e ▸ ha)

theorem valueIn?_setEntry (k k' : α) (v : β) (entries : List (α × β)) :
    valueIn? k' (setEntry k v entries) =
      if k = k' then some v else valueIn? k' entries := by
  induction entries with
  | nil => simp [setEntry, valueIn?]
  | cons e rest ih =>
    obtain ⟨k₁, v₁⟩ := e
    by_cases h : k₁ = k
    · subst h
      by_cases hk : k₁ = k' <;> simp [setEntry, valueIn?, hk]
    · by_cases hk : k = k'
      · subst hk
        simp [setEntry, valueIn?, h, ih]
      · simp [setEntry, valueIn?, h, ih, hk]

theorem valueIn?_isSome_iff (k : α) (entries : List (α × β)) :
    (valueIn? k entries).isSome = true ↔ k ∈ entries.map Prod.fst := by
  induction entries with
  | nil => simp [valueIn?]
  | cons e rest ih =>
    obtain ⟨k', v'⟩ := e
    by_cases h : k' = k
    · simp [valueIn?, h]
    · have h' : ¬ k = k' := fun e => h e.symm
      simp [valueIn?, h, h', ih]

theorem valueIn?_eq_some_iff {k : α} {v : β} {entries : List (α × β)}
    (h : (entries.map Prod.fst).Nodup) : valueIn? k entries = some v ↔ (k, v) ∈ entries := by
  induction entries with
  | nil => simp [valueIn?]
  | cons e rest ih =>
    obtain ⟨k', v'⟩ := e
    rw [List.map_cons, List.nodup_cons] at h
    rw [valueIn?, List.mem_cons, Prod.mk.injEq]
    split
    · rename_i hk
      subst hk
      have hrest : ¬ (k', v) ∈ rest := fun hmem => h.1 (List.mem_map.2 ⟨_, hmem, rfl⟩)
      simp [hrest, eq_comm]
    · rename_i hk
      simp [ih h.2, Ne.symm hk]

/-- The value of the last entry of `k`, where a key may have several. -/
def lastValue? (k : α) (entries : List (α × β)) : Option β :=
  (entries.filter fun e => decide (e.1 = k)).getLast?.map Prod.snd

theorem lastValue?_cons (k : α) (e : α × β) (entries : List (α × β)) :
    lastValue? k (e :: entries) =
      (lastValue? k entries).or (if e.1 = k then some e.2 else none) := by
  unfold lastValue?
  by_cases h : e.1 = k
  · rw [List.filter_cons_of_pos (by simp [h]), List.getLast?_cons, if_pos h]
    cases (entries.filter fun e => decide (e.1 = k)).getLast? <;> rfl
  · rw [List.filter_cons_of_neg (by simp [h]), if_neg h, Option.or_none]

/-- The last of more entries counts. -/
theorem lastValue?_append (k : α) (entries more : List (α × β)) :
    lastValue? k (entries ++ more) = (lastValue? k more).or (lastValue? k entries) := by
  induction entries with
  | nil => exact Option.or_none.symm
  | cons e rest ih => rw [List.cons_append, lastValue?_cons, lastValue?_cons, ih, Option.or_assoc]

theorem mem_of_lastValue? {k : α} {v : β} {entries : List (α × β)}
    (h : lastValue? k entries = some v) : (k, v) ∈ entries := by
  obtain ⟨e, he, rfl⟩ := Option.map_eq_some_iff.1 h
  obtain ⟨hmem, hk⟩ := List.mem_filter.1 (List.mem_of_getLast? he)
  obtain rfl := of_decide_eq_true hk
  exact hmem

theorem exists_lastValue? {k : α} {entries : List (α × β)} (h : k ∈ entries.map Prod.fst) :
    ∃ v, lastValue? k entries = some v := by
  obtain ⟨e, hmem, rfl⟩ := List.mem_map.1 h
  have hne : (entries.filter fun e' => decide (e'.1 = e.1)) ≠ [] :=
    List.ne_nil_of_mem (List.mem_filter.2 ⟨hmem, decide_eq_true rfl⟩)
  exact ⟨_, by rw [lastValue?, List.getLast?_eq_some_getLast hne]; rfl⟩

/-- Among distinct keys, the last entry of a key is its only one. -/
theorem lastValue?_of_nodup {k : α} {v : β} {entries : List (α × β)}
    (h : (entries.map Prod.fst).Nodup) (hmem : (k, v) ∈ entries) :
    lastValue? k entries = some v := by
  obtain ⟨w, hw⟩ := exists_lastValue? (List.mem_map_of_mem hmem : k ∈ entries.map Prod.fst)
  have hvalue := (valueIn?_eq_some_iff h).2 (mem_of_lastValue? hw)
  rw [(valueIn?_eq_some_iff h).2 hmem] at hvalue
  rw [hw, hvalue]

/-! ## Dictionaries -/

/-- Sets the value of a key. -/
def insert (d : Dict α β) (k : α) (v : β) : Dict α β :=
  ⟨setEntry k v d.entries, nodup_map_fst_setEntry k v d.nodup⟩

/-- The value of a key. -/
def get? (d : Dict α β) (k : α) : Option β := valueIn? k d.entries

/-- Whether there is a value of a key. -/
def contains (d : Dict α β) (k : α) : Bool := (d.get? k).isSome

/-- Inserts entries in order. -/
def update (d : Dict α β) (entries : List (α × β)) : Dict α β :=
  entries.foldl (fun d e => d.insert e.1 e.2) d

/-- The dictionary of a list of entries, where a later value of a key replaces an earlier. -/
def ofList (entries : List (α × β)) : Dict α β := empty.update entries

/-- The value of a key after an insertion. -/
theorem get?_insert (d : Dict α β) (k k' : α) (v : β) :
    (d.insert k v).get? k' = if k = k' then some v else d.get? k' :=
  valueIn?_setEntry k k' v d.entries

/-- The keys after an insertion: a new key comes last. -/
theorem keys_insert (d : Dict α β) (k : α) (v : β) :
    (d.insert k v).keys = if k ∈ d.keys then d.keys else d.keys ++ [k] :=
  map_fst_setEntry k v d.entries

/-- The value of a key is that of its entry. -/
theorem get?_eq_some_iff {d : Dict α β} {k : α} {v : β} :
    d.get? k = some v ↔ (k, v) ∈ d.entries :=
  valueIn?_eq_some_iff d.nodup

/-- A key is there exactly if it is one of the keys. -/
theorem contains_iff (d : Dict α β) (k : α) : d.contains k = true ↔ k ∈ d.keys :=
  valueIn?_isSome_iff k d.entries

theorem update_append (d : Dict α β) (entries more : List (α × β)) :
    d.update (entries ++ more) = (d.update entries).update more :=
  List.foldl_append

/-- The value of a key after several insertions. -/
theorem get?_update (d : Dict α β) (entries : List (α × β)) (k : α) :
    (d.update entries).get? k = (lastValue? k entries).or (d.get? k) := by
  induction entries generalizing d with
  | nil => rfl
  | cons e rest ih =>
    have hstep : d.update (e :: rest) = (d.insert e.1 e.2).update rest := rfl
    rw [hstep, ih, lastValue?_cons, get?_insert, Option.or_assoc]
    split <;> rfl

/-- The value of a key is that of its last entry. -/
theorem get?_ofList (entries : List (α × β)) (k : α) :
    (ofList entries).get? k = lastValue? k entries := by
  rw [ofList, get?_update]
  exact Option.or_none

theorem mem_values {d : Dict α β} {v : β} : v ∈ d.values ↔ ∃ k, d.get? k = some v := by
  simp only [values, List.mem_map, Prod.exists, exists_eq_right, get?_eq_some_iff]

/-- In a dictionary of values by keys of their own, a key that some have leads to one of
them. -/
theorem get?_ofList_map {values : List β} (key : β → α) {k : α} (hk : k ∈ values.map key) :
    ∃ v ∈ values, key v = k ∧ (ofList (values.map fun v => (key v, v))).get? k = some v := by
  have hfst : k ∈ (values.map fun v => (key v, v)).map Prod.fst := by
    rw [List.map_map]
    exact hk
  obtain ⟨v, hv⟩ := exists_lastValue? hfst
  obtain ⟨w, hw, hpair⟩ := List.mem_map.1 (mem_of_lastValue? hv)
  obtain ⟨hkey, rfl⟩ := Prod.mk.inj hpair
  exact ⟨w, hw, hkey, (get?_ofList _ k).trans hv⟩

/-- Such a dictionary has none but the given values. -/
theorem mem_of_mem_values_ofList {values : List β} (key : β → α) {v : β}
    (hv : v ∈ (ofList (values.map fun v => (key v, v))).values) : v ∈ values := by
  obtain ⟨k, hk⟩ := mem_values.1 hv
  rw [get?_ofList] at hk
  obtain ⟨w, hw, hpair⟩ := List.mem_map.1 (mem_of_lastValue? hk)
  exact (Prod.mk.inj hpair).2 ▸ hw

end Dict

end SymbolText
