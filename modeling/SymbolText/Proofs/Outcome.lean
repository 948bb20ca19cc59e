import Mathlib.Data.List.Forall2
import SymbolText.Log

/-!
# Outcomes of sequences

What it means that a sequence of operations succeeds, with or without reports.

Results:
* `bind_eq_ok_iff`, `bind_eq_error_iff`: a sequence succeeds if its parts do, and fails as the first
  part that fails.
* `mapM_eq_ok_iff`, `mapM_eq_ok_iff_forall₂`: an operation succeeds on a list if it does on every
  item.
* `exists_of_mem`, `exists_of_mem_result`, `map_eq_of_mapM`: items have results, results come from
  items, and what each result has in common with its item they have in common.
* `mapM_eq_error`: an operation that fails in one way only fails on a list in this way.
* `exists_split_of_mapM_error`, `exists_mem_of_mapM_error`, `mapM_eq_error_congr`: the first item to
  fail decides how an operation fails on a list.
* `mapM_flatMap`: an operation on the parts of items, part by part and item by item.
* `outcome_bind`, `outcome_mapM`: the outcome of operations that report is that of the operations
  without their reports.
* `outcome_forM_eq_ok_iff`, `exists_of_outcome_forM_eq_error`, `events_forM`: what an operation on
  all items comes to, and what it reports.
-/

namespace SymbolText

namespace Outcome

variable {ε α β : Type}

theorem ok_bind (a : α) (f : α → Except ε β) : (Except.ok a >>= f) = f a := rfl

theorem error_ne_ok {e : ε} {a : α} : Except.error e ≠ .ok a := by
  intro h
  cases h

/-- A sequence succeeds if its first part does, and its second with the result of the first. -/
theorem bind_eq_ok_iff {x : Except ε α} {f : α → Except ε β} {b : β} :
    (x >>= f) = .ok b ↔ ∃ a, x = .ok a ∧ f a = .ok b := by
  constructor
  · intro h
    cases x with
    | error e => cases h
    | ok a => exact ⟨a, rfl, h⟩
  · rintro ⟨a, rfl, h⟩
    exact h

/-- A sequence fails if its first part does, or its second with the result of the first. -/
theorem bind_eq_error_iff {x : Except ε α} {f : α → Except ε β} {e : ε} :
    (x >>= f) = .error e ↔ x = .error e ∨ ∃ a, x = .ok a ∧ f a = .error e := by
  cases x with
  | error e' =>
    have hbind : (Except.error e' >>= f) = .error e' := rfl
    simp [hbind]
  | ok a => simp [ok_bind]

/-- What is made of a result needs one. -/
theorem map_eq_ok_iff {x : Except ε α} {f : α → β} {b : β} :
    x.map f = .ok b ↔ ∃ a, x = .ok a ∧ f a = b := by
  cases x <;> simp [Except.map]

/-- What is made of a result does not change a failure. -/
theorem map_eq_error_iff {x : Except ε α} {f : α → β} {e : ε} :
    x.map f = .error e ↔ x = .error e := by
  cases x <;> simp [Except.map]

/-- An operation succeeds on a list if it does on every item, with a result for each. -/
theorem mapM_eq_ok_iff {f : α → Except ε β} {as : List α} {bs : List β} :
    as.mapM f = .ok bs ↔ as.map f = bs.map .ok := by
  induction as generalizing bs with
  | nil =>
    rw [List.mapM_nil, List.map_nil]
    constructor
    · intro h
      cases h
      rfl
    · intro h
      rw [List.map_eq_nil_iff.1 h.symm]
      rfl
  | cons a rest ih =>
    rw [List.mapM_cons, List.map_cons, bind_eq_ok_iff]
    constructor
    · rintro ⟨b, hb, h⟩
      obtain ⟨bs', hbs', h⟩ := bind_eq_ok_iff.1 h
      cases h
      rw [List.map_cons, hb, ih.1 hbs']
    · intro h
      obtain ⟨b, bs', rfl, hb, hbs'⟩ := List.map_eq_cons_iff.1 h.symm
      exact ⟨b, hb.symm, bind_eq_ok_iff.2 ⟨bs', ih.2 hbs'.symm, rfl⟩⟩

/-- An operation succeeds on a list if each result is that of the item at its place. -/
theorem mapM_eq_ok_iff_forall₂ {f : α → Except ε β} {as : List α} {bs : List β} :
    as.mapM f = .ok bs ↔ List.Forall₂ (fun a b => f a = .ok b) as bs := by
  rw [mapM_eq_ok_iff, ← List.forall₂_eq_eq_eq, List.forall₂_map_left_iff,
    List.forall₂_map_right_iff]

/-- Every item has a result. -/
theorem exists_of_mem {f : α → Except ε β} {as : List α} {bs : List β} (h : as.mapM f = .ok bs)
    {a : α} (ha : a ∈ as) : ∃ b ∈ bs, f a = .ok b := by
  have hmem : f a ∈ bs.map Except.ok := mapM_eq_ok_iff.1 h ▸ List.mem_map_of_mem ha
  obtain ⟨b, hb, hok⟩ := List.mem_map.1 hmem
  exact ⟨b, hb, hok.symm⟩

/-- Every result is that of an item. -/
theorem exists_of_mem_result {f : α → Except ε β} {as : List α} {bs : List β}
    (h : as.mapM f = .ok bs) {b : β} (hb : b ∈ bs) : ∃ a ∈ as, f a = .ok b := by
  have hmem : Except.ok b ∈ as.map f := mapM_eq_ok_iff.1 h ▸ List.mem_map_of_mem hb
  exact List.mem_map.1 hmem

/-- An operation that succeeds on every item succeeds on the list. -/
theorem exists_mapM_iff {f : α → Except ε β} {as : List α} :
    (∃ bs, as.mapM f = .ok bs) ↔ ∀ a ∈ as, ∃ b, f a = .ok b := by
  constructor
  · rintro ⟨bs, h⟩ a ha
    obtain ⟨b, -, hb⟩ := exists_of_mem h ha
    exact ⟨b, hb⟩
  · intro h
    induction as with
    | nil => exact ⟨[], rfl⟩
    | cons a rest ih =>
      obtain ⟨⟨b, hb⟩, hrest⟩ := List.forall_mem_cons.1 h
      obtain ⟨bs, hbs⟩ := ih hrest
      exact ⟨b :: bs, by rw [List.mapM_cons, hb, ok_bind, hbs]; rfl⟩

/-- What results have in common with their items. -/
theorem map_eq_of_mapM {γ : Type} {f : α → Except ε β} {as : List α} {bs : List β}
    (h : as.mapM f = .ok bs) {view : α → γ} {view' : β → γ}
    (hview : ∀ a b, f a = .ok b → view' b = view a) : bs.map view' = as.map view := by
  rw [mapM_eq_ok_iff] at h
  induction as generalizing bs with
  | nil => rw [List.map_eq_nil_iff.1 h.symm, List.map_nil, List.map_nil]
  | cons a rest ih =>
    obtain ⟨b, bs', rfl, hb, hrest⟩ := List.map_eq_cons_iff.1 h.symm
    rw [List.map_cons, List.map_cons, hview a b hb.symm, ih hrest.symm]

/-- One operation after another on every item. -/
theorem mapM_bind_of_ok {γ : Type} {f : α → Except ε β} {g : β → Except ε γ} {as : List α}
    {bs : List β} {cs : List γ} (hf : as.mapM f = .ok bs) (hg : bs.mapM g = .ok cs) :
    as.mapM (fun a => f a >>= g) = .ok cs := by
  rw [mapM_eq_ok_iff] at hf hg ⊢
  calc as.map (fun a => f a >>= g)
      = (as.map f).map (· >>= g) := by rw [List.map_map]; rfl
    _ = bs.map g := by rw [hf, List.map_map]; rfl
    _ = cs.map .ok := hg

/-- An operation on the parts of items works item by item. -/
theorem mapM_flatMap {γ : Type} (parts : α → List γ) (f : γ → Except ε β) (as : List α) :
    (as.flatMap parts).mapM f = (as.mapM fun a => (parts a).mapM f).map List.flatten := by
  induction as with
  | nil => rfl
  | cons a rest ih =>
    rw [List.flatMap_cons, List.mapM_append, List.mapM_cons, ih]
    cases (parts a).mapM f with
    | error e => rfl
    | ok bs => cases rest.mapM fun a => (parts a).mapM f <;> rfl

/-- Each result is that of the item at its place. -/
theorem getElem?_of_mapM {f : α → Except ε β} {as : List α} {bs : List β}
    (h : as.mapM f = .ok bs) (i : Nat) : as[i]?.map f = bs[i]?.map .ok := by
  rw [← List.getElem?_map, ← List.getElem?_map, mapM_eq_ok_iff.1 h]

/-- An operation fails on a list in one way if it fails on an item, and in no other way. -/
theorem mapM_eq_error {f : α → Except ε β} {e : ε} {as : List α}
    (honly : ∀ a ∈ as, (∃ b, f a = .ok b) ∨ f a = .error e) (hfail : ∃ a ∈ as, f a = .error e) :
    as.mapM f = .error e := by
  induction as with
  | nil =>
    obtain ⟨a, ha, -⟩ := hfail
    cases ha
  | cons a rest ih =>
    obtain ⟨hfirst, hrest⟩ := List.forall_mem_cons.1 honly
    rw [List.mapM_cons]
    rcases hfirst with ⟨b, hb⟩ | herror
    · have hlater : ∃ a ∈ rest, f a = .error e := by
        obtain ⟨a', ha', hfailed⟩ := hfail
        rcases List.mem_cons.1 ha' with rfl | hmem
        · rw [hb] at hfailed
          cases hfailed
        · exact ⟨a', hmem, hfailed⟩
      rw [hb, ok_bind, ih hrest hlater]
      rfl
    · rw [herror]
      rfl

/-- A failure on a list is that of the first item that fails. -/
theorem exists_split_of_mapM_error {f : α → Except ε β} {e : ε} {as : List α}
    (h : as.mapM f = .error e) :
    ∃ before a after, as = before ++ a :: after ∧ f a = .error e ∧
      ∀ b ∈ before, ∃ r, f b = .ok r := by
  induction as with
  | nil => cases h
  | cons a rest ih =>
    rw [List.mapM_cons] at h
    cases hfirst : f a with
    | error e' =>
      rw [hfirst] at h
      have he : e' = e := Except.error.inj h
      exact ⟨[], a, rest, rfl, by rw [hfirst, he], nofun⟩
    | ok b =>
      rw [hfirst, ok_bind] at h
      cases hrest : rest.mapM f with
      | ok bs =>
        rw [hrest] at h
        cases h
      | error e' =>
        rw [hrest] at h
        have he : e' = e := Except.error.inj h
        obtain ⟨before, a', after, rfl, hfailed, hbefore⟩ := ih (by rw [hrest, he])
        exact ⟨a :: before, a', after, rfl, hfailed, List.forall_mem_cons.2 ⟨⟨b, hfirst⟩, hbefore⟩⟩

theorem exists_mem_of_mapM_error {f : α → Except ε β} {e : ε} {as : List α}
    (h : as.mapM f = .error e) : ∃ a ∈ as, f a = .error e := by
  obtain ⟨before, a, after, rfl, hfailed, -⟩ := exists_split_of_mapM_error h
  exact ⟨a, List.mem_append_right before List.mem_cons_self, hfailed⟩

/-- Operations that fail alike on the items fail alike on the list. -/
theorem mapM_eq_error_congr {γ : Type} {f : α → Except ε β} {g : α → Except ε γ} {as : List α}
    (hsame : ∀ a ∈ as, ∀ e, f a = .error e ↔ g a = .error e) {e : ε} (h : as.mapM f = .error e) :
    as.mapM g = .error e := by
  obtain ⟨before, a, after, rfl, hfailed, hbefore⟩ := exists_split_of_mapM_error h
  have hg : g a = .error e := (hsame a (by simp) e).1 hfailed
  have hfront : ∃ cs, before.mapM g = .ok cs := by
    refine exists_mapM_iff.2 fun b hb => ?_
    cases hb' : g b with
    | ok c => exact ⟨c, rfl⟩
    | error e' =>
      obtain ⟨r, hr⟩ := hbefore b hb
      rw [(hsame b (List.mem_append_left _ hb) e').2 hb'] at hr
      cases hr
  obtain ⟨cs, hcs⟩ := hfront
  rw [List.mapM_append, hcs, ok_bind, List.mapM_cons, hg]
  rfl

end Outcome

namespace Logged

variable {α β γ : Type}

theorem id_map (x : Logged α) : id <$> x = x := by
  obtain ⟨events, outcome⟩ := x
  cases outcome <;> simp [Functor.map, Logged.bind, of]

theorem pure_bind (a : α) (f : α → Logged β) : (pure a >>= f) = f a := by
  simp [Pure.pure, Bind.bind, Logged.bind, of]

theorem bind_assoc (x : Logged α) (f : α → Logged β) (g : β → Logged γ) :
    x >>= f >>= g = x >>= fun a => f a >>= g := by
  obtain ⟨events, outcome⟩ := x
  cases outcome with
  | error e => rfl
  | ok a =>
    simp only [Bind.bind, Logged.bind]
    cases (f a).outcome <;> simp

instance : LawfulMonad Logged := LawfulMonad.mk' Logged id_map pure_bind bind_assoc

theorem outcome_of (x : Except Error α) : (of x).outcome = x := rfl

/-- The outcome of a sequence does not depend on what is reported. -/
theorem outcome_bind (x : Logged α) (f : α → Logged β) :
    (x >>= f).outcome = x.outcome >>= fun a => (f a).outcome := by
  simp only [Bind.bind, Logged.bind]
  cases x.outcome <;> rfl

/-- The outcome on a list does not depend on what is reported. -/
theorem outcome_mapM (f : α → Logged β) (as : List α) :
    (as.mapM f).outcome = as.mapM fun a => (f a).outcome := by
  induction as with
  | nil => rfl
  | cons a rest ih =>
    rw [List.mapM_cons, List.mapM_cons, outcome_bind]
    congr 1
    funext b
    rw [outcome_bind, ih]
    rfl

/-- Of two operations the second has the result. -/
theorem outcome_then_eq_ok_iff {x : Logged Unit} {y : Logged α} {a : α} :
    (do x; y).outcome = .ok a ↔ x.outcome = .ok () ∧ y.outcome = .ok a := by
  rw [outcome_bind, Outcome.bind_eq_ok_iff]
  exact ⟨fun ⟨_, hx, hy⟩ => ⟨hx, hy⟩, fun ⟨hx, hy⟩ => ⟨(), hx, hy⟩⟩

/-- An operation succeeds on all items if it does on each. -/
theorem outcome_forM_eq_ok_iff {f : α → Logged Unit} {as : List α} :
    (as.forM f).outcome = .ok () ↔ ∀ a ∈ as, (f a).outcome = .ok () := by
  induction as with
  | nil => exact iff_of_true rfl nofun
  | cons a rest ih =>
    rw [List.forM_eq_forM, List.forM_cons, outcome_then_eq_ok_iff, List.forall_mem_cons, ← ih]
    rfl

/-- A failure on all items is that of one of them. -/
theorem exists_of_outcome_forM_eq_error {f : α → Logged Unit} {as : List α} {e : Error}
    (h : (as.forM f).outcome = .error e) : ∃ a ∈ as, (f a).outcome = .error e := by
  induction as with
  | nil => cases h
  | cons a rest ih =>
    rw [List.forM_eq_forM, List.forM_cons, outcome_bind, Outcome.bind_eq_error_iff] at h
    rcases h with ha | ⟨_, -, hrest⟩
    · exact ⟨a, List.mem_cons_self, ha⟩
    · obtain ⟨a', hmem, ha'⟩ := ih hrest
      exact ⟨a', List.mem_cons_of_mem a hmem, ha'⟩

/-- An operation that succeeds on all items reports what it does on each. -/
theorem events_forM {f : α → Logged Unit} {as : List α}
    (h : (as.forM f).outcome = .ok ()) :
    (as.forM f).events = as.flatMap fun a => (f a).events := by
  induction as with
  | nil => rfl
  | cons a rest ih =>
    obtain ⟨ha, hrest⟩ := List.forall_mem_cons.1 (outcome_forM_eq_ok_iff.1 h)
    rw [List.forM_eq_forM, List.forM_cons, events_bind_ok _ ha, List.flatMap_cons]
    exact congrArg _ (ih (outcome_forM_eq_ok_iff.2 hrest))

end Logged

end SymbolText
