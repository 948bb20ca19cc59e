import Mathlib.Data.List.Sort
import SymbolText.Files.Path

/-!
# The order of strings and of paths

Strings are ordered as texts are, and paths by the first component that differs. Both orders are
linear, so that a list in strict order is determined by its members.

Results:
* `leString_antisymm`, `leComponents_antisymm` and the like: the orders are linear.
* `before_append`, `before_cons`: the order of paths with a common start, or without one.
-/

namespace SymbolText.Text

/-! ## Strings -/

theorem ofString_injective {a b : String} (h : Text.ofString a = Text.ofString b) : a = b :=
  String.toList_injective (Text.ofChars_injective h)

theorem leString_refl (a : String) : leString a a = true := le_refl _

theorem leString_total (a b : String) : (leString a b || leString b a) = true := le_total _ _

theorem leString_trans (a b c : String) (hab : leString a b = true) (hbc : leString b c = true) :
    leString a c = true :=
  le_trans _ _ _ hab hbc

theorem leString_antisymm {a b : String} (hab : leString a b = true)
    (hba : leString b a = true) : a = b :=
  ofString_injective (le_antisymm _ _ hab hba)

theorem le_append (a b : Text) : le a (a ++ b) = true := by
  induction a with
  | nil => rfl
  | cons c a ih =>
    rw [List.cons_append, le, if_pos rfl, ih]

/-- A string comes no later than what it is continued to. -/
theorem leString_append (a b : String) : leString a (a ++ b) = true := by
  unfold leString Text.ofString
  rw [String.toList_append, ofChars_append]
  exact le_append _ _

theorem mem_sortStrings {a : String} {strings : List String} :
    a ∈ sortStrings strings ↔ a ∈ strings :=
  List.mem_mergeSort

theorem sortStrings_pairwise (strings : List String) :
    (sortStrings strings).Pairwise fun a b => leString a b = true :=
  List.pairwise_mergeSort leString_trans leString_total strings

/-- Strings in order stay where they are. -/
theorem sortStrings_of_pairwise {strings : List String}
    (hsorted : strings.Pairwise fun a b => leString a b = true) :
    sortStrings strings = strings :=
  List.mergeSort_of_pairwise hsorted

theorem nodup_sortStrings {strings : List String} (hnodup : strings.Nodup) :
    (sortStrings strings).Nodup :=
  (List.mergeSort_perm strings leString).nodup_iff.2 hnodup

/-- One string comes before another one. -/
def BeforeString (a b : String) : Prop := leString a b = true ∧ a ≠ b

instance : Std.Irrefl BeforeString := ⟨fun _ h => h.2 rfl⟩

instance : Std.Antisymm BeforeString :=
  ⟨fun _ _ hab hba => leString_antisymm hab.1 hba.1⟩

/-- Different strings in order come one before the other. -/
theorem increasing_of_nodup {strings : List String} (hnodup : strings.Nodup)
    (hsorted : strings.Pairwise fun a b => leString a b = true) :
    strings.Pairwise BeforeString :=
  hsorted.and hnodup

/-! ## Paths -/

theorem leComponents_total (a b : List String) :
    (leComponents a b || leComponents b a) = true := by
  induction a generalizing b with
  | nil => rfl
  | cons x a ih =>
    cases b with
    | nil => rfl
    | cons y b =>
      by_cases hxy : x = y
      · simpa only [leComponents, hxy, if_true] using ih b
      · simpa only [leComponents, hxy, Ne.symm hxy, if_false] using leString_total x y

theorem leComponents_trans (a b c : List String) (hab : leComponents a b = true)
    (hbc : leComponents b c = true) : leComponents a c = true := by
  induction a generalizing b c with
  | nil => rfl
  | cons x a ih =>
    cases b with
    | nil => cases hab
    | cons y b =>
      cases c with
      | nil => cases hbc
      | cons z c =>
        rw [leComponents] at hab hbc ⊢
        by_cases hxy : x = y
        · subst hxy
          rw [if_pos rfl] at hab
          by_cases hxz : x = z
          · rw [if_pos hxz] at hbc ⊢
            exact ih b c hab hbc
          · rw [if_neg hxz] at hbc ⊢
            exact hbc
        · rw [if_neg hxy] at hab
          by_cases hyz : y = z
          · subst hyz
            rw [if_neg hxy]
            exact hab
          · rw [if_neg hyz] at hbc
            have hxz : x ≠ z := by
              intro h
              subst h
              exact hxy (leString_antisymm hab hbc)
            rw [if_neg hxz]
            exact leString_trans x y z hab hbc

theorem leComponents_antisymm {a b : List String} (hab : leComponents a b = true)
    (hba : leComponents b a = true) : a = b := by
  induction a generalizing b with
  | nil =>
    cases b with
    | nil => rfl
    | cons y b => cases hba
  | cons x a ih =>
    cases b with
    | nil => cases hab
    | cons y b =>
      rw [leComponents] at hab hba
      by_cases hxy : x = y
      · rw [if_pos hxy] at hab
        rw [if_pos hxy.symm] at hba
        rw [hxy, ih hab hba]
      · rw [if_neg hxy] at hab
        rw [if_neg (Ne.symm hxy)] at hba
        exact absurd (leString_antisymm hab hba) hxy

theorem leComponents_append (start a b : List String) :
    leComponents (start ++ a) (start ++ b) = leComponents a b := by
  induction start with
  | nil => rfl
  | cons x start ih =>
    rw [List.cons_append, List.cons_append, leComponents, if_pos rfl, ih]

/-- One list of components comes before another one. -/
def Before (a b : List String) : Prop := leComponents a b = true ∧ a ≠ b

/-- Parts that follow a common start are in the order of the whole. -/
theorem before_append (start : List String) {a b : List String} (hab : Before a b) :
    Before (start ++ a) (start ++ b) := by
  refine ⟨?_, fun h => hab.2 (List.append_cancel_left h)⟩
  rw [leComponents_append]
  exact hab.1

/-- The first components decide if they differ. -/
theorem before_cons {x y : String} (hxy : Before [x] [y]) (a b : List String) :
    Before (x :: a) (y :: b) := by
  have hne : x ≠ y := fun h => hxy.2 (congrArg (fun name => [name]) h)
  refine ⟨?_, fun h => hne (List.cons.inj h).1⟩
  have hle := hxy.1
  rw [leComponents, if_neg hne] at hle ⊢
  exact hle

end SymbolText.Text

namespace SymbolText.Path

/-- One path comes before another one. -/
def Before (p q : Path) : Prop := Text.Before p.components q.components

instance : Std.Irrefl Before := ⟨fun _ h => h.2 rfl⟩

instance : Std.Antisymm Before :=
  ⟨fun _ _ hpq hqp => absurd (Text.leComponents_antisymm hpq.1 hqp.1) hpq.2⟩

end SymbolText.Path
