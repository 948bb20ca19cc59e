import SymbolText.Text.CodePoint

/-!
# Order of texts

Texts are compared code point by code point, each by its number, and a text comes before its
extensions. Locale identifiers, catalog keys and the components of a path are sorted in
this order.

* `le`, `leString`: the order on texts and on strings.
* `leComponents`: the order of two paths, component by component.
* `sort`, `sortStrings`: stable sorts of texts and of strings.

Results: `le_refl`, `le_total`, `le_trans` and `le_antisymm` make `le` a linear order.
-/

namespace SymbolText.Text

/-- `a` comes no later than `b` by code points. -/
def le : Text → Text → Bool
  | [], _ => true
  | _ :: _, [] => false
  | a :: as, b :: bs => if a.number = b.number then le as bs else Nat.blt a.number b.number

/-- The order of texts on strings. -/
def leString (a b : String) : Bool := le (.ofString a) (.ofString b)

/-- The order of paths: the first component that differs decides, and a path comes before
what lies below it. -/
def leComponents : List String → List String → Bool
  | [], _ => true
  | _ :: _, [] => false
  | a :: as, b :: bs => if a = b then leComponents as bs else leString a b

/-- The texts in ascending order. -/
def sort (texts : List Text) : List Text := texts.mergeSort le

/-- The strings in ascending order (`sorted`). -/
def sortStrings (texts : List String) : List String := texts.mergeSort leString

/-! ## The order is linear -/

theorem le_refl (a : Text) : le a a = true := by
  induction a with
  | nil => rfl
  | cons c a ih => simp [le, ih]

theorem le_total (a b : Text) : (le a b || le b a) = true := by
  induction a generalizing b with
  | nil => simp [le]
  | cons c a ih =>
    cases b with
    | nil => simp [le]
    | cons d b =>
      by_cases h : c.number = d.number
      · simpa [le, h] using ih b
      · have h' : ¬ d.number = c.number := fun e => h e.symm
        simp only [le, h, h', if_false, Bool.or_eq_true, Nat.blt_eq]
        omega

theorem le_trans (a b c : Text) (hab : le a b = true) (hbc : le b c = true) :
    le a c = true := by
  induction a generalizing b c with
  | nil => simp [le]
  | cons x a ih =>
    cases b with
    | nil => simp [le] at hab
    | cons y b =>
      cases c with
      | nil => simp [le] at hbc
      | cons z c =>
        by_cases hxy : x.number = y.number <;> by_cases hyz : y.number = z.number
        · simp only [le, hxy, hyz, if_true] at hab hbc ⊢
          exact ih b c hab hbc
        · simp only [le, hxy, hyz, if_false] at hbc ⊢
          exact hbc
        · simp only [le, ← hyz, hxy, if_false] at hab ⊢
          exact hab
        · simp only [le, hxy, hyz, if_false, Nat.blt_eq] at hab hbc
          have hxz : ¬ x.number = z.number := by omega
          simp only [le, hxz, if_false, Nat.blt_eq]
          omega

theorem le_antisymm (a b : Text) (hab : le a b = true) (hba : le b a = true) : a = b := by
  induction a generalizing b with
  | nil => cases b with
    | nil => rfl
    | cons y b => simp [le] at hba
  | cons x a ih =>
    cases b with
    | nil => simp [le] at hab
    | cons y b =>
      simp only [le] at hab hba
      split at hab
      · rename_i h
        rw [if_pos h.symm] at hba
        rw [ih b hab hba, CodePoint.number_injective h]
      · rename_i h
        rw [if_neg (fun e => h e.symm)] at hba
        simp only [Nat.blt_eq] at hab hba
        omega

end SymbolText.Text
