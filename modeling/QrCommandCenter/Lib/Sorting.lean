import Mathlib.Data.List.Sort

/-!
# Unstable sorts

A sort that promises nothing about elements that compare equal, run on a list whose order is not known either.

* `SortedFrom less l l'` : a possible result of the sort of `l`;
* `WeakOrder.merge` : a comparison by a key has one.
-/

namespace QrCommandCenter.Sorting

variable {α : Type} {less : α → α → Bool} {l : List α}

/-- `l'` holds the elements of `l`, none of them less than one before it. -/
structure SortedFrom (less : α → α → Bool) (l l' : List α) : Prop where
  perm : l'.Perm l
  sorted : l'.Pairwise fun a b => less b a = false

instance decidableSortedFrom [DecidableEq α] (less : α → α → Bool) (l l' : List α) : Decidable (SortedFrom less l l') :=
  decidable_of_iff (l'.Perm l ∧ l'.Pairwise fun a b => less b a = false) ⟨fun h => ⟨h.1, h.2⟩, fun h => ⟨h.1, h.2⟩⟩

/-- `less` compares by a key in a linear order. -/
structure WeakOrder (less : α → α → Bool) : Prop where
  asymm : ∀ a b, less a b = true → less b a = false
  trans : ∀ a b c, less b a = false → less c b = false → less c a = false

theorem WeakOrder.of_key {κ : Type} [LinearOrder κ] (key : α → κ) (h : ∀ a b, less a b = true ↔ key a < key b) :
    WeakOrder less := by
  refine ⟨fun a b hab => ?_, fun a b c hba hcb => ?_⟩ <;> simp only [← Bool.not_eq_true, h] at *
  · exact not_lt_of_gt hab
  · exact not_lt.mpr ((not_lt.mp hba).trans (not_lt.mp hcb))

section Merge
variable (hw : WeakOrder less)
include hw

theorem WeakOrder.total (a b : α) : (!less b a || !less a b) = true := by
  cases h : less a b with
  | false => simp
  | true => simp [hw.asymm a b h]

theorem WeakOrder.merge (l : List α) : SortedFrom less l (l.mergeSort fun a b => !less b a) :=
  ⟨List.mergeSort_perm l _, (List.pairwise_mergeSort (by simpa using hw.trans) hw.total l).imp (by simp)⟩

end Merge

end QrCommandCenter.Sorting
