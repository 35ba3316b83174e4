import Mathlib.Data.List.Basic

/-!
# Lists as heaps

A heap is a list and a pointer is a position: allocation appends, and an update sets or modifies one position.

* `getElem?_set_cases`, `getElem?_append_cases`, `getElem?_modify_cases` : what is at a pointer afterwards;
* `getElem?_append_kept`, `getElem?_set_kept`, `exists_getElem?_set` : what was there and stays;
* `getElem?_set_same`, `set_eq_self` : what an update writes, and one that changes nothing;
* `map_modify` : a view of the heap through a modification.
-/

namespace QrCommandCenter

variable {α β : Type}
variable {i j : Nat} {f : α → α}

section
variable {l : List α} {a new b : α}

theorem getElem?_set_cases (h : (l.set i new)[j]? = some a) : j = i ∧ a = new ∨ j ≠ i ∧ l[j]? = some a := by
  rw [List.getElem?_set] at h
  by_cases hij : i = j
  · rw [if_pos hij] at h
    split at h
    · cases h
      exact .inl ⟨hij.symm, rfl⟩
    · cases h
  · rw [if_neg hij] at h
    exact .inr ⟨Ne.symm hij, h⟩

theorem getElem?_append_cases (h : (l ++ [new])[j]? = some a) : j = l.length ∧ a = new ∨ l[j]? = some a := by
  rcases Nat.lt_trichotomy j l.length with hlt | heq | hgt
  · rw [List.getElem?_append_left hlt] at h
    exact .inr h
  · rw [heq, List.getElem?_concat_length] at h
    cases h
    exact .inl ⟨heq, rfl⟩
  · have hlength : (l ++ [new]).length ≤ j := by
      rw [List.length_append, List.length_singleton]
      exact hgt
    rw [List.getElem?_eq_none hlength] at h
    cases h

theorem getElem?_modify_cases (h : (l.modify i f)[j]? = some b) :
    ∃ a, l[j]? = some a ∧ (j = i ∧ b = f a ∨ j ≠ i ∧ b = a) := by
  rw [List.getElem?_modify] at h
  cases ha : l[j]? with
  | none =>
    rw [ha] at h
    cases h
  | some a =>
    rw [ha] at h
    refine ⟨a, rfl, ?_⟩
    by_cases hij : i = j
    · simp only [hij, if_true, Option.map_eq_map, Option.map_some, Option.some.injEq] at h
      exact .inl ⟨hij.symm, h.symm⟩
    · simp only [hij, if_false, Option.map_eq_map, Option.map_some, Option.some.injEq] at h
      exact .inr ⟨Ne.symm hij, h.symm⟩

theorem getElem?_set_same (h : l[i]? = some a) : (l.set i new)[i]? = some new := by
  rw [List.getElem?_set_self (List.getElem?_eq_some_iff.mp h).1]

theorem getElem?_set_kept (hij : j ≠ i) (h : l[j]? = some a) : (l.set i new)[j]? = some a := by
  rw [List.getElem?_set_ne (Ne.symm hij)]
  exact h

theorem getElem?_append_kept (h : l[j]? = some a) (l' : List α) : (l ++ l')[j]? = some a := by
  rw [List.getElem?_append_left (List.getElem?_eq_some_iff.mp h).1]
  exact h

theorem exists_getElem?_set {P : α → α → Prop} (hi : l[i]? = some a) (hnew : P a new) (hrefl : P b b)
    (hj : l[j]? = some b) : ∃ c, (l.set i new)[j]? = some c ∧ P b c := by
  by_cases hji : j = i
  · subst hji
    rw [hi] at hj
    cases hj
    exact ⟨new, getElem?_set_same hi, hnew⟩
  · exact ⟨b, getElem?_set_kept hji hj, hrefl⟩

theorem set_eq_self (h : l[i]? = some a) : l.set i a = l := by
  obtain ⟨hlt, rfl⟩ := List.getElem?_eq_some_iff.mp h
  exact List.set_getElem_self hlt

theorem set_eq_modify (h : l[i]? = some a) : l.set i (f a) = l.modify i f := by
  apply List.ext_getElem?
  intro j
  rw [List.getElem?_modify, List.getElem?_set]
  by_cases hij : i = j
  · subst hij
    rw [if_pos rfl, if_pos (List.getElem?_eq_some_iff.mp h).1, h]
    simp
  · simp [hij]

end

theorem map_modify {g : α → β} {f' : β → β} (h : ∀ a, g (f a) = f' (g a)) (l : List α) (i : Nat) :
    (l.modify i f).map g = (l.map g).modify i f' := by
  apply List.ext_getElem?
  intro j
  simp only [List.getElem?_map, List.getElem?_modify]
  cases l[j]? with
  | none => rfl
  | some a => by_cases hij : i = j <;> simp [hij, h]

end QrCommandCenter
