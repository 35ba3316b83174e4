import QrCommandCenter.Lib.Heap

/-!
# Tokens and their holders

A token is at one place at a time if every step takes it away where it puts it down. The holders of a kind are the entries
of a heap, each of which holds a token or none.

* `holders token l x` : how many entries of `l` hold `x`, each of `weight` one;
* `holders_set` : what an update does to the count.
-/

namespace QrCommandCenter.Tokens

variable {α τ : Type} [DecidableEq τ] {token : α → Option τ} {l : List α} {x : τ}
variable {k : Nat}

def weight (held : Option τ) (x : τ) : Nat := if held = some x then 1 else 0

/-- How many entries of `l` hold `x`. -/
def holders (token : α → Option τ) (l : List α) (x : τ) : Nat := l.countP fun a => token a = some x

theorem holders_set {old new : α} (h : l[k]? = some old) :
    holders token (l.set k new) x + weight (token old) x = holders token l x + weight (token new) x := by
  obtain ⟨hk, hold⟩ := List.getElem?_eq_some_iff.mp h
  have hpos : token old = some x → 0 < holders token l x := by
    intro hx
    exact List.countP_pos_iff.mpr ⟨old, hold ▸ List.getElem_mem hk, decide_eq_true hx⟩
  unfold holders at hpos ⊢
  unfold weight
  rw [List.countP_set hk, hold]
  simp only [decide_eq_true_eq]
  by_cases hx : token old = some x
  · have := hpos hx
    simp only [hx, if_true]
    omega
  · simp only [hx, if_false]
    omega

theorem holders_set_of_eq {old new : α} (h : l[k]? = some old) (htoken : token new = token old) :
    holders token (l.set k new) x = holders token l x := by
  have hcount : holders token (l.set k new) x + _ = holders token l x + _ := holders_set h
  rw [htoken] at hcount
  omega

end QrCommandCenter.Tokens
