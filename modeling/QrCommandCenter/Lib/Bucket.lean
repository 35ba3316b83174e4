import Mathlib.Algebra.Order.Field.Basic
import Mathlib.Tactic.Linarith
import Mathlib.Tactic.Ring

/-!
# Token buckets

A bucket of tokens that fills with time at some rate, up to its capacity, over an ordered field. The rate and the
capacity may change while it runs.

* `Bucket.refill`, `Bucket.take`, `Bucket.setRate`, `Bucket.resize` : the operations;
* `Bucket.Within rate capacity start spent bucket` : a bucket whose rate and capacity stay below fixed limits and that
  gave out `spent` tokens since time `start`; every operation keeps it;
* `Bucket.Within.spent_le` : the tokens given out are bounded by the limits and the time that passed.
-/

namespace QrCommandCenter

structure Bucket (K : Type) where
  level : K
  capacity : K
  rate : K
  clock : K

namespace Bucket

variable {K : Type} [Field K] [LinearOrder K]

section
variable (bucket : Bucket K)

/-- The bucket at time `now`. -/
def refill (now : K) : Bucket K :=
  { bucket with level := min bucket.capacity (bucket.level + bucket.rate * (now - bucket.clock)), clock := now }

def take : Bucket K := { bucket with level := bucket.level - 1 }

def setRate (rate : K) : Bucket K := { bucket with rate := rate }

/-- A new capacity; tokens that no longer fit are lost. -/
def resize (capacity : K) : Bucket K :=
  { bucket with level := min bucket.level capacity, capacity := capacity }

end

/-- The bucket stays below its limits. The last field is the potential: what was given out and what is left is covered
by a full bucket at `start` and the time since. -/
structure Within (rate capacity start : K) (spent : Nat) (bucket : Bucket K) : Prop where
  level_nonneg : 0 ≤ bucket.level
  level_le : bucket.level ≤ bucket.capacity
  capacity_le : bucket.capacity ≤ capacity
  rate_nonneg : 0 ≤ bucket.rate
  rate_le : bucket.rate ≤ rate
  potential : spent + bucket.level ≤ capacity + rate * (bucket.clock - start)

variable [IsStrictOrderedRing K] {rate capacity start : K} {spent : Nat} {bucket : Bucket K}

theorem Within.full (h₀ : 0 ≤ bucket.level) (hlevel : bucket.level = bucket.capacity)
    (hcapacity : bucket.capacity ≤ capacity) (hnonneg : 0 ≤ bucket.rate) (hrate : bucket.rate ≤ rate) :
    Within rate capacity bucket.clock 0 bucket := by
  refine ⟨h₀, hlevel.le, hcapacity, hnonneg, hrate, ?_⟩
  rw [sub_self, mul_zero, Nat.cast_zero]
  linarith

theorem Within.refill (h : Within rate capacity start spent bucket) {now : K} (hnow : bucket.clock ≤ now) :
    Within rate capacity start spent (bucket.refill now) := by
  have helapsed : 0 ≤ now - bucket.clock := sub_nonneg.mpr hnow
  have hfilled : 0 ≤ bucket.rate * (now - bucket.clock) := mul_nonneg h.rate_nonneg helapsed
  have hlevel := h.level_nonneg
  refine ⟨?_, min_le_left _ _, h.capacity_le, h.rate_nonneg, h.rate_le, ?_⟩
  · exact le_min (hlevel.trans h.level_le) (by linarith)
  · -- the bucket fills no faster than the limit
    have hlimit : bucket.rate * (now - bucket.clock) ≤ rate * (now - bucket.clock) :=
      mul_le_mul_of_nonneg_right h.rate_le helapsed
    have hpotential := h.potential
    calc (spent : K) + min bucket.capacity (bucket.level + bucket.rate * (now - bucket.clock))
        ≤ spent + (bucket.level + bucket.rate * (now - bucket.clock)) := by gcongr; exact min_le_right _ _
      _ ≤ capacity + rate * (bucket.clock - start) + rate * (now - bucket.clock) := by linarith
      _ = capacity + rate * (now - start) := by ring

theorem Within.take (h : Within rate capacity start spent bucket) (hone : 1 ≤ bucket.level) :
    Within rate capacity start (spent + 1) bucket.take := by
  have hlevel := h.level_le
  have hpotential := h.potential
  refine ⟨sub_nonneg.mpr hone, ?_, h.capacity_le, h.rate_nonneg, h.rate_le, ?_⟩
  · show bucket.level - 1 ≤ bucket.capacity
    linarith
  · show ((spent + 1 : ℕ) : K) + (bucket.level - 1) ≤ capacity + rate * (bucket.clock - start)
    rw [Nat.cast_succ]
    linarith

omit [IsStrictOrderedRing K] in
theorem Within.setRate (h : Within rate capacity start spent bucket) {newRate : K} (hnonneg : 0 ≤ newRate)
    (hrate : newRate ≤ rate) : Within rate capacity start spent (bucket.setRate newRate) :=
  ⟨h.level_nonneg, h.level_le, h.capacity_le, hnonneg, hrate, h.potential⟩

theorem Within.resize (h : Within rate capacity start spent bucket) {newCapacity : K} (hnonneg : 0 ≤ newCapacity)
    (hcapacity : newCapacity ≤ capacity) : Within rate capacity start spent (bucket.resize newCapacity) := by
  refine ⟨le_min h.level_nonneg hnonneg, min_le_right _ _, hcapacity, h.rate_nonneg, h.rate_le, ?_⟩
  have hpotential := h.potential
  have hmin : min bucket.level newCapacity ≤ bucket.level := min_le_left _ _
  show (spent : K) + min bucket.level newCapacity ≤ capacity + rate * (bucket.clock - start)
  linarith

/-- **The rate bound**: no more tokens than a full bucket and the time since the start allow. -/
theorem Within.spent_le (h : Within rate capacity start spent bucket) :
    (spent : K) ≤ capacity + rate * (bucket.clock - start) := by
  have hlevel := h.level_nonneg
  have hpotential := h.potential
  linarith

end Bucket

end QrCommandCenter
