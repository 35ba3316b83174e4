import QrCommandCenter.Rooms.Worker

/-!
# The lifetime of a fetched QR

A response tells for how many seconds its QR is valid. `handleRoomFetchSuccess` and `shouldFetchQR` turn them into
nanoseconds of 64 bits, and `shouldFetchQR` alone takes a minute for zero.

* `QrLasts` : the QR of a room is not expired, and it is fetched again between its fetch and its expiry;
* `Timely` : the response times whose lifetime, and three quarters of it, are representable;
* `qrLasts_iff` : exactly their QRs last.
-/

namespace QrCommandCenter.Rooms
open Domain

/-- The room has a QR that was fetched at `now`, does not expire before that, and is due in between. -/
structure QrLasts (state : RoomState) (now expiresAt nextFetchAt : Time) : Prop where
  expiry : state.room.expiresAt = some expiresAt
  unexpired : now ≤ expiresAt
  due : ∀ t, shouldFetchQR state.room.expiresAt state.lastQrTime t = true ↔ nextFetchAt < t
  notBefore : now ≤ nextFetchAt
  notAfter : nextFetchAt ≤ expiresAt

/-- Seconds in nanoseconds, as 64 bits hold them. -/
def nanoseconds (seconds : Nat) : Nat := seconds * 1000000000 % 2 ^ 64

/-- The time is not zero, its nanoseconds are a positive duration, and those of its three quarters are no more. -/
def Timely (qrTime : UInt64) : Prop :=
  qrTime ≠ 0 ∧ nanoseconds (calculateNextFetchDelay qrTime).toNat ≤ nanoseconds qrTime.toNat ∧
    nanoseconds qrTime.toNat < 2 ^ 63

theorem nanoseconds_lt (n : Nat) : nanoseconds n < 2 ^ 64 := Nat.mod_lt _ (by decide)

theorem natCast_nanoseconds (n : Nat) : (nanoseconds n : Int) = n * 1000000000 % 2 ^ 64 := by
  simp [nanoseconds]

theorem durationOfSeconds_natCast (n : Nat) :
    durationOfSeconds n = if nanoseconds n < 2 ^ 63 then (nanoseconds n : Int) else nanoseconds n - 2 ^ 64 := by
  have h := natCast_nanoseconds n
  rw [durationOfSeconds, Int.bmod_def, second]
  show (_ : Int) = _
  split <;> split <;> omega

theorem durationOfSeconds_neg {n : Nat} (hn : nanoseconds n < 2 ^ 63) : durationOfSeconds (-n) = -(nanoseconds n : Int) := by
  have h := natCast_nanoseconds n
  rw [durationOfSeconds, Int.bmod_def, second]
  show (_ : Int) = _
  split <;> omega

/-- From the expiry of a QR to the instant it is due. -/
def fromExpiry (qrTime : UInt64) : Int :=
  durationOfSeconds (-(if qrTime = 0 then 60 else qrTime).toNat) +
    durationOfSeconds (calculateNextFetchDelay (if qrTime = 0 then 60 else qrTime)).toNat

theorem qrLasts_iff_fromExpiry (state : RoomState) (resp : QrResponse) (now : Time) :
    (∃ expiresAt nextFetchAt, QrLasts ((LockSection.success resp now).apply state) now expiresAt nextFetchAt) ↔
      (0 : Int) ≤ durationOfSeconds resp.qrTime.toNat ∧
        (0 : Int) ≤ durationOfSeconds resp.qrTime.toNat + fromExpiry resp.qrTime ∧ fromExpiry resp.qrTime ≤ 0 := by
  have hexpiry : ((LockSection.success resp now).apply state).room.expiresAt =
      some (now + durationOfSeconds resp.qrTime.toNat) := by
    simp [LockSection.apply, LockSection.room, Room.moveTo_eq, withQR]
  have hdue : ∀ t, shouldFetchQR ((LockSection.success resp now).apply state).room.expiresAt
      ((LockSection.success resp now).apply state).lastQrTime t = true ↔
        now + durationOfSeconds resp.qrTime.toNat + fromExpiry resp.qrTime < t := by
    intro t
    rw [hexpiry, fromExpiry, ← add_assoc]
    exact decide_eq_true_iff
  constructor
  · rintro ⟨expiresAt, nextFetchAt, h⟩
    obtain rfl := Option.some.inj (hexpiry.symm.trans h.expiry)
    obtain rfl := eq_of_forall_gt_iff fun t => (hdue t).symm.trans (h.due t)
    have hbefore := h.notBefore
    rw [add_assoc] at hbefore
    exact ⟨nonneg_of_le_add_right h.unexpired, nonneg_of_le_add_right hbefore, nonpos_of_add_le_right h.notAfter⟩
  · rintro ⟨hlifetime, hlater, hearlier⟩
    refine ⟨_, _, hexpiry, le_add_of_nonneg_right hlifetime, hdue, ?_, add_le_of_nonpos_right hearlier⟩
    rw [add_assoc]
    exact le_add_of_nonneg_right hlater

/-- **A fetched QR lasts exactly if its time is timely.** -/
theorem qrLasts_iff (state : RoomState) (resp : QrResponse) (now : Time) :
    (∃ expiresAt nextFetchAt, QrLasts ((LockSection.success resp now).apply state) now expiresAt nextFetchAt) ↔
      Timely resp.qrTime := by
  rw [qrLasts_iff_fromExpiry, Timely]
  by_cases hzero : resp.qrTime = 0
  · -- the QR expires at once, and was due a quarter of a minute before
    simp only [hzero, ne_eq, not_true, false_and, iff_false]
    decide
  · have hdelay := nanoseconds_lt (calculateNextFetchDelay resp.qrTime).toNat
    have hlifetime := nanoseconds_lt resp.qrTime.toNat
    rw [fromExpiry, if_neg hzero, durationOfSeconds_natCast, durationOfSeconds_natCast]
    by_cases hpositive : nanoseconds resp.qrTime.toNat < 2 ^ 63
    · rw [if_pos hpositive, durationOfSeconds_neg hpositive]
      simp only [hzero, hpositive, ne_eq, not_false_eq_true, true_and, and_true]
      split <;> omega
    · rw [if_neg hpositive]
      omega

theorem zero_not_lasts : ¬ ∃ expiresAt nextFetchAt, QrLasts ((LockSection.success { qrURL := "", qrTime := 0 } 0).apply
    { room := { roomID := "room", classID := "class" } }) 0 expiresAt nextFetchAt := by
  rw [qrLasts_iff_fromExpiry]
  decide

end QrCommandCenter.Rooms
