import QrCommandCenter.Domain.Room
import QrCommandCenter.Scraper.Coordinator

/-!
# The pause after a rate limit

`parseRetryAfter` turns the `Retry-After` header into a duration, and `failureNextRun` waits for it, or for a quarter of
an hour. A number of seconds is multiplied in 64 bits, while the time until a date saturates.

* `parseInt`, `timeSub`, `parseRetryAfter` : the header;
* `rateLimitedPause` : the pause of a rate-limited run;
* `Heeds` : what the pause should be for every header;
* `retryAfter_heeds_iff` : it is exactly if the seconds of the header fit a duration.
-/

namespace QrCommandCenter.Warwick
open Domain Scraper

/-- `strconv.ParseInt(value, 10, 64)`. -/
def parseInt (value : String) : Option Int :=
  let (sign, digits) : Int × List Char :=
    match value.toList with
    | '-' :: digits => (-1, digits)
    | '+' :: digits => (1, digits)
    | digits => (1, digits)
  let n := sign * (digits.foldl (fun n c => 10 * n + (c.toNat - '0'.toNat)) 0 : Nat)
  if !digits.isEmpty && digits.all Char.isDigit && decide (-2 ^ 63 ≤ n ∧ n < 2 ^ 63) then some n else none

def maxDuration : Duration := 2 ^ 63 - 1

/-- `Time.Sub`, which saturates. -/
def timeSub (t u : Time) : Duration := max (-2 ^ 63) (min maxDuration (t - u))

/-- `parseRetryAfter`; `parseTime` is `http.ParseTime`. -/
def parseRetryAfter (parseTime : String → Option Time) (value : String) (now : Time) : Duration :=
  if trimSpace value = "" then 0
  else match parseInt (trimSpace value) with
  | some seconds => if seconds ≤ 0 then 0 else durationOfSeconds seconds
  | none =>
    match parseTime (trimSpace value) with
    | none => 0
    | some deadline => if deadline ≤ now then 0 else timeSub deadline now

variable (parseTime : String → Option Time) (value : String) (now finishedAt : Time) (consecutiveFailures : Int) (draw : Nat)

/-- How long a rate-limited run with this header waits. -/
def rateLimitedPause : Duration :=
  failureNextRun finishedAt .rateLimited consecutiveFailures (parseRetryAfter parseTime value now) draw - finishedAt

/-- The pause is a quarter of an hour at least, and as long as a positive number of seconds, up to the longest duration. -/
structure Heeds : Prop where
  quarter : 15 * minute ≤ rateLimitedPause parseTime value now finishedAt consecutiveFailures draw
  seconds : ∀ n, parseInt (trimSpace value) = some n → 0 < n →
    min (n * second) maxDuration ≤ rateLimitedPause parseTime value now finishedAt consecutiveFailures draw

theorem rateLimitedPause_eq : rateLimitedPause parseTime value now finishedAt consecutiveFailures draw =
    max (parseRetryAfter parseTime value now) (15 * minute) := add_sub_cancel_left _ _

/-- Seconds whose nanoseconds do not fit wrap around, and never to the longest duration, which is odd. -/
theorem le_durationOfSeconds_iff {n : Int} (hn : 0 < n) :
    min (n * second) maxDuration ≤ max (durationOfSeconds n) (15 * minute) ↔ n ≤ 9223372036 := by
  unfold durationOfSeconds maxDuration minute second
  rw [Int.bmod_def]
  show min (n * 1000000000) (2 ^ 63 - 1 : Int) ≤ max (_ : Int) (15 * (60 * 1000000000)) ↔ _
  constructor
  · split <;> omega
  · intro hfits
    have hmod : n * 1000000000 % (2 ^ 64 : Nat) = n * 1000000000 := Int.emod_eq_of_lt (by omega) (by omega)
    split <;> omega

/-- **The pause heeds the header exactly if its seconds fit a duration.** -/
theorem retryAfter_heeds_iff : Heeds parseTime value now finishedAt consecutiveFailures draw ↔
    ∀ n, parseInt (trimSpace value) = some n → n ≤ 9223372036 := by
  have hparse : ∀ n, parseInt (trimSpace value) = some n → 0 < n →
      parseRetryAfter parseTime value now = durationOfSeconds n := by
    intro n hn hpositive
    have hne : trimSpace value ≠ "" := by
      intro hempty
      rw [hempty] at hn
      cases hn
    rw [parseRetryAfter, if_neg hne, hn]
    exact if_neg (not_le.mpr hpositive)
  constructor
  · intro h n hn
    rcases lt_or_ge 0 n with hpositive | hnegative
    · have hseconds := h.seconds n hn hpositive
      rw [rateLimitedPause_eq, hparse n hn hpositive] at hseconds
      exact (le_durationOfSeconds_iff hpositive).mp hseconds
    · omega
  · intro h
    refine ⟨?_, fun n hn hpositive => ?_⟩ <;> rw [rateLimitedPause_eq]
    · exact le_max_right _ _
    · rw [hparse n hn hpositive]
      exact (le_durationOfSeconds_iff hpositive).mpr (h n hn)

/-- A pause of 292 years and a second becomes the quarter of an hour. -/
theorem overflow_not_heeded : parseInt (trimSpace "9223372037") = some 9223372037 ∧
    rateLimitedPause (fun _ => none) "9223372037" 0 0 0 0 = 15 * minute ∧
    ¬ Heeds (fun _ => none) "9223372037" 0 0 0 0 := by
  have hparse : parseInt (trimSpace "9223372037") = some 9223372037 := by decide +kernel
  have hpause : rateLimitedPause (fun _ => none) "9223372037" 0 0 0 0 = 15 * minute := by decide +kernel
  refine ⟨hparse, hpause, fun h => ?_⟩
  have hseconds := h.seconds _ hparse (by decide)
  rw [hpause] at hseconds
  exact absurd hseconds (by decide)

end QrCommandCenter.Warwick
