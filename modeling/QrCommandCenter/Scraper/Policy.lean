import Mathlib.Data.Rat.Floor
import QrCommandCenter.Domain.Snapshot

/-!
# Schedules

`internal/scraper/policy.go` and `DefaultPriority` of `internal/domain/snapshot.go`. A random draw is an argument: a
rational for `Float64`, and a natural number that `Int63n` reduces.

* `policyFor`, `nextSchedule` : the interval after a success;
* `failureDelay`, `applyJitter`, `fullJitter` : the delay after a failure and the spread of the runs.
-/

namespace QrCommandCenter.Scraper
open Domain

structure Policy where
  initial : Duration
  min : Duration
  max : Duration
  maxServeAge : Duration
deriving DecidableEq, Repr

def policyFor : SnapshotKind → SessionStatus → Policy
  | .courseCatalog, _ | .courseDetail, _ => ⟨hour, 15 * minute, 24 * hour, 48 * hour⟩
  | .sessionDetail, .done => ⟨12 * hour, hour, 30 * 24 * hour, 45 * 24 * hour⟩
  | .sessionDetail, .notStarted => ⟨hour, 15 * minute, 12 * hour, 24 * hour⟩
  | .sessionDetail, _ => ⟨5 * minute, minute, 30 * minute, 2 * hour⟩
  | .studentProfiles, _ => ⟨24 * hour, 6 * hour, 7 * 24 * hour, 14 * 24 * hour⟩
  | .other _, _ => ⟨0, 0, 0, 0⟩

def defaultPriority : SnapshotKind → SessionStatus → Int
  | .sessionDetail, .active | .sessionDetail, .notStarted => 20
  | .courseDetail, _ => 30
  | .courseCatalog, _ => 40
  | .studentProfiles, _ => 60
  | _, _ => 50

structure Schedule where
  interval : Duration
  history : List Bool
deriving DecidableEq, Repr

/-- `math.Round`: to the nearest integer, halves away from zero. -/
def round (x : ℚ) : Int := if 0 ≤ x then (x + 1 / 2).floor else -((-x + 1 / 2).floor)

/-- An interval within bounds; a bound that is not positive is no bound. -/
def clampInterval (low high interval : Int) : Int :=
  let interval := if 0 < low ∧ interval < low then low else interval
  if 0 < high ∧ high < interval then high else interval

def nextSchedule (policy : Policy) (current : Duration) (history : List Bool) (changed : Bool) : Schedule :=
  let current := if current ≤ 0 then policy.initial else current
  let current := if current ≤ 0 then policy.min else current
  let nextHistory := history ++ [changed]
  let nextHistory := nextHistory.drop (nextHistory.length - 10)
  let interval :=
    if changed then current.tdiv 2
    else if nextHistory.length = 10 && nextHistory.all (fun c => !c) then current * 2
    else round (current * (3 / 2))
  { interval := clampInterval policy.min policy.max interval, history := nextHistory }

def failureDelay (consecutiveFailures : Int) : Duration :=
  if consecutiveFailures ≤ 1 then minute
  else if 7 < consecutiveFailures then hour
  else min (minute * 2 ^ (consecutiveFailures - 1).toNat) hour

/-- `ApplyJitter`; `draw` is the `Float64` it takes from the generator. -/
def applyJitter (base : Duration) (fraction draw : ℚ) : Duration :=
  if base ≤ 0 ∨ fraction ≤ 0 then base
  else
    let fraction := min fraction 1
    let result := round (base + (draw * 2 - 1) * fraction * base)
    if result < 0 then 0 else result

/-- `FullJitter`; `draw` is what `Int63n` reduces. -/
def fullJitter (cap : Duration) (draw : Nat) : Duration := if cap ≤ 0 then 0 else draw % (cap + 1)

end QrCommandCenter.Scraper
