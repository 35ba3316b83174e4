import QrCommandCenter.App.Config
import QrCommandCenter.Scraper.Refresh

/-!
# Leases of targets that wait

`RunDue` claims a batch in one statement. `executeClaimed` starts the runner of a target once it has a slot and a permit,
and `leaseHeartbeat` renews its lease from one interval after that start on.

* `Scheduler.admittedAt` : when `executeClaimed` starts the runner;
* `BatchRun` : a claimed batch, one of its targets, and its row while the runner fetches;
* `BatchRun.leased_iff` : the lease lasts through the fetch exactly if the first renewal, or the end of a shorter fetch,
  comes before the lease of the claim runs out.
-/

namespace QrCommandCenter.Scraper
open Domain Table Store

/-- The interval of `leaseHeartbeat`. -/
def Scheduler.heartbeatInterval (scheduler : Scheduler) : Duration := min (scheduler.leaseDuration / 3) (10 * second)

def Scheduler.renewal (scheduler : Scheduler) (target : ScrapeTarget) (now : Time) : RenewLeaseRequest where
  targetID := target.id
  workerID := scheduler.workerID
  leaseGeneration := target.leaseGeneration
  leaseDuration := scheduler.leaseDuration
  now := now

/-- When `executeClaimed` starts the runner, given the answers of the host controller and how late each wait ends. -/
def Scheduler.admittedAt (scheduler : Scheduler) (target : ScrapeTarget) :
    Time → List (PermitDecision × Nat) → Option Time
  | _, [] => none
  | now, (decision, late) :: answers =>
    match afterAdmission scheduler target now (.decided decision) with
    | .fetching _ _ => some (now + late)
    | .admitting _ => scheduler.admittedAt target (scheduler.retryAt decision now + late) answers
    | _ => none

/-- A batch of `RunDue`, and the run of one of its targets. -/
structure BatchRun (config : ScraperConfig) (scheduler : Scheduler) where
  leaseDuration : scheduler.leaseDuration = config.leaseDuration
  before : Store
  keyed : before.TargetsKeyed
  locked : List Int
  request : ClaimRequest
  requested : request.workerID = scheduler.workerID ∧ request.leaseDuration = scheduler.leaseDuration ∧
    request.limit ≤ config.baselineConcurrency * config.claimPrefetchFactor
  after : Store
  targets : List ScrapeTarget
  claimed : before.claimDue locked request = .ok (after, targets)
  /-- when a target gets its slot, and when it gives it back -/
  slotAt : ScrapeTarget → Time
  doneAt : ScrapeTarget → Time
  slots : ∀ target ∈ targets, request.now ≤ slotAt target ∧
    (targets.countP fun other => slotAt other ≤ slotAt target && slotAt target < doneAt other) ≤ config.baselineConcurrency
  target : ScrapeTarget
  mem : target ∈ targets
  answers : List (PermitDecision × Nat)
  start : Time
  admitted : scheduler.admittedAt target (slotAt target) answers = some start
  fetchEnd : Time
  fetched : start ≤ fetchEnd ∧ fetchEnd ≤ start + config.fetchTimeout ∧ fetchEnd ≤ doneAt target
  /-- the row of the target after each renewal -/
  rows : Nat → TargetRow
  first : after.target? target.id = some (rows 0)
  renewed : ∀ k : Nat, ∃ s s' : Store, s.target? target.id = some (rows k) ∧
    s.renewLease (scheduler.renewal target (start + (k + 1) * scheduler.heartbeatInterval)) = .ok s' ∧
    s'.target? target.id = some (rows (k + 1))

namespace BatchRun
variable {config : ScraperConfig} {scheduler : Scheduler}

section
variable (run : BatchRun config scheduler)

/-- The lease is unexpired until the fetch ends, so that the row is not `claimable`. -/
def Leased : Prop :=
  ∀ (k : Nat) (now : Time), run.start + k * scheduler.heartbeatInterval ≤ now →
    now ≤ run.start + (k + 1) * scheduler.heartbeatInterval → now ≤ run.fetchEnd →
      notAfter (run.rows k).leaseExpiresAt now = false

/-- When the lease that the claim wrote runs out. -/
def claimExpires : Time :=
  run.request.now + makeInterval (durationSeconds config.leaseDuration)

theorem rows_zero : (run.rows 0).leaseExpiresAt = some run.claimExpires ∧
    (run.rows 0).leaseOwner = some scheduler.workerID ∧ (run.rows 0).leaseGeneration = run.target.leaseGeneration := by
  obtain ⟨hworker, hlease, -⟩ := run.requested
  obtain ⟨due, n, hu, hperm⟩ := claimDue_inv run.claimed
  obtain ⟨t', ht', hscan⟩ := List.mem_map.mp (hperm.mem_iff.mp run.mem)
  obtain ⟨hm', hdue⟩ := List.mem_filter.mp ht'
  have hrow : run.after.target? t'.id = some t' := lookup_of_nodup ((claimDue_ok run.claimed).keyed run.keyed).nodup hm'
  have hid : run.target.id = t'.id := by rw [← hscan]; rfl
  have hfirst := run.first
  rw [hid, hrow, Option.some.injEq] at hfirst
  rw [(updateTargets_ok hu).1] at hm'
  obtain ⟨t, -, rfl⟩ := mem_updateWhere hm'
  by_cases hp : due.contains t.id = true
  · rw [if_pos hp] at hfirst hscan
    rw [← hfirst, ← hscan, claimExpires, ← run.leaseDuration, ← hlease, ← hworker]
    exact ⟨rfl, rfl, rfl⟩
  · rw [if_neg hp] at hdue
    exact absurd hdue hp

theorem rows_succ (k : Nat) :
    (run.rows (k + 1)).leaseExpiresAt = some (run.start + (k + 1) * scheduler.heartbeatInterval +
      makeInterval (durationSeconds config.leaseDuration)) := by
  have hstep (k : Nat) (howner : (run.rows k).leaseOwner = some scheduler.workerID)
      (hgen : (run.rows k).leaseGeneration = run.target.leaseGeneration) :
      run.rows (k + 1) = { run.rows k with leaseExpiresAt := some (run.start + (k + 1) * scheduler.heartbeatInterval +
        makeInterval (durationSeconds config.leaseDuration)) } := by
    obtain ⟨s, s', hrow, hrenew, hrow'⟩ := run.renewed k
    obtain ⟨n, hu⟩ := renewLease_inv hrenew
    have h := updateTargets_target? hu (fun _ => rfl) run.target.id
    simpa [Scheduler.renewal, hrow, hrow', (lookup_mem hrow).2, howner, hgen, run.leaseDuration] using h
  have hheld (k : Nat) : (run.rows k).leaseOwner = some scheduler.workerID ∧
      (run.rows k).leaseGeneration = run.target.leaseGeneration := by
    induction k with
    | zero => exact run.rows_zero.2
    | succ k ih => rw [hstep k ih.1 ih.2]; exact ih
  rw [hstep k (hheld k).1 (hheld k).2]

end

theorem interval_lt (hvalid : validateScraperConfig config = .ok ()) (run : BatchRun config scheduler) :
    0 ≤ scheduler.heartbeatInterval ∧ scheduler.heartbeatInterval < makeInterval (durationSeconds config.leaseDuration) := by
  obtain ⟨-, -, hlease, -⟩ := validateScraperConfig_ok hvalid
  have hbounds (lease : Int) (h : 30 * 1000000000 ≤ lease) : 0 ≤ min (lease / 3) (10 * 1000000000) ∧
      min (lease / 3) (10 * 1000000000) < lease.tdiv 1000000000 * 1000000000 := by
    rw [Int.tdiv_eq_ediv_of_nonneg (by omega)]
    omega
  rw [Scheduler.heartbeatInterval, run.leaseDuration]
  exact hbounds config.leaseDuration hlease

/-- **The lease of a running target is unexpired until its fetch ends exactly if the first renewal, or the end of the
fetch when it comes earlier, precedes the end of the lease that the claim of the whole batch wrote.** -/
theorem leased_iff (hvalid : validateScraperConfig config = .ok ()) (run : BatchRun config scheduler) :
    run.Leased ↔ min run.fetchEnd (run.start + scheduler.heartbeatInterval) < run.claimExpires := by
  obtain ⟨hnonneg, hlt⟩ := run.interval_lt hvalid
  have hstart := run.fetched.1
  constructor
  · intro h
    have h₀ := h 0 (min run.fetchEnd (run.start + scheduler.heartbeatInterval)) (by simp [hstart, hnonneg]) (by simp) (by simp)
    rw [run.rows_zero.1, notAfter, decide_eq_false_iff_not] at h₀
    exact not_le.mp h₀
  · intro h k now hlow hhigh hend
    cases k with
    | zero =>
      rw [Nat.cast_zero, zero_add, one_mul] at hhigh
      simp only [run.rows_zero.1, notAfter, decide_eq_false_iff_not, not_le]
      exact lt_of_le_of_lt (le_min hend hhigh) h
    | succ k =>
      rw [Nat.cast_succ, add_mul _ 1, one_mul] at hhigh
      simp only [run.rows_succ k, notAfter, decide_eq_false_iff_not, not_le]
      linarith

end BatchRun

/-! ## A target that waits for its slot -/

def queuedConfig : ScraperConfig :=
  { baselineConcurrency := 1, leaseDuration := 30 * second, fetchTimeout := 25 * second, permitGrace := second, commitGrace := 0 }

def queuedScheduler : Scheduler := { sampleScheduler with leaseDuration := 30 * second, commitGrace := 0 }

def queuedRow (id : Int) : TargetRow :=
  Store.seedRow id second { ref := { host := "h", kind := .courseCatalog, resourceKey := toString id }, initialInterval := minute,
                            minInterval := minute, maxInterval := minute, maxServeAge := minute, nextRunAt := second }

/-- The row as the claim or a renewal leaves it. -/
def claimedRow (id : Int) (expires : Time) : TargetRow :=
  { takeLease second "c" (30 * second) (queuedRow id) with leaseExpiresAt := some expires }

def queuedStore (targets : List TargetRow) : Store where
  hosts := [hostSeedRow second { host := "h", baselineRequestsPerSecond := 1, burst := 1, baselineConcurrency := 1, now := second }]
  targets := targets
  nextTargetId := 3

def queuedPermit : HostPermit := { id := 1, host := "h", targetID := 2, leaseGeneration := 1, expiresAt := minute }

theorem renewLease_queued (expires now : Time) :
    (queuedStore [claimedRow 2 expires]).renewLease (queuedScheduler.renewal (scanScrapeTarget (claimedRow 2 0)) now) =
      .ok (queuedStore [claimedRow 2 (now + 30 * second)]) := by
  have hids : ¬ ((2 : Int) ≤ 0 ∨ (1 : Int) ≤ 0) := by decide
  have hblank : ¬ isBlank "c" = true := by decide
  exact (if_neg hids).trans ((if_neg hblank).trans rfl)

def queuedExpiry (start : Time) : Nat → Time
  | 0 => 31 * second
  | k + 1 => start + (k + 1) * queuedScheduler.heartbeatInterval + 30 * second

/-- Two targets are claimed at second one for thirty seconds; the second has the only slot once the first is done. -/
def queuedRun (slow : Bool) : BatchRun queuedConfig queuedScheduler where
  leaseDuration := rfl
  before := queuedStore [queuedRow 1, queuedRow 2]
  keyed := ⟨by decide, by decide⟩
  locked := []
  request := { now := second, limit := 2, workerID := "c", leaseDuration := 30 * second }
  requested := by decide
  after := queuedStore [claimedRow 1 (31 * second), claimedRow 2 (31 * second)]
  targets := [scanScrapeTarget (claimedRow 1 (31 * second)), scanScrapeTarget (claimedRow 2 (31 * second))]
  claimed := by decide +kernel
  slotAt target := if target.id = 1 then second else if slow then 26 * second else 2 * second
  doneAt target := if target.id = 1 then (if slow then 26 * second else 2 * second) else minute
  slots := by cases slow <;> decide
  target := scanScrapeTarget (claimedRow 2 (31 * second))
  mem := List.mem_cons_of_mem _ List.mem_cons_self
  answers := [({ permit := some queuedPermit }, 0)]
  start := if slow then 26 * second else 2 * second
  admitted := by cases slow <;> rfl
  fetchEnd := if slow then 51 * second else 27 * second
  fetched := by cases slow <;> decide
  rows k := claimedRow 2 (queuedExpiry (if slow then 26 * second else 2 * second) k)
  first := rfl
  renewed k := ⟨_, _, rfl, renewLease_queued _ _, rfl⟩

theorem leased_quick : validateScraperConfig queuedConfig = .ok () ∧ (queuedRun false).Leased :=
  ⟨by decide +kernel, ((queuedRun false).leased_iff (by decide +kernel)).mpr (by decide)⟩

/-- **The second target fetches from second 26 on without a renewal until 36; its lease ran out at 31, and then another
worker can claim it.** -/
theorem queued_lease_expires : validateScraperConfig queuedConfig = .ok () ∧ ¬ (queuedRun true).Leased ∧
    ((queuedRun true).after.claimDue [] { now := 31 * second, limit := 2, workerID := "d", leaseDuration := minute }).map
      (fun claim => claim.2.map fun target => (target.id, target.leaseGeneration)) = .ok [(1, 2), (2, 2)] := by
  refine ⟨by decide +kernel, fun h => ?_, by decide +kernel⟩
  exact absurd (h 0 (31 * second) (by decide) (by decide) (by decide)) (by decide)

end QrCommandCenter.Scraper
