import Mathlib.Tactic.Positivity
import Mathlib.Tactic.NormNum
import QrCommandCenter.Lib.Bucket
import QrCommandCenter.Store.System

/-!
# The rate of a host

A host row holds a token bucket (`HostRow.bucket`) whose rate follows the observations and whose limits follow the
seeds. Permits are its tokens.

* `HostMove rate burst h n h'` : all that an operation can do to the row, giving out `n` permits;
* `HostRow.Metered` : the row keeps its limits and its bucket is `Bucket.Within` them;
* `exec_hostEffect` : every operation of the store is a move of the row that inserts as many permits as it counts;
* `host_rate_bound` : the bound on the permits of a host over a whole run.
-/

namespace QrCommandCenter
open Domain Table Transition

/-! ## The bucket of a row -/

def HostRow.bucket (h : HostRow) : Bucket ℚ where
  level := h.availableTokens
  capacity := h.burst
  rate := h.currentRequestsPerSecond
  clock := seconds h.tokensUpdatedAt

theorem seconds_sub (a b : Time) : seconds (a - b) = seconds a - seconds b := by
  unfold seconds
  rw [Int.cast_sub, sub_div]

theorem seconds_le {a b : Time} (h : a ≤ b) : seconds a ≤ seconds b := by
  have hcast : (a : ℚ) ≤ b := Int.cast_le.mpr h
  unfold seconds
  linarith

structure HostRow.Bounded (h : HostRow) : Prop where
  tokens : 0 ≤ h.availableTokens ∧ h.availableTokens ≤ h.burst
  rate : 1 / 4 ≤ h.currentRequestsPerSecond ∧ h.currentRequestsPerSecond ≤ h.baselineRequestsPerSecond
  concurrency : 1 ≤ h.currentConcurrency ∧ h.currentConcurrency ≤ h.baselineConcurrency

theorem refillTokens_eq {h : HostRow} (hb : h.Bounded) {now : Time} (hnow : h.tokensUpdatedAt ≤ now) :
    refillTokens h now = (h.bucket.refill (seconds now)).level := by
  obtain ⟨htokens, hburst⟩ := hb.tokens
  have hrate : 0 ≤ h.currentRequestsPerSecond := le_trans (by norm_num) hb.rate.1
  have helapsed : 0 ≤ seconds now - seconds h.tokensUpdatedAt := sub_nonneg.mpr (seconds_le hnow)
  have hfilled : 0 ≤ h.currentRequestsPerSecond * (seconds now - seconds h.tokensUpdatedAt) :=
    mul_nonneg hrate helapsed
  show refillTokens h now =
    min (h.burst : ℚ) (h.availableTokens + h.currentRequestsPerSecond * (seconds now - seconds h.tokensUpdatedAt))
  simp only [refillTokens, seconds_sub]
  rw [if_neg (not_lt.mpr helapsed), mul_comm (seconds now - seconds h.tokensUpdatedAt)]
  by_cases hfull : (h.burst : ℚ) <
      h.availableTokens + h.currentRequestsPerSecond * (seconds now - seconds h.tokensUpdatedAt)
  · rw [if_pos hfull, if_neg (not_lt.mpr (htokens.trans hburst)), min_eq_left hfull.le]
  · rw [if_neg hfull, if_neg (not_lt.mpr (by linarith)), min_eq_right (not_lt.mp hfull)]

/-- The row keeps its limits, they stay below `rate` and `burst`, and its bucket gave out `spent` tokens since `start`. -/
structure HostRow.Metered (rate : ℚ) (burst : Int) (start : Time) (spent : Nat) (h : HostRow) : Prop where
  bounded : h.Bounded
  baseline : h.baselineRequestsPerSecond ≤ rate
  within : h.bucket.Within rate burst (seconds start) spent

/-! ## Moves of a row -/

/-- What `seedHost` accepts, below the limits `rate` and `burst`. -/
structure HostStateSeed.Within (rate : ℚ) (burst : Int) (seed : HostStateSeed) : Prop where
  rate : 1 / 4 ≤ seed.baselineRequestsPerSecond ∧ seed.baselineRequestsPerSecond ≤ rate
  burst : 1 ≤ seed.burst ∧ seed.burst ≤ burst
  concurrency : 1 ≤ seed.baselineConcurrency

/-- All that an operation can do to a host row; `n` is the number of permits it gives out. -/
inductive HostMove (rate : ℚ) (burst : Int) (h : HostRow) : Nat → HostRow → Prop where
  | kept : HostMove rate burst h 0 h
  | refilled {now : Time} (hnow : h.tokensUpdatedAt ≤ now) : HostMove rate burst h 0
      { h with availableTokens := refillTokens h now, tokensUpdatedAt := now }
  | granted {now : Time} (hnow : h.tokensUpdatedAt ≤ now) (hone : 1 ≤ refillTokens h now) : HostMove rate burst h 1
      { h with availableTokens := refillTokens h now - 1, tokensUpdatedAt := now }
  | observed {now : Time} (observation : HostObservation) (hnow : h.tokensUpdatedAt ≤ now) : HostMove rate burst h 0
      (observeRow h observation now)
  | reseeded {seed : HostStateSeed} (hseed : seed.Within rate burst) : HostMove rate burst h 0
      (Store.onHostConflict seed h)

section Observe

theorem halved_rate {x baseline : ℚ} (hlow : 1 / 4 ≤ x) (hhigh : x ≤ baseline) :
    1 / 4 ≤ max (x / 2) (1 / 4) ∧ max (x / 2) (1 / 4) ≤ baseline :=
  ⟨le_max_right _ _, max_le (by linarith) (by linarith)⟩

theorem raised_rate {x baseline : ℚ} (hlow : 1 / 4 ≤ x) (hhigh : x ≤ baseline) :
    1 / 4 ≤ min (x + 1 / 4) baseline ∧ min (x + 1 / 4) baseline ≤ baseline :=
  ⟨le_min (by linarith) (by linarith), min_le_right _ _⟩

/-- The columns every observation writes alike, and the range of those it adapts. -/
structure Observed (h : HostRow) (now : Time) (h' : HostRow) : Prop where
  clock : h'.tokensUpdatedAt = now
  tokens : h'.availableTokens = min (refillTokens h now) h.burst
  limits : h'.burst = h.burst ∧ h'.baselineRequestsPerSecond = h.baselineRequestsPerSecond ∧
    h'.baselineConcurrency = h.baselineConcurrency
  rate : h.Bounded → 1 / 4 ≤ h'.currentRequestsPerSecond ∧ h'.currentRequestsPerSecond ≤ h.baselineRequestsPerSecond
  concurrency : 1 ≤ h.currentConcurrency ∧ h.currentConcurrency ≤ h.baselineConcurrency →
    1 ≤ h'.currentConcurrency ∧ h'.currentConcurrency ≤ h.baselineConcurrency

theorem observeRow_host (h : HostRow) (observation : HostObservation) (now : Time) :
    (observeRow h observation now).host = h.host := by
  unfold observeRow
  simp only
  split <;> try rfl
  split <;> rfl

theorem observeRow_observed (h : HostRow) (observation : HostObservation) (now : Time) :
    Observed h now (observeRow h observation now) := by
  -- the outcomes that leave the rate and the concurrency alone
  have hsame : ∀ h' : HostRow, h'.tokensUpdatedAt = now → h'.availableTokens = min (refillTokens h now) h.burst →
      h'.burst = h.burst ∧ h'.baselineRequestsPerSecond = h.baselineRequestsPerSecond ∧
        h'.baselineConcurrency = h.baselineConcurrency →
      h'.currentRequestsPerSecond = h.currentRequestsPerSecond → h'.currentConcurrency = h.currentConcurrency →
      Observed h now h' :=
    fun h' hclock htokens hlimits hrate hconcurrency =>
      ⟨hclock, htokens, hlimits, fun hb => hrate ▸ hb.rate, fun hc => hconcurrency ▸ hc⟩
  -- a success raises both when the streak is long enough
  have hhealthy : ∀ h' : HostRow, h' = observeRow h { observation with outcome := .changed } now →
      Observed h now h' := by
    rintro h' rfl
    by_cases hstreak : 20 ≤ h.healthyStreak + 1
    · refine ⟨rfl, rfl, ⟨rfl, rfl, rfl⟩, fun hb => ?_, fun hconcurrency => ?_⟩
      · have hrate := raised_rate hb.rate.1 hb.rate.2
        simpa only [observeRow, if_pos hstreak] using hrate
      · simp only [observeRow, if_pos hstreak]
        omega
    · refine hsame _ rfl rfl ⟨rfl, rfl, rfl⟩ ?_ ?_ <;> simp only [observeRow, if_neg hstreak]
  cases houtcome : observation.outcome with
  | rateLimited =>
    simp only [observeRow, houtcome]
    refine ⟨rfl, rfl, ⟨rfl, rfl, rfl⟩, fun hb => halved_rate hb.rate.1 hb.rate.2, fun hconcurrency => ?_⟩
    exact ⟨le_refl _, hconcurrency.1.trans hconcurrency.2⟩
  | changed | unchanged | notModified => exact hhealthy _ (by simp only [observeRow, houtcome])
  | transientError =>
    simp only [observeRow, houtcome]
    split
    · refine ⟨rfl, rfl, ⟨rfl, rfl, rfl⟩, fun hb => halved_rate hb.rate.1 hb.rate.2, fun hconcurrency => ?_⟩
      show 1 ≤ max (h.currentConcurrency - 1) 1 ∧ max (h.currentConcurrency - 1) 1 ≤ h.baselineConcurrency
      omega
    · exact hsame _ rfl rfl ⟨rfl, rfl, rfl⟩ rfl rfl
  | _ =>
    simp only [observeRow, houtcome]
    exact hsame _ rfl rfl ⟨rfl, rfl, rfl⟩ rfl rfl

end Observe

section Moves
variable {rate : ℚ} {burst : Int} {start : Time} {spent : Nat} {h h' : HostRow}
variable {now : Time}

theorem HostMove.clock_le {n : Nat} (hm : HostMove rate burst h n h') : h.tokensUpdatedAt ≤ h'.tokensUpdatedAt := by
  cases hm with
  | kept => exact le_refl _
  | refilled hnow | granted hnow _ => exact hnow
  | @observed now observation hnow =>
    rw [(observeRow_observed h observation now).clock]
    exact hnow
  | reseeded => exact le_refl _

section
variable (hm : h.Metered rate burst start spent)
include hm

theorem HostRow.Metered.refillTokens_within (hnow : h.tokensUpdatedAt ≤ now) :
    HostRow.Metered rate burst start spent { h with availableTokens := refillTokens h now, tokensUpdatedAt := now } := by
  have hrefill := hm.within.refill (seconds_le hnow)
  have heq := refillTokens_eq hm.bounded hnow
  have hbucket : HostRow.bucket { h with availableTokens := refillTokens h now, tokensUpdatedAt := now } =
      h.bucket.refill (seconds now) := by
    unfold HostRow.bucket
    rw [heq]
    rfl
  rw [← hbucket] at hrefill
  exact ⟨⟨⟨hrefill.level_nonneg, hrefill.level_le⟩, hm.bounded.rate, hm.bounded.concurrency⟩, hm.baseline, hrefill⟩

theorem HostRow.Metered.observeRow (observation : HostObservation)
    (hnow : h.tokensUpdatedAt ≤ now) : (observeRow h observation now).Metered rate burst start spent := by
  obtain ⟨hclock, htokens, ⟨hburst, hbaseline, hlimit⟩, hrate, hconcurrency⟩ := observeRow_observed h observation now
  have hrefilled := hm.refillTokens_within hnow
  have hlevel : min (refillTokens h now) h.burst = refillTokens h now := min_eq_left hrefilled.bounded.tokens.2
  have hrate := hrate hm.bounded
  have hwithin := hrefilled.within.setRate (le_trans (by norm_num) hrate.1) (hrate.2.trans hm.baseline)
  have hbucket : (QrCommandCenter.observeRow h observation now).bucket =
      (HostRow.bucket { h with availableTokens := refillTokens h now, tokensUpdatedAt := now }).setRate
        (QrCommandCenter.observeRow h observation now).currentRequestsPerSecond := by
    unfold HostRow.bucket
    rw [hclock, htokens, hburst, hlevel]
    rfl
  rw [← hbucket] at hwithin
  refine ⟨⟨⟨hwithin.level_nonneg, hwithin.level_le⟩, ?_, ?_⟩, ?_, hwithin⟩
  · rw [hbaseline]
    exact hrate
  · rw [hlimit]
    exact hconcurrency hm.bounded.concurrency
  · rw [hbaseline]
    exact hm.baseline

theorem HostRow.Metered.reseed {seed : HostStateSeed}
    (hseed : seed.Within rate burst) : (Store.onHostConflict seed h).Metered rate burst start spent := by
  obtain ⟨hlow, hhigh⟩ := hm.bounded.rate
  obtain ⟨hslow, hshigh⟩ := hseed.rate
  have hrate : 1 / 4 ≤ min h.currentRequestsPerSecond seed.baselineRequestsPerSecond := le_min hlow hslow
  have hcapacity : (0 : ℚ) ≤ seed.burst := Int.cast_nonneg (le_trans (by decide) hseed.burst.1)
  have hresized := hm.within.resize hcapacity (Int.cast_le.mpr hseed.burst.2)
  have hwithin := hresized.setRate (le_trans (by norm_num) hrate) ((min_le_right _ _).trans hshigh)
  refine ⟨⟨⟨hwithin.level_nonneg, hwithin.level_le⟩, ⟨hrate, min_le_right _ _⟩, ?_⟩, hshigh, hwithin⟩
  exact ⟨le_min hm.bounded.concurrency.1 hseed.concurrency, min_le_right _ _⟩

theorem HostRow.Metered.grant (hnow : h.tokensUpdatedAt ≤ now)
    (hone : 1 ≤ refillTokens h now) : HostRow.Metered rate burst start (spent + 1)
      { h with availableTokens := refillTokens h now - 1, tokensUpdatedAt := now } := by
  have hwithin := (hm.refillTokens_within hnow).within.take hone
  exact ⟨⟨⟨hwithin.level_nonneg, hwithin.level_le⟩, hm.bounded.rate, hm.bounded.concurrency⟩, hm.baseline, hwithin⟩

end

theorem HostMove.metered {n : Nat} (hmove : HostMove rate burst h n h') (hm : h.Metered rate burst start spent) :
    h'.Metered rate burst start (spent + n) := by
  cases hmove with
  | kept => exact hm
  | refilled hnow => exact hm.refillTokens_within hnow
  | granted hnow hone => exact hm.grant hnow hone
  | observed observation hnow => exact hm.observeRow observation hnow
  | reseeded hseed => exact hm.reseed hseed

theorem hostSeedRow_metered {seed : HostStateSeed} (hseed : seed.Within rate burst) (now : Time) :
    (Store.hostSeedRow now seed).Metered rate burst now 0 := by
  have hcapacity : (0 : ℚ) ≤ seed.burst := Int.cast_nonneg (le_trans (by decide) hseed.burst.1)
  have hrate : 0 ≤ seed.baselineRequestsPerSecond := le_trans (by norm_num) hseed.rate.1
  have hwithin : (Store.hostSeedRow now seed).bucket.Within rate burst (Store.hostSeedRow now seed).bucket.clock 0 :=
    .full hcapacity rfl (Int.cast_le.mpr hseed.burst.2) hrate hseed.rate.2
  exact ⟨⟨⟨hcapacity, le_refl _⟩, ⟨hseed.rate.1, le_refl _⟩, ⟨hseed.concurrency, le_refl _⟩⟩, hseed.rate.2, hwithin⟩

end Moves

/-! ## Steps of the store -/

def insertedPermits (host : String) (s s' : Store) : List PermitRow :=
  (inserted PermitRow.id s.permits s'.permits).filter fun p => p.host = host

/-- An operation seeds `host` below the limits only. -/
def Op.SeedsWithin (host : String) (rate : ℚ) (burst : Int) : Op → Prop
  | .seedHost _ state => state.host = host → state.baselineRequestsPerSecond ≤ rate ∧ state.burst ≤ burst
  | _ => True

namespace Store

/-- The primary key of `scrape_host_permits`. -/
def PermitsKeyed (s : Store) : Prop := Keyed PermitRow.id s.nextPermitId s.permits

/-- What a step does to a host: its row makes a move that gives out as many permits as the step inserts. -/
structure HostEffect (host : String) (rate : ℚ) (burst : Int) (s s' : Store) : Prop where
  keyed : s'.PermitsKeyed
  moved : ∀ h, s.host? host = some h →
    ∃ h', s'.host? host = some h' ∧ HostMove rate burst h (insertedPermits host s s').length h'

variable {host : String} {rate : ℚ} {burst : Int} {s s' : Store}

theorem insertedPermits_deleted (hd : Deleted s.permits s'.permits) : insertedPermits host s s' = [] := by
  unfold insertedPermits
  rw [hd.inserted]
  rfl

theorem HostEffect.of_deleted (hk : s.PermitsKeyed) (hd : Deleted s.permits s'.permits)
    (hnext : s'.nextPermitId = s.nextPermitId)
    (hmoved : ∀ h, s.host? host = some h → ∃ h', s'.host? host = some h' ∧ HostMove rate burst h 0 h') :
    HostEffect host rate burst s s' := by
  refine ⟨?_, fun h hh => ?_⟩
  · unfold PermitsKeyed
    rw [hnext]
    exact hd.keyed hk
  · obtain ⟨h', hh', hm⟩ := hmoved h hh
    refine ⟨h', hh', ?_⟩
    rw [insertedPermits_deleted hd]
    exact hm

theorem HostEffect.of_frame (hk : s.PermitsKeyed) (hhosts : s'.hosts = s.hosts) (hd : Deleted s.permits s'.permits)
    (hnext : s'.nextPermitId = s.nextPermitId) : HostEffect host rate burst s s' := by
  refine .of_deleted hk hd hnext fun h hh => ⟨h, ?_, .kept⟩
  unfold host? at hh ⊢
  rw [hhosts]
  exact hh

theorem HostEffect.refl (hk : s.PermitsKeyed) : HostEffect host rate burst s s :=
  .of_frame hk rfl (Deleted.refl _) rfl

theorem moved_of_updateWhere (name : String) {f : HostRow → HostRow} {n : Nat}
    (hhosts : s'.hosts = updateWhere (fun h => h.host = name) f s.hosts) (hf : ∀ h, (f h).host = h.host)
    (hmove : ∀ h, s.host? name = some h → name = host → HostMove rate burst h n (f h)) (hn : name ≠ host → n = 0)
    {h : HostRow} (hh : s.host? host = some h) :
    ∃ h', s'.host? host = some h' ∧ HostMove rate burst h n h' := by
  have hhost : h.host = host := (lookup_mem hh).2
  have hrow : s'.host? host = some (if h.host = name then f h else h) := by
    rw [host?_updateWhere name hhosts hf host, hh, Option.map_some]
  refine ⟨_, hrow, ?_⟩
  by_cases hname : name = host
  · rw [if_pos (hhost.trans hname.symm)]
    exact hmove h (hname ▸ hh) hname
  · have hother : h.host ≠ name := fun e => hname (e.symm.trans hhost)
    rw [if_neg hother, hn hname]
    exact .kept

theorem seedHost_inv {clock : Time} {seed : HostStateSeed} (h : s.seedHost clock seed = .ok s') :
    1 / 4 ≤ seed.baselineRequestsPerSecond ∧ 1 ≤ seed.burst ∧ 1 ≤ seed.baselineConcurrency ∧
      (s.host? seed.host = none ∧ (∃ now, (now = clock ∨ now = seed.now) ∧
          s' = { s with hosts := s.hosts ++ [hostSeedRow now seed] }) ∨
        (s.host? seed.host).isSome ∧ s' = s.updateHost seed.host (onHostConflict seed)) := by
  unfold seedHost at h
  split at h
  · cases h
  split at h
  · cases h
  split at h
  · cases h
  split at h
  · cases h
  rename_i _ hrate hburst hconcurrency
  rw [not_or, not_lt, not_lt] at hrate hburst hconcurrency
  refine ⟨hrate.1, hburst.1, hconcurrency.1, ?_⟩
  cases hhost : s.host? seed.host with
  | none =>
    rw [hhost] at h
    cases h
    refine .inl ⟨rfl, _, ?_, rfl⟩
    split
    · exact .inl rfl
    · exact .inr rfl
  | some row =>
    rw [hhost] at h
    cases h
    exact .inr ⟨rfl, rfl⟩

theorem seedHost_effect {clock : Time} {seed : HostStateSeed} (hk : s.PermitsKeyed)
    (hlimits : seed.host = host → seed.baselineRequestsPerSecond ≤ rate ∧ seed.burst ≤ burst)
    (h : s.seedHost clock seed = .ok s') : HostEffect host rate burst s s' := by
  obtain ⟨hrate, hburst, hconcurrency, ⟨hnone, now, -, rfl⟩ | ⟨-, rfl⟩⟩ := seedHost_inv h
  · refine .of_deleted hk (Deleted.refl _) rfl fun row hrow => ⟨row, ?_, .kept⟩
    unfold host? at hrow ⊢
    rw [lookup_append, hrow, Option.some_or]
  · refine .of_deleted hk (Deleted.refl _) rfl fun row hrow => ?_
    refine moved_of_updateWhere seed.host rfl (fun _ => ?_) (fun _ _ hname => ?_) (fun _ => rfl) hrow
    · rfl
    · obtain ⟨hr, hb⟩ := hlimits hname
      exact .reseeded ⟨⟨hrate, hr⟩, ⟨hburst, hb⟩, hconcurrency⟩

theorem observeHost_effect {observation : HostObservation} (hk : s.PermitsKeyed)
    (h : s.observeHost observation = .ok s') : HostEffect host rate burst s s' := by
  obtain ⟨state, hstate, rfl⟩ := observeHost_inv h
  refine .of_deleted hk (Deleted.refl _) rfl fun row hrow => ?_
  refine moved_of_updateWhere observation.host rfl (fun row => ?_) (fun row' hrow' _ => ?_) (fun _ => rfl) hrow
  · exact observeRow_host row observation _
  · rw [hstate] at hrow'
    cases hrow'
    exact .observed observation (le_max_right _ _)

theorem insertedPermits_grant (hk : s.PermitsKeyed) {p : PermitRow → Bool} {row : PermitRow}
    (hid : row.id = s.nextPermitId) (hpermits : s'.permits = deleteWhere p s.permits ++ [row]) :
    (insertedPermits host s s').length = if row.host = host then 1 else 0 := by
  have hinserted : inserted PermitRow.id s.permits (deleteWhere p s.permits ++ [row]) = [row] := by
    refine inserted_append (fun k hk' => ?_) fun r hr => ?_
    · obtain ⟨q, hq, e⟩ := List.mem_map.mp hk'
      exact e ▸ List.mem_map_of_mem (mem_deleteWhere.mp hq).1
    · rw [List.mem_singleton.mp hr, hid]
      exact hk.lookup_next
  unfold insertedPermits
  rw [hpermits, hinserted]
  by_cases hhost : row.host = host <;> simp [hhost]

theorem acquireHostPermit_effect {request : AcquireHostPermitRequest} {decision : PermitDecision}
    (hk : s.PermitsKeyed) (h : s.acquireHostPermit request = .ok (s', decision)) :
    HostEffect host rate burst s s' := by
  obtain rfl | ⟨state, now, hstate, rfl, rfl | hdecide⟩ := acquireHostPermit_inv h
  · exact .refl hk
  · exact .of_frame hk rfl ⟨_, rfl⟩ rfl
  have hnow : state.tokensUpdatedAt ≤ max request.now state.tokensUpdatedAt := le_max_right _ _
  generalize max request.now state.tokensUpdatedAt = now at hdecide hnow
  obtain rfl | ⟨hone, row, hid, hhost, rfl⟩ := decidePermit_inv hdecide
  · -- blocked: the bucket is refilled
    refine .of_deleted hk ⟨_, rfl⟩ rfl fun h hh => ?_
    refine moved_of_updateWhere request.host rfl (fun _ => ?_) (fun h' hh' _ => ?_) (fun _ => rfl) hh
    · rfl
    · rw [hstate] at hh'
      cases hh'
      exact .refilled hnow
  · -- granted: one token and one row
    refine ⟨Keyed.snoc (hk.deleteWhere _) hid (lt_add_one s.nextPermitId), fun h hh => ?_⟩
    rw [insertedPermits_grant hk hid rfl, hhost]
    refine moved_of_updateWhere request.host rfl (fun _ => ?_) (fun h' hh' hname => ?_) (fun hname => if_neg hname) hh
    · rfl
    · rw [hstate] at hh'
      cases hh'
      rw [if_pos hname]
      exact .granted hnow hone

/-- **Every operation is a move of the host's row.** -/
theorem exec_hostEffect (len : SnapshotMetadata → Nat) (hk : s.PermitsKeyed) {op : Op}
    (hop : op.SeedsWithin host rate burst) : HostEffect host rate burst s (s.exec len op).1 := by
  have hs : HostEffect host rate burst s s := .refl hk
  have hframe : writesHost op = false → HostEffect host rate burst s (s.exec len op).1 := by
    intro hwrites
    have h := exec_hostFrame len s hwrites
    exact .of_frame hk h.hosts h.deleted h.nextPermitId
  cases op with
  | seedHost clock seed => exact settle_of hs fun _ h => seedHost_effect hk hop h
  | acquireHostPermit request => exact answer_of hs fun _ _ h => acquireHostPermit_effect hk h
  | observeHost observation => exact settle_of hs fun _ h => observeHost_effect hk h
  | _ => exact hframe rfl

theorem exec_permitsKeyed (len : SnapshotMetadata → Nat) (s : Store) (op : Op) (hk : s.PermitsKeyed) :
    (s.exec len op).1.PermitsKeyed := by
  -- every operation seeds within some limits
  have hlimits : ∃ rate burst, op.SeedsWithin "" rate burst := by
    cases op with
    | seedHost clock seed => exact ⟨seed.baselineRequestsPerSecond, seed.burst, fun _ => ⟨le_refl _, le_refl _⟩⟩
    | _ => exact ⟨0, 0, trivial⟩
  obtain ⟨rate, burst, hop⟩ := hlimits
  exact (exec_hostEffect len hk hop).keyed

end Store

/-! ## Runs -/

def grantedPermits (host : String) (events : List (Event Store Op Response)) : List PermitRow :=
  events.flatMap fun e => insertedPermits host e.pre e.post

/-- A step that keeps the limits of a host and does not turn its clock back. -/
def StepBounded (host : String) (e : Event Store Op Response) : Prop :=
  ∃ h h', e.pre.host? host = some h ∧ e.post.host? host = some h' ∧ h.Bounded ∧ h'.Bounded ∧
    h.tokensUpdatedAt ≤ h'.tokensUpdatedAt

/-- What a run of the store keeps of a host since its row `first`. -/
structure RateBound (host : String) (rate : ℚ) (burst : Int) (first : HostRow)
    (events : List (Event Store Op Response)) (s : Store) : Prop where
  granted : ∃ h, s.host? host = some h ∧ h.Bounded ∧
    ((grantedPermits host events).length : ℚ) ≤ burst + rate * seconds (h.tokensUpdatedAt - first.tokensUpdatedAt)
  steps : ∀ e ∈ events, StepBounded host e

/-- The invariant that carries `RateBound`. -/
structure HostHistory (host : String) (rate : ℚ) (burst : Int) (start : Time)
    (events : List (Event Store Op Response)) (s : Store) : Prop where
  keyed : s.PermitsKeyed
  metered : ∃ h, s.host? host = some h ∧ h.Metered rate burst start (grantedPermits host events).length
  steps : ∀ e ∈ events, StepBounded host e

theorem hostHistory_step (len : SnapshotMetadata → Nat) {host : String} {rate : ℚ} {burst : Int}
    {start : Time} {events : List (Event Store Op Response)} {s : Store} {op : Op}
    (hop : op.SeedsWithin host rate burst) (h : HostHistory host rate burst start events s) :
    HostHistory host rate burst start (events ++ [Event.of (Store.exec len) s op])
      (s.exec len op).1 := by
  obtain ⟨row, hrow, hmetered⟩ := h.metered
  have heffect := Store.exec_hostEffect len h.keyed hop
  obtain ⟨row', hrow', hmove⟩ := heffect.moved row hrow
  have hmetered' := hmove.metered hmetered
  refine ⟨heffect.keyed, ⟨row', hrow', ?_⟩, fun e he => ?_⟩
  · have hcount : (grantedPermits host (events ++ [Event.of (Store.exec len) s op])).length =
        (grantedPermits host events).length + (insertedPermits host s (s.exec len op).1).length := by
      simp [grantedPermits, Event.of, List.flatMap_append]
    rw [hcount]
    exact hmetered'
  · rcases List.mem_append.mp he with he | he
    · exact h.steps e he
    · rw [List.mem_singleton.mp he]
      exact ⟨row, row', hrow, hrow', hmetered.bounded, hmetered'.bounded, hmove.clock_le⟩

theorem seedHost_hostHistory {s₀ s : Store} {clock : Time} {seed : HostStateSeed} {rate : ℚ} {burst : Int}
    (hk : s₀.PermitsKeyed) (hnew : s₀.host? seed.host = none) (hseed : s₀.seedHost clock seed = .ok s)
    (hlimits : seed.baselineRequestsPerSecond ≤ rate ∧ seed.burst ≤ burst) :
    ∃ first, s.host? seed.host = some first ∧ HostHistory seed.host rate burst first.tokensUpdatedAt [] s := by
  obtain ⟨hrate, hburst, hconcurrency, ⟨-, now, -, rfl⟩ | ⟨hsome, -⟩⟩ := Store.seedHost_inv hseed
  · have hfirst : Store.host? { s₀ with hosts := s₀.hosts ++ [Store.hostSeedRow now seed] } seed.host =
        some (Store.hostSeedRow now seed) := by
      unfold Store.host? at hnew ⊢
      rw [lookup_append, hnew, Option.none_or]
      simp [lookup, Store.hostSeedRow]
    have hmetered := hostSeedRow_metered ⟨⟨hrate, hlimits.1⟩, ⟨hburst, hlimits.2⟩, hconcurrency⟩ now
    exact ⟨_, hfirst, hk, ⟨_, hfirst, hmetered⟩, fun _ he => by cases he⟩
  · rw [hnew] at hsome
    cases hsome

/-- **The rate of a host.** From empty tables, after `host` is first seeded and as long as it is seeded with rates up to
`rate` and bursts up to `burst`, the row keeps its limits, its clock never goes back, and the permits granted are
bounded by the burst and the time on that clock. -/
theorem host_rate_bound (notificationLength : SnapshotMetadata → Nat) (before after : List Op) (clock : Time)
    (seed : HostStateSeed) (rate : ℚ) (burst : Int) (s : Store)
    (hnew : (final (Store.exec notificationLength) {} before).host? seed.host = none)
    (hseed : (final (Store.exec notificationLength) {} before).seedHost clock seed = .ok s)
    (hlimits : seed.baselineRequestsPerSecond ≤ rate ∧ seed.burst ≤ burst)
    (hafter : ∀ op ∈ after, op.SeedsWithin seed.host rate burst) :
    ∃ first, s.host? seed.host = some first ∧
      RateBound seed.host rate burst first (trace (Store.exec notificationLength) s after)
        (final (Store.exec notificationLength) s after) := by
  have hempty : Store.PermitsKeyed {} := Keyed.nil
  have hk : (final (Store.exec notificationLength) {} before).PermitsKeyed :=
    final_inv (Store.exec_permitsKeyed notificationLength) hempty before
  obtain ⟨first, hfirst, hstart⟩ := seedHost_hostHistory hk hnew hseed hlimits
  have hhistory : HostHistory seed.host rate burst first.tokensUpdatedAt
      (trace (Store.exec notificationLength) s after) (final (Store.exec notificationLength) s after) :=
    history_inv hstart after fun _ _ op hop h => hostHistory_step notificationLength (hafter op hop) h
  obtain ⟨row, hrow, hmetered⟩ := hhistory.metered
  refine ⟨first, hfirst, ⟨row, hrow, hmetered.bounded, ?_⟩, hhistory.steps⟩
  have hspent := hmetered.within.spent_le
  rw [seconds_sub]
  exact hspent

def meteredSeed : HostStateSeed where
  host := "h"
  baselineRequestsPerSecond := 1
  burst := 1
  baselineConcurrency := 2
  now := second

/-- Three claims of a target ask for a permit at second ten, at second three and at second eleven. -/
def meteredRun : List Op :=
  let ref : TargetRef := { host := "h", kind := .courseCatalog, resourceKey := "all" }
  let claim (now : Time) : Op :=
    .claimOne [] { ref := ref, now := now, workerID := "a", leaseDuration := second / 2 }
  let acquire (generation : Int) (now : Time) : Op := .acquireHostPermit
    { host := "h", targetID := 1, workerID := "a", leaseGeneration := generation, now := now, ttl := minute }
  [.seed second [{ ref := ref, initialInterval := minute, minInterval := minute, maxInterval := minute
                   maxServeAge := hour, nextRunAt := second }],
    claim (10 * second), acquire 1 (10 * second), claim (11 * second), acquire 2 (3 * second), acquire 2 (11 * second)]

theorem host_rate_bound_meteredRun :
    (∃ first, Store.host? { hosts := [Store.hostSeedRow second meteredSeed] } "h" = some first ∧
      RateBound "h" 1 1 first (trace (Store.exec fun _ => 0) { hosts := [Store.hostSeedRow second meteredSeed] } meteredRun)
        (final (Store.exec fun _ => 0) { hosts := [Store.hostSeedRow second meteredSeed] } meteredRun)) ∧
    (grantedPermits "h" (trace (Store.exec fun _ => 0)
      { hosts := [Store.hostSeedRow second meteredSeed] } meteredRun)).map PermitRow.acquiredAt =
        [10 * second, 11 * second] := by
  refine ⟨host_rate_bound _ [] meteredRun 0 meteredSeed 1 1 _ (by decide) (by decide +kernel) (by decide +kernel) ?_,
    by decide +kernel⟩
  intro op hop
  simp only [meteredRun, List.mem_cons, List.not_mem_nil, or_false] at hop
  rcases hop with rfl | rfl | rfl | rfl | rfl | rfl <;> trivial

end QrCommandCenter
