import QrCommandCenter.App.Config
import QrCommandCenter.Store.Fencing
import QrCommandCenter.Store.Permits

/-!
# Upstream fetches under a permit

A run (`RunClaimedWithRelease` under `executeClaimed`) holds its host permit until it ends: for the fetch, and for the
confirmation fetch of a suspicious candidate. Time passes during the fetches only, and each of them stops at the fetch
timeout.

* `hostControllerAcquire` : `HostController.Acquire` with the TTL of the configuration;
* `Fleet`, `FleetOp`, `Fleet.exec` : the store, the clock, and the runs with a fetch in flight;
* `Fleet.Covered` : every fetch runs under an unexpired permit, and no more of them than the concurrency of the latest grant;
* `Fleet.Steady` : the invariant of a configuration whose grace outlasts a fetch;
* `fleet_covered_iff` : exactly those configurations cover every run.
-/

namespace QrCommandCenter
open Domain Table Transition

variable {config : ScraperConfig} {request : AcquireHostPermitRequest} {decision : PermitDecision} {elapsed : Duration}

/-- The `SeedHost` of the bootstrap. -/
def ScraperConfig.hostSeed (config : ScraperConfig) (now : Time) : HostStateSeed where
  host := config.host
  baselineRequestsPerSecond := config.baselineRequestsPerSecond
  burst := config.burst
  baselineConcurrency := config.baselineConcurrency
  now := now

def hostControllerAcquire (s : Store) (permitTTL : Duration) (target : ScrapeTarget) (workerID : String) (now : Time) :
    Except StoreError (Store × PermitDecision) :=
  if target.id ≤ 0 ∨ target.leaseGeneration ≤ 0 then .error (.leaseLost "")
  else if isBlank workerID then .error (.invalid "host permit worker ID is required")
  else s.acquireHostPermit {
    host := target.ref.host
    targetID := target.id
    workerID := workerID
    leaseGeneration := target.leaseGeneration
    now := now
    ttl := permitTTL }

/-- A run with an upstream fetch in flight since `startedAt`; `concurrency` was in force when its permit was granted. -/
structure Flight where
  permit : HostPermit
  startedAt : Time
  confirming : Bool := false
  concurrency : Int
deriving DecidableEq, Repr

section
variable (clock : Time) (permitID : Int) (f : Flight)

def Flight.confirmAt : Flight :=
  if f.permit.id = permitID then { f with startedAt := clock, confirming := true } else f

theorem Flight.confirmAt_permit :
    (f.confirmAt clock permitID).permit = f.permit := by
  unfold Flight.confirmAt
  split <;> rfl

theorem Flight.confirmAt_concurrency :
    (f.confirmAt clock permitID).concurrency = f.concurrency := by
  unfold Flight.confirmAt
  split <;> rfl

end

/-- The store, the clock of all processes, the claims that no run has started for, and the flights, latest grant first. -/
structure Fleet where
  store : Store := {}
  clock : Time := 0
  claims : List (Int × Int) := []
  flights : List Flight := []

inductive FleetOp where
  | tick (elapsed : Duration)
  | transaction (op : Op)
  | acquire (target : ScrapeTarget) (workerID : String)
  | fetched (permitID : Int) (suspicious : Bool)
  | confirmed (permitID : Int)

def Op.outsideRuns (clock : Time) : Op → Bool
  | .seedHost now state => now ≤ clock && state.now ≤ clock
  | .observeHost observation => observation.observedAt ≤ clock
  | .prunePermits now => now ≤ clock
  | .prune request => request.now ≤ clock
  | .acquireHostPermit _ | .releaseHostPermit _ => false
  | _ => true

namespace Fleet

/-- The end of a run releases its permit. -/
def finish (w : Fleet) (permitID : Int) : Fleet :=
  { w with store := w.store.releaseHostPermit permitID
           flights := w.flights.filter fun f => f.permit.id ≠ permitID }

/-- The confirmation fetch follows the fetch of a suspicious candidate. -/
def confirm (w : Fleet) (permitID : Int) : Fleet :=
  { w with flights := w.flights.map (Flight.confirmAt w.clock permitID) }

/-- The start of a run: a claim is executed once, with the permit that the store grants it. -/
def start (w : Fleet) (s : Store) (target : ScrapeTarget) (permit : HostPermit) : Fleet :=
  { w with
    store := s
    claims := w.claims.filter fun lease => lease ≠ (target.id, target.leaseGeneration)
    flights := { permit := permit, startedAt := w.clock
                 concurrency := ((w.store.host? target.ref.host).map HostRow.currentConcurrency).getD 0 } :: w.flights }

variable (notificationLength : SnapshotMetadata → Nat) (config : ScraperConfig)

def exec (w : Fleet) : FleetOp → Fleet × Unit
  | .tick elapsed =>
    -- `context.WithTimeout` ends a fetch at the timeout
    if 0 ≤ elapsed ∧ ∀ f ∈ w.flights, w.clock + elapsed ≤ f.startedAt + config.fetchTimeout then
      ({ w with clock := w.clock + elapsed }, ())
    else (w, ())
  | .transaction op =>
    if op.outsideRuns w.clock then
      ({ w with store := (w.store.exec notificationLength op).1
                claims := claimedLeases (Event.of (Store.exec notificationLength) w.store op) ++ w.claims }, ())
    else (w, ())
  | .acquire target workerID =>
    if (target.id, target.leaseGeneration) ∈ w.claims then
      match hostControllerAcquire w.store config.permitTTL target workerID w.clock with
      | .error _ => (w, ())
      | .ok (s, decision) =>
        match decision.permit with
        | none => ({ w with store := s }, ())
        | some permit => (w.start s target permit, ())
    else (w, ())
  | .fetched permitID suspicious =>
    if w.flights.any fun f => f.permit.id = permitID && !f.confirming then
      (if suspicious then w.confirm permitID else w.finish permitID, ())
    else (w, ())
  | .confirmed permitID =>
    if w.flights.any fun f => f.permit.id = permitID && f.confirming then (w.finish permitID, ())
    else (w, ())

/-- The runs of a host with a fetch in flight, latest grant first. -/
def inFlight (w : Fleet) (host : String) : List Flight := w.flights.filter fun f => f.permit.host = host

/-- Every fetch in flight is under an unexpired permit, and those of a host are no more than the concurrency at the
latest grant. -/
structure Covered (w : Fleet) : Prop where
  permit : ∀ f ∈ w.flights, ∃ p ∈ w.store.permits, p.id = f.permit.id ∧ w.clock < p.expiresAt
  concurrency : ∀ host f, (w.inFlight host).head? = some f → ((w.inFlight host).length : Int) ≤ f.concurrency

end Fleet

/-! ## Steps of the store -/

variable {op : Op}

namespace Store
variable {s s' : Store} {clock : Time}

def BucketsBy (clock : Time) (s : Store) : Prop := ∀ h ∈ s.hosts, h.tokensUpdatedAt ≤ clock

/-- What a step at the clock leaves of the permits when it grants none: those that are unexpired. -/
structure Unexpired (clock : Time) (s s' : Store) : Prop where
  deleted : Deleted s.permits s'.permits
  kept : ∀ p ∈ s.permits, clock < p.expiresAt → p ∈ s'.permits
  nextPermitId : s'.nextPermitId = s.nextPermitId
  buckets : s.BucketsBy clock → s'.BucketsBy clock

theorem Unexpired.of_hosts (hpermits : s'.permits = s.permits) (hnext : s'.nextPermitId = s.nextPermitId)
    (hbuckets : s.BucketsBy clock → s'.BucketsBy clock) : Unexpired clock s s' := by
  refine ⟨?_, fun p hp _ => ?_, hnext, hbuckets⟩ <;> rw [hpermits]
  · exact Deleted.refl _
  · exact hp

theorem BucketsBy.updateHost (h : s.BucketsBy clock) (name : String) {f : HostRow → HostRow}
    (hf : ∀ row ∈ s.hosts, row.host = name → (f row).tokensUpdatedAt ≤ clock) : (s.updateHost name f).BucketsBy clock := by
  intro row hrow
  obtain ⟨old, hold, rfl⟩ := mem_updateWhere hrow
  by_cases hname : old.host = name
  · rw [if_pos (decide_eq_true hname)]
    exact hf old hold hname
  · rw [if_neg (by simpa using hname)]
    exact h old hold

theorem seedHost_unexpired {now : Time} {seed : HostStateSeed} (hnow : now ≤ clock) (hseed : seed.now ≤ clock)
    (h : s.seedHost now seed = .ok s') : Unexpired clock s s' := by
  obtain ⟨-, -, -, ⟨-, t, ht, rfl⟩ | ⟨-, rfl⟩⟩ := seedHost_inv h
  · refine .of_hosts rfl rfl fun hb row hrow => ?_
    rcases List.mem_append.mp hrow with hrow | hrow
    · exact hb row hrow
    · rw [List.mem_singleton.mp hrow]
      show t ≤ clock
      rcases ht with rfl | rfl
      · exact hnow
      · exact hseed
  · refine .of_hosts rfl rfl fun hb => hb.updateHost seed.host fun row hrow _ => ?_
    exact hb row hrow

theorem observeHost_unexpired {observation : HostObservation} (htime : observation.observedAt ≤ clock)
    (h : s.observeHost observation = .ok s') : Unexpired clock s s' := by
  obtain ⟨state, hstate, rfl⟩ := observeHost_inv h
  refine .of_hosts rfl rfl fun hb => hb.updateHost observation.host fun row hrow _ => ?_
  rw [(observeRow_observed row observation _).clock]
  exact max_le htime (hb state (lookup_mem hstate).1)

theorem exec_unexpired (len : SnapshotMetadata → Nat) (hop : op.outsideRuns clock = true) :
    Unexpired clock s (s.exec len op).1 := by
  have hs : Unexpired clock s s := .of_hosts rfl rfl fun h => h
  have hframe : writesHost op = false → (∀ p : PermitRow, clock < p.expiresAt → dropsPermit op p = false) →
      Unexpired clock s (s.exec len op).1 := by
    intro hwrites hdrops
    have h := exec_hostFrame len s hwrites
    refine ⟨h.deleted, fun p hp hexpires => h.mem_permits hp (hdrops p hexpires), h.nextPermitId, fun hb row hrow => ?_⟩
    rw [h.hosts] at hrow
    exact hb row hrow
  cases op with
  | seedHost now seed =>
    simp only [Op.outsideRuns, Bool.and_eq_true, decide_eq_true_eq] at hop
    exact settle_of hs fun _ h => seedHost_unexpired hop.1 hop.2 h
  | observeHost observation =>
    exact settle_of hs fun _ h => observeHost_unexpired (of_decide_eq_true hop) h
  | acquireHostPermit | releaseHostPermit => cases hop
  | prunePermits now =>
    have hnow : now ≤ clock := of_decide_eq_true hop
    exact hframe rfl fun p hp => decide_eq_false (not_le.mpr (lt_of_le_of_lt hnow hp))
  | prune request =>
    have hnow : request.now ≤ clock := of_decide_eq_true hop
    exact hframe rfl fun p hp => decide_eq_false (not_le.mpr (lt_of_le_of_lt hnow hp))
  | _ => exact hframe rfl fun _ _ => rfl

theorem expirePermits_unexpired (s : Store) (host : String) (clock : Time) :
    Unexpired clock s (s.expirePermits host clock) := by
  refine ⟨expirePermits_deleted s host clock, fun p hp hexpires => mem_deleteWhere.mpr ⟨hp, ?_⟩, rfl, fun h => h⟩
  simp only [Bool.and_eq_false_iff, decide_eq_false_iff_not]
  exact .inr (not_le.mpr hexpires)

structure Granted (clock : Time) (request : AcquireHostPermitRequest) (s s' : Store) (state : HostRow) : Prop where
  hostRow : s.host? request.host = some state
  reached : Reached s request.targetID request.leaseGeneration
  room : (((s.expirePermits request.host clock).activePermits request.host clock).length : Int) < state.currentConcurrency
  store : s' = (s.expirePermits request.host clock).grantPermit request (refillTokens state clock - 1) clock

theorem BucketsBy.persistTokens (h : s.BucketsBy clock) (host : String) (available : ℚ) :
    (s.persistTokens host available clock).BucketsBy clock :=
  h.updateHost host fun _ _ _ => le_refl _

theorem acquireHostPermit_granted (hb : s.BucketsBy clock) (hnow : request.now = clock)
    (hfresh : ∀ p ∈ s.permits, ¬ (p.targetId = request.targetID ∧ p.leaseGeneration = request.leaseGeneration))
    (h : s.acquireHostPermit request = .ok (s', decision)) : decision.permit = none ∧ Unexpired clock s s' ∨
      decision.permit = some (permitOf (s.newPermit request clock)) ∧ ∃ state, Granted clock request s s' state := by
  rcases acquireHostPermit_locked h with ⟨-, p, hp, hsame⟩ | h
  · exact absurd hsame (hfresh p hp)
  obtain ⟨state, target, now, hlocked, hmax, hcases⟩ := acquireLocked_cases h
  have hclock : now = clock := by
    rw [hmax, hnow]
    exact max_eq_left (hb state (lookup_mem hlocked.hostRow).1)
  subst hclock
  have hexpired := expirePermits_unexpired s request.host now
  rcases hcases with ⟨rfl, hnone⟩ | ⟨rfl, hnone⟩ | ⟨-, hroom, -, hstore, hpermit⟩
  · exact .inl ⟨hnone, hexpired⟩
  · refine .inl ⟨hnone, hexpired.deleted, hexpired.kept, rfl, fun hb => ?_⟩
    exact (hexpired.buckets hb).persistTokens request.host _
  · exact .inr ⟨hpermit, state, hlocked.hostRow, ⟨target, hlocked.targetRow, hlocked.fence.ge⟩, hroom, hstore⟩

end Store

/-! ## Flights -/

/-- A flight whose permit is in the table, and how long that permit lives after the start of the fetch. -/
structure Flight.Aloft (config : ScraperConfig) (s : Store) (clock : Time) (f : Flight) : Prop where
  row : ∃ p ∈ s.permits, Store.permitOf p = f.permit
  timely : f.startedAt ≤ clock ∧ clock ≤ f.startedAt + config.fetchTimeout
  lifetime : f.startedAt + config.permitTTL ≤ f.permit.expiresAt + if f.confirming then config.fetchTimeout else 0

/-- Each flight found room for itself among the flights of its host before it. -/
def Roomy : List Flight → Prop
  | [] => True
  | f :: older => (((f :: older).filter fun g => g.permit.host = f.permit.host).length : Int) ≤ f.concurrency ∧ Roomy older

section Flights
variable {config : ScraperConfig} {s s' : Store} {clock : Time} {f : Flight} {flights : List Flight}

section
variable (h : f.Aloft config s clock) (hgrace : config.fetchTimeout < config.permitGrace)
include h hgrace

/-- With a grace that outlasts a fetch, both fetches end before the permit does. -/
theorem Flight.Aloft.unexpired :
    clock < f.permit.expiresAt := by
  obtain ⟨hstarted, htimeout⟩ := h.timely
  have hlifetime := h.lifetime
  unfold ScraperConfig.permitTTL at hlifetime
  split at hlifetime <;> linarith

theorem Flight.Aloft.unexpired_row :
    ∃ p ∈ s.permits, Store.permitOf p = f.permit ∧ clock < p.expiresAt := by
  obtain ⟨p, hp, hpermit⟩ := h.row
  have hexpires : p.expiresAt = f.permit.expiresAt := congrArg HostPermit.expiresAt hpermit
  exact ⟨p, hp, hpermit, hexpires ▸ h.unexpired hgrace⟩

theorem Flight.Aloft.kept
    (hkept : ∀ p ∈ s.permits, clock < p.expiresAt → p ∈ s'.permits) : f.Aloft config s' clock := by
  obtain ⟨p, hp, hpermit, hexpires⟩ := h.unexpired_row hgrace
  exact ⟨⟨p, hkept p hp hexpires, hpermit⟩, h.timely, h.lifetime⟩

end

theorem Roomy.sublist {l : List Flight} (hsub : l.Sublist flights) (h : Roomy flights) : Roomy l := by
  induction hsub with
  | slnil => trivial
  | cons f _ ih => exact ih h.2
  | cons_cons f hsub ih => exact ⟨le_trans (Int.ofNat_le.mpr ((hsub.cons_cons f).filter _).length_le) h.1, ih h.2⟩

theorem Roomy.map (h : Roomy flights) {g : Flight → Flight}
    (hg : ∀ f, (g f).permit = f.permit ∧ (g f).concurrency = f.concurrency) : Roomy (flights.map g) := by
  induction flights with
  | nil => trivial
  | cons f older ih =>
    refine ⟨?_, ih h.2⟩
    rw [(hg f).2, ← List.map_cons, List.filter_map, List.length_map]
    have hsame : ((fun f' : Flight => decide (f'.permit.host = (g f).permit.host)) ∘ g) =
        fun f' => decide (f'.permit.host = f.permit.host) := by
      funext f'
      simp only [Function.comp_apply, (hg f').1, (hg f).1]
    rw [hsame]
    exact h.1

theorem Roomy.head (h : Roomy flights) {host : String}
    (hhead : (flights.filter fun g => g.permit.host = host).head? = some f) :
    ((flights.filter fun g => g.permit.host = host).length : Int) ≤ f.concurrency := by
  have hroomy := h.sublist (List.filter_sublist (p := fun g => g.permit.host = host))
  have hhost : ∀ g ∈ flights.filter (fun g => g.permit.host = host), g.permit.host = host :=
    fun g hg => of_decide_eq_true (List.mem_filter.mp hg).2
  generalize flights.filter (fun g => g.permit.host = host) = hosted at hhead hroomy hhost
  cases hosted with
  | nil => cases hhead
  | cons g older =>
    cases hhead
    refine le_trans (le_of_eq ?_) hroomy.1
    rw [List.filter_eq_self.mpr]
    intro g' hg'
    rw [hhost g' hg', hhost f List.mem_cons_self]
    exact decide_eq_true rfl

end Flights

/-! ## The invariant -/

theorem Reached.of_targets {s s' : Store} {id generation : Int} (h : Reached s id generation)
    (htargets : s'.targets = s.targets) : Reached s' id generation := by
  unfold Reached Store.target? at *
  rwa [htargets]

namespace Fleet

/-- What every step keeps when the grace outlasts a fetch. -/
structure Steady (config : ScraperConfig) (w : Fleet) : Prop where
  targets : w.store.TargetsKeyed
  keyed : w.store.PermitsKeyed
  buckets : w.store.BucketsBy w.clock
  permits : ∀ p ∈ w.store.permits, Reached w.store p.targetId p.leaseGeneration
  claims : ∀ lease ∈ w.claims, Reached w.store lease.1 lease.2
  fresh : ∀ p ∈ w.store.permits, (p.targetId, p.leaseGeneration) ∉ w.claims
  aloft : ∀ f ∈ w.flights, f.Aloft config w.store w.clock
  distinct : (w.flights.map fun f => f.permit.id).Nodup
  roomy : Roomy w.flights

variable {config : ScraperConfig} {w : Fleet} {s : Store}

theorem steady_start (config : ScraperConfig) : Steady config {} where
  targets := Keyed.nil
  keyed := Keyed.nil
  buckets := List.forall_mem_nil _
  permits := List.forall_mem_nil _
  claims := List.forall_mem_nil _
  fresh := List.forall_mem_nil _
  aloft := List.forall_mem_nil _
  distinct := List.nodup_nil
  roomy := trivial

section
variable (h : Steady config w)
include h

theorem Steady.tick (helapsed : 0 ≤ elapsed)
    (htimeout : ∀ f ∈ w.flights, w.clock + elapsed ≤ f.startedAt + config.fetchTimeout) :
    Steady config { w with clock := w.clock + elapsed } := by
  refine { h with buckets := fun row hrow => ?_, aloft := fun f hf => ?_ }
  · have hrow := h.buckets row hrow
    show row.tokensUpdatedAt ≤ w.clock + elapsed
    linarith
  · have hf' := h.aloft f hf
    refine ⟨hf'.row, ⟨?_, htimeout f hf⟩, hf'.lifetime⟩
    have hstarted := hf'.timely.1
    show f.startedAt ≤ w.clock + elapsed
    linarith

theorem Steady.of_store (hdeleted : Deleted w.store.permits s.permits)
    (hnext : s.nextPermitId = w.store.nextPermitId) (hbuckets : s.BucketsBy w.clock) (htargets : s.TargetsKeyed)
    (hreached : ∀ id generation, Reached w.store id generation → Reached s id generation) {leases : List (Int × Int)}
    (hleases : ∀ lease ∈ leases, Reached s lease.1 lease.2)
    (hfresh : ∀ p ∈ w.store.permits, (p.targetId, p.leaseGeneration) ∉ leases) {flights : List Flight}
    (hflights : flights.Sublist w.flights) (haloft : ∀ f ∈ flights, f.Aloft config s w.clock) :
    Steady config { w with store := s, claims := leases ++ w.claims, flights := flights } where
  targets := htargets
  keyed := by
    show Keyed PermitRow.id s.nextPermitId s.permits
    rw [hnext]
    exact hdeleted.keyed h.keyed
  buckets := hbuckets
  permits := fun p hp => hreached _ _ (h.permits p (hdeleted.mem hp))
  claims := by
    intro lease hlease
    rcases List.mem_append.mp hlease with hlease | hlease
    · exact hleases lease hlease
    · exact hreached _ _ (h.claims lease hlease)
  fresh := by
    intro p hp hmem
    have hp := hdeleted.mem hp
    rcases List.mem_append.mp hmem with hmem | hmem
    · exact hfresh p hp hmem
    · exact h.fresh p hp hmem
  aloft := haloft
  distinct := h.distinct.sublist (hflights.map _)
  roomy := h.roomy.sublist hflights

theorem Steady.finish (permitID : Int) : Steady config (w.finish permitID) := by
  have hframe : Store.HostFrame (Store.dropsPermit (.releaseHostPermit permitID)) w.store
      (w.store.releaseHostPermit permitID) := Store.exec_hostFrame (fun _ => 0) w.store rfl
  have htargets : (w.store.releaseHostPermit permitID).targets = w.store.targets ∧
      (w.store.releaseHostPermit permitID).nextTargetId = w.store.nextTargetId := by
    rw [Store.releaseHostPermit_hostsOnly w.store permitID]
    exact ⟨rfl, rfl⟩
  refine h.of_store hframe.deleted hframe.nextPermitId ?_ ?_ (fun _ _ h => h.of_targets htargets.1) (List.forall_mem_nil _)
    (fun _ _ => List.not_mem_nil) List.filter_sublist fun f hf => ?_
  · rw [Store.BucketsBy, hframe.hosts]
    exact h.buckets
  · rw [Store.TargetsKeyed, htargets.1, htargets.2]
    exact h.targets
  · obtain ⟨hf, hother⟩ := List.mem_filter.mp hf
    have haloft := h.aloft f hf
    obtain ⟨p, hp, hpermit⟩ := haloft.row
    have hid : p.id ≠ permitID := by
      have hpid : p.id = f.permit.id := congrArg HostPermit.id hpermit
      rw [hpid]
      exact of_decide_eq_true hother
    exact ⟨⟨p, hframe.mem_permits hp (decide_eq_false hid), hpermit⟩, haloft.timely, haloft.lifetime⟩

theorem Steady.confirm (htimeout : 0 ≤ config.fetchTimeout) {permitID : Int}
    (hflight : w.flights.any (fun f => f.permit.id = permitID && !f.confirming) = true) :
    Steady config (w.confirm permitID) := by
  obtain ⟨g, hg, hcheck⟩ := List.any_eq_true.mp hflight
  simp only [Bool.and_eq_true, decide_eq_true_eq, Bool.not_eq_true'] at hcheck
  obtain ⟨hgid, hfetching⟩ := hcheck
  refine { h with aloft := fun f hf => ?_, distinct := ?_, roomy := h.roomy.map fun f =>
    ⟨f.confirmAt_permit w.clock permitID, f.confirmAt_concurrency w.clock permitID⟩ }
  · obtain ⟨f', hf', rfl⟩ := List.mem_map.mp hf
    have haloft := h.aloft f' hf'
    unfold Flight.confirmAt
    by_cases hid : f'.permit.id = permitID
    · -- permits are distinct, so it is the flight whose fetch just ended
      obtain rfl : f' = g := List.inj_on_of_nodup_map h.distinct hf' hg (hid.trans hgid.symm)
      obtain ⟨hstarted, hended⟩ := haloft.timely
      have hlifetime := haloft.lifetime
      rw [if_pos hid]
      simp only [hfetching, Bool.false_eq_true, if_false] at hlifetime
      refine ⟨haloft.row, ⟨le_refl _, ?_⟩, ?_⟩
      · show w.clock ≤ w.clock + config.fetchTimeout
        linarith
      · show w.clock + config.permitTTL ≤ f'.permit.expiresAt + config.fetchTimeout
        linarith
    · rw [if_neg hid]
      exact haloft
  · have hids : ((w.flights.map (Flight.confirmAt w.clock permitID)).map fun f => f.permit.id) =
        w.flights.map fun f => f.permit.id := by
      rw [List.map_map]
      refine List.map_congr_left fun f _ => ?_
      exact congrArg HostPermit.id (f.confirmAt_permit w.clock permitID)
    show ((w.flights.map (Flight.confirmAt w.clock permitID)).map fun f => f.permit.id).Nodup
    rw [hids]
    exact h.distinct

end

section Grace
variable (hgrace : config.fetchTimeout < config.permitGrace)
include hgrace

variable {target : ScrapeTarget}

theorem Steady.covered (h : Steady config w) : w.Covered := by
  refine ⟨fun f hf => ?_, fun host f hhead => h.roomy.head hhead⟩
  obtain ⟨p, hp, hpermit, hexpires⟩ := (h.aloft f hf).unexpired_row hgrace
  exact ⟨p, hp, congrArg HostPermit.id hpermit, hexpires⟩

theorem Steady.unexpired (h : Steady config w) (hs : Store.Unexpired w.clock w.store s) :
    ∀ f ∈ w.flights, f.Aloft config s w.clock := fun f hf => (h.aloft f hf).kept hgrace hs.kept

theorem Steady.transaction (len : SnapshotMetadata → Nat) (h : Steady config w) (hop : op.outsideRuns w.clock = true) :
    Steady config { w with
      store := (w.store.exec len op).1
      claims := claimedLeases (Event.of (Store.exec len) w.store op) ++ w.claims } := by
  have hreached : ∀ id generation, Reached w.store id generation →
      Reached (w.store.exec len op).1 id generation := by
    rintro id generation ⟨t, ht, hle⟩
    obtain ⟨t', ht', hle'⟩ := Store.exec_generation op ht
    exact ⟨t', ht', hle.trans hle'⟩
  have hclaimed : ∀ lease ∈ claimedLeases (Event.of (Store.exec len) w.store op), _ :=
    (Store.claimedLeases_of h.targets op).2
  have hs := Store.exec_unexpired len (s := w.store) hop
  refine h.of_store hs.deleted hs.nextPermitId (hs.buckets h.buckets) (Store.exec_keyed _ op h.targets) hreached
    (fun lease hlease => ?_) (fun p hp hmem => ?_) (.refl _) (h.unexpired hgrace hs)
  · obtain ⟨t, t', -, ht', -, hgeneration⟩ := hclaimed lease hlease
    exact ⟨t', ht', hgeneration.ge⟩
  · -- a claim gives a generation that the row had not reached
    obtain ⟨t, t', ht, -, hnew, -⟩ := hclaimed _ hmem
    obtain ⟨t₀, ht₀, hle⟩ := h.permits p hp
    rw [ht] at ht₀
    cases ht₀
    simp only at hnew
    omega

theorem Steady.inFlight_le (h : Steady config w) (host : String) :
    (w.inFlight host).length ≤ ((w.store.expirePermits host w.clock).activePermits host w.clock).length := by
  have hids : ((w.inFlight host).map fun f => f.permit.id) ⊆
      ((w.store.expirePermits host w.clock).activePermits host w.clock).map PermitRow.id := by
    intro id hid
    obtain ⟨f, hf, rfl⟩ := List.mem_map.mp hid
    obtain ⟨hf, hhost⟩ := List.mem_filter.mp hf
    have hkept := (h.aloft f hf).kept hgrace (Store.expirePermits_unexpired w.store host w.clock).kept
    obtain ⟨p, hp, hpermit, hexpires⟩ := hkept.unexpired_row hgrace
    have hphost : p.host = host := (congrArg HostPermit.host hpermit).trans (of_decide_eq_true hhost)
    refine List.mem_map.mpr ⟨p, List.mem_filter.mpr ⟨hp, ?_⟩, congrArg HostPermit.id hpermit⟩
    rw [Bool.and_eq_true, decide_eq_true_eq, decide_eq_true_eq]
    exact ⟨hphost, hexpires⟩
  have hnodup : ((w.inFlight host).map fun f => f.permit.id).Nodup := h.distinct.sublist (List.filter_sublist.map _)
  have hle := (hnodup.subperm hids).length_le
  rwa [List.length_map, List.length_map] at hle

variable (htimeout : 0 ≤ config.fetchTimeout)
include htimeout

theorem Steady.start (h : Steady config w) {state : HostRow}
    (hhost : request.host = target.ref.host) (htarget : request.targetID = target.id)
    (hgeneration : request.leaseGeneration = target.leaseGeneration) (httl : request.ttl = config.permitTTL)
    (hg : Store.Granted w.clock request w.store s state) :
    Steady config (w.start s target (Store.permitOf (w.store.newPermit request w.clock))) := by
  obtain ⟨hrow, hreached, hroom, rfl⟩ := hg
  have hexpired := Store.expirePermits_unexpired w.store request.host w.clock
  have hpermits : ∀ p ∈ (w.store.expirePermits request.host w.clock).permits ++ [w.store.newPermit request w.clock],
      p ∈ w.store.permits ∨ p = w.store.newPermit request w.clock := by
    intro p hp
    rcases List.mem_append.mp hp with hp | hp
    · exact .inl (hexpired.deleted.mem hp)
    · exact .inr (List.mem_singleton.mp hp)
  constructor
  case targets => exact h.targets
  case keyed => exact Keyed.snoc (hexpired.deleted.keyed h.keyed) rfl (lt_add_one w.store.nextPermitId)
  case buckets => exact (hexpired.buckets h.buckets).persistTokens request.host _
  case permits =>
    intro p hp
    rcases hpermits p hp with hp | rfl
    · exact (h.permits p hp).of_targets rfl
    · exact hreached.of_targets rfl
  case claims => exact fun lease hlease => (h.claims lease (List.mem_filter.mp hlease).1).of_targets rfl
  case fresh =>
    intro p hp hmem
    obtain ⟨hmem, hother⟩ := List.mem_filter.mp hmem
    rcases hpermits p hp with hp | rfl
    · exact h.fresh p hp hmem
    · refine of_decide_eq_true hother ?_
      rw [← htarget, ← hgeneration]
      rfl
  case aloft =>
    intro f hf
    rcases List.mem_cons.mp hf with rfl | hf
    · refine ⟨⟨w.store.newPermit request w.clock, List.mem_append_right _ (List.mem_singleton.mpr rfl), rfl⟩,
        ⟨le_refl _, ?_⟩, ?_⟩
      · show w.clock ≤ w.clock + config.fetchTimeout
        linarith
      · show w.clock + config.permitTTL ≤ w.clock + request.ttl + 0
        rw [httl]
        linarith
    · exact (h.aloft f hf).kept hgrace fun p hp hexpires => List.mem_append_left _ (hexpired.kept p hp hexpires)
  case distinct =>
    refine List.nodup_cons.mpr ⟨fun hmem => ?_, h.distinct⟩
    obtain ⟨f, hf, hid⟩ := List.mem_map.mp hmem
    obtain ⟨p, hp, hpermit⟩ := (h.aloft f hf).row
    have hpid : p.id = w.store.nextPermitId := (congrArg HostPermit.id hpermit).trans hid
    exact absurd (h.keyed.below p hp) (hpid ▸ lt_irrefl _)
  case roomy =>
    refine ⟨?_, h.roomy⟩
    have hle := h.inFlight_le hgrace request.host
    have hlimit : ((w.store.host? target.ref.host).map HostRow.currentConcurrency).getD 0 = state.currentConcurrency := by
      rw [← hhost, hrow]
      rfl
    rw [List.filter_cons_of_pos (by exact decide_eq_true rfl), List.length_cons]
    show (((w.inFlight request.host).length + 1 : Nat) : Int) ≤
      ((w.store.host? target.ref.host).map HostRow.currentConcurrency).getD 0
    rw [hlimit]
    omega

theorem Steady.acquire (h : Steady config w) {workerID : String}
    (hclaim : (target.id, target.leaseGeneration) ∈ w.claims)
    (hacquire : hostControllerAcquire w.store config.permitTTL target workerID w.clock = .ok (s, decision)) :
    decision.permit = none ∧ Steady config { w with store := s } ∨
      ∃ permit, decision.permit = some permit ∧ Steady config (w.start s target permit) := by
  obtain ⟨-, hacquire⟩ := ite_error_eq_ok.mp hacquire
  obtain ⟨-, hacquire⟩ := ite_error_eq_ok.mp hacquire
  have hframe := Store.acquireHostPermit_hostsOnly hacquire
  have hnew : ∀ p ∈ w.store.permits, ¬ (p.targetId = target.id ∧ p.leaseGeneration = target.leaseGeneration) := by
    rintro p hp ⟨hid, hgeneration⟩
    refine h.fresh p hp ?_
    rw [hid, hgeneration]
    exact hclaim
  rcases Store.acquireHostPermit_granted h.buckets rfl hnew hacquire with ⟨hnone, hs⟩ | ⟨hsome, state, hg⟩
  · have htargets : s.TargetsKeyed := by
      rw [hframe]
      exact h.targets
    refine .inl ⟨hnone, h.of_store hs.deleted hs.nextPermitId (hs.buckets h.buckets) htargets
      (fun id generation hreached => ?_) (List.forall_mem_nil _) (fun _ _ => List.not_mem_nil) (.refl _)
      (h.unexpired hgrace hs)⟩
    rw [hframe]
    exact hreached
  · exact .inr ⟨_, hsome, h.start hgrace htimeout rfl rfl rfl rfl hg⟩

theorem exec_steady (len : SnapshotMetadata → Nat) (w : Fleet) (op : FleetOp) (h : Steady config w) :
    Steady config (w.exec len config op).1 := by
  cases op with
  | tick elapsed =>
    simp only [exec]
    split
    · rename_i hcheck
      exact h.tick hcheck.1 hcheck.2
    · exact h
  | transaction op =>
    simp only [exec]
    split
    · rename_i hop
      exact h.transaction hgrace len hop
    · exact h
  | acquire target workerID =>
    simp only [exec]
    split
    · rename_i hclaim
      split
      · exact h
      · rename_i s decision hacquire
        rcases h.acquire hgrace htimeout hclaim hacquire with ⟨hpermit, hs⟩ | ⟨permit, hpermit, hs⟩ <;> rw [hpermit] <;>
          exact hs
    · exact h
  | fetched permitID suspicious =>
    simp only [exec]
    split
    · rename_i hflight
      cases suspicious with
      | true => exact h.confirm htimeout hflight
      | false => exact h.finish permitID
    · exact h
  | confirmed permitID =>
    simp only [exec]
    split
    · exact h.finish permitID
    · exact h

end Grace

end Fleet

/-! ## A grace within the fetch timeout -/

/-! ### A run whose confirmation outlives its permit -/

def polledSeed (key : String) : TargetSeed where
  ref := { host := "warwick.humantix.cloud", kind := .courseDetail, parentKey := "all", resourceKey := key }
  initialInterval := minute
  minInterval := minute
  maxInterval := minute
  maxServeAge := hour
  nextRunAt := second

/-- The target as its first claim returns it. -/
def polledTarget (id : Int) (key : String) : ScrapeTarget :=
  scanScrapeTarget (takeLease second "a" hour (Store.seedRow id second (polledSeed key)))

/-- At second one the host and some targets are seeded, and the targets are claimed. -/
def groundOps (keys : List String) : List FleetOp :=
  [.tick second, .transaction (.seedHost second (ScraperConfig.hostSeed {} second)),
    .transaction (.seed second (keys.map polledSeed)),
    .transaction (.claimDue [] { now := second, limit := keys.length, workerID := "a", leaseDuration := hour })]

def ground (keys : List String) : Fleet := final (Fleet.exec (fun _ => 0) {}) {} (groundOps keys)

variable {w : Fleet}

section
variable (notificationLength : SnapshotMetadata → Nat)

theorem exec_tick
    (helapsed : 0 ≤ elapsed) (htimeout : ∀ f ∈ w.flights, w.clock + elapsed ≤ f.startedAt + config.fetchTimeout) :
    (w.exec notificationLength config (.tick elapsed)).1 = { w with clock := w.clock + elapsed } := by
  simp only [Fleet.exec]
  rw [if_pos ⟨helapsed, htimeout⟩]

theorem exec_transaction_eq (config : ScraperConfig) (w : Fleet) (op : Op) (hop : op.isCommit = false) :
    w.exec notificationLength config (.transaction op) = w.exec (fun _ => 0) {} (.transaction op) := by
  have hstore : w.store.exec notificationLength op = w.store.exec (fun _ => 0) op := by
    cases op with
    | commit clocks input => cases hop
    | _ => simp only [Store.exec]
  simp only [Fleet.exec, Event.of, hstore]

theorem ground_eq (config : ScraperConfig) (keys : List String) :
    final (Fleet.exec notificationLength config) {} (groundOps keys) = ground keys := by
  have htick : ∀ notificationLength config, (Fleet.exec notificationLength config {} (.tick second)).1 = { clock := second } :=
    fun notificationLength config => exec_tick notificationLength (by decide) (List.forall_mem_nil _)
  unfold ground groundOps
  simp only [final_cons, final_nil, htick]
  rw [exec_transaction_eq notificationLength config _ (.seedHost _ _) rfl,
    exec_transaction_eq notificationLength config _ (.seed _ _) rfl,
    exec_transaction_eq notificationLength config _ (.claimDue _ _) rfl]

end

def groundHost : HostRow := Store.hostSeedRow second (ScraperConfig.hostSeed {} second)

def groundTarget : TargetRow := takeLease second "a" hour (Store.seedRow 1 second (polledSeed "1"))

theorem ground_one : (ground ["1"]).claims = [(1, 1)] ∧ (ground ["1"]).clock = second ∧ (ground ["1"]).flights = [] ∧
    (ground ["1"]).store.permits = [] ∧ (ground ["1"]).store.nextPermitId = 1 ∧
    (ground ["1"]).store.host? "warwick.humantix.cloud" = some groundHost ∧
    (ground ["1"]).store.target? 1 = some groundTarget := by
  decide +kernel

theorem ground_acquire (len : SnapshotMetadata → Nat) (httl : 0 < config.permitTTL) :
    ∃ s f, ((ground ["1"]).exec len config (.acquire (polledTarget 1 "1") "a")).1 =
        { store := s, clock := second, flights := [f] } ∧ f.permit.id = 1 ∧ f.startedAt = second ∧
      f.confirming = false ∧ ∀ p ∈ s.permits, p.expiresAt = second + config.permitTTL := by
  obtain ⟨hclaims, hclock, hflights, hpermits, hnext, hhost, htarget⟩ := ground_one
  have hexpired : ((ground ["1"]).store.expirePermits "warwick.humantix.cloud" second).permits = [] := by
    rw [Store.expirePermits, hpermits]
    rfl
  have htarget' : ((ground ["1"]).store.expirePermits "warwick.humantix.cloud" second).target? 1 = some groundTarget :=
    htarget
  have htexts : isBlank "warwick.humantix.cloud" = false ∧ isBlank "a" = false ∧ isZeroTime second = false := by decide
  have hlease : (polledTarget 1 "1").ref.host = "warwick.humantix.cloud" ∧ (polledTarget 1 "1").id = 1 ∧
      (polledTarget 1 "1").leaseGeneration = 1 ∧ groundTarget.ref.host = "warwick.humantix.cloud" ∧
      groundTarget.leaseGeneration = 1 := by decide
  have hrow : groundHost.tokensUpdatedAt = second ∧ groundHost.pausedUntil = none ∧ groundHost.currentConcurrency = 2 ∧
      ¬ refillTokens groundHost second < 1 := by decide +kernel
  simp [Fleet.exec, Fleet.start, hostControllerAcquire, Store.acquireHostPermit, Store.decidePermit, Store.insertPermit,
    Store.activePermits, Store.persistTokens, Store.updateHost, Store.permitOf, bind, Except.bind, hclaims, hclock, hflights,
    hpermits, hhost, htarget', htexts, hlease, hrow, hexpired, not_le.mpr httl]
  exact hnext

/-- The fetch and the confirmation fetch take their whole timeout. -/
def lateOps (config : ScraperConfig) : List FleetOp :=
  [.acquire (polledTarget 1 "1") "a", .tick config.fetchTimeout, .fetched 1 true, .tick config.fetchTimeout]

/-- A fetch that takes its whole timeout, and the confirmation fetch after it. -/
theorem final_late (len : SnapshotMetadata → Nat) (hfetch : 0 < config.fetchTimeout) {f : Flight}
    (hflights : w.flights = [f]) (hstarted : f.startedAt = w.clock) (hfetching : f.confirming = false) :
    final (Fleet.exec len config) w [.tick config.fetchTimeout, .fetched f.permit.id true, .tick config.fetchTimeout] =
      { w with clock := w.clock + config.fetchTimeout + config.fetchTimeout
               flights := [{ f with startedAt := w.clock + config.fetchTimeout, confirming := true }] } := by
  simp [final_cons, final_nil, Fleet.exec, Fleet.confirm, Flight.confirmAt, hfetch.le, hflights, hstarted, hfetching]

theorem late_not_covered (len : SnapshotMetadata → Nat) (hfetch : 0 < config.fetchTimeout)
    (hpositive : 0 < config.permitGrace) (hgrace : config.permitGrace ≤ config.fetchTimeout) :
    ¬ (final (Fleet.exec len config) {} (groundOps ["1"] ++ lateOps config)).Covered := by
  have httl : 0 < config.permitTTL := add_pos hfetch hpositive
  obtain ⟨s, f, hacquire, hid, hstarted, hfetching, hpermits⟩ := ground_acquire len httl
  intro hcovered
  rw [final_append, ground_eq, lateOps, final_cons, hacquire, ← hid,
    final_late len hfetch rfl hstarted hfetching] at hcovered
  -- both fetches together outlast the permit
  obtain ⟨p, hp, -, hunexpired⟩ := hcovered.permit _ List.mem_cons_self
  rw [hpermits p hp] at hunexpired
  change second + config.fetchTimeout + config.fetchTimeout < second + (config.fetchTimeout + config.permitGrace)
    at hunexpired
  linarith

/-- **Which configurations cover their runs.** In every run under an accepted configuration each fetch is under an
unexpired permit, and no more are in flight than the latest grant allowed, if and only if the grace outlasts the fetch
timeout: a permit is for one fetch and the grace, and a run can make two. -/
theorem fleet_covered_iff (notificationLength : SnapshotMetadata → Nat) (config : ScraperConfig)
    (hvalid : validateScraperConfig config = .ok ()) :
    (∀ ops, (final (Fleet.exec notificationLength config) {} ops).Covered) ↔
      config.fetchTimeout < config.permitGrace := by
  obtain ⟨⟨hfetch, -⟩, ⟨hgrace, -⟩, -⟩ := validateScraperConfig_ok hvalid
  have hfetch : 0 < config.fetchTimeout := lt_of_lt_of_le (by decide) hfetch
  have hpositive : 0 < config.permitGrace := lt_of_lt_of_le (by decide) hgrace
  constructor
  · intro hcovered
    by_contra hshort
    exact late_not_covered notificationLength hfetch hpositive (not_lt.mp hshort) (hcovered _)
  · intro hlong ops
    have hsteady : Fleet.Steady config (final (Fleet.exec notificationLength config) {} ops) :=
      final_inv (Fleet.exec_steady hlong hfetch.le notificationLength) (Fleet.steady_start config) ops
    exact hsteady.covered hlong

def patientConfig : ScraperConfig := { fetchTimeout := 10 * second, permitGrace := 20 * second }

theorem fleet_covered_patient : validateScraperConfig patientConfig = .ok () ∧
    ∀ ops, (final (Fleet.exec (fun _ => 0) patientConfig) {} ops).Covered :=
  ⟨by decide +kernel, (fleet_covered_iff (fun _ => 0) patientConfig (by decide +kernel)).mpr (by decide)⟩

/-- By default: two runs are granted at the seconds one and two, and while they confirm suspicious candidates both
permits expire and a third run is granted at second 42. -/
def crowdedOps : List FleetOp := groundOps ["1", "2", "3"] ++
  [.acquire (polledTarget 1 "1") "a", .tick second, .acquire (polledTarget 2 "2") "a", .tick (29 * second), .fetched 1 true,
    .tick second, .fetched 2 true, .tick (10 * second), .acquire (polledTarget 3 "3") "a"]

def crowded : Fleet := final (Fleet.exec (fun _ => 0) {}) {} crowdedOps

theorem crowded_not_covered : validateScraperConfig {} = .ok () ∧ ¬ crowded.Covered ∧
    (crowded.inFlight "warwick.humantix.cloud").map (fun f => (f.permit.id, f.startedAt, f.confirming, f.concurrency)) =
      [(3, 42 * second, false, 2), (2, 32 * second, true, 2), (1, 31 * second, true, 2)] := by
  have hflights : (crowded.inFlight "warwick.humantix.cloud").map
      (fun f => (f.permit.id, f.startedAt, f.confirming, f.concurrency)) =
        [(3, 42 * second, false, 2), (2, 32 * second, true, 2), (1, 31 * second, true, 2)] := by
    decide +kernel
  refine ⟨by decide +kernel, fun hcovered => ?_, hflights⟩
  have hbound := hcovered.concurrency "warwick.humantix.cloud"
  generalize crowded.inFlight "warwick.humantix.cloud" = flights at hflights hbound
  have hlength : flights.length = 3 := by simpa using congrArg List.length hflights
  cases flights with
  | nil => cases hlength
  | cons f older =>
    have hlimit : f.concurrency = 2 := by
      simp only [List.map_cons, List.cons.injEq, Prod.mk.injEq] at hflights
      exact hflights.1.2.2.2
    have hle := hbound f rfl
    rw [hlength, hlimit] at hle
    exact absurd hle (by decide)

end QrCommandCenter
