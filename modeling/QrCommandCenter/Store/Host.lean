import QrCommandCenter.Store.Seed

/-!
# Host permits and the adaptive rate

`AcquireHostPermit`, `ReleaseHostPermit` and `ObserveHost` of `internal/db/snapshot_repository.go`, in exact rational
arithmetic. `seedHost` is in `Store.Seed`.

* `refillTokens`, `persistTokens` : the token bucket of a host;
* `acquireHostPermit`, `releaseHostPermit` : permits against tokens and concurrency;
* `observeRow`, `observeHost` : the rate after each outcome.
-/

namespace QrCommandCenter
open Domain Table

structure AcquireHostPermitRequest where
  host : String
  targetID : Int
  workerID : String
  leaseGeneration : Int
  now : Time
  ttl : Duration
deriving DecidableEq, Repr

/-- `Duration.Seconds`. -/
def seconds (d : Duration) : ℚ := d / 1000000000

def refillTokens (state : HostRow) (now : Time) : ℚ :=
  let elapsed := if seconds (now - state.tokensUpdatedAt) < 0 then 0 else seconds (now - state.tokensUpdatedAt)
  let refilled := state.availableTokens + elapsed * state.currentRequestsPerSecond
  let refilled := if (state.burst : ℚ) < refilled then (state.burst : ℚ) else refilled
  if refilled < 0 then 0 else refilled

namespace Store

/-- `UPDATE scrape_host_state SET f WHERE host = $1`. -/
def updateHost (s : Store) (host : String) (f : HostRow → HostRow) : Store :=
  { s with hosts := updateWhere (fun h => h.host = host) f s.hosts }

def persistTokens (s : Store) (host : String) (available : ℚ) (now : Time) : Store :=
  s.updateHost host fun h => { h with availableTokens := available, tokensUpdatedAt := now }

/-! ## Permits -/

def permitOf (row : PermitRow) : HostPermit where
  id := row.id
  host := row.host
  targetID := row.targetId
  leaseGeneration := row.leaseGeneration
  expiresAt := row.expiresAt

section
variable (s : Store)

def activePermits (host : String) (now : Time) : List PermitRow :=
  s.permits.filter fun p => p.host = host && now < p.expiresAt

def expirePermits (host : String) (now : Time) : Store :=
  { s with permits := deleteWhere (fun p => p.host = host && p.expiresAt ≤ now) s.permits }

section
variable (request : AcquireHostPermitRequest)

/-- `INSERT INTO scrape_host_permits`. -/
def insertPermit (now : Time) :
    Except StoreError (Store × PermitRow) :=
  if s.permits.any fun p => p.targetId = request.targetID && p.leaseGeneration = request.leaseGeneration then
    .error (.constraint "scrape_host_permits_target_id_lease_generation_key")
  else
    let row : PermitRow := {
      id := s.nextPermitId
      host := request.host
      targetId := request.targetID
      workerId := request.workerID
      leaseGeneration := request.leaseGeneration
      acquiredAt := now
      expiresAt := now + request.ttl }
    .ok ({ s with permits := s.permits ++ [row], nextPermitId := s.nextPermitId + 1 }, row)

/-- The decision on a host that is not paused: blocked by concurrency, blocked by the rate, or a new permit. -/
def decidePermit (state : HostRow) (now : Time) :
    Except StoreError (Store × PermitDecision) :=
  let active := s.activePermits request.host now
  let refilled := refillTokens state now
  if state.currentConcurrency ≤ active.length then
    .ok (s.persistTokens request.host refilled now,
      { retryAt := ((active.map PermitRow.expiresAt).min?).getD (now + request.ttl) })
  else if refilled < 1 then
    .ok (s.persistTokens request.host refilled now,
      { retryAt := now + ((1 - refilled) / state.currentRequestsPerSecond * 1000000000).floor })
  else do
    let s := s.persistTokens request.host (refilled - 1) now
    let (s, row) ← s.insertPermit request now
    .ok (s, { permit := some (permitOf row) })

def acquireHostPermit :
    Except StoreError (Store × PermitDecision) :=
  if isBlank request.host || isBlank request.workerID then
    .error (.invalid "host permit requires host and worker ID")
  else if request.targetID ≤ 0 ∨ request.leaseGeneration ≤ 0 ∨ isZeroTime request.now ∨ request.ttl ≤ 0 then
    .error (.invalid "host permit request is invalid")
  else match s.permits.find? fun p => p.targetId = request.targetID &&
      p.leaseGeneration = request.leaseGeneration && request.now < p.expiresAt with
  | some existing => .ok (s, { permit := some (permitOf existing) })
  | none =>
    match s.host? request.host with
    | none => .error (.hostStateNotFound request.host)
    | some state =>
      -- the request's clock never runs behind the bucket's
      let now := max request.now state.tokensUpdatedAt
      let s := s.expirePermits request.host now
      match s.target? request.targetID with
      | none => .error (.leaseLost "")
      | some target =>
        if target.ref.host ≠ request.host ∨ target.leaseGeneration ≠ request.leaseGeneration then
          .error (.leaseLost "")
        else match state.pausedUntil with
        | none => s.decidePermit request state now
        | some until_ =>
          if now < until_ then .ok (s, { retryAt := until_, paused := true })
          else s.decidePermit request state now

end

def releaseHostPermit (permitID : Int) : Store :=
  if permitID ≤ 0 then s else { s with permits := deleteWhere (fun p => p.id = permitID) s.permits }

end

end Store

/-! ## Observations -/

section
variable (state : HostRow) (observation : HostObservation) (observedAt : Time)

/-- The pause after a 429: at least a quarter of an hour, or an hour when one was seen within the last hour. -/
def rateLimitPause : Duration :=
  let pause := if 15 * minute < observation.retryAfter then observation.retryAfter else 15 * minute
  match state.last429At with
  | none => pause
  | some last => if observedAt - last ≤ hour then (if pause < hour then hour else pause) else pause

/-- The row `ObserveHost` leaves; `observedAt` is the clamped observation time. -/
def observeRow : HostRow :=
  let available := min (refillTokens state observedAt) state.burst
  let base := { state with availableTokens := available, tokensUpdatedAt := observedAt, healthyStreak := 0 }
  match observation.outcome with
  | .rateLimited => { base with
      currentRequestsPerSecond := max (state.currentRequestsPerSecond / 2) (1 / 4)
      currentConcurrency := 1
      consecutive429s := state.consecutive429s + 1
      last429At := some observedAt
      pausedUntil := some (observedAt + rateLimitPause state observation observedAt) }
  | .authError => { base with pausedUntil := some (observedAt + 15 * minute) }
  | .changed | .unchanged | .notModified =>
    let healthy := state.healthyStreak + 1
    { base with
      currentRequestsPerSecond := if 20 ≤ healthy then
        min (state.currentRequestsPerSecond + 1 / 4) state.baselineRequestsPerSecond
        else state.currentRequestsPerSecond
      currentConcurrency := if 20 ≤ healthy then min (state.currentConcurrency + 1) state.baselineConcurrency
        else state.currentConcurrency
      consecutive429s := 0
      healthyStreak := if 20 ≤ healthy then 0 else healthy
      pausedUntil := match state.pausedUntil with
        | none => none
        | some until_ => if observedAt < until_ then some until_ else none }
  | .transientError =>
    if observation.consecutiveFailures = 3 then { base with
      currentRequestsPerSecond := max (state.currentRequestsPerSecond / 2) (1 / 4)
      currentConcurrency := max (state.currentConcurrency - 1) 1 }
    else base
  | _ => base

end

namespace Store

variable {request : AcquireHostPermitRequest} {decision : PermitDecision}

variable {state : HostRow} {now : Time} {observation : HostObservation}

def observeHost (s : Store) (observation : HostObservation) : Except StoreError Store :=
  if isBlank observation.host || isZeroTime observation.observedAt then
    .error (.invalid "host observation requires host and observed time")
  else match s.host? observation.host with
  | none => .error (.hostStateNotFound observation.host)
  | some state =>
    -- the bucket's clock never moves backwards
    let observedAt := max observation.observedAt state.tokensUpdatedAt
    .ok (s.updateHost observation.host fun h => observeRow h observation observedAt)

/-! ## What the statements do -/

variable {s s' : Store}

theorem host?_updateWhere (name : String) {f : HostRow → HostRow}
    (hhosts : s'.hosts = updateWhere (fun h => h.host = name) f s.hosts) (hf : ∀ h, (f h).host = h.host) (host : String) :
    s'.host? host = (s.host? host).map fun h => if h.host = name then f h else h := by
  unfold host?
  rw [hhosts, lookup_updateWhere hf]
  simp only [decide_eq_true_eq]

/-- A decision refills the bucket; only a grant takes a token and adds a row. -/
theorem decidePermit_inv (h : s.decidePermit request state now = .ok (s', decision)) :
    s' = s.persistTokens request.host (refillTokens state now) now ∨
      1 ≤ refillTokens state now ∧ ∃ row : PermitRow, row.id = s.nextPermitId ∧ row.host = request.host ∧
        s' = { s.persistTokens request.host (refillTokens state now - 1) now with
          permits := s.permits ++ [row], nextPermitId := s.nextPermitId + 1 } := by
  simp only [decidePermit] at h
  split at h
  · cases h
    exact .inl rfl
  · split at h
    · cases h
      exact .inl rfl
    · rename_i hrefilled
      obtain ⟨⟨s₁, row⟩, h₁, h⟩ := bind_eq_ok.mp h
      cases h
      simp only [insertPermit] at h₁
      split at h₁
      · cases h₁
      · cases h₁
        exact .inr ⟨not_lt.mp hrefilled, _, rfl, rfl, rfl⟩

/-- An acquire answers with an existing permit, finds the host paused, or decides. -/
theorem acquireHostPermit_inv (h : s.acquireHostPermit request = .ok (s', decision)) :
    s' = s ∨ ∃ state now, s.host? request.host = some state ∧ now = max request.now state.tokensUpdatedAt ∧
      (s' = s.expirePermits request.host now ∨
        (s.expirePermits request.host now).decidePermit request state now = .ok (s', decision)) := by
  unfold acquireHostPermit at h
  split at h
  · cases h
  split at h
  · cases h
  split at h
  · cases h
    exact .inl rfl
  split at h
  · cases h
  · rename_i state hstate
    refine .inr ⟨state, _, hstate, rfl, ?_⟩
    simp only at h
    split at h
    · cases h
    split at h
    · cases h
    split at h
    · exact .inr h
    · split at h
      · cases h
        exact .inl rfl
      · exact .inr h

theorem observeHost_inv (h : s.observeHost observation = .ok s') :
    ∃ state, s.host? observation.host = some state ∧ s' = s.updateHost observation.host fun row =>
      observeRow row observation (max observation.observedAt state.tokensUpdatedAt) := by
  unfold observeHost at h
  split at h
  · cases h
  · split at h
    · cases h
    · rename_i state hstate
      cases h
      exact ⟨state, hstate, rfl⟩

def HostsOnly (s s' : Store) : Prop :=
  s' = { s with
    hosts := s'.hosts, permits := s'.permits, nextPermitId := s'.nextPermitId, checkpoints := s'.checkpoints }

theorem seedHost_hostsOnly {clock : Time} {seed : HostStateSeed} (h : s.seedHost clock seed = .ok s') :
    HostsOnly s s' := by
  unfold seedHost at h
  repeat' split at h
  all_goals cases h
  all_goals rfl

theorem decidePermit_hostsOnly (h : s.decidePermit request state now = .ok (s', decision)) : HostsOnly s s' := by
  rcases decidePermit_inv h with rfl | ⟨-, row, -, -, rfl⟩ <;> rfl

theorem acquireHostPermit_hostsOnly (h : s.acquireHostPermit request = .ok (s', decision)) : HostsOnly s s' := by
  rcases acquireHostPermit_inv h with rfl | ⟨state, now, -, -, rfl | hd⟩
  · rfl
  · rfl
  · have hd := decidePermit_hostsOnly hd
    unfold HostsOnly at hd ⊢
    rw [hd]
    rfl

theorem observeHost_hostsOnly (h : s.observeHost observation = .ok s') : HostsOnly s s' := by
  obtain ⟨state, -, rfl⟩ := observeHost_inv h
  rfl

theorem releaseHostPermit_hostsOnly (s : Store) (permitID : Int) : HostsOnly s (s.releaseHostPermit permitID) := by
  unfold releaseHostPermit
  split <;> rfl

end Store

end QrCommandCenter
