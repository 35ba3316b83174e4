import QrCommandCenter.Lib.Table
import QrCommandCenter.Domain.Snapshot

/-!
# The snapshot store's tables

The tables of migrations 009 to 014 as one state `Store`: each table is the list of its rows, with the next value of
its `BIGSERIAL`. A statement is a function of the store that may fail with a `StoreError`; a transaction is the
`Except` composition of its statements, so that a failing one leaves no effect (`bind_eq_ok` takes one apart).

* `TargetRow.checks` : the `CHECK`s and integer ranges of `scrape_targets`;
* `Store.updateTargets` : an `UPDATE` of that table, with the number of rows it affects;
* `scanScrapeTarget` : a row as the Go code reads it.
-/

namespace QrCommandCenter
open Domain Table

/-! ## Rows -/

/-- A row of `scrape_host_state`. The `numeric` columns are exact rationals. -/
structure HostRow where
  host : String
  baselineRequestsPerSecond : ℚ
  currentRequestsPerSecond : ℚ
  burst : Int
  availableTokens : ℚ
  tokensUpdatedAt : Time
  baselineConcurrency : Int
  currentConcurrency : Int
  consecutive429s : Int := 0
  last429At : Option Time := none
  healthyStreak : Int := 0
  pausedUntil : Option Time := none
deriving DecidableEq, Repr

/-- A row of `scrape_targets`, with the column defaults of the migrations. -/
structure TargetRow where
  id : Int
  ref : TargetRef
  attributes : Attributes
  priority : Int
  missingCount : Int := 0
  enabled : Bool := true
  currentIntervalSeconds : Int
  minIntervalSeconds : Int
  maxIntervalSeconds : Int
  maxServeAgeSeconds : Int
  nextRunAt : Time
  lastAttemptAt : Option Time := none
  lastValidatedAt : Option Time := none
  lastContentChangeAt : Option Time := none
  validationSeq : Int := 0
  consecutiveFailures : Int := 0
  recentChanges : List Bool := []
  etag : Option String := none
  lastModified : Option String := none
  cacheControl : Option String := none
  currentSnapshotId : Option Int := none
  currentVersion : Int := 0
  currentContentHash : Option ContentHash := none
  leaseOwner : Option String := none
  leaseGeneration : Int := 0
  leaseExpiresAt : Option Time := none
  lifecycleState : LifecycleState := .active
  lastSeenParentVersion : Option Int := none
  consecutiveMissingCount : Int := 0
  tombstonedAt : Option Time := none
  reactivatedAt : Option Time := none
  previousRecordCount : Int := 0
  qualityState : DataQualityState := .unavailable
  lastRejectionCode : Option String := none
  currentParserVersion : Option String := none
  updatedAt : Time
deriving DecidableEq, Repr

/-- A row of `scrape_runs`. -/
structure RunRow where
  id : Int
  targetId : Int
  workerId : String
  leaseGeneration : Int
  outcome : Outcome
  startedAt : Time
  finishedAt : Time
  nextRunAt : Time
  validationSeqAfter : Option Int
deriving DecidableEq, Repr

/-- A row of `scrape_snapshots`. -/
structure SnapshotRow where
  id : Int
  targetId : Int
  runId : Option Int
  version : Int
  contentHash : ContentHash
  payload : RawMessage
  contentFetchedAt : Time
  verifiedAt : Option Time
  parserVersion : Option String
  schemaVersion : Option String
  rawBodyHash : Option String
  complete : Bool
  manifest : SnapshotManifest
  validationReport : ValidationReport
deriving DecidableEq, Repr

/-- A row of `snapshot_commit_events`, the outbox. -/
structure CommitEvent where
  sequence : Int
  snapshotId : Int
  targetId : Int
  snapshotVersion : Int
  targetKind : SnapshotKind
  committedAt : Time
deriving DecidableEq, Repr

/-- A row of `scrape_host_permits`. -/
structure PermitRow where
  id : Int
  host : String
  targetId : Int
  workerId : String
  leaseGeneration : Int
  acquiredAt : Time
  expiresAt : Time
deriving DecidableEq, Repr

/-- A row of `snapshot_listener_checkpoints`. -/
structure CheckpointRow where
  consumerName : String
  lastSequence : Int
deriving DecidableEq, Repr

/-! ## The store -/

structure Store where
  hosts : List HostRow := []
  targets : List TargetRow := []
  runs : List RunRow := []
  snapshots : List SnapshotRow := []
  candidates : List ScrapeCandidate := []
  events : List CommitEvent := []
  permits : List PermitRow := []
  checkpoints : List CheckpointRow := []
  nextTargetId : Int := 1
  nextRunId : Int := 1
  nextSnapshotId : Int := 1
  nextEventSequence : Int := 1
  nextPermitId : Int := 1
deriving DecidableEq, Repr

namespace Store

def target? (s : Store) (id : Int) : Option TargetRow := lookup TargetRow.id s.targets id

def targetByRef? (s : Store) (ref : TargetRef) : Option TargetRow := lookup TargetRow.ref s.targets ref

def host? (s : Store) (host : String) : Option HostRow := lookup HostRow.host s.hosts host

end Store

/-! ## Constraints -/

def inSmallint (x : Int) : Bool := -32768 ≤ x && x ≤ 32767

def inInteger (x : Int) : Bool := -2147483648 ≤ x && x ≤ 2147483647

/-- The `CHECK`s and integer ranges of `scrape_targets`. -/
def TargetRow.checks (t : TargetRow) : Bool :=
  t.ref.kind.valid &&
  inSmallint t.priority &&
  (0 ≤ t.missingCount && t.missingCount ≤ 2) &&
  (0 < t.currentIntervalSeconds && inInteger t.currentIntervalSeconds) &&
  (0 < t.minIntervalSeconds && inInteger t.minIntervalSeconds) &&
  (t.minIntervalSeconds ≤ t.maxIntervalSeconds && inInteger t.maxIntervalSeconds) &&
  (t.maxIntervalSeconds ≤ t.maxServeAgeSeconds && inInteger t.maxServeAgeSeconds) &&
  0 ≤ t.validationSeq &&
  (0 ≤ t.consecutiveFailures && inInteger t.consecutiveFailures) &&
  t.recentChanges.length ≤ 10 &&
  0 ≤ t.currentVersion &&
  0 ≤ t.leaseGeneration &&
  (t.leaseOwner.isNone == t.leaseExpiresAt.isNone) &&
  ((t.currentSnapshotId.isNone && t.currentVersion = 0 && t.currentContentHash.isNone) ||
    (t.currentSnapshotId.isSome && 0 < t.currentVersion && t.currentContentHash.isSome)) &&
  inInteger t.consecutiveMissingCount &&
  inInteger t.previousRecordCount

namespace Store

/-- `UPDATE scrape_targets SET f WHERE p`, with the number of rows it affects. -/
def updateTargets (s : Store) (p : TargetRow → Bool) (f : TargetRow → TargetRow) :
    Except StoreError (Store × Nat) :=
  if s.targets.all (fun t => !p t || (f t).checks) then
    .ok ({ s with targets := updateWhere p f s.targets }, s.targets.countP p)
  else .error (.constraint "scrape_targets")

theorem updateTargets_ok {s s' : Store} {n : Nat} {p : TargetRow → Bool} {f : TargetRow → TargetRow}
    (h : s.updateTargets p f = .ok (s', n)) :
    s' = { s with targets := updateWhere p f s.targets } ∧ n = s.targets.countP p ∧
      ∀ t ∈ s.targets, p t = true → (f t).checks = true := by
  unfold updateTargets at h
  split at h
  · rename_i hall
    cases h
    refine ⟨rfl, rfl, fun t ht hp => ?_⟩
    simpa [hp] using List.all_eq_true.mp hall t ht
  · cases h

end Store

/-! ## Conversions -/

def durationSeconds (value : Duration) : Int := value.tdiv second

/-- `make_interval(secs => n)`. -/
def makeInterval (seconds : Int) : Duration := seconds * second

/-- `NULLIF(text, '')` and `nullIfEmpty`. -/
def nullIfEmpty (text : String) : Option String := if text = "" then none else some text

/-- `scanScrapeTarget` over `targetReturningColumns`. -/
def scanScrapeTarget (t : TargetRow) : ScrapeTarget where
  id := t.id
  ref := t.ref
  attributes := t.attributes
  priority := t.priority
  missingCount := t.missingCount
  currentContentHash := t.currentContentHash.getD 0
  hasCurrentSnapshot := t.currentSnapshotId.isSome
  currentVersion := t.currentVersion
  validationSeq := t.validationSeq
  currentInterval := t.currentIntervalSeconds * second
  minInterval := t.minIntervalSeconds * second
  maxInterval := t.maxIntervalSeconds * second
  maxServeAge := t.maxServeAgeSeconds * second
  nextRunAt := t.nextRunAt
  lastValidatedAt := t.lastValidatedAt
  consecutiveFailures := t.consecutiveFailures
  recentChanges := t.recentChanges
  conditional := { etag := t.etag.getD "", lastModified := t.lastModified.getD "" }
  leaseOwner := t.leaseOwner.getD ""
  leaseGeneration := t.leaseGeneration
  leaseExpiresAt := t.leaseExpiresAt
  previousRecordCount := t.previousRecordCount
  lifecycleState := t.lifecycleState
  lastSeenParentVersion := t.lastSeenParentVersion
  consecutiveMissingCount := t.consecutiveMissingCount
  tombstonedAt := t.tombstonedAt
  reactivatedAt := t.reactivatedAt

end QrCommandCenter
