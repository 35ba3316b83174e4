import QrCommandCenter.Store.Lifecycle
import QrCommandCenter.Store.Lease

/-!
# The commit transaction

`Commit` of `internal/db/snapshot_repository.go`, statement by statement: the replay of a recorded run, the lease fence,
the run, the snapshot version, the target row, discovered targets, candidate evidence and the outbox event.

* `commit` : the transaction; `existingCommitResult` answers a replay, `fencedTarget` is the lease fence;
* `current` : the published snapshot of an active target;
* `CommitMoved`, `CommitEffect` : what a commit that is no replay does to each table;
* `commit_ok` : a commit that succeeds is a replay, which changes nothing, or has that effect.
-/

namespace QrCommandCenter
open Domain Table

structure CommitInput where
  targetID : Int
  workerID : String
  leaseGeneration : Int
  outcome : Outcome
  startedAt : Time
  finishedAt : Time
  bytesRead : Int := 0
  nextRunAt : Time
  currentInterval : Duration
  consecutiveFailures : Int
  recentChanges : List Bool
  validatedAt : Option Time := none
  validationSeqAfter : Option Int := none
  etag : String := ""
  lastModified : String := ""
  cacheControl : String := ""
  changed : Bool := false
  contentHash : ContentHash := 0
  payload : RawMessage := .empty
  discovered : List TargetSeed := []
  seenChildRefs : List TargetRef := []
  recordsCount : Int := 0
  manifest : SnapshotManifest := {}
  validation : ValidationReport := {}
  parserVersion : String := ""
  schemaVersion : String := ""
  rawBodyHash : String := ""
  lastRejectionCode : String := ""
  candidates : List ScrapeCandidate := []
deriving DecidableEq, Repr

structure CommitResult where
  runID : Int
  snapshot : Option Snapshot := none
  metadata : Option SnapshotMetadata := none
deriving DecidableEq, Repr

/-- The clocks a commit reads: the database's `NOW()` and the two `time.Now()` of a replay. -/
structure CommitClocks where
  databaseNow : Time
  qualityNow : Time
  staleNow : Time
deriving DecidableEq, Repr

/-! ## Checks and conversions -/

def validateCommit (input : CommitInput) : Except StoreError Unit :=
  if input.targetID ≤ 0 ∨ input.leaseGeneration ≤ 0 then
    .error (.invalid "commit requires positive target ID and lease generation")
  else if isBlank input.workerID then .error (.invalid "commit worker ID is required")
  else if input.outcome matches .other _ then .error (.invalidOutcome input.outcome)
  else if isZeroTime input.startedAt || isZeroTime input.finishedAt || isZeroTime input.nextRunAt then
    .error (.invalid "commit timestamps are required")
  else if input.bytesRead < 0 ∨ input.consecutiveFailures < 0 then
    .error (.invalid "commit counters must be non-negative")
  else if input.currentInterval ≤ 0 then .error (.invalid "commit interval must be positive")
  else if input.changed then
    if input.outcome ≠ .changed then .error (.invalid "only changed outcome may insert content")
    else if !input.manifest.complete then .error (.invalid "changed commit requires a complete manifest")
    else if isZeroContentHash input.contentHash then .error (.invalid "changed commit content hash is required")
    else if !input.payload.valid then .error (.invalid "changed commit payload must be valid JSON")
    else .ok ()
  else .ok ()

def trimBoolHistory (history : List Bool) : List Bool := history.drop (history.length - 10)

/-- `deriveQualityState`; a stored state is always valid. -/
def deriveQualityState (stored : DataQualityState) (verifiedAt : Option Time) (maxServeAge : Duration) (now : Time) :
    DataQualityState :=
  match verifiedAt with
  | none => stored
  | some at_ =>
    if stored ≠ .verifiedFresh ∨ isZeroTime at_ ∨ maxServeAge ≤ 0 then stored
    else if maxServeAge < now - at_ then .verifiedStale
    else stored

namespace Store

/-! ## Replays -/

def run? (s : Store) (targetID generation : Int) : Option RunRow :=
  s.runs.find? fun r => r.targetId = targetID && r.leaseGeneration = generation

/-- `snapshotByRun`: the snapshot of a run, with the derived quality of its target. -/
def snapshotByRun (s : Store) (runID : Int) (now : Time) : Except StoreError (Snapshot × DataQualityState) :=
  match s.snapshots.find? fun row => row.runId = some runID with
  | none => .error (.snapshotByRun runID)
  | some row =>
    match s.target? row.targetId, lookup RunRow.id s.runs runID with
    | some target, some run =>
      match run.validationSeqAfter with
      | none => .error (.snapshotByRun runID)
      | some seq => .ok ({
          id := row.id
          targetID := row.targetId
          ref := target.ref
          version := row.version
          validationSeq := seq
          contentHash := row.contentHash
          payload := row.payload
          contentFetchedAt := row.contentFetchedAt
          validatedAt := run.finishedAt
          verifiedAt := row.verifiedAt.getD 0
          nextRunAt := run.nextRunAt
          maxServeAge := target.maxServeAgeSeconds * second
          parserVersion := row.parserVersion.getD ""
          schemaVersion := row.schemaVersion.getD ""
          rawBodyHash := row.rawBodyHash.getD ""
          complete := row.complete
          manifest := row.manifest
          validationReport := row.validationReport },
        deriveQualityState target.qualityState row.verifiedAt (target.maxServeAgeSeconds * second) now)
    | _, _ => .error (.snapshotByRun runID)

def existingCommitResult (s : Store) (clocks : CommitClocks) (targetID generation : Int) :
    Except StoreError (Option CommitResult) :=
  match s.run? targetID generation with
  | none => .ok none
  | some run =>
    if run.outcome ≠ .changed then .ok (some { runID := run.id })
    else do
      let (snapshot, quality) ← s.snapshotByRun run.id clocks.qualityNow
      .ok (some {
        runID := run.id
        snapshot := some snapshot
        metadata := some {
          kind := snapshot.ref.kind
          resourceKey := snapshot.ref.resourceKey
          parentKey := snapshot.ref.parentKey
          version := snapshot.version
          validationSeq := snapshot.validationSeq
          validatedAt := snapshot.validatedAt
          stale := snapshot.stale clocks.staleNow
          qualityState := quality
          complete := snapshot.complete
          parserVersion := snapshot.parserVersion } })

/-! ## Statements of the transaction -/

/-- The `FOR UPDATE` read of the target and the lease fence. -/
def fencedTarget (s : Store) (input : CommitInput) : Except StoreError TargetRow :=
  match s.target? input.targetID with
  | none => .error (.leaseLost "")
  | some target =>
    if target.leaseGeneration ≠ input.leaseGeneration then .error (.leaseLost "")
    else if target.leaseOwner ≠ some input.workerID then
      .error (.leaseLost s!"lease owner mismatch for generation {input.leaseGeneration}")
    else .ok target

/-- The validation sequence after the commit, which an input that names one must agree with. -/
def nextValidationSeq (target : TargetRow) (input : CommitInput) : Except StoreError Int :=
  if successfulOutcome input.outcome then
    match input.validationSeqAfter with
    | none => .ok (target.validationSeq + 1)
    | some seq =>
      if seq = target.validationSeq + 1 then .ok (target.validationSeq + 1)
      else .error (.validationSequence target.validationSeq seq)
  else .ok target.validationSeq

/-- `INSERT INTO scrape_runs`. -/
def insertRun (s : Store) (input : CommitInput) (validationSeqAfter : Int) : Except StoreError (Store × Int) :=
  if (s.run? input.targetID input.leaseGeneration).isSome then
    .error (.constraint "scrape_runs_target_id_lease_generation_key")
  else if input.finishedAt < input.startedAt then .error (.constraint "scrape_runs_check")
  else .ok ({ s with
    runs := s.runs ++ [{
      id := s.nextRunId
      targetId := input.targetID
      workerId := input.workerID
      leaseGeneration := input.leaseGeneration
      outcome := input.outcome
      startedAt := input.startedAt
      finishedAt := input.finishedAt
      nextRunAt := input.nextRunAt
      validationSeqAfter := if successfulOutcome input.outcome then some validationSeqAfter else none }]
    nextRunId := s.nextRunId + 1 }, s.nextRunId)

/-- The row `INSERT INTO scrape_snapshots` adds. -/
def snapshotRow (id runID version : Int) (input : CommitInput) : SnapshotRow where
  id := id
  targetId := input.targetID
  runId := some runID
  version := version
  contentHash := input.contentHash
  payload := input.payload
  contentFetchedAt := input.finishedAt
  verifiedAt := some input.finishedAt
  parserVersion := nullIfEmpty input.parserVersion
  schemaVersion := nullIfEmpty input.schemaVersion
  rawBodyHash := nullIfEmpty input.rawBodyHash
  complete := true
  manifest := input.manifest
  validationReport := input.validation

/-- `INSERT INTO scrape_snapshots`. -/
def insertSnapshot (s : Store) (input : CommitInput) (runID version : Int) : Except StoreError (Store × Int) :=
  if s.snapshots.any fun row => row.targetId = input.targetID && row.version = version then
    .error (.constraint "scrape_snapshots_target_id_version_key")
  else if s.snapshots.any fun row => row.runId = some runID then
    .error (.constraint "idx_scrape_snapshots_run_unique")
  else .ok ({ s with
    snapshots := s.snapshots ++ [snapshotRow s.nextSnapshotId runID version input]
    nextSnapshotId := s.nextSnapshotId + 1 }, s.nextSnapshotId)

/-- A validator column after a success: a 304 keeps the stored value when the response has none. -/
def validatorColumn (outcome : Outcome) (value : String) (stored : Option String) : Option String :=
  if outcome = .notModified then (nullIfEmpty value).or stored else nullIfEmpty value

/-- The `SET` list of a successful commit; `snapshotID` is the version it inserted. -/
def succeedTarget (input : CommitInput) (validationSeqAfter version : Int) (snapshotID : Option Int)
    (t : TargetRow) : TargetRow :=
  let validatedAt := input.validatedAt.getD input.finishedAt
  { t with
    nextRunAt := input.nextRunAt
    currentIntervalSeconds := durationSeconds input.currentInterval
    consecutiveFailures := input.consecutiveFailures
    recentChanges := trimBoolHistory input.recentChanges
    lastValidatedAt := some validatedAt
    validationSeq := validationSeqAfter
    etag := validatorColumn input.outcome input.etag t.etag
    lastModified := validatorColumn input.outcome input.lastModified t.lastModified
    cacheControl := validatorColumn input.outcome input.cacheControl t.cacheControl
    currentSnapshotId := snapshotID.or t.currentSnapshotId
    currentVersion := if snapshotID.isNone then t.currentVersion else version
    currentContentHash := if snapshotID.isNone then t.currentContentHash
      else if input.changed then some input.contentHash else none
    lastContentChangeAt := if snapshotID.isNone then t.lastContentChangeAt else some validatedAt
    previousRecordCount := if snapshotID.isNone then t.previousRecordCount else input.recordsCount
    qualityState := .verifiedFresh
    lastRejectionCode := none
    currentParserVersion := nullIfEmpty input.parserVersion
    leaseOwner := none
    leaseExpiresAt := none
    updatedAt := validatedAt }

/-- The `SET` list of a failed commit. -/
def failTarget (input : CommitInput) (t : TargetRow) : TargetRow :=
  { t with
    nextRunAt := input.nextRunAt
    currentIntervalSeconds := durationSeconds input.currentInterval
    consecutiveFailures := input.consecutiveFailures
    recentChanges := trimBoolHistory input.recentChanges
    qualityState := if t.currentSnapshotId.isNone then .unavailable else .degraded
    lastRejectionCode := nullIfEmpty input.lastRejectionCode
    leaseOwner := none
    leaseExpiresAt := none
    updatedAt := input.finishedAt }

/-- The fenced `UPDATE` of the committed target. -/
def updateCommitted (s : Store) (input : CommitInput) (f : TargetRow → TargetRow) : Except StoreError Store := do
  let (s, affected) ← s.updateTargets
    (fun t => t.id = input.targetID && t.leaseGeneration = input.leaseGeneration) f
  if affected ≠ 1 then .error (.leaseLost "") else .ok s

/-- The `SET` list of the verification refresh. -/
def verifySnapshot (validatedAt : Time) (row : SnapshotRow) : SnapshotRow :=
  { row with complete := true, verifiedAt := some validatedAt }

def refreshVerification (s : Store) (targetID : Int) (validatedAt : Time) : Store :=
  { s with
    snapshots := updateWhere
      (fun row => s.targets.any fun t => t.id = targetID && t.currentSnapshotId = some row.id)
      (verifySnapshot validatedAt) s.snapshots }

/-- An absent or 64 character hex digest. -/
def digestText (text : String) : Bool := text = "" || text.length = 64

def insertCandidate (s : Store) (candidate : ScrapeCandidate) : Except StoreError Store :=
  if (s.target? candidate.targetID).isNone then .error (.constraint "scrape_candidates_target_id_fkey")
  else if candidate.attemptNumber ≤ 0 ∨ !inInteger candidate.attemptNumber then
    .error (.constraint "scrape_candidates_attempt_number_check")
  else if !digestText candidate.rawBodyHash ∨ !digestText candidate.canonicalHash then
    .error (.constraint "scrape_candidates_check")
  else if candidate.payload matches .malformed _ then .error (.constraint "jsonb")
  else if s.candidates.any fun c => c.targetID = candidate.targetID &&
      c.leaseGeneration = candidate.leaseGeneration && c.attemptNumber = candidate.attemptNumber then
    .error (.constraint "scrape_candidates_target_id_lease_generation_attempt_number_key")
  else .ok { s with candidates := s.candidates ++ [candidate] }

def insertCandidates : Store → List ScrapeCandidate → Except StoreError Store
  | s, [] => .ok s
  | s, candidate :: rest => do
    let s ← s.insertCandidate candidate
    s.insertCandidates rest

/-- `INSERT INTO snapshot_commit_events`. -/
def insertEvent (s : Store) (now : Time) (snapshotID targetID version : Int) (kind : SnapshotKind) :
    Except StoreError Store :=
  if s.events.any fun e => e.targetId = targetID && e.snapshotVersion = version then
    .error (.constraint "snapshot_commit_events_target_id_snapshot_version_key")
  else .ok { s with
    events := s.events ++ [{
      sequence := s.nextEventSequence
      snapshotId := snapshotID
      targetId := targetID
      snapshotVersion := version
      targetKind := kind
      committedAt := now }]
    nextEventSequence := s.nextEventSequence + 1 }

/-! ## The transaction -/

def publishes (input : CommitInput) : Bool := successfulOutcome input.outcome && input.changed

def insertVersion (s : Store) (input : CommitInput) (runID version : Int) :
    Except StoreError (Store × Option Int) :=
  if publishes input then do
    let (s, id) ← s.insertSnapshot input runID version
    .ok (s, some id)
  else .ok (s, none)

/-- Updates the committed target, and the verification of its snapshot when the content is unchanged. -/
def commitTarget (s : Store) (input : CommitInput) (validationSeqAfter version : Int) (snapshotID : Option Int) :
    Except StoreError Store :=
  if successfulOutcome input.outcome then do
    let s ← s.updateCommitted input (succeedTarget input validationSeqAfter version snapshotID)
    .ok (if snapshotID.isNone then
      s.refreshVerification input.targetID (input.validatedAt.getD input.finishedAt) else s)
  else s.updateCommitted input (failTarget input)

/-- Discovered targets, candidate evidence and child presence. -/
def recordDiscovery (s : Store) (now : Time) (input : CommitInput) (ref : TargetRef) : Except StoreError Store := do
  let s ← s.upsertSeeds now input.discovered
  let s ← s.insertCandidates input.candidates
  if publishes input then s.applyChildPresence now ref input.seenChildRefs else .ok s

def commitMetadata (target : TargetRow) (input : CommitInput) (validationSeqAfter version : Int) :
    SnapshotMetadata where
  kind := target.ref.kind
  resourceKey := target.ref.resourceKey
  parentKey := target.ref.parentKey
  version := version
  validationSeq := validationSeqAfter
  validatedAt := input.validatedAt.getD input.finishedAt
  stale := input.nextRunAt < input.validatedAt.getD input.finishedAt
  qualityState := .verifiedFresh
  complete := input.manifest.complete
  parserVersion := input.parserVersion

def commitSnapshot (target : TargetRow) (input : CommitInput) (validationSeqAfter version id : Int) : Snapshot where
  id := id
  targetID := input.targetID
  ref := target.ref
  version := version
  validationSeq := validationSeqAfter
  contentHash := input.contentHash
  payload := input.payload
  contentFetchedAt := input.finishedAt
  validatedAt := input.validatedAt.getD input.finishedAt
  verifiedAt := input.finishedAt
  nextRunAt := input.nextRunAt
  maxServeAge := target.maxServeAgeSeconds * second
  parserVersion := input.parserVersion
  schemaVersion := input.schemaVersion
  rawBodyHash := input.rawBodyHash
  complete := input.manifest.complete
  manifest := input.manifest
  validationReport := input.validation

section
variable (notificationLength : SnapshotMetadata → Nat) (s : Store)

/-- The notification and the outbox event of a new version; `notificationLength` is the length of the marshalled
metadata. -/
def announce (now : Time) (target : TargetRow)
    (input : CommitInput) (runID validationSeqAfter version : Int) (snapshotID : Option Int) :
    Except StoreError (Store × CommitResult) :=
  match snapshotID with
  | none => .ok (s, { runID := runID })
  | some id =>
    let metadata := commitMetadata target input validationSeqAfter version
    if 8000 ≤ notificationLength metadata then
      .error (.invalid "commit snapshot: notification payload too large")
    else do
      let s ← s.insertEvent now id input.targetID version target.ref.kind
      .ok (s, {
        runID := runID
        snapshot := some (commitSnapshot target input validationSeqAfter version id)
        metadata := some metadata })

def commitRun (now : Time) (input : CommitInput) :
    Except StoreError (Store × CommitResult) := do
  let target ← s.fencedTarget input
  let validationSeqAfter ← nextValidationSeq target input
  let (s, runID) ← s.insertRun input validationSeqAfter
  let version := if publishes input then target.currentVersion + 1 else target.currentVersion
  let (s, snapshotID) ← s.insertVersion input runID version
  let s ← s.commitTarget input validationSeqAfter version snapshotID
  let s ← s.recordDiscovery now input target.ref
  s.announce notificationLength now target input runID validationSeqAfter version snapshotID

def commit (clocks : CommitClocks) (input : CommitInput) :
    Except StoreError (Store × CommitResult) := do
  validateCommit input
  match ← s.existingCommitResult clocks input.targetID input.leaseGeneration with
  | some result => .ok (s, result)
  | none => s.commitRun notificationLength clocks.databaseNow input

end

def current (s : Store) (ref : TargetRef) : Except StoreError Snapshot := do
  ref.validate
  match s.targets.find? fun t => t.ref = ref && t.lifecycleState = .active with
  | none => .error .snapshotNotFound
  | some target =>
    match target.currentSnapshotId.bind (lookup SnapshotRow.id s.snapshots) with
    | none => .error .snapshotNotFound
    | some row =>
      match target.lastValidatedAt with
      | none => .error (.invalid "read current snapshot")
      | some validatedAt => .ok {
        id := row.id
        targetID := target.id
        ref := ref
        version := row.version
        validationSeq := target.validationSeq
        contentHash := row.contentHash
        payload := row.payload
        contentFetchedAt := row.contentFetchedAt
        validatedAt := validatedAt
        verifiedAt := row.verifiedAt.getD 0
        nextRunAt := target.nextRunAt
        maxServeAge := target.maxServeAgeSeconds * second
        parserVersion := row.parserVersion.getD ""
        schemaVersion := row.schemaVersion.getD ""
        rawBodyHash := row.rawBodyHash.getD ""
        complete := row.complete
        manifest := row.manifest
        validationReport := row.validationReport }

theorem current_inv {s : Store} {ref : TargetRef} {snapshot : Snapshot} (h : s.current ref = .ok snapshot) :
    ∃ t ∈ s.targets, t.ref = ref ∧ t.lifecycleState = .active ∧
      ∃ row, t.currentSnapshotId.bind (lookup SnapshotRow.id s.snapshots) = some row ∧ snapshot.targetID = t.id ∧
        snapshot.validationSeq = t.validationSeq ∧ snapshot.version = row.version ∧ snapshot.payload = row.payload ∧
        snapshot.rawBodyHash = row.rawBodyHash.getD "" ∧ snapshot.parserVersion = row.parserVersion.getD "" := by
  obtain ⟨_, -, h⟩ := bind_eq_ok.mp h
  split at h
  · cases h
  · rename_i t hfind
    have ht : t.ref = ref ∧ t.lifecycleState = .active := by simpa using List.find?_some hfind
    split at h
    · cases h
    · rename_i row hrow
      split at h
      · cases h
      · cases h
        exact ⟨t, List.mem_of_find?_eq_some hfind, ht.1, ht.2, row, hrow, rfl, rfl, rfl, rfl, rfl, rfl⟩

end Store

/-! ## What a commit does -/

/-- The pointer columns after a commit; `snapshotID` is the id the next snapshot gets. -/
def commitPointer (input : CommitInput) (snapshotID : Int) (t : TargetRow) :
    Option Int × Int × Option ContentHash × Int × Int :=
  if Store.publishes input then
    (some snapshotID, t.currentVersion + 1, some input.contentHash, t.validationSeq + 1, input.recordsCount)
  else if successfulOutcome input.outcome then
    (t.currentSnapshotId, t.currentVersion, t.currentContentHash, t.validationSeq + 1, t.previousRecordCount)
  else t.pointer

/-- What a commit does to a row: the committed one gives up its lease and moves its pointer, the others keep both. -/
structure CommitMoved (input : CommitInput) (snapshotID : Int) (t t' : TargetRow) : Prop where
  ref : t'.ref = t.ref
  generation : t'.leaseGeneration = t.leaseGeneration
  lifecycle : t'.lifecycle = t.lifecycle
  enabled : Store.publishes input = false → t.enabled = true → t'.enabled = true
  kept : t.id ≠ input.targetID → t.Kept t'
  due : t'.nextRunAt ≤ if t.id = input.targetID then input.nextRunAt else t.nextRunAt
  committed : t.id = input.targetID → t'.leaseOwner = none ∧ t'.pointer = commitPointer input snapshotID t
  validated : t.id = input.targetID → successfulOutcome input.outcome = true → t'.lastValidatedAt.isSome

namespace Store

variable {input : CommitInput} {target : TargetRow} {seq runID version sid : Int} {now : Time} {ref : TargetRef}
  {snapshotID : Option Int} {len : SnapshotMetadata → Nat} {result : CommitResult}

structure CommitEffect (input : CommitInput) (s s' : Store) (target : TargetRow) (run : RunRow) : Prop where
  locked : s.target? input.targetID = some target
  generation : target.leaseGeneration = input.leaseGeneration
  owner : target.leaseOwner = some input.workerID
  unrecorded : s.run? input.targetID input.leaseGeneration = none
  hosts : s'.hosts = s.hosts
  permits : s'.permits = s.permits ∧ s'.nextPermitId = s.nextPermitId
  checkpoints : s'.checkpoints = s.checkpoints
  targets : Evolves TargetRow.id (CommitMoved input s.nextSnapshotId) TargetRow.Fresh s.targets s'.targets
  keyed : s.TargetsKeyed → s'.TargetsKeyed
  sound : s.TargetsSound → s'.TargetsSound
  seeded : s.TargetsKeyed →
    validateSeeds input.discovered = .ok () ∧ ∀ seed ∈ dedupSeeds input.discovered, s'.Seeded seed
  recorded : run.id = s.nextRunId ∧ run.targetId = input.targetID ∧ run.leaseGeneration = input.leaseGeneration ∧
    run.outcome = input.outcome
  runs : s'.runs = s.runs ++ [run] ∧ s'.nextRunId = s.nextRunId + 1
  published : publishes input = true →
    s'.snapshots = s.snapshots ++ [snapshotRow s.nextSnapshotId s.nextRunId (target.currentVersion + 1) input] ∧
    s'.nextSnapshotId = s.nextSnapshotId + 1 ∧ s'.nextEventSequence = s.nextEventSequence + 1 ∧
    ∃ now, s'.events = s.events ++ [⟨s.nextEventSequence, s.nextSnapshotId, input.targetID,
      target.currentVersion + 1, target.ref.kind, now⟩]
  unpublished : publishes input = false →
    (∃ p now, s'.snapshots = updateWhere p (verifySnapshot now) s.snapshots) ∧
    s'.nextSnapshotId = s.nextSnapshotId ∧ s'.nextEventSequence = s.nextEventSequence ∧ s'.events = s.events

variable {s s' : Store}

/-! ### The statements -/

theorem verifySnapshot_id (now : Time) (row : SnapshotRow) : (verifySnapshot now row).id = row.id := rfl

theorem fencedTarget_ok (h : s.fencedTarget input = .ok target) :
    s.target? input.targetID = some target ∧ target.leaseGeneration = input.leaseGeneration ∧
      target.leaseOwner = some input.workerID := by
  unfold fencedTarget at h
  split at h
  · cases h
  · rename_i t ht
    obtain ⟨hg, h⟩ := ite_error_eq_ok.mp h
    obtain ⟨ho, h⟩ := ite_error_eq_ok.mp h
    cases h
    exact ⟨ht, not_not.mp hg, not_not.mp ho⟩

theorem nextValidationSeq_ok (h : nextValidationSeq target input = .ok seq) :
    seq = if successfulOutcome input.outcome then target.validationSeq + 1 else target.validationSeq := by
  unfold nextValidationSeq at h
  split at h
  · rename_i hs
    rw [if_pos hs]
    split at h
    · cases h; rfl
    · split at h
      · cases h; rfl
      · cases h
  · rename_i hs
    rw [if_neg hs]
    cases h; rfl

theorem updateCommitted_ok {f : TargetRow → TargetRow} (h : s.updateCommitted input f = .ok s') :
    ∃ n, s.updateTargets (fun t => t.id = input.targetID && t.leaseGeneration = input.leaseGeneration) f =
      .ok (s', n) := by
  obtain ⟨⟨s₁, n⟩, hu, h⟩ := bind_eq_ok.mp h
  obtain ⟨-, h⟩ := ite_error_eq_ok.mp h
  cases h
  exact ⟨n, hu⟩

theorem insertCandidate_ok {candidate : ScrapeCandidate} (h : s.insertCandidate candidate = .ok s') :
    s' = { s with candidates := s'.candidates } := by
  unfold insertCandidate at h
  repeat' split at h
  all_goals cases h
  all_goals rfl

theorem insertCandidates_ok {candidates : List ScrapeCandidate} (h : s.insertCandidates candidates = .ok s') :
    s' = { s with candidates := s'.candidates } := by
  induction candidates generalizing s with
  | nil => cases h; rfl
  | cons candidate rest ih =>
    obtain ⟨s₁, h₁, h₂⟩ := bind_eq_ok.mp h
    rw [ih h₂, insertCandidate_ok h₁]

theorem recordDiscovery_ok (h : s.recordDiscovery now input ref = .ok s') :
    TargetsEffect (TargetRow.Tended (publishes input)) s { s' with candidates := s.candidates } := by
  obtain ⟨s₁, h₁, h⟩ := bind_eq_ok.mp h
  obtain ⟨s₂, h₂, h⟩ := bind_eq_ok.mp h
  have e₁ : TargetsEffect (TargetRow.Tended (publishes input)) s s₁ := (upsertSeeds_ok h₁).mono fun _ _ hu => hu.tended
  have e₂ := insertCandidates_ok h₂
  have e₃ : TargetsEffect (TargetRow.Tended (publishes input)) s₂ s' := by
    split at h
    · rename_i hp
      rw [hp]
      exact applyChildPresence_ok h
    · cases h
      exact TargetsEffect.refl TargetRow.Tended.refl _
  -- the candidates are set aside, so that both statements on the targets compose
  have e₃' : TargetsEffect (TargetRow.Tended (publishes input)) s₁ { s' with candidates := s.candidates } := by
    rw [e₂] at e₃
    refine ⟨?_, e₃.evolves, e₃.keyed, fun hs => (e₃.sound (hs.congr rfl)).congr rfl⟩
    have hc : s₁.candidates = s.candidates := by rw [e₁.frame]
    have hf := e₃.frame
    unfold TargetsOnly at hf ⊢
    rw [hf, ← hc]
  exact e₁.trans e₃' (fun _ _ _ => TargetRow.Tended.trans) (fun _ _ hf h => h.toKept.fresh hf)

theorem recordDiscovery_seeded (hk : s.TargetsKeyed) (h : s.recordDiscovery now input ref = .ok s') :
    validateSeeds input.discovered = .ok () ∧ ∀ seed ∈ dedupSeeds input.discovered, s'.Seeded seed := by
  obtain ⟨s₁, h₁, h⟩ := bind_eq_ok.mp h
  obtain ⟨s₂, h₂, h⟩ := bind_eq_ok.mp h
  have hk₁ : s₁.TargetsKeyed := (upsertSeeds_ok h₁).keyed hk
  obtain ⟨_, hvalid, hall⟩ := bind_eq_ok.mp h₁
  refine ⟨hvalid, fun seed hseed => ?_⟩
  have hseeded : s₁.Seeded seed := upsertAll_seeded hk hall seed hseed
  have hseeded₂ : s₂.Seeded seed := hseeded.congr (by rw [insertCandidates_ok h₂])
  split at h
  · have hk₂ : s₂.TargetsKeyed := by rw [insertCandidates_ok h₂]; exact hk₁
    exact hseeded₂.mono (applyChildPresence_ok h) (fun _ _ ht => ht.ref) hk₂
  · cases h
    exact hseeded₂

/-- The snapshot a commit inserts; `nextSnapshotId` is the id it gets. -/
def commitSnapshotID (input : CommitInput) (nextSnapshotId : Int) : Option Int :=
  if publishes input then some nextSnapshotId else none

theorem insertVersion_ok (h : s.insertVersion input runID version = .ok (s', snapshotID)) :
    snapshotID = commitSnapshotID input s.nextSnapshotId ∧
      s' = { s with
        snapshots := if publishes input then s.snapshots ++ [snapshotRow s.nextSnapshotId runID version input]
          else s.snapshots
        nextSnapshotId := if publishes input then s.nextSnapshotId + 1 else s.nextSnapshotId } := by
  unfold insertVersion at h
  unfold commitSnapshotID
  cases hp : publishes input with
  | false =>
    rw [hp] at h
    cases h
    exact ⟨rfl, rfl⟩
  | true =>
    rw [hp] at h
    obtain ⟨⟨s₁, id⟩, h₁, h⟩ := bind_eq_ok.mp h
    cases h
    obtain ⟨-, h₁⟩ := ite_error_eq_ok.mp h₁
    obtain ⟨-, h₁⟩ := ite_error_eq_ok.mp h₁
    cases h₁
    exact ⟨rfl, rfl⟩

def committedRow (input : CommitInput) (validationSeqAfter version : Int) (snapshotID : Option Int) (t : TargetRow) :
    TargetRow :=
  if successfulOutcome input.outcome then succeedTarget input validationSeqAfter version snapshotID t
  else failTarget input t

theorem commitTarget_ok (h : s.commitTarget input seq version snapshotID = .ok s') :
    ∃ s₁ n, s.updateTargets (fun t => t.id = input.targetID && t.leaseGeneration = input.leaseGeneration)
        (committedRow input seq version snapshotID) = .ok (s₁, n) ∧
      s' = if successfulOutcome input.outcome ∧ snapshotID = none then
        s₁.refreshVerification input.targetID (input.validatedAt.getD input.finishedAt) else s₁ := by
  unfold commitTarget at h
  unfold committedRow
  cases hs : successfulOutcome input.outcome with
  | true =>
    rw [hs] at h
    obtain ⟨s₁, h₁, h⟩ := bind_eq_ok.mp h
    obtain ⟨n, hu⟩ := updateCommitted_ok h₁
    cases h
    refine ⟨s₁, n, hu, ?_⟩
    cases snapshotID <;> simp
  | false =>
    rw [hs] at h
    obtain ⟨n, hu⟩ := updateCommitted_ok h
    exact ⟨s', n, hu, by simp⟩

section
variable (input : CommitInput) (seq version : Int) (snapshotID : Option Int) (t : TargetRow)

@[simp] theorem committedRow_id : (committedRow input seq version snapshotID t).id = t.id := by
  unfold committedRow
  split <;> rfl

theorem committedRow_keeps : t.Keeps (committedRow input seq version snapshotID t) := by
  unfold committedRow
  split <;> exact ⟨rfl, rfl, fun h => h⟩

end

theorem committedRow_moved (sid : Int) {t : TargetRow} (hid : t.id = input.targetID)
    (hseq : seq = if successfulOutcome input.outcome then t.validationSeq + 1 else t.validationSeq)
    (hversion : version = if publishes input then t.currentVersion + 1 else t.currentVersion)
    (hsnapshot : snapshotID = if publishes input then some sid else none) :
    CommitMoved input sid t (committedRow input seq version snapshotID t) := by
  cases hs : successfulOutcome input.outcome with
  | false =>
    have hf : committedRow input seq version snapshotID t = failTarget input t := if_neg (by simp [hs])
    rw [hf]
    refine ⟨rfl, rfl, rfl, fun _ h => h, fun hne => absurd hid hne, ?_, fun _ => ⟨rfl, ?_⟩, fun _ h => ?_⟩
    · rw [if_pos hid]
      exact le_refl _
    · simp [commitPointer, publishes, hs, failTarget, TargetRow.pointer]
    · rw [hs] at h
      cases h
  | true =>
    have hf : committedRow input seq version snapshotID t = succeedTarget input seq version snapshotID t :=
      if_pos hs
    rw [hf]
    refine ⟨rfl, rfl, rfl, fun _ h => h, fun hne => absurd hid hne, ?_, fun _ => ⟨rfl, ?_⟩, fun _ _ => rfl⟩
    · rw [if_pos hid]
      exact le_refl _
    · cases hc : input.changed with
      | true => simp [commitPointer, publishes, hs, hc, succeedTarget, TargetRow.pointer, hseq, hversion, hsnapshot]
      | false => simp [commitPointer, publishes, hs, hc, succeedTarget, TargetRow.pointer, hseq, hsnapshot]

section
variable {n : Nat} {f : TargetRow → TargetRow}
  (hu : s.updateTargets (fun t => t.id = input.targetID && t.leaseGeneration = input.leaseGeneration) f = .ok (s', n))
  (hid : ∀ t, (f t).id = t.id) (hlock : s.target? input.targetID = some target)
  (hgen : target.leaseGeneration = input.leaseGeneration)
include hu hid hlock hgen

theorem updateCommitted_rows (F : TargetRow → Prop) :
    Evolves TargetRow.id (fun t t' => t = target ∧ t' = f t ∨ t.id ≠ input.targetID ∧ t' = t) F s.targets s'.targets := by
  have hl := updateTargets_target? hu hid
  refine ⟨fun k t ht => ?_, fun k t' hn ht' => ?_⟩
  · have hk : t.id = k := (lookup_mem ht).2
    have hlk := hl k
    simp only [target?] at hlk hlock
    rw [ht, Option.map_some] at hlk
    refine ⟨_, hlk, ?_⟩
    by_cases he : t.id = input.targetID
    · rw [← he, hk, ht] at hlock
      cases hlock
      exact .inl ⟨rfl, by simp [he, hgen]⟩
    · exact .inr ⟨he, by simp [he]⟩
  · have hlk := hl k
    simp only [target?] at hlk
    rw [hn, ht'] at hlk
    cases hlk

theorem updateCommitted_evolves (hf : CommitMoved input sid target (f target)) :
    Evolves TargetRow.id (CommitMoved input sid) TargetRow.Fresh s.targets s'.targets := by
  refine (updateCommitted_rows hu hid hlock hgen _).mono ?_ fun _ h => h
  rintro t t' (⟨rfl, rfl⟩ | ⟨hne, rfl⟩)
  · exact hf
  · refine ⟨rfl, rfl, rfl, fun _ h => h, fun _ => TargetRow.Kept.refl t', ?_, fun h => absurd h hne, fun h => absurd h hne⟩
    rw [if_neg hne]

end

def runRow (id : Int) (input : CommitInput) (seq : Int) : RunRow where
  id := id
  targetId := input.targetID
  workerId := input.workerID
  leaseGeneration := input.leaseGeneration
  outcome := input.outcome
  startedAt := input.startedAt
  finishedAt := input.finishedAt
  nextRunAt := input.nextRunAt
  validationSeqAfter := if successfulOutcome input.outcome then some seq else none

theorem insertRun_runRow (h : s.insertRun input seq = .ok (s', runID)) :
    s.run? input.targetID input.leaseGeneration = none ∧ runID = s.nextRunId ∧
      s' = { s with runs := s.runs ++ [runRow s.nextRunId input seq], nextRunId := s.nextRunId + 1 } := by
  obtain ⟨hrun, h⟩ := ite_error_eq_ok.mp h
  obtain ⟨-, h⟩ := ite_error_eq_ok.mp h
  cases h
  exact ⟨Option.not_isSome_iff_eq_none.mp hrun, rfl, rfl⟩

theorem announce_ok
    (h : s.announce len now target input runID seq version snapshotID = .ok (s', result)) :
    s' = { s with
        events := s.events ++ snapshotID.toList.map fun id =>
          ⟨s.nextEventSequence, id, input.targetID, version, target.ref.kind, now⟩
        nextEventSequence := if snapshotID.isSome then s.nextEventSequence + 1 else s.nextEventSequence } ∧
      result = { runID := runID, snapshot := snapshotID.map (commitSnapshot target input seq version)
                 metadata := snapshotID.map fun _ => commitMetadata target input seq version } := by
  cases snapshotID with
  | none =>
    cases h
    simp
  | some id =>
    obtain ⟨-, h⟩ := ite_error_eq_ok.mp h
    obtain ⟨s₁, h₁, h⟩ := bind_eq_ok.mp h
    cases h
    obtain ⟨-, h₁⟩ := ite_error_eq_ok.mp h₁
    cases h₁
    exact ⟨rfl, rfl⟩

/-- The tables a commit leaves alone, and the log tables, through the discovery statements. -/
theorem recordDiscovery_frame (h : s.recordDiscovery now input ref = .ok s') :
    s' = { s with targets := s'.targets, nextTargetId := s'.nextTargetId, candidates := s'.candidates } :=
  congrArg (fun x : Store => { x with candidates := s'.candidates }) (recordDiscovery_ok h).frame

theorem commitMoved_trans_tended {a b c : TargetRow} (h₁ : CommitMoved input sid a b)
    (h₂ : b.Tended (publishes input) c) : CommitMoved input sid a c := by
  have hlease := h₂.lease
  simp only [TargetRow.lease, Prod.mk.injEq] at hlease
  refine ⟨h₂.ref.trans h₁.ref, hlease.1.trans h₁.generation, h₂.lifecycle.trans h₁.lifecycle,
    fun hp h => h₂.enabled hp (h₁.enabled hp h), fun hne => (h₁.kept hne).trans h₂.toKept, h₂.due.trans h₁.due,
    fun he => ?_, fun he hs => ?_⟩
  · obtain ⟨hown, hptr⟩ := h₁.committed he
    exact ⟨hlease.2.1.trans hown, h₂.pointer.trans hptr⟩
  · rw [h₂.validated]
    exact h₁.validated he hs

/-! ### The transaction -/

/-- The stages of `commitRun`, from the store before to the store after. -/
theorem commitRun_inv (h : s.commitRun len now input = .ok (s', result)) :
    ∃ target seq runID version s₁ s₂ s₃ s₄ snapshotID,
      s.fencedTarget input = .ok target ∧ nextValidationSeq target input = .ok seq ∧
      version = (if publishes input then target.currentVersion + 1 else target.currentVersion) ∧
      s.insertRun input seq = .ok (s₁, runID) ∧ s₁.insertVersion input runID version = .ok (s₂, snapshotID) ∧
      s₂.commitTarget input seq version snapshotID = .ok s₃ ∧ s₃.recordDiscovery now input target.ref = .ok s₄ ∧
      s₄.announce len now target input runID seq version snapshotID = .ok (s', result) := by
  obtain ⟨target, h₀, h⟩ := bind_eq_ok.mp h
  obtain ⟨seq, hseq, h⟩ := bind_eq_ok.mp h
  obtain ⟨⟨s₁, runID⟩, h₁, h⟩ := bind_eq_ok.mp h
  obtain ⟨⟨s₂, snapshotID⟩, h₂, h⟩ := bind_eq_ok.mp h
  obtain ⟨s₃, h₃, h⟩ := bind_eq_ok.mp h
  obtain ⟨s₄, h₄, h⟩ := bind_eq_ok.mp h
  exact ⟨target, seq, runID, _, s₁, s₂, s₃, s₄, snapshotID, h₀, hseq, rfl, h₁, h₂, h₃, h₄, h⟩

theorem commitTarget_discovery {s₃ s₄ : Store} (hlock : s.target? input.targetID = some target)
    (hgen : target.leaseGeneration = input.leaseGeneration)
    (hmove : CommitMoved input sid target (committedRow input seq version snapshotID target))
    (h₃ : s.commitTarget input seq version snapshotID = .ok s₃) (h₄ : s₃.recordDiscovery now input ref = .ok s₄) :
    Evolves TargetRow.id (CommitMoved input sid) TargetRow.Fresh s.targets s₄.targets ∧
      (s.TargetsKeyed → s₄.TargetsKeyed) ∧ (s.TargetsSound → s₄.TargetsSound) ∧ (s.TargetsKeyed →
        validateSeeds input.discovered = .ok () ∧ ∀ seed ∈ dedupSeeds input.discovered, s₄.Seeded seed) := by
  obtain ⟨sᵤ, n, hu, hrefresh⟩ := commitTarget_ok h₃
  have hdisc := recordDiscovery_ok h₄
  have htargets : s₃.targets = sᵤ.targets ∧ s₃.nextTargetId = sᵤ.nextTargetId := by
    rw [hrefresh]
    split <;> exact ⟨rfl, rfl⟩
  have hev := updateCommitted_evolves hu (fun t => committedRow_id ..) hlock hgen hmove
  have hdev := hdisc.evolves
  rw [htargets.1] at hdev
  have hkeyed : s.TargetsKeyed → s₃.TargetsKeyed := by
    intro hk
    unfold TargetsKeyed at hk ⊢
    rw [htargets.1, htargets.2, (updateTargets_ok hu).1]
    exact Keyed.updateWhere hk fun t => committedRow_id ..
  refine ⟨hev.trans hdev (fun _ _ _ => commitMoved_trans_tended) (fun _ _ hf h => h.toKept.fresh hf) (fun _ hf => hf),
    fun hk => hdisc.keyed (hkeyed hk), fun hs => ?_, fun hk => recordDiscovery_seeded (hkeyed hk) h₄⟩
  · have hsᵤ := updateTargets_sound hu (committedRow_keeps input seq version snapshotID) hs
    exact (hdisc.sound (hsᵤ.congr htargets.1)).congr rfl

theorem commitTarget_frame (h : s.commitTarget input seq version snapshotID = .ok s') :
    s' = { s with targets := s'.targets, snapshots := s'.snapshots } ∧
      (snapshotID.isSome → s'.snapshots = s.snapshots) ∧
      ∃ p now, s'.snapshots = updateWhere p (verifySnapshot now) s.snapshots := by
  obtain ⟨sᵤ, n, hu, rfl⟩ := commitTarget_ok h
  rw [(updateTargets_ok hu).1]
  split
  · rename_i hrefresh
    exact ⟨rfl, fun h => by simp [hrefresh.2] at h, _, _, rfl⟩
  · exact ⟨rfl, fun _ => rfl, fun _ => false, 0, by simp [updateWhere]⟩

theorem commitRun_ok (h : s.commitRun len now input = .ok (s', result)) :
    ∃ target run, CommitEffect input s s' target run := by
  obtain ⟨target, seq, runID, version, s₁, s₂, s₃, s₄, snapshotID, h₀, hseq, hversion, h₁, h₂, h₃, h₄, h₅⟩ :=
    commitRun_inv h
  obtain ⟨hlock, hgen, hown⟩ := fencedTarget_ok h₀
  obtain ⟨hun, rfl, e₁⟩ := insertRun_runRow h₁
  obtain ⟨hsnapshotID, e₂⟩ := insertVersion_ok h₂
  obtain ⟨e₃, hpub₃, hunpub₃⟩ := commitTarget_frame h₃
  have e₄ := recordDiscovery_frame h₄
  obtain ⟨e₅, -⟩ := announce_ok h₅
  have hid : target.id = input.targetID := (lookup_mem hlock).2
  have hmove := committedRow_moved s₁.nextSnapshotId hid (nextValidationSeq_ok hseq) hversion hsnapshotID
  obtain ⟨hev, hkeyed, hsound, hseeded⟩ := commitTarget_discovery (by rw [e₂, e₁]; exact hlock) hgen hmove h₃ h₄
  rw [e₂, e₁] at hev hkeyed hsound hseeded
  exact ⟨target, _, {
    locked := hlock, generation := hgen, owner := hown, unrecorded := hun, recorded := ⟨rfl, rfl, rfl, rfl⟩
    targets := by rw [e₅]; exact hev
    keyed := by rw [e₅]; exact hkeyed
    sound := fun hs => (hsound (hs.congr rfl)).congr (by rw [e₅])
    seeded := fun hk => ⟨(hseeded hk).1, fun seed hseed => ((hseeded hk).2 seed hseed).congr (by rw [e₅])⟩
    hosts := by rw [e₅, e₄, e₃, e₂, e₁]
    permits := by rw [e₅, e₄, e₃, e₂, e₁]; exact ⟨rfl, rfl⟩
    checkpoints := by rw [e₅, e₄, e₃, e₂, e₁]
    runs := by rw [e₅, e₄, e₃, e₂, e₁]; exact ⟨rfl, rfl⟩
    published := fun hp => by
      rw [commitSnapshotID, if_pos hp] at hsnapshotID
      rw [if_pos hp] at hversion
      have hsnap := hpub₃ (by rw [hsnapshotID]; rfl)
      simp only [hsnapshotID, hversion, hp, if_true] at e₂ e₅
      rw [e₂, e₁] at hsnap
      rw [e₅, e₄]
      refine ⟨hsnap, ?_, ?_, now, ?_⟩ <;> rw [e₃, e₂, e₁] <;> rfl
    unpublished := fun hp => by
      rw [commitSnapshotID, hp] at hsnapshotID
      simp only [hsnapshotID, hp] at e₂ e₅
      rw [e₂, e₁] at hunpub₃
      rw [e₅, e₄]
      refine ⟨hunpub₃, ?_, ?_, ?_⟩ <;> rw [e₃, e₂, e₁] <;> simp }⟩

section
variable {clocks : CommitClocks} (h : s.commit len clocks input = .ok (s', result))
include h

theorem commit_valid : validateCommit input = .ok () := by
  obtain ⟨_, hvalid, -⟩ := bind_eq_ok.mp h
  exact hvalid

/-- **A commit that succeeds either replays a recorded run and changes nothing, or has the effect of a commit.** -/
theorem commit_ok : s' = s ∧ (s.run? input.targetID input.leaseGeneration).isSome ∨
      ∃ target run, CommitEffect input s s' target run := by
  obtain ⟨_, -, h⟩ := bind_eq_ok.mp h
  obtain ⟨replay, hr, h⟩ := bind_eq_ok.mp h
  cases replay with
  | some result' =>
    cases h
    refine .inl ⟨rfl, ?_⟩
    unfold existingCommitResult at hr
    split at hr
    · cases hr
    · rename_i run hrun
      rw [hrun]
      rfl
  | none => exact .inr (commitRun_ok h)

theorem commit_effect (hrun : s.run? input.targetID input.leaseGeneration = none) :
    ∃ target run, CommitEffect input s s' target run := by
  rcases commit_ok h with ⟨-, hrecorded⟩ | heffect
  · rw [hrun] at hrecorded
    cases hrecorded
  · exact heffect

end

end Store

end QrCommandCenter
