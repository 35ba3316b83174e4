import QrCommandCenter.Scraper.Policy
import QrCommandCenter.Scraper.Validation

/-!
# What a fetch amounts to

The first half of `RunClaimedWithRelease` in `internal/scraper/coordinator.go`: from the response of the source and the
previous snapshot to the outcome of the run, before anything is stored.

* `Fetched`, `FetchFailure`, `classifyFetch` : the response of the source;
* `rawHashUnchanged` : the fast path for a body that was published before;
* `confirmChange` : the second fetch of a suspicious change;
* `judge` : the outcome with its payload, count and evidence, a `Judgement`.
-/

namespace QrCommandCenter.Scraper
open Domain

def parserVersion : String := "warwick-v1"
def schemaVersion : String := "schema-v1"
def canonicalizerVersion : String := "canonical-v1"

/-! ## The response of the source -/

structure ResponseMetadata where
  statusCode : Int := 0
  etag : String := ""
  lastModified : String := ""
  cacheControl : String := ""
  contentType : String := ""
  rawBodyHash : String := ""
deriving DecidableEq, Repr

structure FetchResult where
  value : Value := .nil
  metadata : ResponseMetadata := {}
  bytesRead : Int := 0
  reportedCount : Int := 0
  expectedPages : Int := 0
  fetchedPages : Int := 0
deriving DecidableEq, Repr

inductive FetchErrorKind where
  | authExpired
  | network
  | invalidPayload
  | rateLimited
  | authConflict
  | poolExhausted
deriving DecidableEq, Repr

/-- The errors `classifyFetch` tells apart. -/
inductive FetchFailure where
  | notModified
  | upstreamStatus (statusCode : Int) (retryAfter : Duration)
  | fetchError (kind : FetchErrorKind)
  | deadlineExceeded
  | canceled
  | other (text : String)
deriving DecidableEq, Repr

structure Fetched where
  result : FetchResult
  failure : Option FetchFailure := none
deriving DecidableEq, Repr

/-- The outcome, error kind, status and pause of a response. -/
structure FetchClass where
  outcome : Outcome
  errorKind : String
  statusCode : Option Int
  retryAfter : Duration := 0
deriving DecidableEq, Repr

def classifyFetch (fetched : Fetched) : FetchClass :=
  let status := if 0 < fetched.result.metadata.statusCode then some fetched.result.metadata.statusCode else none
  match fetched.failure with
  | none => { outcome := .unchanged, errorKind := "", statusCode := status }
  | some .notModified => { outcome := .notModified, errorKind := "", statusCode := status }
  | some (.upstreamStatus code retryAfter) =>
    if code = 429 then
      { outcome := .rateLimited, errorKind := "rate_limited", statusCode := some code, retryAfter := retryAfter }
    else if code ∈ [408, 425, 500, 502, 503, 504] then
      { outcome := .transientError, errorKind := "upstream_status", statusCode := some code, retryAfter := retryAfter }
    else if code = 404 ∨ code = 410 then { outcome := .notFound, errorKind := "not_found", statusCode := some code }
    else if 400 ≤ code ∧ code < 500 then
      { outcome := .permanentError, errorKind := "upstream_status", statusCode := some code }
    else { outcome := .transientError, errorKind := "upstream_status", statusCode := some code }
  | some (.fetchError .authExpired) | some (.fetchError .authConflict) =>
    { outcome := .authError, errorKind := "authentication", statusCode := status }
  | some (.fetchError .invalidPayload) =>
    { outcome := .invalidPayload, errorKind := "invalid_payload", statusCode := status }
  | some (.fetchError .rateLimited) => { outcome := .rateLimited, errorKind := "rate_limited", statusCode := status }
  | some .deadlineExceeded => { outcome := .transientError, errorKind := "timeout", statusCode := status }
  | some _ => { outcome := .transientError, errorKind := "network", statusCode := status }

/-! ## Evidence -/

/-- `hex.EncodeToString` of a content hash. -/
def hexEncode (hash : ContentHash) : String :=
  String.ofList ((List.range 64).map fun i => Nat.digitChar (hash.toNat / 16 ^ (63 - i) % 16))

/-- The completeness of a manifest with these counts. -/
def completeManifest (reported parsed unique expectedPages fetchedPages : Int) : SnapshotManifest :=
  let complete := (expectedPages ≤ 0 || expectedPages ≤ fetchedPages) && (reported ≤ 0 || parsed = reported)
  { sourceReportedCount := reported
    parsedCount := parsed
    uniqueCount := unique
    expectedPageCount := expectedPages
    fetchedPageCount := fetchedPages
    complete := complete
    incompleteReasons := if complete then [] else ["parsed count differs from reported count"] }

def buildSnapshotManifest (result : FetchResult) (payload : ValidatedPayload) : SnapshotManifest :=
  completeManifest result.reportedCount payload.recordCount payload.distinctIDs result.expectedPages result.fetchedPages

def manifestFromEvidence (result : FetchResult) (parsedCount : Int) : SnapshotManifest :=
  completeManifest result.reportedCount parsedCount parsedCount result.expectedPages result.fetchedPages

def buildValidationReport (manifest : SnapshotManifest) (warnings : List ValidationWarning)
    (requiresConfirmation : Bool) : ValidationReport :=
  let report : ValidationReport := { complete := manifest.complete, requiresConfirmation := requiresConfirmation }
  let report := if manifest.complete then report
    else report.add "incomplete_manifest" .fatal "" "candidate collection is incomplete"
  let report := warnings.foldl (fun report warning => report.add warning.code .warning "" warning.message) report
  if requiresConfirmation then
    report.add "suspicious_change" .warning "" "record count change requires independent confirmation"
  else report

def snapshotIDs (kind : SnapshotKind) : RawMessage → Option (List String)
  | .document document => if kindOf document = some kind then some (identifierSet document) else none
  | _ => none

/-! ## Confirmation -/

/-- What one run reads from outside the store: clocks, responses, random draws and fresh identifiers. -/
structure RunEnv where
  startedAt : Time
  finishedAt : Time
  evidenceAt : Time := 0
  canceled : Bool := false
  fetched : Fetched
  /-- The answer to `FetchConfirmation`, or `none` for a source that has no such method. -/
  confirmation : Option Fetched := none
  /-- The read of the previous snapshot fails. -/
  previousUnreadable : Bool := false
  intervalDraw : ℚ := 1 / 2
  failureDraw : Nat := 0
  childDraw : Nat → Nat := fun _ => 0
  requestID : String := ""
  evidenceRequestID : String := ""
  confirmationGroup : String := ""

structure Config where
  codec : Codec
  canonicalPayloadLimit : Int

def mismatchEvidence (env : RunEnv) (target : ScrapeTarget) (second : FetchResult) (document : Document)
    (hash : ContentHash) (count : Int) (rejectionCode message : String) : ScrapeCandidate where
  targetID := target.id
  leaseGeneration := target.leaseGeneration
  attemptNumber := 2
  fetchedAt := env.evidenceAt
  requestID := env.evidenceRequestID
  httpStatus := second.metadata.statusCode
  contentType := second.metadata.contentType
  contentLength := second.bytesRead
  etag := second.metadata.etag
  lastModified := second.metadata.lastModified
  rawBodyHash := second.metadata.rawBodyHash
  canonicalHash := hexEncode hash
  parserVersion := parserVersion
  schemaVersion := schemaVersion
  canonicalizerVersion := canonicalizerVersion
  payload := .document document
  manifest := manifestFromEvidence second count
  validation := {
    complete := count = second.reportedCount || second.reportedCount ≤ 0
    violations := [{ code := rejectionCode, severity := .fatal, message := message }] }
  disposition := .quarantinedAnomaly
  rejectionCode := rejectionCode

/-- The answer of `confirmChange`: confirmed, or refused with a code and perhaps the evidence. -/
inductive Confirmation where
  | confirmed
  | refused (code : String) (evidence : Option ScrapeCandidate)
deriving DecidableEq, Repr

def Agrees (config : Config) (kind : SnapshotKind) (hash : ContentHash) (count : Int) (second : Fetched) : Prop :=
  second.failure = none ∧ ∃ document,
    canonicalize config.codec kind second.result.value config.canonicalPayloadLimit = .ok (document, hash, count)

def confirmChange (config : Config) (env : RunEnv) (target : ScrapeTarget) (first : FetchResult)
    (firstHash : ContentHash) (firstCount : Int) : Confirmation :=
  match env.confirmation with
  | none => .refused "confirmation_unavailable" none
  | some second =>
    if second.failure.isSome then .refused "confirmation_fetch_failed" none
    else match canonicalize config.codec target.ref.kind second.result.value config.canonicalPayloadLimit with
    | .error _ => .refused "confirmation_parse_failed" none
    | .ok (document, hash, count) =>
      if hash = firstHash ∧ count = firstCount then .confirmed
      -- the same bytes of a single page that parse to something else are the parser's fault
      else if second.result.metadata.rawBodyHash ≠ "" ∧
          second.result.metadata.rawBodyHash = first.metadata.rawBodyHash ∧ hash ≠ firstHash ∧
          first.fetchedPages ≤ 1 ∧ second.result.fetchedPages ≤ 1 then
        let code := "confirmation_parser_nondeterminism"
        .refused code (some (mismatchEvidence env target second.result document hash count code
          "confirmation fetch had identical raw bytes but canonicalized to a different hash"))
      else
        let code := "confirmation_mismatch"
        .refused code (some (mismatchEvidence env target second.result document hash count code
          "independent confirmation fetch did not match the original candidate"))

theorem confirmChange_confirmed_iff {config : Config} {env : RunEnv} {target : ScrapeTarget} {first : FetchResult}
    {firstHash : ContentHash} {firstCount : Int} :
    confirmChange config env target first firstHash firstCount = .confirmed ↔
      ∃ second, env.confirmation = some second ∧ Agrees config target.ref.kind firstHash firstCount second := by
  cases hsecond : env.confirmation with
  | none => simp [confirmChange, hsecond]
  | some second =>
    have hunfold : (∃ x, some second = some x ∧ Agrees config target.ref.kind firstHash firstCount x) ↔
        Agrees config target.ref.kind firstHash firstCount second := by simp
    rw [hunfold]
    unfold Agrees
    cases hfailure : second.failure with
    | some failure => simp [confirmChange, hsecond, hfailure]
    | none =>
      cases hcanonical : canonicalize config.codec target.ref.kind second.result.value config.canonicalPayloadLimit with
      | error message => simp [confirmChange, hsecond, hfailure, hcanonical]
      | ok answer =>
        obtain ⟨document, hash, count⟩ := answer
        simp only [confirmChange, hsecond, hfailure, hcanonical, Option.isSome_none, Bool.false_eq_true, if_false,
          true_and, Except.ok.injEq, Prod.mk.injEq, exists_eq_left']
        by_cases hagree : hash = firstHash ∧ count = firstCount
        · simp only [if_pos hagree, true_iff]
          exact hagree
        · rw [if_neg hagree]
          refine ⟨fun h => ?_, fun h => absurd h hagree⟩
          split at h <;> cases h

/-! ## The outcome -/

/-- The outcome of a run and what it stores. -/
structure Judgement where
  outcome : Outcome
  errorKind : String := ""
  payload : RawMessage := .empty
  contentHash : ContentHash := 0
  changed : Bool := false
  recordsCount : Int := 0
  manifest : SnapshotManifest := {}
  validation : ValidationReport := {}
  confirmationGroup : String := ""
  confirmationRejectionCode : String := ""
  evidence : List ScrapeCandidate := []
  confirmation : Option Fetched := none
deriving DecidableEq, Repr

/-- The response carries the raw body of the previous snapshot, on one page and under this parser. -/
def rawHashUnchanged (previous : Except StoreError Snapshot) (result : FetchResult) : Bool :=
  match previous with
  | .error _ => false
  | .ok snapshot => snapshot.rawBodyHash ≠ "" && result.metadata.rawBodyHash = snapshot.rawBodyHash &&
      snapshot.parserVersion = parserVersion && result.fetchedPages ≤ 1

/-- The outcome of a candidate that needs no confirmation, or has it. -/
def settleChange (target : ScrapeTarget) (document : Document) (hash : ContentHash) (pending : Judgement) : Judgement :=
  if !target.hasContentHash || hash ≠ target.currentContentHash then
    { pending with outcome := .changed, changed := true, payload := .document document, contentHash := hash }
  else { pending with outcome := .unchanged }

def previousCount (target : ScrapeTarget) : Int := if target.hasCurrentSnapshot then target.previousRecordCount else 0

def previousIDs (kind : SnapshotKind) (previous : Except StoreError Snapshot) : Option (List String) :=
  match previous with
  | .error _ => none
  | .ok snapshot => snapshotIDs kind snapshot.payload

section
variable (config : Config) (env : RunEnv) (target : ScrapeTarget) (previous : Except StoreError Snapshot)

def judgeAccepted (document : Document) (hash : ContentHash) (count : Int) (payload : ValidatedPayload) : Judgement :=
  let result := env.fetched.result
  let classification := classifyChangeAgainst defaultChangeSafetyPolicy payload (previousCount target)
    (previousIDs target.ref.kind previous)
  let manifest := buildSnapshotManifest result payload
  let pending : Judgement := {
    outcome := .unchanged
    recordsCount := count
    manifest := manifest
    validation := buildValidationReport manifest payload.warnings (classification.status = .suspicious) }
  match classification.status with
  | .changed => settleChange target document hash pending
  | .suspicious =>
    let pending := { pending with confirmationGroup := env.confirmationGroup, confirmation := env.confirmation }
    match confirmChange config env target result hash count with
    | .confirmed => settleChange target document hash pending
    | .refused code evidence => { pending with
        outcome := .quarantined
        errorKind := "confirmation"
        payload := .document document
        contentHash := hash
        confirmationRejectionCode := code
        evidence := evidence.toList.map fun c => { c with confirmationGroupUUID := env.confirmationGroup } }

/-- A response with a body: canonicalize, validate, classify. -/
def judgeValue :
    Judgement :=
  match canonicalize config.codec target.ref.kind env.fetched.result.value config.canonicalPayloadLimit with
  | .error _ => { outcome := .invalidPayload, errorKind := "canonicalization" }
  | .ok (document, hash, count) =>
    match validatePayload target.ref.kind env.fetched.result.value target.ref.resourceKey with
    | .error _ => { outcome := .invalidPayload, errorKind := "validation" }
    | .ok payload => judgeAccepted config env target previous document hash count payload

def judge :
    Judgement :=
  match env.fetched.failure with
  | none =>
    if rawHashUnchanged previous env.fetched.result then { outcome := .unchanged }
    else judgeValue config env target previous
  | some .notModified =>
    if target.hasCurrentSnapshot then { outcome := .notModified }
    else { outcome := .invalidPayload, errorKind := "not_modified_without_snapshot" }
  | some _ =>
    { outcome := (classifyFetch env.fetched).outcome, errorKind := (classifyFetch env.fetched).errorKind }

end

/-! ## All outcomes -/

/-- All that `judge` can return. -/
inductive Judged (config : Config) (env : RunEnv) (target : ScrapeTarget) (previous : Except StoreError Snapshot) :
    Judgement → Prop where
  | failed (judgement : Judgement) (houtcome : successfulOutcome judgement.outcome = false)
      (hchanged : judgement.changed = false) : Judged config env target previous judgement
  | notModified (hfetch : env.fetched.failure = some .notModified) (hcurrent : target.hasCurrentSnapshot = true) :
      Judged config env target previous { outcome := .notModified }
  | fastPath (hfetch : env.fetched.failure = none) (hraw : rawHashUnchanged previous env.fetched.result = true) :
      Judged config env target previous { outcome := .unchanged }
  | unchanged (judgement : Judgement) {document : Document} {hash : ContentHash} {count : Int}
      (hfetch : env.fetched.failure = none)
      (hcanonical : canonicalize config.codec target.ref.kind env.fetched.result.value config.canonicalPayloadLimit =
        .ok (document, hash, count))
      (hhash : target.hasContentHash = true ∧ hash = target.currentContentHash)
      (houtcome : judgement.outcome = .unchanged) (hchanged : judgement.changed = false) :
      Judged config env target previous judgement
  | changed (judgement : Judgement) {document : Document} {payload : ValidatedPayload}
      (hfetch : env.fetched.failure = none)
      (hcanonical : canonicalize config.codec target.ref.kind env.fetched.result.value config.canonicalPayloadLimit =
        .ok (document, judgement.contentHash, judgement.recordsCount))
      (hvalid : validatePayload target.ref.kind env.fetched.result.value target.ref.resourceKey = .ok payload)
      (houtcome : judgement.outcome = .changed) (hchanged : judgement.changed = true)
      (hpayload : judgement.payload = .document document) : Judged config env target previous judgement

variable {config : Config} {env : RunEnv} {target : ScrapeTarget} {previous : Except StoreError Snapshot}

theorem classifyFetch_failed {fetched : Fetched} {failure : FetchFailure} (h : fetched.failure = some failure)
    (hne : failure ≠ .notModified) : successfulOutcome (classifyFetch fetched).outcome = false := by
  unfold classifyFetch
  rw [h]
  cases failure with
  | notModified => exact absurd rfl hne
  | upstreamStatus code retryAfter => simp only; split_ifs <;> rfl
  | fetchError kind => cases kind <;> rfl
  | deadlineExceeded | canceled | other => rfl

theorem settleChange_judged {document : Document} {hash : ContentHash} {payload : ValidatedPayload}
    {pending : Judgement} (hfetch : env.fetched.failure = none)
    (hcanonical : canonicalize config.codec target.ref.kind env.fetched.result.value config.canonicalPayloadLimit =
      .ok (document, hash, pending.recordsCount))
    (hvalid : validatePayload target.ref.kind env.fetched.result.value target.ref.resourceKey = .ok payload)
    (hpending : pending.changed = false) :
    Judged config env target previous (settleChange target document hash pending) := by
  unfold settleChange
  split
  · exact .changed _ hfetch hcanonical hvalid rfl rfl rfl
  · rename_i hsame
    rw [Bool.or_eq_true, not_or, Bool.not_eq_true, Bool.not_eq_false', decide_eq_true_eq, ne_eq, not_not] at hsame
    exact .unchanged _ hfetch hcanonical hsame rfl hpending

/-- **Every outcome is one of `Judged`.** -/
theorem judge_judged (config : Config) (env : RunEnv) (target : ScrapeTarget) (previous : Except StoreError Snapshot) :
    Judged config env target previous (judge config env target previous) := by
  unfold judge
  split
  · rename_i hfetch
    split
    · rename_i hraw
      exact .fastPath hfetch hraw
    · unfold judgeValue
      split
      · exact .failed _ rfl rfl
      · rename_i document hash count hcanonical
        split
        · exact .failed _ rfl rfl
        · rename_i payload hvalid
          unfold judgeAccepted
          simp only
          split
          · exact settleChange_judged hfetch hcanonical hvalid rfl
          · split
            · exact settleChange_judged hfetch hcanonical hvalid rfl
            · exact .failed _ rfl rfl
  · rename_i hfetch
    split
    · rename_i hcurrent
      exact .notModified hfetch hcurrent
    · exact .failed _ rfl rfl
  · rename_i failure hne hfetch
    exact .failed _ (classifyFetch_failed hfetch hne) rfl

end QrCommandCenter.Scraper
