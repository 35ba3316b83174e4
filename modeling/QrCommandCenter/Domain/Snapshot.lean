import QrCommandCenter.Domain.Classroom
import Mathlib.Data.BitVec
import Mathlib.Algebra.Order.Ring.Rat

/-!
# Snapshot domain types

`internal/domain/snapshot.go` and `data_quality.go`: scrape targets and their references, snapshots and their
metadata, the verification evidence, host permits and observations, and the errors the store returns.
-/

namespace QrCommandCenter.Domain

/-! ## Kinds, outcomes, references -/

/-- `SnapshotKind`; `other` is a text that names no kind. -/
inductive SnapshotKind where
  | courseCatalog
  | courseDetail
  | sessionDetail
  | studentProfiles
  | other (text : String)
deriving DecidableEq, Repr

def SnapshotKind.text : SnapshotKind → String
  | .courseCatalog => "course_catalog"
  | .courseDetail => "course_detail"
  | .sessionDetail => "session_detail"
  | .studentProfiles => "student_profiles"
  | .other text => text

def SnapshotKind.valid : SnapshotKind → Bool
  | .other _ => false
  | _ => true

/-- The outcome text of a run; `other` is a text that names no outcome. -/
inductive Outcome where
  | changed
  | unchanged
  | notModified
  | rateLimited
  | authError
  | transientError
  | notFound
  | permanentError
  | invalidPayload
  | canceled
  | quarantined
  | other (text : String)
deriving DecidableEq, Repr

/-- `successfulOutcome` and `isSuccessfulOutcome`. -/
def successfulOutcome (outcome : Outcome) : Bool :=
  outcome = .changed || outcome = .unchanged || outcome = .notModified

@[ext] structure TargetRef where
  host : String
  kind : SnapshotKind
  resourceKey : String
  parentKey : String := ""
deriving DecidableEq, Repr

def TargetRef.identityKey (r : TargetRef) : String :=
  r.kind.text ++ "\x00" ++ r.parentKey ++ "\x00" ++ r.resourceKey ++ "\x00" ++ r.host

/-! ## Errors -/

/-- The errors of the store. `leaseLost` carries the text around `ErrLeaseLost`, `constraint` the constraint that was
broken. -/
inductive StoreError where
  | snapshotNotFound
  | leaseLost (detail : String)
  | hostPaused
  | targetLeased
  | invalid (message : String)
  | invalidKind (kind : SnapshotKind)
  | invalidOutcome (outcome : Outcome)
  | invalidPolicy (ref : TargetRef)
  | nextRunRequired (ref : TargetRef)
  | invalidAttributes (ref : TargetRef)
  | validationSequence (have_ input : Int)
  | hostStateNotFound (host : String)
  | snapshotByRun (runID : Int)
  | constraint (name : String)
deriving DecidableEq, Repr

/-- `errors.Is(err, ErrLeaseLost)`. -/
def StoreError.isLeaseLost : StoreError → Bool
  | .leaseLost _ => true
  | _ => false

def TargetRef.validate (r : TargetRef) : Except StoreError Unit :=
  if isBlank r.host then .error (.invalid "snapshot target host is required")
  else if !r.kind.valid then .error (.invalidKind r.kind)
  else if isBlank r.resourceKey then .error (.invalid "snapshot target resource key is required")
  else .ok ()

/-! ## Targets -/

/-- A `[32]byte` content hash. -/
abbrev ContentHash := BitVec 256

def isZeroContentHash (hash : ContentHash) : Bool := hash = 0

/-- A target's JSON attributes: the empty message, a text that is no JSON, or an object of text fields. -/
inductive Attributes where
  | empty
  | malformed (text : String)
  | object (fields : List (String × String))
deriving DecidableEq, Repr

/-- `json.Valid` of attributes that are not empty. -/
def Attributes.valid : Attributes → Bool
  | .malformed _ => false
  | _ => true

/-- A text field read by `json.Unmarshal`; the zero value when it is missing or the text is no object. -/
def Attributes.field (name : String) : Attributes → String
  | .object fields => ((fields.find? (fun f => f.1 = name)).map Prod.snd).getD ""
  | _ => ""

inductive LifecycleState where
  | active
  | missing
  | tombstoned
deriving DecidableEq, Repr

inductive DataQualityState where
  | verifiedFresh
  | verifiedStale
  | degraded
  | unavailable
deriving DecidableEq, Repr

structure TargetSeed where
  ref : TargetRef
  attributes : Attributes := .empty
  priority : Int := 0
  initialInterval : Duration
  minInterval : Duration
  maxInterval : Duration
  maxServeAge : Duration
  nextRunAt : Time
deriving DecidableEq, Repr

structure ConditionalHeaders where
  etag : String := ""
  lastModified : String := ""
deriving DecidableEq, Repr

/-- A target as `scanScrapeTarget` returns it. -/
structure ScrapeTarget where
  id : Int
  ref : TargetRef
  attributes : Attributes
  priority : Int
  missingCount : Int
  currentContentHash : ContentHash
  hasCurrentSnapshot : Bool
  currentVersion : Int
  validationSeq : Int
  currentInterval : Duration
  minInterval : Duration
  maxInterval : Duration
  maxServeAge : Duration
  nextRunAt : Time
  lastValidatedAt : Option Time
  consecutiveFailures : Int
  recentChanges : List Bool
  conditional : ConditionalHeaders
  leaseOwner : String
  leaseGeneration : Int
  leaseExpiresAt : Option Time
  previousRecordCount : Int
  lifecycleState : LifecycleState
  lastSeenParentVersion : Option Int
  consecutiveMissingCount : Int
  tombstonedAt : Option Time
  reactivatedAt : Option Time
deriving DecidableEq, Repr

def ScrapeTarget.hasContentHash (t : ScrapeTarget) : Bool :=
  t.hasCurrentSnapshot && !isZeroContentHash t.currentContentHash

/-! ## Verification evidence -/

inductive ValidationSeverity where
  | info
  | warning
  | error
  | fatal
deriving DecidableEq, Repr

structure ValidationViolation where
  code : String
  severity : ValidationSeverity
  path : String := ""
  message : String
deriving DecidableEq, Repr

structure ValidationReport where
  complete : Bool := false
  requiresConfirmation : Bool := false
  violations : List ValidationViolation := []
deriving DecidableEq, Repr

def ValidationReport.add (r : ValidationReport) (code : String) (severity : ValidationSeverity)
    (path message : String) : ValidationReport :=
  { r with violations := r.violations ++ [{ code, severity, path, message }] }

structure SnapshotManifest where
  sourceReportedCount : Int := 0
  parsedCount : Int := 0
  uniqueCount : Int := 0
  expectedPageCount : Int := 0
  fetchedPageCount : Int := 0
  complete : Bool := false
  incompleteReasons : List String := []
deriving DecidableEq, Repr

inductive CandidateDisposition where
  | accepted
  | unchanged
  | needsConfirmation
  | rejectedTransport
  | rejectedAuthentication
  | rejectedParse
  | rejectedIncomplete
  | rejectedSemantic
  | quarantinedAnomaly
deriving DecidableEq, Repr

/-- A `json.RawMessage` payload: absent, a text that is no JSON, or a document. -/
inductive RawMessage where
  | empty
  | malformed (text : String)
  | document (value : Document)
deriving DecidableEq, Repr

/-- `len(payload) > 0 && json.Valid(payload)`. -/
def RawMessage.valid : RawMessage → Bool
  | .document _ => true
  | _ => false

structure ScrapeCandidate where
  targetID : Int
  leaseGeneration : Int
  attemptNumber : Int
  fetchedAt : Time
  requestID : String := ""
  httpStatus : Int := 0
  contentType : String := ""
  contentLength : Int := 0
  etag : String := ""
  lastModified : String := ""
  rawBodyHash : String := ""
  canonicalHash : String := ""
  parserVersion : String := ""
  schemaVersion : String := ""
  canonicalizerVersion : String := ""
  payload : RawMessage := .empty
  manifest : SnapshotManifest := {}
  validation : ValidationReport := {}
  disposition : CandidateDisposition
  rejectionCode : String := ""
  confirmationGroupUUID : String := ""
deriving DecidableEq, Repr

/-! ## Snapshots -/

structure Snapshot where
  id : Int
  targetID : Int
  ref : TargetRef
  version : Int
  validationSeq : Int
  contentHash : ContentHash
  payload : RawMessage
  contentFetchedAt : Time
  validatedAt : Time
  verifiedAt : Time
  nextRunAt : Time
  maxServeAge : Duration
  parserVersion : String
  schemaVersion : String
  rawBodyHash : String
  complete : Bool
  manifest : SnapshotManifest
  validationReport : ValidationReport
deriving DecidableEq, Repr

def Snapshot.stale (s : Snapshot) (now : Time) : Bool := s.nextRunAt < now

def Snapshot.expired (s : Snapshot) (now : Time) : Bool :=
  if s.maxServeAge ≤ 0 || isZeroTime s.validatedAt then true else now - s.validatedAt > s.maxServeAge

structure SnapshotMetadata where
  kind : SnapshotKind
  resourceKey : String := ""
  parentKey : String := ""
  version : Int
  validationSeq : Int := 0
  validatedAt : Time := 0
  stale : Bool := false
  qualityState : DataQualityState := .unavailable
  complete : Bool := false
  parserVersion : String := ""
  eventSequence : Int := 0
deriving DecidableEq, Repr

/-! ## Hosts -/

structure HostPermit where
  id : Int
  host : String
  targetID : Int
  leaseGeneration : Int
  expiresAt : Time
deriving DecidableEq, Repr

structure PermitDecision where
  permit : Option HostPermit := none
  retryAt : Time := 0
  paused : Bool := false
deriving DecidableEq, Repr

structure HostObservation where
  host : String
  outcome : Outcome
  retryAfter : Duration := 0
  consecutiveFailures : Int := 0
  observedAt : Time
deriving DecidableEq, Repr

end QrCommandCenter.Domain
