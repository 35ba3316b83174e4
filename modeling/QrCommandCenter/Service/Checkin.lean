import QrCommandCenter.Lib.Program
import QrCommandCenter.Lib.Table
import QrCommandCenter.Domain.Snapshot

/-!
# Idempotent check-ins

`TeacherService.Checkin` of `internal/service/teacher.go`, the statements on `checkin_mutation_requests` and the advisory
lock of `internal/db/snapshot_repository.go`, and the resolver of `internal/domain/enrichment.go`.

* `resolveCheckinStudentID`, `TeacherService.currentCheckinState` : who a request is about, and its state;
* `CheckinCall`, `TeacherService.checkin` : the call as a program, one `CheckinCall` for each statement, read or request
  it makes;
* `Mutations`, `Choice`, `Mutations.handle` : the table and the locks, and what they answer;
* `answering` : the same for a call that runs alone.
-/

namespace QrCommandCenter.Service
open Domain Table Program

/-! ## Requests, results and errors -/

structure CheckinRequest where
  courseID : String
  sessionID : String
  studentID : String
  desiredCheckedIn : Bool
  expectedSnapshotVersion : Option Int := none
  idempotencyKey : String
deriving DecidableEq, Repr

inductive CheckinStatus where
  | confirmed
  | alreadySatisfied
  | pendingVerification
deriving DecidableEq, Repr

structure CheckinResult where
  status : CheckinStatus
  checkedIn : Bool
  snapshotVersion : Int
  refreshPending : Bool := false
deriving DecidableEq, Repr

structure IdempotentCheckinResponse where
  status : CheckinStatus
  checkedIn : Bool
  snapshotVersion : Int
  refreshPending : Bool
deriving DecidableEq, Repr

/-- The error of a read, as far as the handlers tell them apart. -/
inductive ReadError where
  | snapshotNotFound
  | snapshotExpired
  | other (text : String)
deriving DecidableEq, Repr

inductive CheckinError where
  /-- `checkin mutator not configured` -/
  | notConfigured
  /-- `checkin lock: %w` -/
  | lock (text : String)
  /-- `checkin reserve key: %w` -/
  | reserve (text : String)
  /-- `ErrConflict` -/
  | conflict (currentVersion : Int) (currentChecked : Bool)
  /-- `ErrStudentNotFound` -/
  | studentNotFound (studentID sessionID : String)
  /-- `checkin read snapshot: %w` -/
  | readSnapshot (err : ReadError)
  /-- `checkin decode snapshot: %w` -/
  | decodeSnapshot
  /-- `checkin read live session: %w` -/
  | readLiveSession (err : ReadError)
  /-- `checkin live session returned nil detail` -/
  | nilDetail
  /-- `checkin read student profiles: %w` -/
  | readStudentProfiles (err : ReadError)
  /-- `ErrCheckinUpstream` -/
  | upstream (text : String)
deriving DecidableEq, Repr

abbrev CheckinOutcome := Except CheckinError CheckinResult

/-! ## The current state of a student -/

/-- `rosterIDs[id]`. -/
def inRoster (students : List StudentCheckin) (id : String) : Bool :=
  students.any fun student => student.studentID ≠ "" && student.studentID = id

/-- `ResolveCheckinStudentID`: the identifier of the roster for a public one. -/
def resolveCheckinStudentID (requestedID : String) (students : List StudentCheckin) (profiles : List StudentProfile) :
    Option String :=
  if requestedID = "" then none
  else if inRoster students requestedID then some requestedID
  else (profiles.find? fun profile => profile.studentID = requestedID && profile.studentGuid ≠ "" &&
    inRoster students profile.studentGuid).map StudentProfile.studentGuid

/-- What the reads of `currentCheckinState` return: the snapshot or the live session, and the profiles. -/
structure StateReads where
  snapshot : Except ReadError Snapshot
  detail : Except ReadError (Option SessionDetail)
  profiles : Except ReadError (List StudentProfile)

structure CurrentCheckinState where
  upstreamStudentID : String
  checkedIn : Bool
  snapshotVersion : Int
deriving DecidableEq, Repr

/-- `TeacherService`, as far as a check-in uses it; `decodeSession` is `json.Unmarshal` into a `SessionDetail`. -/
structure TeacherService where
  /-- Whether there is a `CheckinMutator`. -/
  mutator : Bool := true
  snapshotMode : Bool
  host : String
  decodeSession : RawMessage → Option SessionDetail

namespace TeacherService
variable (s : TeacherService)

/-- `SessionRef` of the reader. -/
def sessionRef (courseID sessionID : String) : TargetRef :=
  { host := s.host, kind := .sessionDetail, resourceKey := sessionID, parentKey := courseID }

/-- The roster of the session, and its version; a live roster has version zero. -/
def sessionRead (reads : StateReads) : Except CheckinError (SessionDetail × Int) :=
  if s.snapshotMode then
    match reads.snapshot with
    | .error err => .error (.readSnapshot err)
    | .ok snapshot =>
      match s.decodeSession snapshot.payload with
      | none => .error .decodeSnapshot
      | some detail => .ok (detail, snapshot.version)
  else
    match reads.detail with
    | .error err => .error (.readLiveSession err)
    | .ok none => .error .nilDetail
    | .ok (some detail) => .ok (detail, 0)

def profilesRead (reads : StateReads) : List StudentProfile :=
  match reads.profiles with
  | .ok profiles => profiles
  | .error _ => []

/-- `currentCheckinState`, on what its reads return. -/
def currentCheckinState (reads : StateReads) (req : CheckinRequest) : Except CheckinError CurrentCheckinState :=
  match s.sessionRead reads with
  | .error err => .error err
  | .ok (detail, version) =>
    match resolveCheckinStudentID req.studentID detail.students (profilesRead reads) with
    | none =>
      match reads.profiles with
      | .error err => .error (.readStudentProfiles err)
      | .ok _ => .error (.studentNotFound req.studentID req.sessionID)
    | some upstreamStudentID =>
      match detail.students.find? fun student => student.studentID = upstreamStudentID with
      | some student => .ok ⟨upstreamStudentID, student.checkedIn, version⟩
      | none => .error (.studentNotFound req.studentID req.sessionID)

end TeacherService

/-! ## The table of mutation requests -/

inductive MutationStatus where
  | reserved
  | confirmed
  | pendingVerification
  | failed
deriving DecidableEq, Repr

/-- A row of `checkin_mutation_requests`. -/
structure MutationRow where
  idempotencyKey : String
  courseID : String
  sessionID : String
  studentID : String
  desiredCheckedIn : Bool
  expectedSnapshotVersion : Option Int
  status : MutationStatus := .reserved
  upstreamAttempted : Bool := false
  response : Option IdempotentCheckinResponse := none
  errorCode : Option String := none
deriving DecidableEq, Repr

variable {row : MutationRow}

namespace MutationRow

/-- The row that the insertion of a key writes. -/
def reserve (req : CheckinRequest) : MutationRow where
  idempotencyKey := req.idempotencyKey
  courseID := req.courseID
  sessionID := req.sessionID
  studentID := req.studentID
  desiredCheckedIn := req.desiredCheckedIn
  expectedSnapshotVersion := req.expectedSnapshotVersion

def request (row : MutationRow) : CheckinRequest where
  courseID := row.courseID
  sessionID := row.sessionID
  studentID := row.studentID
  desiredCheckedIn := row.desiredCheckedIn
  expectedSnapshotVersion := row.expectedSnapshotVersion
  idempotencyKey := row.idempotencyKey

/-- `Match`: every parameter is the stored one. -/
def isMatch (row : MutationRow) (req : CheckinRequest) : Bool :=
  row.courseID = req.courseID && row.sessionID = req.sessionID && row.studentID = req.studentID &&
    row.desiredCheckedIn = req.desiredCheckedIn && row.expectedSnapshotVersion = req.expectedSnapshotVersion

/-- `ConfirmIdempotencyKey`, on the row. -/
def confirm (response : IdempotentCheckinResponse) (row : MutationRow) : MutationRow :=
  { row with status := .confirmed, response := some response, upstreamAttempted := true }

/-- `MarkIdempotencyKeyPending`, on the row. -/
def markPending (response : IdempotentCheckinResponse) (row : MutationRow) : MutationRow :=
  { row with status := .pendingVerification, response := some response, upstreamAttempted := true }

/-- `MarkIdempotencyKeyFailed` with a nil response, on the row. -/
def markFailed (errorCode : String) (row : MutationRow) : MutationRow :=
  { row with status := .failed, errorCode := some errorCode, response := none, upstreamAttempted := true }

@[simp] theorem request_confirm (response : IdempotentCheckinResponse) (row : MutationRow) :
    (row.confirm response).request = row.request := rfl

@[simp] theorem request_markPending (response : IdempotentCheckinResponse) (row : MutationRow) :
    (row.markPending response).request = row.request := rfl

@[simp] theorem request_markFailed (errorCode : String) (row : MutationRow) :
    (row.markFailed errorCode).request = row.request := rfl

/-- Under one key, the parameters match exactly when the whole request is the stored one. -/
theorem isMatch_iff {req : CheckinRequest} (hkey : row.idempotencyKey = req.idempotencyKey) :
    row.isMatch req = true ↔ row.request = req := by
  obtain ⟨courseID, sessionID, studentID, desiredCheckedIn, expectedSnapshotVersion, idempotencyKey⟩ := req
  simp only at hkey
  simp [isMatch, request, hkey, and_assoc]

end MutationRow

/-- `IdempotencyKeyResult`; the status and the response are set when the key was found. -/
structure IdempotencyKeyResult where
  found : Bool := false
  isMatch : Bool := false
  status : Option MutationStatus := none
  response : Option IdempotentCheckinResponse := none
deriving DecidableEq, Repr

def checkinResultResponse (result : CheckinResult) : IdempotentCheckinResponse where
  status := result.status
  checkedIn := result.checkedIn
  snapshotVersion := result.snapshotVersion
  refreshPending := result.refreshPending

def storedCheckinResult (stored : IdempotencyKeyResult) : CheckinOutcome :=
  if stored.status = some .failed then .error (.upstream "checkin request previously failed")
  else match stored.response with
  | none => .ok { status := .pendingVerification, checkedIn := false, snapshotVersion := 0, refreshPending := true }
  | some response =>
    .ok { status := response.status, checkedIn := response.checkedIn, snapshotVersion := response.snapshotVersion
          refreshPending := response.refreshPending }

/-! ## The call -/

/-- A statement, read or request of a check-in; reads of the state and refreshes carry their attempt. -/
inductive CheckinCall where
  | acquireCheckinLock (sessionID studentID : String)
  | insertIdempotencyKey (req : CheckinRequest)
  | readIdempotencyKey (key : String)
  | readState (attempt : Nat) (courseID sessionID : String)
  | toggleCheckin (courseID sessionID studentID : String) (checkedIn : Bool)
  | refreshNow (attempt : Nat) (ref : TargetRef)
  | confirmIdempotencyKey (key : String) (response : IdempotentCheckinResponse)
  | markIdempotencyKeyPending (key : String) (response : IdempotentCheckinResponse)
  | markIdempotencyKeyFailed (key errorCode : String)
  | setDueNow (ref : TargetRef)
  | releaseCheckinLock
deriving DecidableEq, Repr

/-- What the caller looks at: it ignores errors of the marks, of `SetDueNow` and of the release. -/
abbrev CheckinCall.Answer : CheckinCall → Type
  | .acquireCheckinLock _ _ => Except String Unit
  | .insertIdempotencyKey _ => Bool
  | .readIdempotencyKey _ => Except String MutationRow
  | .readState _ _ _ => StateReads
  | .toggleCheckin _ _ _ _ => Except String Unit
  | .refreshNow _ _ => Bool
  | .confirmIdempotencyKey _ _ => Unit
  | .markIdempotencyKeyPending _ _ => Unit
  | .markIdempotencyKeyFailed _ _ => Unit
  | .setDueNow _ => Unit
  | .releaseCheckinLock => Unit

abbrev Checkin := Prog CheckinCall CheckinCall.Answer

abbrev issue (e : CheckinCall) : Checkin e.Answer := perform e

/-- `ReserveIdempotencyKey`: any failure of the insertion is taken for a key that exists. -/
def reserveIdempotencyKey (req : CheckinRequest) : Checkin (Except String IdempotencyKeyResult) := do
  let inserted : Bool ← issue (.insertIdempotencyKey req)
  if inserted then return .ok {}
  else
    let existing : Except String MutationRow ← issue (.readIdempotencyKey req.idempotencyKey)
    match existing with
    | .error err => return .error ("read existing idempotency key: " ++ err)
    | .ok row =>
      return .ok { found := true, isMatch := row.isMatch req, status := some row.status, response := row.response }

namespace TeacherService
variable (s : TeacherService)

/-- The verification: the first state among the attempts that is the desired one. -/
def verify (req : CheckinRequest) : List Nat → Checkin (Option CurrentCheckinState)
  | [] => return none
  | attempt :: attempts => do
    let refreshed : Bool ←
      if s.snapshotMode then issue (.refreshNow attempt (s.sessionRef req.courseID req.sessionID)) else pure true
    if refreshed then
      let reads : StateReads ← issue (.readState (attempt + 1) req.courseID req.sessionID)
      match s.currentCheckinState reads req with
      | .ok verified => if verified.checkedIn = req.desiredCheckedIn then return some verified else verify req attempts
      | .error _ => verify req attempts
    else verify req attempts

def judged (req : CheckinRequest) (attempts : List Nat) (reads : StateReads) : Checkin (Option CurrentCheckinState) :=
  match s.currentCheckinState reads req with
  | .ok verified => if verified.checkedIn = req.desiredCheckedIn then return some verified else s.verify req attempts
  | .error _ => s.verify req attempts

theorem verify_cons (req : CheckinRequest) (attempt : Nat) (attempts : List Nat) :
    s.verify req (attempt :: attempts) =
      if s.snapshotMode then do
        let refreshed : Bool ← issue (.refreshNow attempt (s.sessionRef req.courseID req.sessionID))
        if refreshed then issue (.readState (attempt + 1) req.courseID req.sessionID) >>= s.judged req attempts
        else s.verify req attempts
      else issue (.readState (attempt + 1) req.courseID req.sessionID) >>= s.judged req attempts := by
  rw [TeacherService.verify]
  split <;> rfl

def conclude (req : CheckinRequest) (current : CurrentCheckinState) : Checkin CheckinOutcome := do
  match ← s.verify req [0, 1] with
  | some verified =>
    let result : CheckinResult :=
      { status := .confirmed, checkedIn := verified.checkedIn, snapshotVersion := verified.snapshotVersion }
    issue (.confirmIdempotencyKey req.idempotencyKey (checkinResultResponse result))
    return .ok result
  | none =>
    let result : CheckinResult :=
      { status := .pendingVerification, checkedIn := req.desiredCheckedIn, snapshotVersion := current.snapshotVersion
        refreshPending := true }
    issue (.markIdempotencyKeyPending req.idempotencyKey (checkinResultResponse result))
    if s.snapshotMode then issue (.setDueNow (s.sessionRef req.courseID req.sessionID))
    return .ok result

/-- The caller expects another version than the one it would change. -/
def staleVersion (req : CheckinRequest) (current : CurrentCheckinState) : Bool :=
  s.snapshotMode && req.expectedSnapshotVersion.isSome &&
    req.expectedSnapshotVersion ≠ some current.snapshotVersion && current.checkedIn ≠ req.desiredCheckedIn

def mutate (req : CheckinRequest) (current : CurrentCheckinState) : Checkin CheckinOutcome := do
  if s.staleVersion req current then return .error (.conflict current.snapshotVersion current.checkedIn)
  else if current.checkedIn = req.desiredCheckedIn then
    let result : CheckinResult :=
      { status := .alreadySatisfied, checkedIn := current.checkedIn, snapshotVersion := current.snapshotVersion }
    issue (.confirmIdempotencyKey req.idempotencyKey (checkinResultResponse result))
    return .ok result
  else
    let written : Except String Unit ←
      issue (.toggleCheckin req.courseID req.sessionID current.upstreamStudentID req.desiredCheckedIn)
    match written with
    | .error err =>
      issue (.markIdempotencyKeyFailed req.idempotencyKey "upstream_error")
      return .error (.upstream err)
    | .ok () => s.conclude req current

def checkinReserved (req : CheckinRequest) : Checkin CheckinOutcome := do
  let reads : StateReads ← issue (.readState 0 req.courseID req.sessionID)
  match s.currentCheckinState reads req with
  | .error err =>
    issue (.markIdempotencyKeyFailed req.idempotencyKey "student_state_error")
    return .error err
  | .ok current => s.mutate req current

def checkinLocked (req : CheckinRequest) : Checkin CheckinOutcome := do
  match ← reserveIdempotencyKey req with
  | .error err => return .error (.reserve err)
  | .ok reserved =>
    if reserved.found && !reserved.isMatch then return .error (.conflict 0 false)
    else if reserved.found then return storedCheckinResult reserved
    else s.checkinReserved req

/-- `Checkin`; the release of the lock is deferred to its end. -/
def checkin (req : CheckinRequest) : Checkin CheckinOutcome := do
  if !s.mutator then return .error .notConfigured
  else
    let lock : Except String Unit ← issue (.acquireCheckinLock req.sessionID req.studentID)
    match lock with
    | .error err => return .error (.lock err)
    | .ok () =>
      let outcome ← s.checkinLocked req
      issue .releaseCheckinLock
      return outcome

end TeacherService

/-! ## The store's answers -/

/-- The key of the advisory lock: the hash of the session above the low half of the hash of the student. -/
def lockKey (hashtext : String → BitVec 32) (sessionID studentID : String) : BitVec 64 :=
  (hashtext sessionID).signExtend 64 <<< 32 ||| ((hashtext studentID).signExtend 64 &&& 0xFFFFFFFF#64)

/-- `checkin_mutation_requests`, and the advisory locks with the calls that hold them. -/
structure Mutations where
  requests : List MutationRow := []
  locks : List (BitVec 64 × Nat) := []
deriving DecidableEq

/-- What the environment decides about a call: which statements and answers arrive, and what a read, the write upstream
and a refresh return. -/
structure Choice where
  sent : Bool := true
  acknowledged : Bool := true
  failure : String := "context canceled"
  reads : StateReads
  write : Except String Unit
  refreshed : Bool

namespace Mutations

def find (s : Mutations) (key : String) : Option MutationRow := lookup MutationRow.idempotencyKey s.requests key

/-- `UPDATE ... WHERE idempotency_key = key AND status = 'reserved'`. -/
def mark (s : Mutations) (key : String) (f : MutationRow → MutationRow) : Mutations :=
  { s with requests := updateWhere (fun row => row.idempotencyKey = key && row.status = .reserved) f s.requests }

def release (s : Mutations) (i : Nat) : Mutations :=
  { s with locks := deleteWhere (fun lock => lock.2 = i) s.locks }

/-- The answer to a call of `i`; a lock that is held blocks it. -/
def handle (hashtext : String → BitVec 32) (i : Nat) (choice : Choice) (s : Mutations) :
    (e : CheckinCall) → Option (Mutations × e.Answer)
  | .acquireCheckinLock sessionID studentID =>
    -- a lock whose caller does not learn of it is rolled back
    if !(choice.sent && choice.acknowledged) then some (s, .error choice.failure)
    else if s.locks.any fun lock => lock.1 = lockKey hashtext sessionID studentID then none
    else some ({ s with locks := s.locks ++ [(lockKey hashtext sessionID studentID, i)] }, .ok ())
  | .insertIdempotencyKey req =>
    if choice.sent && (s.find req.idempotencyKey).isNone then
      some ({ s with requests := s.requests ++ [.reserve req] }, choice.acknowledged)
    else some (s, false)
  | .readIdempotencyKey key =>
    if choice.sent && choice.acknowledged then
      match s.find key with
      | some row => some (s, .ok row)
      | none => some (s, .error "no rows in result set")
    else some (s, .error choice.failure)
  | .readState _ _ _ => some (s, choice.reads)
  | .toggleCheckin _ _ _ _ => some (s, choice.write)
  | .refreshNow _ _ => some (s, choice.refreshed)
  | .confirmIdempotencyKey key response => some (if choice.sent then s.mark key (.confirm response) else s, ())
  | .markIdempotencyKeyPending key response => some (if choice.sent then s.mark key (.markPending response) else s, ())
  | .markIdempotencyKeyFailed key errorCode => some (if choice.sent then s.mark key (.markFailed errorCode) else s, ())
  | .setDueNow _ => some (s, ())
  | .releaseCheckinLock => some (s.release i, ())

end Mutations

/-! ## A call alone -/

/-- The answers to call `i`, with a choice for each of its calls. -/
def answering (hashtext : String → BitVec 32) (i : Nat) (choose : CheckinCall → Choice) (s : Mutations)
    (e : CheckinCall) : Option (Mutations × e.Answer) := s.handle hashtext i (choose e) e

section Alone
variable {hashtext : String → BitVec 32} {i : Nat} {choose : CheckinCall → Choice} {s : Mutations} {req : CheckinRequest}

variable {choice : Choice}

theorem handle_lock_free {sessionID studentID : String}
    (hfree : ∀ lock ∈ s.locks, lock.1 ≠ lockKey hashtext sessionID studentID) (hsent : choice.sent = true)
    (hacknowledged : choice.acknowledged = true) :
    s.handle hashtext i choice (.acquireCheckinLock sessionID studentID) =
      some ({ s with locks := s.locks ++ [(lockKey hashtext sessionID studentID, i)] }, .ok ()) := by
  rw [Mutations.handle, hsent, hacknowledged]
  simp only [Bool.and_self, Bool.not_true, Bool.false_eq_true, if_false, List.any_eq_true, decide_eq_true_eq]
  rw [if_neg (by rintro ⟨lock, hlock, e⟩; exact hfree lock hlock e)]

theorem handle_insert_new (hnew : s.find req.idempotencyKey = none) (hsent : choice.sent = true) :
    s.handle hashtext i choice (.insertIdempotencyKey req) =
      some ({ s with requests := s.requests ++ [.reserve req] }, choice.acknowledged) := by
  rw [Mutations.handle, hsent, hnew]
  rfl

theorem handle_found (hrow : s.find req.idempotencyKey = some row) :
    s.handle hashtext i choice (.insertIdempotencyKey req) = some (s, false) ∧
      (choice.sent = true → choice.acknowledged = true →
        s.handle hashtext i choice (.readIdempotencyKey req.idempotencyKey) = some (s, .ok row)) := by
  refine ⟨?_, fun hsent hacknowledged => ?_⟩
  · rw [Mutations.handle, hrow, Option.isNone_some, Bool.and_false, if_neg Bool.false_ne_true]
  · rw [Mutations.handle, hsent, hacknowledged, hrow]
    rfl

/-- What a call is told of a key that it did not insert. -/
theorem run_reserve {σ : Type} {handle : σ → (e : CheckinCall) → Option (σ × e.Answer)} {s s' : σ}
    {existing : Except String MutationRow} (hinsert : handle s (.insertIdempotencyKey req) = some (s, false))
    (hread : handle s (.readIdempotencyKey req.idempotencyKey) = some (s', existing)) :
    (reserveIdempotencyKey req).run handle s = some (s', (existing.map fun row =>
      { found := true, isMatch := row.isMatch req, status := some row.status, response := row.response }).mapError
        ("read existing idempotency key: " ++ ·)) := by
  rw [reserveIdempotencyKey, run_perform _ hinsert]
  refine (run_perform _ hread).trans ?_
  cases existing <;> rfl

end Alone

end QrCommandCenter.Service
