import QrCommandCenter.Domain.Room

/-!
# The QR worker of a room

`runRoomWorker`, `roomWorkerTick` and `recoveryLoop` of `internal/service/room_manager.go`, one step at a time. A step either
stays in the goroutine, reads the room under the lock, or is one section under the lock of the manager.

* `RoomState` : what the manager keeps for a room; a cancel function is the number of the worker whose context it cancels;
* `LockSection`, `LockSection.room` : the sections in which a worker writes the room, and the room after each;
* `WorkerPC`, `Worker`, `Worker.turn` : where a worker is, and its next step.
-/

namespace QrCommandCenter.Rooms
open Domain

/-! ## The state of a room -/

structure RoomState where
  room : Room
  /-- The worker whose context the cancel function cancels. -/
  cancel : Option Nat := none
  /-- The worker whose return closes the channel. -/
  done : Option Nat := none
  stopPersistPending : Bool := false
  lastQrTime : UInt64 := 0
  courseID : String := ""
deriving DecidableEq, Repr

def roomRecoveryInitialBackoff : Duration := 1 * second
def roomRecoveryMaxBackoff : Duration := 30 * second
def roomRecoveryMaxAttempts : Nat := 10

def shouldFetchQR (expiresAt : Option Time) (lastQrTime : UInt64) (now : Time) : Bool :=
  match expiresAt with
  | none => true
  | some expiresAt =>
    let ttl := if lastQrTime = 0 then 60 else lastQrTime
    let issuedAt := expiresAt + durationOfSeconds (-ttl.toNat)
    issuedAt + durationOfSeconds (calculateNextFetchDelay ttl).toNat < now

def withQR (room : Room) (resp : QrResponse) (now : Time) : Room :=
  { room with
    qrURL := some resp.qrURL
    expiresAt := some (now + durationOfSeconds resp.qrTime.toNat)
    lastUpdatedAt := some now
    lastFetchAt := some now }

def statusOfError (err : QrError) : RoomStatus :=
  match err.fetchError with
  | some fetchErr => fetchErr.toRoomStatus
  | none => .warning

/-! ## Lock sections -/

/-- The sections under the lock in which a worker writes the room, the end of `recoveryLoop` apart. -/
inductive LockSection where
  /-- `handleNoQRClient` -/
  | noClient
  /-- `roomWorkerTick` before the fetch -/
  | fetching
  /-- `handleRoomFetchSuccess` -/
  | success (resp : QrResponse) (now : Time)
  /-- `roomWorkerTick` after an error that leaves the room `AuthExpired` -/
  | expired (err : QrError)
  /-- `roomWorkerTick` after another error -/
  | failed (err : QrError)
  /-- `handleNonRecoverableError` -/
  | nonRecoverable (err : QrError)
  /-- `recoveryLoop` after a response -/
  | recovered (resp : QrResponse) (now : Time)
  /-- `recoveryLoop` after `ErrAuthConflict` -/
  | conflict
  /-- `recoveryLoop` after an invalid payload -/
  | payload (message : String)
deriving DecidableEq, Repr

def LockSection.room (room : Room) : LockSection → Room
  | .noClient =>
    { room with errorMessage := some "QR client not available (session pool not initialized)" }.moveTo .stopped
  | .fetching => room.moveTo .fetching
  | .success resp now => { (withQR room resp now).moveTo .running with warningMessage := none, errorMessage := none }
  | .expired err =>
    { room.moveTo (statusOfError err) with warningMessage := some "Session expired, retrying...", errorMessage := none }
  | .failed err => room.moveTo (statusOfError err)
  | .nonRecoverable err => { room with warningMessage := some ("Error: " ++ err.text) }
  | .recovered resp now =>
    ({ withQR room resp now with warningMessage := none, errorMessage := none }.moveTo .fetching).moveTo .running
  | .conflict => { room with warningMessage := some "Admin logged in, retrying...", errorMessage := none }.moveTo .warning
  | .payload message => { room with errorMessage := some ("Invalid QR response: " ++ message) }.moveTo .stopped

def LockSection.qrTime : LockSection → Option UInt64
  | .success resp _ | .recovered resp _ => some resp.qrTime
  | _ => none

def LockSection.apply (state : RoomState) (lockSection : LockSection) : RoomState :=
  { state with room := lockSection.room state.room, lastQrTime := lockSection.qrTime.getD state.lastQrTime }

/-- Whether the copy of the section goes to `persistRoomUpdate`. -/
def LockSection.persists : LockSection → Bool
  | .fetching | .failed _ => false
  | _ => true

/-- Whether the copy of the section goes to `emitRoomEvents`. -/
def LockSection.emits : LockSection → Bool
  | .failed _ => false
  | _ => true

/-- The room at the end of `recoveryLoop`, whose section also calls and clears the cancel function. -/
def recoveryFailed (room : Room) : Room :=
  { room with errorMessage := some "Session recovery failed after 10 attempts" }.moveTo .stopped

def startedRoom (room : Room) : Room :=
  let room := if room.status ≠ .running then
      { room with qrURL := none, expiresAt := none, warningMessage := none, errorMessage := none }
    else room
  { room with
    upstreamAttendanceLabel := none
    upstreamVerifiedAt := none
    upstreamVerificationError := none }.moveTo .running

def stoppedRoom (room : Room) : Room := { room.moveTo .stopped with qrURL := none, expiresAt := none }

/-! ## Program counters -/

inductive WorkerPC where
  /-- at the start of `runRoomWorker` -/
  | start
  /-- at the start of `roomWorkerTick` -/
  | tick
  /-- a fetch is due, the clock was read at `now` -/
  | due (now : Time)
  /-- inside `FetchQRContext` -/
  | calling (now : Time)
  /-- the client has answered and the context was not cancelled -/
  | answered (now : Time) (result : QrResult)
  /-- before `handleNonRecoverableError` -/
  | warning (err : QrError)
  /-- in the `select` of `recoveryLoop`, or inside `FetchQRWithFreshAuthContext` -/
  | recovering (attempts : Nat) (backoff : Duration)
  /-- the client has answered a recovery -/
  | retried (attempts : Nat) (backoff : Duration) (result : QrResult)
  /-- in the wait after `ErrPoolExhausted` -/
  | pooled (attempts : Nat) (backoff : Duration)
  /-- all attempts of `recoveryLoop` failed -/
  | exhausted
  /-- in the `select` of `runRoomWorker` -/
  | waiting
  /-- about to return from `runRoomWorker` -/
  | leaving
  /-- has returned from `runRoomWorker` -/
  | exited
deriving DecidableEq, Repr

/-- What follows a section: `persistRoomUpdate`, `emitRoomEvents`, and the events of `CreateRoom` and `DeleteRoom`. -/
inductive Task where
  | persist (state : Nat) (room : Room)
  | emit (k : Nat)
  | created (room : Room)
  | forget (roomID : String)
  | deleted (roomID : String)
deriving DecidableEq, Repr

structure Worker where
  state : Nat
  /-- Its context is cancelled. -/
  cancelled : Bool := false
  pc : WorkerPC := .start
  /-- What is left to do after the last section. -/
  todo : List Task := []
deriving DecidableEq, Repr

inductive Choice where
  | proceed
  | clock (now : Time)
  | result (result : QrResult)
  /-- the branch of a `select` that the cancelled context opens -/
  | done
deriving DecidableEq, Repr

inductive Turn where
  /-- without the lock -/
  | go (pc : WorkerPC)
  /-- a read under the lock -/
  | look (pc : WorkerPC)
  /-- a write under the lock -/
  | write (lockSection : LockSection) (pc : WorkerPC)
  /-- the section at the end of `recoveryLoop` -/
  | giveUp
deriving DecidableEq, Repr

def afterRetry (attempts : Nat) (backoff : Duration) (err : QrError) : Turn :=
  if err.authConflict then .write .conflict .leaving
  else if err.poolExhausted then .go (.pooled attempts backoff)
  else
    match err.invalidPayload with
    | some message => .write (.payload message) .leaving
    | none =>
      if attempts + 1 < roomRecoveryMaxAttempts then
        .go (.recovering (attempts + 1) (min (backoff * 2) roomRecoveryMaxBackoff))
      else .go .exhausted

/-- The next step of a worker whose tasks are done; `client` tells whether there is a QR client. A timer may win over a
cancelled context. -/
def Worker.turn (client : Bool) (worker : Worker) (state : RoomState) (choice : Choice) : Option Turn :=
  match worker.pc, choice with
  | .start, .proceed => some (if client then .go .tick else .write .noClient .leaving)
  | .tick, .clock now =>
    some (.look (if shouldFetchQR state.room.expiresAt state.lastQrTime now then .due now else .waiting))
  | .due now, .proceed => some (.write .fetching (.calling now))
  | .calling now, .result result => some (.go (if worker.cancelled then .leaving else .answered now result))
  | .answered now (.ok resp), .proceed => some (.write (.success resp now) .waiting)
  | .answered _ (.error err), .proceed =>
    some (if (state.room.moveTo (statusOfError err)).status = .authExpired then
      .write (.expired err) (.recovering 0 roomRecoveryInitialBackoff)
    else .write (.failed err) (.warning err))
  | .warning err, .proceed => some (.write (.nonRecoverable err) .waiting)
  | .recovering _ _, .done => if worker.cancelled then some (.go .leaving) else none
  | .recovering attempts backoff, .result result => some (.go (.retried attempts backoff result))
  | .retried _ _ (.ok resp), .clock now =>
    some (if worker.cancelled then .look .leaving else .write (.recovered resp now) .waiting)
  | .retried attempts backoff (.error err), .proceed => some (afterRetry attempts backoff err)
  | .pooled _ _, .done => if worker.cancelled then some (.go .leaving) else none
  | .pooled attempts backoff, .proceed => some (.go (.recovering attempts backoff))
  | .exhausted, .proceed => some .giveUp
  | .waiting, .done => if worker.cancelled then some (.go .leaving) else none
  | .waiting, .proceed => some (.go .tick)
  | .leaving, .proceed => some (.go .exited)
  | _, _ => none

end QrCommandCenter.Rooms
