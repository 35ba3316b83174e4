import Mathlib.Algebra.Order.Ring.Nat
import QrCommandCenter.Domain.Classroom

/-!
# Rooms

`internal/domain/room.go`: the status machine of a QR room, the errors of the QR client, and what the manager publishes
about a room.

* `RoomStatus`, `allowedTransitions`, `Room.transitionTo` : the status machine;
* `Room.moveTo` : a transition whose error is only logged, the way the manager makes nearly all of them;
* `QrError` : an error of the client, as `errors.Is` and `errors.As` see it;
* `RoomLite`, `RoomChanged` : the summaries of the events.
-/

namespace QrCommandCenter.Domain

/-! ## Statuses -/

inductive RoomStatus where
  | idle
  | running
  | fetching
  | warning
  | authExpired
  | stopped
deriving DecidableEq, Repr

def RoomStatus.text : RoomStatus → String
  | .idle => "Idle"
  | .running => "Running"
  | .fetching => "Fetching"
  | .warning => "Warning"
  | .authExpired => "AuthExpired"
  | .stopped => "Stopped"

def allowedTransitions : RoomStatus → List RoomStatus
  | .idle => [.running, .stopped]
  | .running => [.fetching, .stopped]
  | .fetching => [.running, .warning, .authExpired, .stopped]
  | .warning => [.fetching, .stopped]
  | .authExpired => [.fetching, .stopped]
  | .stopped => [.running]

structure TransitionError where
  source : RoomStatus
  target : RoomStatus
deriving DecidableEq, Repr

def TransitionError.error (err : TransitionError) : String :=
  "cannot transition from " ++ err.source.text ++ " to " ++ err.target.text

def RoomStatus.canTransitionTo (s next : RoomStatus) : Except TransitionError Unit :=
  if next ∈ allowedTransitions s then .ok () else .error ⟨s, next⟩

/-! ## Fetch errors -/

inductive FetchErrorKind where
  | authExpired
  | network
  | invalidPayload
  | rateLimited
  | authConflict
  | poolExhausted
deriving DecidableEq, Repr

structure FetchError where
  kind : FetchErrorKind
  message : String := ""
deriving DecidableEq, Repr

def FetchError.toRoomStatus (err : FetchError) : RoomStatus :=
  match err.kind with
  | .authExpired => .authExpired
  | _ => .warning

/-- An error of the QR client: its text, what `errors.Is` says of it, and the `*FetchError` that `errors.As` finds. -/
structure QrError where
  text : String
  authConflict : Bool := false
  poolExhausted : Bool := false
  fetchError : Option FetchError := none
deriving DecidableEq, Repr

/-- `errors.As(err, &fetchErr) && fetchErr.Kind == ErrKindInvalidPayload`, with the message. -/
def QrError.invalidPayload (err : QrError) : Option String :=
  match err.fetchError with
  | some fetchErr => if fetchErr.kind = .invalidPayload then some fetchErr.message else none
  | none => none

structure QrResponse where
  qrURL : String
  qrTime : UInt64
deriving DecidableEq, Repr

abbrev QrResult := Except QrError QrResponse

/-- `time.Duration(seconds) * time.Second` in 64 bits. -/
def durationOfSeconds (seconds : Int) : Duration := Int.bmod (seconds * second) (2 ^ 64)

def calculateNextFetchDelay (ttl : UInt64) : UInt64 := ttl * 3 / 4

/-! ## Rooms -/

structure Room where
  roomID : String
  classID : String
  name : Option String := none
  status : RoomStatus := .idle
  qrURL : Option String := none
  expiresAt : Option Time := none
  lastUpdatedAt : Option Time := none
  warningMessage : Option String := none
  errorMessage : Option String := none
  lastFetchAt : Option Time := none
  upstreamAttendanceLabel : Option String := none
  upstreamVerifiedAt : Option Time := none
  upstreamVerificationError : Option String := none
deriving DecidableEq, Repr

def newRoom (roomID classID : String) (name : Option String) : Room where
  roomID := roomID
  classID := classID
  name := name

namespace Room

variable {room : Room} {next : RoomStatus}

def bare (room : Room) : Prop := room.qrURL = none ∧ room.expiresAt = none

theorem bare.congr {room' : Room} (h : room.bare) (heq : room'.qrURL = room.qrURL ∧ room'.expiresAt = room.expiresAt) :
    room'.bare :=
  ⟨heq.1.trans h.1, heq.2.trans h.2⟩

def transitionTo (room : Room) (next : RoomStatus) : Except TransitionError Room := do
  room.status.canTransitionTo next
  return { room with status := next }

/-- `TransitionTo` with its error ignored or only logged: a refused room stays as it is. -/
def moveTo (room : Room) (next : RoomStatus) : Room :=
  match room.transitionTo next with
  | .ok room => room
  | .error _ => room

section
variable (room : Room) (next : RoomStatus)

theorem moveTo_eq :
    room.moveTo next = { room with status := if next ∈ allowedTransitions room.status then next else room.status } := by
  unfold moveTo transitionTo RoomStatus.canTransitionTo
  split_ifs <;> rfl

@[simp] theorem moveTo_status :
    (room.moveTo next).status = if next ∈ allowedTransitions room.status then next else room.status := by
  rw [moveTo_eq]

@[simp] theorem moveTo_roomID : (room.moveTo next).roomID = room.roomID := by
  rw [moveTo_eq]

@[simp] theorem moveTo_qrURL : (room.moveTo next).qrURL = room.qrURL := by
  rw [moveTo_eq]

@[simp] theorem moveTo_expiresAt : (room.moveTo next).expiresAt = room.expiresAt := by
  rw [moveTo_eq]

end

theorem moveTo_stopped (room : Room) : (room.moveTo .stopped).status = .stopped := by
  rw [moveTo_status]
  cases room.status <;> rfl

theorem moveTo_ne_stopped (hnext : next ≠ .stopped) (h : room.status ≠ .stopped) :
    (room.moveTo next).status ≠ .stopped := by
  rw [moveTo_status]
  split
  · exact hnext
  · exact h

theorem moveTo_of_stopped (hnext : next ≠ .running) (h : room.status = .stopped) :
    room.moveTo next = room := by
  rw [moveTo_eq, if_neg]
  rw [h]
  simpa [allowedTransitions] using hnext

theorem moveTo_stopped_iff (hstopped : next ≠ .stopped) (hrunning : next ≠ .running) (room : Room) :
    (room.moveTo next).status = .stopped ↔ room.status = .stopped := by
  constructor
  · intro h
    by_contra hroom
    exact moveTo_ne_stopped hstopped hroom h
  · intro h
    rw [moveTo_of_stopped hrunning h]
    exact h

end Room

/-! ## Published summaries -/

structure RoomLite where
  roomID : String
  classID : String
  name : Option String
  status : RoomStatus
  expiresAt : Option Time
deriving DecidableEq, Repr

def newRoomLite (room : Room) : RoomLite where
  roomID := room.roomID
  classID := room.classID
  name := room.name
  status := room.status
  expiresAt := room.expiresAt

structure RoomChanged where
  roomID : String
  classID : String
  status : RoomStatus
  expiresAt : Option Time
  hasQR : Bool
  revision : Int
deriving DecidableEq, Repr

end QrCommandCenter.Domain
