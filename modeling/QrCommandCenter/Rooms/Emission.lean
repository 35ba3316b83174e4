import QrCommandCenter.Lib.Transition
import QrCommandCenter.Domain.Room

/-!
# Events of rooms

`emitRoomEvents` of `internal/service/room_manager.go`. A goroutine copies a room under the manager's lock and emits the copy
later: it takes a number under `emitMu`, publishes `RoomUpdated`, and then `ROOM_CHANGED`. Between any two of these steps
others may take theirs.

* `Emitter`, `Stage` : a call of `emitRoomEvents`, and how far it is;
* `Emission` : the calls in the order of their copies, the numbers, and the events in the order of their publication;
* `EmitOp`, `Emission.exec` : the steps;
* `Emission.forget`, `Emission.publish` : what the deletion of a room does to them.
-/

namespace QrCommandCenter.Rooms
open Domain Transition

inductive Stage where
  | copied
  | numbered (revision : Int)
  | updated (revision : Int)
  | emitted (revision : Int)
  | suppressed
deriving DecidableEq, Repr

def Stage.final : Stage → Bool
  | .emitted _ | .suppressed => true
  | _ => false

def Stage.revision : Stage → Option Int
  | .numbered revision | .updated revision | .emitted revision => some revision
  | _ => none

structure Emitter where
  room : Room
  stage : Stage := .copied
deriving DecidableEq, Repr

inductive RoomEvent where
  | roomCreated (room : RoomLite)
  | roomUpdated (room : RoomLite)
  | roomChanged (event : RoomChanged)
  | roomDeleted (roomID : String)
deriving DecidableEq, Repr

structure Emission where
  emitters : List Emitter := []
  lastEmittedAt : String → Option Time := fun _ => none
  emitSeqs : String → Int := fun _ => 0
  log : List RoomEvent := []

def minEmitInterval : Duration := 5 * second

def roomChanged (room : Room) (revision : Int) : RoomChanged where
  roomID := room.roomID
  classID := room.classID
  status := room.status
  expiresAt := room.expiresAt
  hasQR := room.qrURL.isSome
  revision := revision

namespace Emission

section
variable (e : Emission)

def publish (event : RoomEvent) : Emission := { e with log := e.log ++ [event] }

/-- The entries of a deleted room go. -/
def forget (roomID : String) : Emission :=
  { e with
    lastEmittedAt := Function.update e.lastEmittedAt roomID none
    emitSeqs := Function.update e.emitSeqs roomID 0 }

/-- The gate: a room that carries a QR or stops is always emitted, another one at most every five seconds. -/
def passes (room : Room) (now : Time) : Bool :=
  room.qrURL.isSome || room.status = .stopped ||
    match e.lastEmittedAt room.roomID with
    | none => true
    | some last => ¬ now - last < minEmitInterval

def setStage (k : Nat) (room : Room) (stage : Stage) : Emission :=
  { e with emitters := e.emitters.set k ⟨room, stage⟩ }

/-- The section under `emitMu`. -/
def number (k : Nat) (room : Room) (now : Time) : Emission :=
  if e.passes room now then
    let revision := e.emitSeqs room.roomID + 1
    { e.setStage k room (.numbered revision) with
      lastEmittedAt := Function.update e.lastEmittedAt room.roomID (some now)
      emitSeqs := Function.update e.emitSeqs room.roomID revision }
  else e.setStage k room .suppressed

def step (k : Nat) (now : Time) : Emission :=
  match e.emitters[k]? with
  | none => e
  | some emitter =>
    match emitter.stage with
    | .copied => e.number k emitter.room now
    | .numbered revision =>
      (e.setStage k emitter.room (.updated revision)).publish (.roomUpdated (newRoomLite emitter.room))
    | .updated revision =>
      (e.setStage k emitter.room (.emitted revision)).publish (.roomChanged (roomChanged emitter.room revision))
    | _ => e

def returned (k : Nat) : Bool := (e.emitters[k]?.map fun emitter => emitter.stage.final).getD true

end

end Emission

inductive EmitOp where
  /-- A goroutine copies the room under the lock of the manager. -/
  | copy (room : Room)
  | step (k : Nat) (now : Time)
  /-- `CreateRoom` publishes `RoomCreated`. -/
  | created (room : Room)
deriving DecidableEq, Repr

def Emission.exec (e : Emission) : EmitOp → Emission × Unit
  | .copy room => ({ e with emitters := e.emitters ++ [{ room := room }] }, ())
  | .step k now => (e.step k now, ())
  | .created room => (e.publish (.roomCreated (newRoomLite room)), ())

end QrCommandCenter.Rooms
