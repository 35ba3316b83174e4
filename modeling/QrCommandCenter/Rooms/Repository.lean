import QrCommandCenter.Lib.Table
import QrCommandCenter.Domain.Room

/-!
# The rooms table

`PgRoomRepository` of `internal/db/repository.go` over the `rooms` table of its migrations. A statement is one atomic step.

* `RoomStatusLabel`, `castRoomStatus` : the enumeration `room_status` and the cast of a text to it;
* `roomStatusToString`, `stringToRoomStatus` : the encoder and the decoder of a status;
* `RoomRow`, `writeRoom`, `scanRoom` : the columns, and a room to and from them;
* `updateRoom`, `insertRoom`, `getRoom`, `deleteRoom` : the statements;
* `updateRoom_spec`, `insertRoom_spec`, `deleteRoom_spec` : the row of a room after them.
-/

namespace QrCommandCenter.Rooms
open Domain Table

/-! ## The status column -/

/-- The labels of the enumeration `room_status`. -/
inductive RoomStatusLabel where
  | idle
  | running
  | fetching
  | warning
  | authExpired
  | stopped
deriving DecidableEq, Repr

def RoomStatusLabel.text : RoomStatusLabel → String
  | .idle => "idle"
  | .running => "running"
  | .fetching => "fetching"
  | .warning => "warning"
  | .authExpired => "auth_expired"
  | .stopped => "stopped"

/-- `$4::room_status`. -/
def castRoomStatus (text : String) : Option RoomStatusLabel :=
  [.idle, .running, .fetching, .warning, .authExpired, .stopped].find? fun label => label.text = text

inductive RepositoryError where
  /-- `invalid input value for enum room_status` -/
  | invalidStatus (text : String)
  /-- `room not found: %s` -/
  | notFound (roomID : String)
  /-- `unknown room status: %s` -/
  | unknownStatus (text : String)
  /-- An error of the connection or the server. -/
  | database
deriving DecidableEq, Repr

/-- `roomStatusToString`: `strings.ToLower` of the status. -/
def roomStatusToString (status : RoomStatus) : String := status.text.toLower

def stringToRoomStatus (s : String) : Except RepositoryError RoomStatus :=
  match s.toLower with
  | "idle" => .ok .idle
  | "running" => .ok .running
  | "fetching" => .ok .fetching
  | "warning" => .ok .warning
  | "auth_expired" => .ok .authExpired
  | "stopped" => .ok .stopped
  | _ => .error (.unknownStatus s)

/-! ## Rows -/

/-- A time as a `TIMESTAMPTZ` column keeps it: whole microseconds. -/
def timestamptz (t : Time) : Time := t / 1000 * 1000

structure RoomRow where
  roomID : String
  classID : String
  name : Option String
  status : RoomStatusLabel
  qrURL : Option String
  expiresAt : Option Time
  lastUpdatedAt : Option Time
  warningMessage : Option String
  errorMessage : Option String
  lastFetchAt : Option Time
deriving DecidableEq, Repr

/-- The columns that `INSERT` and `UPDATE` write for a room. -/
def writeRoom (room : Room) : Except RepositoryError RoomRow :=
  match castRoomStatus (roomStatusToString room.status) with
  | none => .error (.invalidStatus (roomStatusToString room.status))
  | some status => .ok {
    roomID := room.roomID
    classID := room.classID
    name := room.name
    status := status
    qrURL := room.qrURL
    expiresAt := room.expiresAt.map timestamptz
    lastUpdatedAt := room.lastUpdatedAt.map timestamptz
    warningMessage := room.warningMessage
    errorMessage := room.errorMessage
    lastFetchAt := room.lastFetchAt.map timestamptz }

def scanRoom (row : RoomRow) : Except RepositoryError Room := do
  let status ← stringToRoomStatus row.status.text
  return {
    roomID := row.roomID
    classID := row.classID
    name := row.name
    status := status
    qrURL := row.qrURL
    expiresAt := row.expiresAt
    lastUpdatedAt := row.lastUpdatedAt
    warningMessage := row.warningMessage
    errorMessage := row.errorMessage
    lastFetchAt := row.lastFetchAt }

/-! ## Statements -/

section
variable (rows : List RoomRow)

def rowOf? (roomID : String) : Option RoomRow := lookup RoomRow.roomID rows roomID

def updateRoom (room : Room) : Except RepositoryError (List RoomRow) := do
  let row ← writeRoom room
  match rowOf? rows room.roomID with
  | none => .error (.notFound room.roomID)
  | some _ => .ok (updateWhere (fun r => r.roomID = room.roomID) (fun _ => row) rows)

/-- The `INSERT` of `CreateRoom`, which leaves an existing row alone. -/
def insertRoom (room : Room) : Except RepositoryError (List RoomRow) := do
  let row ← writeRoom room
  match rowOf? rows room.roomID with
  | none => .ok (rows ++ [row])
  | some _ => .ok rows

def getRoom (roomID : String) : Except RepositoryError Room :=
  match rowOf? rows roomID with
  | none => .error (.notFound roomID)
  | some row => scanRoom row

def deleteRoom (roomID : String) : Except RepositoryError (List RoomRow) :=
  match rowOf? rows roomID with
  | none => .error (.notFound roomID)
  | some _ => .ok (deleteWhere (fun r => r.roomID = roomID) rows)

end

/-! ## What the statements do -/

section Spec
variable {rows rows' : List RoomRow} {room : Room} {row : RoomRow} {roomID : String}

theorem writeRoom_roomID (h : writeRoom room = .ok row) : row.roomID = room.roomID := by
  unfold writeRoom at h
  split at h
  · cases h
  · cases h
    rfl

/-- `UpdateRoom` writes the columns of the room into its row, and leaves the others. -/
theorem updateRoom_spec (h : updateRoom rows room = .ok rows') : ∃ row, writeRoom room = .ok row ∧
    ∀ id, rowOf? rows' id = if id = room.roomID then some row else rowOf? rows id := by
  obtain ⟨row, hrow, h⟩ := bind_eq_ok.mp h
  cases hold : rowOf? rows room.roomID with
  | none =>
    rw [hold] at h
    cases h
  | some old =>
    rw [hold] at h
    cases h
    refine ⟨row, hrow, fun id => ?_⟩
    have hkey : ∀ r : RoomRow, (if r.roomID = room.roomID then row else r).roomID = r.roomID := by
      intro r
      split
      · rename_i hr
        rw [writeRoom_roomID hrow, hr]
      · rfl
    have hmap : updateWhere (fun r => decide (r.roomID = room.roomID)) (fun _ => row) rows =
        rows.map fun r => if r.roomID = room.roomID then row else r := by
      simp [updateWhere]
    rw [hmap, rowOf?, lookup_map hkey]
    by_cases hid : id = room.roomID
    · have hfound : lookup RoomRow.roomID rows id = some old := by
        rw [hid]
        exact hold
      rw [if_pos hid, hfound]
      simp [(lookup_mem hfound).2, hid]
    · rw [if_neg hid]
      cases hlookup : lookup RoomRow.roomID rows id with
      | none => simp [rowOf?, hlookup]
      | some r =>
        have hr := (lookup_mem hlookup).2
        simp [rowOf?, hlookup, hr, hid]

theorem insertRoom_spec (h : insertRoom rows room = .ok rows') : ∃ row, writeRoom room = .ok row ∧
    ∀ id, rowOf? rows' id = if id = room.roomID ∧ rowOf? rows id = none then some row else rowOf? rows id := by
  obtain ⟨row, hrow, h⟩ := bind_eq_ok.mp h
  refine ⟨row, hrow, fun id => ?_⟩
  cases hold : rowOf? rows room.roomID with
  | none =>
    rw [hold] at h
    cases h
    rw [rowOf?, lookup_append]
    by_cases hid : id = room.roomID
    · subst hid
      rw [if_pos ⟨rfl, hold⟩, show lookup RoomRow.roomID rows room.roomID = none from hold]
      simp [lookup, writeRoom_roomID hrow]
    · rw [if_neg fun h => hid h.1]
      simp [rowOf?, lookup, writeRoom_roomID hrow, Ne.symm hid]
  | some old =>
    rw [hold] at h
    cases h
    rw [if_neg]
    rintro ⟨rfl, hnone⟩
    rw [hold] at hnone
    cases hnone

theorem deleteRoom_spec (h : deleteRoom rows roomID = .ok rows') :
    ∀ id, rowOf? rows' id = if id = roomID then none else rowOf? rows id := by
  unfold deleteRoom at h
  split at h
  · cases h
  · cases h
    intro id
    by_cases hid : id = roomID
    · rw [if_pos hid, rowOf?, lookup_eq_none]
      intro r hr
      have hne := (mem_deleteWhere.mp hr).2
      rw [hid]
      simpa using hne
    · rw [if_neg hid]
      refine lookup_deleteWhere fun r _ hr => ?_
      simpa [hr] using hid

end Spec

end QrCommandCenter.Rooms
