import QrCommandCenter.Rooms.Contexts
import QrCommandCenter.Rooms.Effects

/-!
# Rooms to the table and back

`UpdateRoom` sends the lower case of the status, the column is an enumeration, and `scanRoom` reads its label back. The three
agree on all statuses but one: "authexpired" is no label of `room_status`, which has "auth_expired".

* `stored`, `scanRoom_writeRoom` : the room that is read back;
* `Restored`, `Storable`, `restored_iff` : the rooms that `UpdateRoom` accepts and that come back as they were;
* `RestoredStep`, `StorableStep`, `roundTrip_iff` : every room of a run is restored, exactly if no fetch ends with an expired
  session and all fetched times are whole microseconds.
-/

namespace QrCommandCenter.Rooms
open Domain Transition Table

variable {room : Room} {row : RoomRow}

variable {rows : List RoomRow} {resp : QrResponse} {now : Time} {lockSection : LockSection}

/-! ## One room -/

/-- **The encoder, the enumeration and the decoder of a status**: all statuses but `AuthExpired` come back. -/
theorem roomStatus_roundTrip (status : RoomStatus) :
    status = .authExpired ∧ castRoomStatus (roomStatusToString status) = none ∨
    status ≠ .authExpired ∧ ∃ label, castRoomStatus (roomStatusToString status) = some label ∧
      stringToRoomStatus label.text = .ok status := by
  cases status with
  | authExpired => exact .inl ⟨rfl, by decide +kernel⟩
  | idle => exact .inr ⟨by decide, .idle, by decide +kernel, by decide +kernel⟩
  | running => exact .inr ⟨by decide, .running, by decide +kernel, by decide +kernel⟩
  | fetching => exact .inr ⟨by decide, .fetching, by decide +kernel, by decide +kernel⟩
  | warning => exact .inr ⟨by decide, .warning, by decide +kernel, by decide +kernel⟩
  | stopped => exact .inr ⟨by decide, .stopped, by decide +kernel, by decide +kernel⟩

/-- The room that is read back from its row. -/
def stored (room : Room) : Room :=
  { room with
    expiresAt := room.expiresAt.map timestamptz
    lastUpdatedAt := room.lastUpdatedAt.map timestamptz
    lastFetchAt := room.lastFetchAt.map timestamptz
    upstreamAttendanceLabel := none
    upstreamVerifiedAt := none
    upstreamVerificationError := none }

theorem writeRoom_ne_authExpired (h : writeRoom room = .ok row) :
    room.status ≠ .authExpired := by
  intro hstatus
  rcases roomStatus_roundTrip room.status with ⟨-, hnone⟩ | ⟨hne, -⟩
  · rw [writeRoom, hnone] at h
    cases h
  · exact hne hstatus

theorem exists_writeRoom (h : room.status ≠ .authExpired) : ∃ row, writeRoom room = .ok row := by
  rcases roomStatus_roundTrip room.status with ⟨hstatus, -⟩ | ⟨-, label, hlabel, -⟩
  · exact absurd hstatus h
  · rw [writeRoom, hlabel]
    exact ⟨_, rfl⟩

theorem scanRoom_writeRoom (h : writeRoom room = .ok row) : scanRoom row = .ok (stored room) := by
  rcases roomStatus_roundTrip room.status with ⟨hstatus, -⟩ | ⟨-, label, hlabel, hdecode⟩
  · exact absurd hstatus (writeRoom_ne_authExpired h)
  · rw [writeRoom, hlabel] at h
    cases h
    simp only [scanRoom, hdecode]
    rfl

/-- The columns that `scanRoom` reads. -/
structure SameColumns (saved room : Room) : Prop where
  roomID : saved.roomID = room.roomID
  classID : saved.classID = room.classID
  name : saved.name = room.name
  status : saved.status = room.status
  qrURL : saved.qrURL = room.qrURL
  expiresAt : saved.expiresAt = room.expiresAt
  lastUpdatedAt : saved.lastUpdatedAt = room.lastUpdatedAt
  lastFetchAt : saved.lastFetchAt = room.lastFetchAt
  warningMessage : saved.warningMessage = room.warningMessage
  errorMessage : saved.errorMessage = room.errorMessage

/-- `UpdateRoom` accepts the room wherever it has a row, and the row is read back as the room. -/
def Restored (room : Room) : Prop :=
  ∀ rows, (∃ old, rowOf? rows room.roomID = some old) → ∃ rows' saved, updateRoom rows room = .ok rows' ∧
    getRoom rows' room.roomID = .ok saved ∧ SameColumns saved room

/-- The status is not `AuthExpired` and the times are whole microseconds. -/
structure Storable (room : Room) : Prop where
  status : room.status ≠ .authExpired
  expiresAt : room.expiresAt.map timestamptz = room.expiresAt
  lastUpdatedAt : room.lastUpdatedAt.map timestamptz = room.lastUpdatedAt
  lastFetchAt : room.lastFetchAt.map timestamptz = room.lastFetchAt

theorem updateRoom_of_writeRoom {old : RoomRow} (hrow : writeRoom room = .ok row)
    (hold : rowOf? rows room.roomID = some old) : ∃ rows', updateRoom rows room = .ok rows' := by
  simp [updateRoom, hrow, hold, bind, Except.bind]

theorem getRoom_updateRoom {rows' : List RoomRow} (h : updateRoom rows room = .ok rows') :
    getRoom rows' room.roomID = .ok (stored room) := by
  obtain ⟨row, hrow, hrows⟩ := updateRoom_spec h
  have hfound := hrows room.roomID
  rw [if_pos rfl] at hfound
  rw [getRoom, hfound]
  exact scanRoom_writeRoom hrow

/-- **The rooms that the table restores.** -/
theorem restored_iff (room : Room) : Restored room ↔ Storable room := by
  constructor
  · intro h
    -- any table with a row of the room shows it
    let row : RoomRow := ⟨room.roomID, "", none, .idle, none, none, none, none, none, none⟩
    obtain ⟨rows', saved, hupdate, hget, hsame⟩ := h [row] ⟨row, by simp [rowOf?, lookup, row]⟩
    rw [getRoom_updateRoom hupdate] at hget
    cases hget
    obtain ⟨written, hwritten, -⟩ := updateRoom_spec hupdate
    exact ⟨writeRoom_ne_authExpired hwritten, hsame.expiresAt, hsame.lastUpdatedAt, hsame.lastFetchAt⟩
  · rintro h rows ⟨old, hold⟩
    obtain ⟨row, hrow⟩ := exists_writeRoom h.status
    obtain ⟨rows', hupdate⟩ := updateRoom_of_writeRoom hrow hold
    exact ⟨rows', stored room, hupdate, getRoom_updateRoom hupdate,
      ⟨rfl, rfl, rfl, rfl, rfl, h.expiresAt, h.lastUpdatedAt, h.lastFetchAt, rfl, rfl⟩⟩

/-! ## The rooms of the manager -/

theorem timestamptz_timestamptz (t : Time) : timestamptz (timestamptz t) = timestamptz t := by
  show t / 1000 * 1000 / 1000 * 1000 = t / 1000 * 1000
  rw [Int.mul_ediv_cancel _ (by decide)]

theorem map_timestamptz (t : Option Time) : (t.map timestamptz).map timestamptz = t.map timestamptz := by
  cases t with
  | none => rfl
  | some t => simp [timestamptz_timestamptz]

theorem stored_storable (h : room.status ≠ .authExpired) : Storable (stored room) :=
  ⟨h, map_timestamptz _, map_timestamptz _, map_timestamptz _⟩

section Storable
variable {room : Room} {next : RoomStatus}

theorem Storable.moveTo_of_status (h : Storable room) (hstatus : (room.moveTo next).status ≠ .authExpired) :
    Storable (room.moveTo next) := by
  refine ⟨hstatus, ?_, ?_, ?_⟩
  all_goals rw [Room.moveTo_eq]
  · exact h.expiresAt
  · exact h.lastUpdatedAt
  · exact h.lastFetchAt

theorem Storable.moveTo (h : Storable room) (hnext : next ≠ .authExpired) : Storable (room.moveTo next) := by
  refine h.moveTo_of_status ?_
  rw [Room.moveTo_status]
  split
  · exact hnext
  · exact h.status

def WholeTimes (resp : QrResponse) (now : Time) : Prop :=
  timestamptz now = now ∧
    timestamptz (now + durationOfSeconds resp.qrTime.toNat) = now + durationOfSeconds resp.qrTime.toNat

section
variable (h : Storable room)
include h

theorem Storable.withQR (htimes : WholeTimes resp now) : Storable (withQR room resp now) where
  status := h.status
  expiresAt := congrArg some htimes.2
  lastUpdatedAt := congrArg some htimes.1
  lastFetchAt := congrArg some htimes.1

theorem Storable.startedRoom : Storable (startedRoom room) := by
  unfold Rooms.startedRoom
  refine Storable.moveTo ?_ (by decide)
  by_cases hstatus : room.status ≠ .running
  · rw [if_pos hstatus]
    exact ⟨h.status, rfl, h.lastUpdatedAt, h.lastFetchAt⟩
  · rw [if_neg hstatus]
    exact ⟨h.status, h.expiresAt, h.lastUpdatedAt, h.lastFetchAt⟩

theorem Storable.stoppedRoom : Storable (stoppedRoom room) := by
  have hstopped : Storable (room.moveTo .stopped) := h.moveTo (by decide)
  exact ⟨hstopped.status, rfl, hstopped.lastUpdatedAt, hstopped.lastFetchAt⟩

theorem Storable.texts (warningMessage errorMessage : Option String) :
    Storable { room with warningMessage := warningMessage, errorMessage := errorMessage } :=
  ⟨h.status, h.expiresAt, h.lastUpdatedAt, h.lastFetchAt⟩

theorem Storable.recoveryFailed : Storable (recoveryFailed room) :=
  (h.texts _ _).moveTo (by decide)

/-- A section that a worker takes, unless it is the one of an expired session or a fetch at odd times. -/
theorem Storable.section (hbranch : Manager.branches room lockSection) (hexpired : ∀ err, lockSection ≠ .expired err)
    (htimes : ∀ resp now, lockSection = .success resp now ∨ lockSection = .recovered resp now → WholeTimes resp now) :
    Storable (lockSection.room room) := by
  cases lockSection with
  | noClient => exact (h.texts _ _).moveTo (by decide)
  | fetching => exact h.moveTo (by decide)
  | success resp now => exact ((h.withQR (htimes resp now (.inl rfl))).moveTo (by decide)).texts _ _
  | expired err => exact absurd rfl (hexpired err)
  | failed err => exact h.moveTo_of_status hbranch
  | nonRecoverable err => exact h.texts _ _
  | recovered resp now =>
    exact (((h.withQR (htimes resp now (.inr rfl))).texts _ _).moveTo (by decide)).moveTo (by decide)
  | conflict | payload => exact (h.texts _ _).moveTo (by decide)

end

end Storable

def TableSound (rows : List RoomRow) : Prop := ∀ roomID room, getRoom rows roomID = .ok room → Storable room

section Table
variable {rows rows' : List RoomRow}

theorem TableSound.of_rows (h : TableSound rows)
    (hrows : ∀ id row, rowOf? rows' id = some row → rowOf? rows id = some row ∨ ∃ room, writeRoom room = .ok row) :
    TableSound rows' := by
  intro roomID room hget
  unfold getRoom at hget
  split at hget
  · cases hget
  · rename_i row hrow
    rcases hrows roomID row hrow with hold | ⟨written, hwritten⟩
    · exact h roomID room (by rw [getRoom, hold]; exact hget)
    · rw [scanRoom_writeRoom hwritten] at hget
      cases hget
      exact stored_storable (writeRoom_ne_authExpired hwritten)

theorem TableSound.report (h : TableSound rows) {report : Report} (hreport : report.Writes rows rows') : TableSound rows' := by
  cases report with
  | updated room ok =>
    cases ok with
    | false =>
      cases hreport
      exact h
    | true =>
      obtain ⟨row, hrow, hrows⟩ := updateRoom_spec hreport
      refine h.of_rows fun id found hfound => ?_
      rw [hrows id] at hfound
      split at hfound
      · cases hfound
        exact .inr ⟨room, hrow⟩
      · exact .inl hfound
  | inserted room =>
    obtain ⟨row, hrow, hrows⟩ := insertRoom_spec hreport.2
    refine h.of_rows fun id found hfound => ?_
    rw [hrows id] at hfound
    split at hfound
    · cases hfound
      exact .inr ⟨room, hrow⟩
    · exact .inl hfound
  | rowDeleted roomID =>
    refine h.of_rows fun id found hfound => ?_
    rw [deleteRoom_spec hreport id] at hfound
    split at hfound
    · cases hfound
    · exact .inl hfound
  | _ =>
    cases hreport
    exact h

end Table

def Registry.Storable (c : Registry) : Prop := ∀ (p : Nat) (slot : Slot), c.slots[p]? = some slot → Rooms.Storable slot.room

/-- **The rooms after a step are storable**, if those before it, a registered one and a written one are. -/
theorem RegistryStep.storable {c c' : Registry} {report : Report} (h : RegistryStep c report c')
    (hc : c.Storable)
    (hregisters : ∀ p room, report = .registered p room → Storable room)
    (hwrites : ∀ w p lockSection slot, report = .wrote w p lockSection → c.slots[p]? = some slot →
      Storable (lockSection.room slot.room)) : c'.Storable := by
  have hset : ∀ {p : Nat} {new : Slot}, Storable new.room →
      ∀ (q : Nat) (x : Slot), (c.slots.set p new)[q]? = some x → Storable x.room := by
    intro p new hnew q x hx
    rcases getElem?_set_cases hx with ⟨-, rfl⟩ | ⟨-, hx⟩
    · exact hnew
    · exact hc q x hx
  cases h with
  | stay => exact hc
  | register room =>
    intro q x hx
    rcases getElem?_append_cases hx with ⟨-, rfl⟩ | hx
    · exact hregisters _ room rfl
    · exact hc q x hx
  | alreadyStarted => exact hc
  | start hreg hslot hcancel => exact hset (hc _ _ hslot).startedRoom
  | stop hreg hslot =>
    intro q x hx
    rw [Registry.setSlot, Registry.cancelOf_slots] at hx
    exact hset (hc _ _ hslot).stoppedRoom q x hx
  | halt hreg hslot hcancel => exact hset ((hc _ _ hslot).moveTo (by decide))
  | delete hreg hslot =>
    intro q x hx
    rw [Registry.cancelOf_slots] at hx
    exact hc q x hx
  | write hagent hruns hslot hopen => exact hset (hwrites _ _ _ _ rfl hslot)
  | giveUp hagent hruns hslot hcancel | panic hagent hruns hslot hcancel => exact hset (hc _ _ hslot).recoveryFailed
  | exit hagent hruns => exact hc

/-! ## Runs -/

def RestoredStep (e : Event Manager RoomOp Report) : Prop := ∀ state ∈ e.post.states, Restored state.room

/-- No worker leaves a room in `AuthExpired`, and the times of every fetch are whole microseconds. -/
structure StorableStep (client : Bool) (e : Event Manager RoomOp Report) : Prop where
  session : ∀ w choice worker state err pc, e.op = .worker w choice →
    ¬ e.pre.Acts client w choice worker state (.write (.expired err) pc)
  times : ∀ w choice worker state lockSection pc resp now, e.op = .worker w choice →
    e.pre.Acts client w choice worker state (.write lockSection pc) →
    lockSection = .success resp now ∨ lockSection = .recovered resp now → WholeTimes resp now

structure Stocked (m : Manager) : Prop where
  rooms : m.registry.Storable
  table : TableSound m.rows
  reads : ∀ (i : Nat) (call : CallThread) (room : Room), m.calls[i]? = some call → call.pc.registers = some room → Storable room

theorem stocked_empty : Stocked {} where
  rooms := fun p slot h => by simp [Manager.registry] at h
  table := fun roomID room h => by cases h
  reads := fun i call room h => by cases h

section Runs
variable {m : Manager} {client : Bool} {op : RoomOp}

section
variable (hm : Stocked m) (h : StorableStep client (Event.of (Manager.exec · client) m op))
include hm h

theorem stocked_of_storableStep : Stocked (m.exec client op).1 := by
  have heffect := m.exec_effect client op
  refine ⟨(m.exec_registryStep client op).storable hm.rooms (fun p room hreport => ?_)
    (fun w p lockSection slot hreport hslot => ?_), ?_, fun i call room hcall hroom => ?_⟩
  · obtain ⟨i, -, -, ⟨ensure, hcall⟩ | ⟨⟨ensure, hcall⟩, -⟩⟩ := Manager.exec_registered hreport
    · exact hm.reads i _ room hcall rfl
    · exact hm.reads i _ room hcall rfl
  · obtain ⟨choice, worker, state, pc, rfl, hacts, rfl⟩ := Manager.exec_wrote hreport
    rw [Manager.slots_getElem? hacts.room] at hslot
    cases hslot
    obtain ⟨-, -, hbranch⟩ := Manager.turn_fits hacts.next
    refine (hm.rooms _ _ (Manager.slots_getElem? hacts.room)).section hbranch (fun err hsection => ?_)
      (fun resp now hsection => h.times w choice worker state lockSection pc resp now rfl hacts hsection)
    subst hsection
    exact h.session w choice worker state err pc rfl hacts
  · exact hm.table.report heffect.rows
  · rcases heffect.reads i call room hcall hroom with ⟨call', hcall', hroom'⟩ | ⟨roomID, hget⟩
    · exact hm.reads i call' room hcall' hroom'
    · exact hm.table roomID room hget

theorem restoredStep_of_storableStep : RestoredStep (Event.of (Manager.exec · client) m op) := by
  intro state hstate
  obtain ⟨p, hp⟩ := List.mem_iff_getElem?.mp hstate
  exact (restored_iff state.room).mpr ((stocked_of_storableStep hm h).rooms p state.slot (Manager.slots_getElem? hp))

end

theorem RestoredStep.storable_of_acts {w : Nat} {choice : Choice} {worker : Worker} {state : RoomState}
    {pc : WorkerPC} (h : RestoredStep (Event.of (Manager.exec · client) m (.worker w choice)))
    (hacts : m.Acts client w choice worker state (.write lockSection pc)) : Storable (lockSection.room state.room) := by
  obtain ⟨-, -, after, hafter, hroom⟩ := hacts.exec_write
  rw [← hroom]
  exact (restored_iff after.room).mp (h after (List.mem_of_getElem? hafter))

theorem wholeTimes_of_storable (h : Storable room)
    (hexpires : room.expiresAt = some (now + durationOfSeconds resp.qrTime.toNat))
    (hupdated : room.lastUpdatedAt = some now) : WholeTimes resp now := by
  have htime := h.lastUpdatedAt
  have hexpiry := h.expiresAt
  rw [hupdated] at htime
  rw [hexpires] at hexpiry
  exact ⟨Option.some.inj htime, Option.some.inj hexpiry⟩

theorem storableStep_of_restoredStep (h : RestoredStep (Event.of (Manager.exec · client) m op)) :
    StorableStep client (Event.of (Manager.exec · client) m op) := by
  constructor
  · intro w choice worker state err pc hop hacts
    cases (hop : op = _)
    obtain ⟨-, -, hbranch⟩ := Manager.turn_fits hacts.next
    exact (h.storable_of_acts hacts).status hbranch
  · intro w choice worker state lockSection pc resp now hop hacts hsection
    cases (hop : op = _)
    have hstorable := h.storable_of_acts hacts
    refine wholeTimes_of_storable hstorable ?_ ?_
    · rcases hsection with rfl | rfl <;> simp [LockSection.room, withQR]
    · rcases hsection with rfl | rfl <;> simp [LockSection.room, withQR, Room.moveTo_eq]

/-- **Every room of a run is accepted by `UpdateRoom` and read back as it was, exactly if no worker leaves one in
`AuthExpired` and all fetched times are whole microseconds.** -/
theorem roundTrip_iff (client : Bool) (ops : List RoomOp) :
    (∀ e ∈ trace (Manager.exec · client) {} ops, RestoredStep e) ↔
      ∀ e ∈ trace (Manager.exec · client) {} ops, StorableStep client e :=
  trace_forall_iff (fun _ _ hm => ⟨storableStep_of_restoredStep, restoredStep_of_storableStep hm⟩)
    (fun _ _ hm h => stocked_of_storableStep hm h) stocked_empty ops

/-! ### An expired session -/

def expiredSession : List RoomOp :=
  createRoomOps 0 "room" "class" ++ startRoomOps 1 "room" ++ fetchOps 0 ++
    [.worker 0 (.result (.error { text := "session expired", fetchError := some { kind := .authExpired } }))]

def expiredSessionWrite : Event Manager RoomOp Report :=
  .of (Manager.exec · true) (final (Manager.exec · true) {} expiredSession) (.worker 0 .proceed)

theorem expiredSession_not_restored : ¬ ∀ client ops, ∀ e ∈ trace (Manager.exec · client) {} ops, RestoredStep e := by
  intro h
  have hmem : expiredSessionWrite ∈ trace (Manager.exec · true) {} (expiredSession ++ [.worker 0 .proceed]) :=
    mem_trace_snoc _ _ _
  have hexpired : expiredSessionWrite.post.states[0]?.map (fun state => state.room.status) = some .authExpired := by
    decide +kernel
  obtain ⟨state, hstate, hstatus⟩ := Option.map_eq_some_iff.mp hexpired
  have hrestored := h true _ _ hmem state (List.mem_of_getElem? hstate)
  exact ((restored_iff state.room).mp hrestored).status hstatus

end Runs

end QrCommandCenter.Rooms
