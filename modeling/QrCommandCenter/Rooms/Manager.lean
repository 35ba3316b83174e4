import QrCommandCenter.Rooms.Worker
import QrCommandCenter.Rooms.Emission
import QrCommandCenter.Rooms.Repository

/-!
# The room manager

`RoomManager` of `internal/service/room_manager.go` as a machine. Its goroutines are the workers of the rooms, the callers of
its methods, and one goroutine for each call of `persistRoomUpdate`; the environment chooses which of them takes the next step.

* `Manager` : the states of the rooms, the map, the goroutines, the locks, the table and the events;
* `Report` : what a step did;
* `CallPC`, `Manager.callTurn` : `CreateRoom`, `EnsureSessionRoom`, `StartRoom`, `StopRoom`, `DeleteRoom` and
  `StopAllActiveRooms`, step by step;
* `Manager.workerTurn`, `Manager.runTask`, `Manager.persisted` : the steps of the other goroutines;
* `RoomOp`, `Manager.exec` : the machine.
-/

namespace QrCommandCenter.Rooms
open Domain Transition

/-! ## States -/

/-- A goroutine of `persistRoomUpdate` that has not executed its `UpdateRoom`. -/
structure Write where
  state : Nat
  room : Room
deriving DecidableEq, Repr

/-- A room that `StopAllActiveRooms` has stopped, with the number of the copy it emits. -/
structure StoppedRoom where
  state : Nat
  room : Room
  done : Option Nat
  copy : Nat
deriving DecidableEq, Repr

inductive StopPhase where
  | persist
  | waitDone
  | waitPersist
  | reassert
  | clear
  | emit
deriving DecidableEq, Repr

inductive CallError where
  /-- `session id is required` -/
  | sessionIDRequired
  /-- `room not found` -/
  | roomNotFound
  | repository (err : RepositoryError)
  /-- `stop room %s: %w` -/
  | stopRoom (roomID : String) (err : TransitionError)
  /-- the joined errors of `StopAllActiveRooms` -/
  | stopAll
deriving DecidableEq, Repr

/-- Where a caller is. `ensure` is the course of the `EnsureSessionRoom` that a `CreateRoom` is part of. -/
inductive CallPC where
  | getRoom (roomID classID : String) (name : Option String) (ensure : Option String)
  | insert (room : Room) (ensure : Option String)
  | reread (roomID : String) (ensure : Option String)
  | registerExisting (room : Room) (ensure : Option String)
  | registerNew (room : Room) (ensure : Option String)
  | created (roomID : String) (ensure : Option String)
  | ensured (sessionID courseID : String)
  | startRoom (roomID : String)
  | startLocked (roomID : String)
  | stopRoom (roomID : String)
  | stopLocked (roomID : String)
  /-- `StartRoom` or `StopRoom` at its end, with both locks -/
  | unlocking
  | deleteRoom (roomID : String)
  | deleteRow (roomID : String)
  | unregister (roomID : String)
  | deleted
  | stopAll
  | stopAllLocked
  /-- in the loop over the rooms, with both locks -/
  | sweeping (visited : List Nat) (stopped : List StoppedRoom)
  | stopping (phase : StopPhase) (stopped : List StoppedRoom) (failed : Bool)
  | returned (err : Option CallError)
deriving DecidableEq, Repr

structure CallThread where
  pc : CallPC
  todo : List Task := []
deriving DecidableEq, Repr

/-- Who holds the lock `mu`: a caller, or a worker that panicked while it held it. -/
inductive Holder where
  | call (i : Nat)
  | worker (w : Nat)
deriving DecidableEq, Repr

structure Manager where
  /-- Every `RoomState` ever made; a pointer is its position. -/
  states : List RoomState := []
  rooms : String → Option Nat := fun _ => none
  workers : List Worker := []
  calls : List CallThread := []
  lifecycleMu : Option Nat := none
  mu : Option Holder := none
  rows : List RoomRow := []
  pending : List Write := []
  emission : Emission := {}

inductive Report where
  /-- the step is not possible in the state -/
  | blocked
  | quiet
  | registered (p : Nat) (room : Room)
  | started (p w : Nat)
  | alreadyStarted (p : Nat)
  | stopped (p : Nat)
  | halted (p : Nat)
  | deleted (p : Nat)
  | wrote (w p : Nat) (lockSection : LockSection)
  | gaveUp (w p : Nat)
  | panicked (w p : Nat)
  | exited (w : Nat)
  /-- `persistRoomUpdate` was called -/
  | issued (room : Room)
  /-- an `UpdateRoom` returned -/
  | updated (room : Room) (ok : Bool)
  | inserted (room : Room)
  | rowDeleted (roomID : String)
deriving DecidableEq, Repr

namespace Manager

/-! ## Updates -/

section
variable (m : Manager)

def setState (p : Nat) (state : RoomState) : Manager := { m with states := m.states.set p state }

def setWorker (w : Nat) (worker : Worker) : Manager := { m with workers := m.workers.set w worker }

def cancelWorker (w : Nat) : Manager :=
  { m with workers := m.workers.modify w fun worker => { worker with cancelled := true } }

/-- `if state.cancel != nil { state.cancel() }`. -/
def cancelOf (state : RoomState) : Manager :=
  match state.cancel with
  | none => m
  | some w => m.cancelWorker w

/-- The copy of a room for `emitRoomEvents`. -/
def copyRoom (room : Room) : Manager := { m with emission := (m.emission.exec (.copy room)).1 }

def nextCopy : Nat := m.emission.emitters.length

def registered? (roomID : String) : Option (Nat × RoomState) :=
  match m.rooms roomID with
  | none => none
  | some p => m.states[p]?.map fun state => (p, state)

/-- `rm.rooms[roomID] = &RoomState{room: room}`. -/
def register (room : Room) : Manager :=
  { m with
    states := m.states ++ [{ room := room }]
    rooms := Function.update m.rooms room.roomID (some m.states.length) }

end

/-! ## Calls -/

inductive CallChoice where
  | proceed
  /-- the statement fails -/
  | fail
  /-- the context of the caller is done -/
  | ctxDone
  /-- the next room of a loop over the map -/
  | room (p : Nat)
deriving DecidableEq, Repr

structure CallMove where
  manager : Manager
  pc : CallPC
  todo : List Task := []
  report : Report := .quiet

variable (m : Manager) (i : Nat)

/-- The call returns and its `defer`s release the locks it holds. -/
def finish (err : Option CallError) (report : Report) : CallMove where
  manager := { m with
    lifecycleMu := if m.lifecycleMu = some i then none else m.lifecycleMu
    mu := if m.mu = some (.call i) then none else m.mu }
  pc := .returned err
  report := report

/-- `lifecycleMu.Lock()`. -/
def lockLifecycle (pc : CallPC) : Option CallMove :=
  if m.lifecycleMu = none then some { manager := { m with lifecycleMu := some i }, pc := pc } else none

/-- A section under `mu`. -/
def locked (move : CallMove) : Option CallMove := if m.mu = none then some move else none

/-- `CreateRoom`: the first read. -/
def getRoomTurn (roomID classID : String) (name ensure : Option String) (choice : CallChoice) : Option CallMove :=
  let absent : CallMove := { manager := m, pc := .insert (newRoom roomID classID name) ensure }
  match choice with
  | .proceed =>
    match getRoom m.rows roomID with
    | .ok existing =>
      some (if existing.roomID ≠ "" then { manager := m, pc := .registerExisting existing ensure } else absent)
    | .error _ => some absent
  | .fail => some absent
  | _ => none

/-- `CreateRoom`: the `INSERT`. -/
def insertTurn (room : Room) (ensure : Option String) (choice : CallChoice) : Option CallMove :=
  match choice with
  | .proceed =>
    match insertRoom m.rows room with
    | .ok rows => some {
      manager := { m with rows := rows }
      pc := .reread room.roomID ensure
      report := if (rowOf? m.rows room.roomID).isNone then .inserted room else .quiet }
    | .error err => some (m.finish i (some (.repository err)) .quiet)
  | .fail => some (m.finish i (some (.repository .database)) .quiet)
  | _ => none

/-- `CreateRoom`: the read after the `INSERT`. -/
def rereadTurn (roomID : String) (ensure : Option String) (choice : CallChoice) : Option CallMove :=
  match choice with
  | .proceed =>
    match getRoom m.rows roomID with
    | .ok saved => some { manager := m, pc := .registerNew saved ensure }
    | .error err => some (m.finish i (some (.repository err)) .quiet)
  | .fail => some (m.finish i (some (.repository .database)) .quiet)
  | _ => none

/-- `CreateRoom`: a room that exists is registered if the map has none. -/
def registerExistingTurn (room : Room) (ensure : Option String) : Option CallMove :=
  m.locked <|
    match m.rooms room.roomID with
    | none => {
      manager := m.register room, pc := .created room.roomID ensure, report := .registered m.states.length room }
    | some _ => { manager := m, pc := .created room.roomID ensure }

/-- `CreateRoom`: a room that did not exist is registered, whatever the map has. -/
def registerNewTurn (room : Room) (ensure : Option String) : Option CallMove :=
  m.locked {
    manager := (m.register room).copyRoom room
    pc := .created room.roomID ensure
    todo := [.created room, .emit m.nextCopy]
    report := .registered m.states.length room }

/-- `EnsureSessionRoom` after `CreateRoom`. -/
def ensuredTurn (sessionID courseID : String) : Option CallMove :=
  m.locked <|
    match m.registered? sessionID with
    | none => m.finish i none .quiet
    | some (p, state) =>
      let manager := if state.courseID = "" ∧ courseID ≠ "" then m.setState p { state with courseID := courseID } else m
      if state.cancel = none then { manager := manager, pc := .startRoom sessionID } else manager.finish i none .quiet

section
variable (roomID : String)

/-- `StartRoom` with both locks. -/
def startTurn : Option CallMove :=
  m.locked <|
    match m.registered? roomID with
    | none => m.finish i (some .roomNotFound) .quiet
    | some (p, state) =>
      if state.cancel ≠ none then m.finish i none (.alreadyStarted p)
      else
        let w := m.workers.length
        let room := startedRoom state.room
        { manager := { (m.setState p { state with cancel := some w, done := some w, room := room }).copyRoom room with
            workers := m.workers ++ [{ state := p }]
            mu := some (.call i) }
          pc := .unlocking
          todo := [.emit m.nextCopy]
          report := .started p w }

/-- `StopRoom` with both locks. -/
def stopTurn : Option CallMove :=
  m.locked <|
    match m.registered? roomID with
    | none => m.finish i (some .roomNotFound) .quiet
    | some (p, state) =>
      let room := stoppedRoom state.room
      { manager := { ((m.cancelOf state).setState p { state with cancel := none, room := room }).copyRoom room with
          mu := some (.call i) }
        pc := .unlocking
        todo := [.persist p room, .emit m.nextCopy]
        report := .stopped p }

/-- `DeleteRoom`: the `DELETE`. -/
def deleteRowTurn (choice : CallChoice) : Option CallMove :=
  match choice with
  | .proceed =>
    match deleteRoom m.rows roomID with
    | .ok rows => some { manager := { m with rows := rows }, pc := .unregister roomID, report := .rowDeleted roomID }
    | .error err => some (m.finish i (some (.repository err)) .quiet)
  | .fail => some (m.finish i (some (.repository .database)) .quiet)
  | _ => none

/-- `DeleteRoom`: the section under `mu`. -/
def unregisterTurn : Option CallMove :=
  m.locked <|
    match m.registered? roomID with
    | none => { manager := m, pc := .deleted, todo := [.forget roomID, .deleted roomID] }
    | some (p, state) => {
      manager := { m.cancelOf state with rooms := Function.update m.rooms roomID none }
      pc := .deleted
      todo := [.forget roomID, .deleted roomID]
      report := .deleted p }

end

def registeredPointers : List Nat :=
  (List.range m.states.length).filter fun p => (m.states[p]?.bind fun state => m.rooms state.room.roomID) = some p

/-- `StopAllActiveRooms`: one room of the loop. -/
def sweepTurn (visited : List Nat) (stopped : List StoppedRoom) (p : Nat) (state : RoomState) : CallMove :=
  let halted := { state with cancel := none }
  match state.cancel, state.stopPersistPending, state.room.transitionTo .stopped with
  | none, false, _ => { manager := m, pc := .sweeping (p :: visited) stopped }
  | none, true, _ => {
    manager := m.copyRoom state.room
    pc := .sweeping (p :: visited) (stopped ++ [⟨p, state.room, state.done, m.nextCopy⟩]) }
  | some w, _, .error err =>
    ((m.cancelWorker w).setState p halted).finish i (some (.stopRoom state.room.roomID err)) (.halted p)
  | some w, _, .ok room => {
    manager := ((m.cancelWorker w).setState p { halted with room := room, stopPersistPending := true }).copyRoom room
    pc := .sweeping (p :: visited) (stopped ++ [⟨p, room, state.done, m.nextCopy⟩])
    report := .halted p }

/-- `StopAllActiveRooms`: the loop over the rooms. -/
def sweepingTurn (visited : List Nat) (stopped : List StoppedRoom) (choice : CallChoice) : Option CallMove :=
  match choice with
  | .room p =>
    match m.states[p]? with
    | none => none
    | some state =>
      if p ∈ m.registeredPointers ∧ p ∉ visited then some (m.sweepTurn i visited stopped p state) else none
  | .proceed =>
    if ∀ p ∈ m.registeredPointers, p ∈ visited then
      some { manager := { m with mu := none }, pc := .stopping .persist stopped false }
    else none
  | _ => none

/-- An `UpdateRoom` of `StopAllActiveRooms`, and where it goes after it succeeded or failed. -/
def updateTurn (room : Room) (choice : CallChoice) (succeeded failed : CallPC) : Option CallMove :=
  match choice with
  | .proceed =>
    match updateRoom m.rows room with
    | .ok rows => some { manager := { m with rows := rows }, pc := succeeded, report := .updated room true }
    | .error _ => some { manager := m, pc := failed, report := .updated room false }
  | .fail => some { manager := m, pc := failed, report := .updated room false }
  | _ => none

/-- The channel `done` is closed. -/
def closed (done : Option Nat) : Bool :=
  match done with
  | none => true
  | some w => (m.workers[w]?.map fun worker => decide (worker.pc = .exited)).getD true

/-- `StopAllActiveRooms`: the loop over the stopped rooms. -/
def stoppingTurn (phase : StopPhase) (stopped : List StoppedRoom) (failed : Bool) (choice : CallChoice) :
    Option CallMove :=
  match stopped with
  | [] => some (m.finish i (if failed then some .stopAll else none) .quiet)
  | item :: rest =>
    match phase, choice with
    | .persist, choice =>
      m.updateTurn item.room choice (.stopping .waitDone stopped failed) (.stopping .waitDone stopped true)
    | .waitDone, .proceed =>
      if m.closed item.done then some { manager := m, pc := .stopping .waitPersist stopped failed } else none
    | .waitDone, .ctxDone => if item.done ≠ none then some (m.finish i (some .stopAll) .quiet) else none
    | .waitPersist, .proceed =>
      if ∀ write ∈ m.pending, write.state ≠ item.state then
        some { manager := m, pc := .stopping .reassert stopped failed }
      else none
    | .waitPersist, .ctxDone =>
      if ∀ write ∈ m.pending, write.state ≠ item.state then some (m.finish i (some .stopAll) .quiet) else none
    | .reassert, choice =>
      m.updateTurn item.room choice (.stopping .clear stopped failed) (.stopping .emit stopped true)
    | .clear, .proceed =>
      m.locked {
        manager := { m with states := m.states.modify item.state fun state => { state with stopPersistPending := false } }
        pc := .stopping .emit stopped failed }
    | .emit, .proceed => some { manager := m, pc := .stopping .persist rest failed, todo := [.emit item.copy] }
    | _, _ => none

def callTurn (pc : CallPC) (choice : CallChoice) : Option CallMove :=
  match pc, choice with
  | .getRoom roomID classID name ensure, choice => m.getRoomTurn roomID classID name ensure choice
  | .insert room ensure, choice => m.insertTurn i room ensure choice
  | .reread roomID ensure, choice => m.rereadTurn i roomID ensure choice
  | .registerExisting room ensure, .proceed => m.registerExistingTurn room ensure
  | .registerNew room ensure, .proceed => m.registerNewTurn room ensure
  | .created _ none, .proceed => some (m.finish i none .quiet)
  | .created roomID (some courseID), .proceed => some { manager := m, pc := .ensured roomID courseID }
  | .ensured sessionID courseID, .proceed => m.ensuredTurn i sessionID courseID
  | .startRoom roomID, .proceed => m.lockLifecycle i (.startLocked roomID)
  | .startLocked roomID, .proceed => m.startTurn i roomID
  | .stopRoom roomID, .proceed => m.lockLifecycle i (.stopLocked roomID)
  | .stopLocked roomID, .proceed => m.stopTurn i roomID
  | .unlocking, .proceed => some (m.finish i none .quiet)
  | .deleteRoom roomID, .proceed => m.lockLifecycle i (.deleteRow roomID)
  | .deleteRow roomID, choice => m.deleteRowTurn i roomID choice
  | .unregister roomID, .proceed => m.unregisterTurn roomID
  | .deleted, .proceed => some (m.finish i none .quiet)
  | .stopAll, .proceed => m.lockLifecycle i .stopAllLocked
  | .stopAllLocked, .proceed => m.locked { manager := { m with mu := some (.call i) }, pc := .sweeping [] [] }
  | .sweeping visited stopped, choice => m.sweepingTurn i visited stopped choice
  | .stopping phase stopped failed, choice => m.stoppingTurn i phase stopped failed choice
  | _, _ => none

end Manager

/-! ## The machine -/

inductive Call where
  | createRoom (roomID classID : String) (name : Option String)
  | ensureSessionRoom (sessionID courseID : String)
  | startRoom (roomID : String)
  | stopRoom (roomID : String)
  | deleteRoom (roomID : String)
  | stopAllActiveRooms
deriving DecidableEq, Repr

def Call.entry : Call → CallPC
  | .createRoom roomID classID name => .getRoom roomID classID name none
  | .ensureSessionRoom sessionID courseID =>
    if sessionID = "" then .returned (some .sessionIDRequired) else .getRoom sessionID sessionID none (some courseID)
  | .startRoom roomID => .startRoom roomID
  | .stopRoom roomID => .stopRoom roomID
  | .deleteRoom roomID => .deleteRoom roomID
  | .stopAllActiveRooms => .stopAll

inductive RoomOp where
  | invoke (call : Call)
  | call (i : Nat) (choice : Manager.CallChoice)
  | callTask (i : Nat) (now : Time)
  | worker (w : Nat) (choice : Choice)
  | workerTask (w : Nat) (now : Time)
  /-- the `UpdateRoom` of a goroutine of `persistRoomUpdate` -/
  | persisted (k : Nat) (ok : Bool)
deriving DecidableEq, Repr

namespace Manager
variable (m : Manager)

def runTask (now : Time) : List Task → Option (Manager × List Task × Report)
  | [] => none
  | .persist p room :: rest => some ({ m with pending := m.pending ++ [⟨p, room⟩] }, rest, .issued room)
  | .emit k :: rest =>
    let emission := (m.emission.exec (.step k now)).1
    some ({ m with emission := emission }, if emission.returned k then rest else .emit k :: rest, .quiet)
  | .created room :: rest => some ({ m with emission := (m.emission.exec (.created room)).1 }, rest, .quiet)
  | .forget roomID :: rest => some ({ m with emission := m.emission.forget roomID }, rest, .quiet)
  | .deleted roomID :: rest => some ({ m with emission := m.emission.publish (.roomDeleted roomID) }, rest, .quiet)

/-- What a goroutine has to do after a section of a worker. -/
def sectionTasks (p : Nat) (room : Room) (lockSection : LockSection) : List Task :=
  (if lockSection.persists then [.persist p room] else []) ++ if lockSection.emits then [.emit m.nextCopy] else []

def write (w : Nat) (worker : Worker) (state : RoomState) (lockSection : LockSection) (pc : WorkerPC) : Manager :=
  let state := lockSection.apply state
  let m' := (m.setState worker.state state).setWorker w
    { worker with pc := pc, todo := m.sectionTasks worker.state state.room lockSection }
  if lockSection.emits then m'.copyRoom state.room else m'

/-- The end of `recoveryLoop`: a nil cancel function panics with `mu` held, and nobody releases it. -/
def giveUp (w : Nat) (worker : Worker) (state : RoomState) : Manager × Report :=
  let room := recoveryFailed state.room
  match state.cancel with
  | none =>
    ({ (m.setState worker.state { state with room := room }).setWorker w { worker with pc := .exited } with
        mu := some (.worker w) },
      .panicked w worker.state)
  | some c =>
    let m' := (m.setState worker.state { state with room := room, cancel := none }).setWorker w
      { worker with pc := .leaving, todo := [.persist worker.state room, .emit m.nextCopy] }
    ((m'.cancelWorker c).copyRoom room, .gaveUp w worker.state)

/-- A step of a worker whose tasks are done. -/
def workerTurn (client : Bool) (w : Nat) (worker : Worker) (state : RoomState) (choice : Choice) :
    Option (Manager × Report) :=
  match worker.turn client state choice with
  | none => none
  | some (.go pc) => some (m.setWorker w { worker with pc := pc }, if pc = .exited then .exited w else .quiet)
  | some (.look pc) => if m.mu = none then some (m.setWorker w { worker with pc := pc }, .quiet) else none
  | some (.write lockSection pc) =>
    if m.mu = none then some (m.write w worker state lockSection pc, .wrote w worker.state lockSection) else none
  | some .giveUp => if m.mu = none then some (m.giveUp w worker state) else none

/-- The `UpdateRoom` of a goroutine of `persistRoomUpdate`, whose error is only logged. -/
def persisted (k : Nat) (ok : Bool) : Option (Manager × Report) :=
  match m.pending[k]? with
  | none => none
  | some write =>
    let m' := { m with pending := m.pending.eraseIdx k }
    match ok, updateRoom m.rows write.room with
    | true, .ok rows => some ({ m' with rows := rows }, .updated write.room true)
    | _, _ => some (m', .updated write.room false)

def step (client : Bool) : RoomOp → Option (Manager × Report)
  | .invoke call => some ({ m with calls := m.calls ++ [{ pc := call.entry }] }, .quiet)
  | .call i choice =>
    match m.calls[i]? with
    | some ⟨pc, []⟩ =>
      (m.callTurn i pc choice).map fun move =>
        ({ move.manager with calls := move.manager.calls.set i ⟨move.pc, move.todo⟩ }, move.report)
    | _ => none
  | .callTask i now =>
    match m.calls[i]? with
    | some ⟨pc, todo⟩ =>
      (m.runTask now todo).map fun (m', todo, report) => ({ m' with calls := m'.calls.set i ⟨pc, todo⟩ }, report)
    | none => none
  | .worker w choice =>
    match m.workers[w]? with
    | some worker =>
      match m.states[worker.state]?, worker.todo with
      | some state, [] => m.workerTurn client w worker state choice
      | _, _ => none
    | none => none
  | .workerTask w now =>
    match m.workers[w]? with
    | some worker =>
      (m.runTask now worker.todo).map fun (m', todo, report) =>
        (m'.setWorker w { worker with todo := todo }, report)
    | none => none
  | .persisted k ok => m.persisted k ok

def exec (client : Bool) (op : RoomOp) : Manager × Report := (m.step client op).getD (m, .blocked)

end Manager

/-! ## Calls from their start to their return -/

def createRoomOps (i : Nat) (roomID classID : String) : List RoomOp :=
  .invoke (.createRoom roomID classID none) :: List.replicate 4 (.call i .proceed) ++ List.replicate 4 (.callTask i 0) ++
    [.call i .proceed]

def startRoomOps (i : Nat) (roomID : String) : List RoomOp :=
  .invoke (.startRoom roomID) :: List.replicate 2 (.call i .proceed) ++ List.replicate 3 (.callTask i 0) ++ [.call i .proceed]

def stopRoomOps (i : Nat) (roomID : String) : List RoomOp :=
  .invoke (.stopRoom roomID) :: List.replicate 2 (.call i .proceed) ++ List.replicate 4 (.callTask i 0) ++ [.call i .proceed]

def fetchOps (w : Nat) : List RoomOp :=
  [.worker w .proceed, .worker w (.clock 0), .worker w .proceed] ++ List.replicate 3 (.workerTask w 0)

end QrCommandCenter.Rooms
