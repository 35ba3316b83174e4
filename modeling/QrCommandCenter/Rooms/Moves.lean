import QrCommandCenter.Lib.Heap
import QrCommandCenter.Rooms.Manager

/-!
# What a step can be

Every step of the manager, with what was checked before it. What a step does to the locks, to the rooms and to the table is
read off from here.

* `CallTurn`, `callTurn_cases` : the steps of the callers;
* `act`, `Acts` : the steps of the workers;
* `Stepped`, `exec_cases` : the steps of the machine.
-/

namespace QrCommandCenter.Rooms
open Domain Transition Table

/-! ## Reports and program counters -/

/-- The steps that leave the registry alone. -/
def Report.idle : Report → Bool
  | .blocked | .quiet | .issued _ | .updated _ _ | .inserted _ | .rowDeleted _ => true
  | _ => false

/-- What the statement that a report tells of does to the table. -/
def Report.Writes (rows rows' : List RoomRow) : Report → Prop
  | .updated room true => updateRoom rows room = .ok rows'
  | .inserted room => rowOf? rows room.roomID = none ∧ insertRoom rows room = .ok rows'
  | .rowDeleted roomID => deleteRoom rows roomID = .ok rows'
  | _ => rows' = rows

def Report.ofWorker : Report → Option Nat
  | .wrote w _ _ | .gaveUp w _ | .panicked w _ | .exited w => some w
  | _ => none

/-- Where a caller was before a step with a report. -/
def CallOrigin (m : Manager) (pc : CallPC) (choice : Manager.CallChoice) : Report → Prop
  | .registered _ room => choice = .proceed ∧ m.mu = none ∧
    ((∃ ensure, pc = .registerNew room ensure) ∨ (∃ ensure, pc = .registerExisting room ensure) ∧ m.rooms room.roomID = none)
  | .halted p => choice = .room p ∧ p ∈ m.registeredPointers ∧ ∃ visited stopped, pc = .sweeping visited stopped ∧ p ∉ visited
  | .wrote _ _ _ | .gaveUp _ _ | .panicked _ _ | .exited _ | .issued _ => False
  | _ => True

/-- The events after a step: those before it, or those after a step of `Emission.exec`. -/
def Emission.Moves (e e' : Emission) : Prop := e' = e ∨ ∃ op, e' = (e.exec op).1

def CallPC.registers : CallPC → Option Room
  | .registerNew room _ | .registerExisting room _ => some room
  | _ => none

def CallPC.holdsLifecycle : CallPC → Bool
  | .startLocked _ | .stopLocked _ | .unlocking | .deleteRow _ | .unregister _ | .deleted | .stopAllLocked
  | .sweeping _ _ | .stopping _ _ _ => true
  | _ => false

def CallPC.holdsMu : CallPC → Bool
  | .unlocking | .sweeping _ _ => true
  | _ => false

theorem insertRoom_writes {rows rows' : List RoomRow} {room : Room} (h : insertRoom rows room = .ok rows') :
    (if (rowOf? rows room.roomID).isNone then Report.inserted room else .quiet).Writes rows rows' := by
  cases hrow : rowOf? rows room.roomID with
  | none => exact ⟨hrow, h⟩
  | some old =>
    obtain ⟨row, -, h⟩ := bind_eq_ok.mp h
    rw [hrow] at h
    exact (Except.ok.inj h).symm

namespace Manager

/-! ## Callers -/

/-- The steps of caller `i`. -/
inductive CallTurn (m : Manager) (i : Nat) : CallPC → CallChoice → CallMove → Prop where
  | finish {pc : CallPC} {choice : CallChoice} (err : Option CallError) : CallTurn m i pc choice (m.finish i err .quiet)
  /-- at most a statement is executed or a room copied, and the locks stay -/
  | go {pc pc' : CallPC} {choice : CallChoice} {rows : List RoomRow} {emission : Emission} {todo : List Task}
      {report : Report} (hidle : report.idle = true) (horigin : CallOrigin m pc choice report)
      (hrows : report.Writes m.rows rows) (hemission : m.emission.Moves emission)
      (hreads : ∀ room, pc'.registers = some room → ∃ roomID, getRoom m.rows roomID = .ok room)
      (hlifecycle : pc'.holdsLifecycle = pc.holdsLifecycle) (hmu : pc'.holdsMu = pc.holdsMu) :
      CallTurn m i pc choice ⟨{ m with rows := rows, emission := emission }, pc', todo, report⟩
  | registerExisting {room : Room} {ensure : Option String} (hmu : m.mu = none) (hrooms : m.rooms room.roomID = none) :
      CallTurn m i (.registerExisting room ensure) .proceed
        ⟨m.register room, .created room.roomID ensure, [], .registered m.states.length room⟩
  | registerNew {room : Room} {ensure : Option String} (hmu : m.mu = none) :
      CallTurn m i (.registerNew room ensure) .proceed ⟨(m.register room).copyRoom room, .created room.roomID ensure,
        [.created room, .emit m.nextCopy], .registered m.states.length room⟩
  /-- `EnsureSessionRoom` notes the course -/
  | course {sessionID courseID : String} {p : Nat} {state : RoomState} (hstate : m.states[p]? = some state) :
      CallTurn m i (.ensured sessionID courseID) .proceed
        ⟨m.setState p { state with courseID := courseID }, .startRoom sessionID, [], .quiet⟩
  | courseOnly {sessionID courseID : String} {p : Nat} {state : RoomState} (hstate : m.states[p]? = some state) :
      CallTurn m i (.ensured sessionID courseID) .proceed
        ((m.setState p { state with courseID := courseID }).finish i none .quiet)
  | lockLifecycle {pc pc' : CallPC} (hreads : pc'.registers = none) (hlifecycle : pc'.holdsLifecycle = true)
      (hmu : pc'.holdsMu = pc.holdsMu) :
      CallTurn m i pc .proceed ⟨{ m with lifecycleMu := some i }, pc', [], .quiet⟩
  | alreadyStarted {pc : CallPC} {roomID : String} {p : Nat} {state : RoomState} (hreg : m.rooms roomID = some p)
      (hstate : m.states[p]? = some state) (hcancel : state.cancel ≠ none) :
      CallTurn m i pc .proceed (m.finish i none (.alreadyStarted p))
  | start {roomID : String} {p : Nat} {state : RoomState} (hreg : m.rooms roomID = some p)
      (hstate : m.states[p]? = some state) (hcancel : state.cancel = none) :
      CallTurn m i (.startLocked roomID) .proceed
        ⟨{ (m.setState p { state with
              cancel := some m.workers.length, done := some m.workers.length, room := startedRoom state.room }).copyRoom
              (startedRoom state.room) with workers := m.workers ++ [{ state := p }], mu := some (.call i) },
          .unlocking, [.emit m.nextCopy], .started p m.workers.length⟩
  | stop {roomID : String} {p : Nat} {state : RoomState} (hreg : m.rooms roomID = some p)
      (hstate : m.states[p]? = some state) :
      CallTurn m i (.stopLocked roomID) .proceed
        ⟨{ ((m.cancelOf state).setState p { state with cancel := none, room := stoppedRoom state.room }).copyRoom
              (stoppedRoom state.room) with mu := some (.call i) },
          .unlocking, [.persist p (stoppedRoom state.room), .emit m.nextCopy], .stopped p⟩
  | delete {roomID : String} {p : Nat} {state : RoomState} (hreg : m.rooms roomID = some p)
      (hstate : m.states[p]? = some state) :
      CallTurn m i (.unregister roomID) .proceed
        ⟨{ m.cancelOf state with rooms := Function.update m.rooms roomID none }, .deleted,
          [.forget roomID, .deleted roomID], .deleted p⟩
  | lockMu : CallTurn m i .stopAllLocked .proceed ⟨{ m with mu := some (.call i) }, .sweeping [] [], [], .quiet⟩
  /-- one active room of `StopAllActiveRooms`; a room that cannot be stopped ends the loop -/
  | haltFailed {visited : List Nat} {stopped : List StoppedRoom} {p w : Nat} {state : RoomState} {err : TransitionError}
      (hp : p ∈ m.registeredPointers ∧ p ∉ visited) (hstate : m.states[p]? = some state) (hcancel : state.cancel = some w)
      (hroom : state.room.transitionTo .stopped = .error err) :
      CallTurn m i (.sweeping visited stopped) (.room p) (((m.cancelWorker w).setState p { state with cancel := none }).finish
        i (some (.stopRoom state.room.roomID err)) (.halted p))
  | halt {visited : List Nat} {stopped : List StoppedRoom} {p w : Nat} {state : RoomState} {room : Room}
      (hp : p ∈ m.registeredPointers ∧ p ∉ visited) (hstate : m.states[p]? = some state) (hcancel : state.cancel = some w)
      (hroom : state.room.transitionTo .stopped = .ok room) :
      CallTurn m i (.sweeping visited stopped) (.room p)
        ⟨((m.cancelWorker w).setState p { state with
            cancel := none, room := room, stopPersistPending := true }).copyRoom room,
          .sweeping (p :: visited) (stopped ++ [⟨p, room, state.done, m.nextCopy⟩]), [], .halted p⟩
  | unlockMu {visited : List Nat} {stopped : List StoppedRoom} :
      CallTurn m i (.sweeping visited stopped) .proceed ⟨{ m with mu := none }, .stopping .persist stopped false, [], .quiet⟩
  | clear {phase : StopPhase} {stopped : List StoppedRoom} {failed : Bool} (p : Nat) :
      CallTurn m i (.stopping phase stopped failed) .proceed
        ⟨{ m with states := m.states.modify p fun state => { state with stopPersistPending := false } },
          .stopping .emit stopped failed, [], .quiet⟩

section Calls
variable {m : Manager} {i : Nat} {pc pc' : CallPC} {choice : CallChoice} {move : CallMove}
  {roomID : String} {p : Nat} {state : RoomState} {room : Room} {ensure : Option String}

variable {stopped : List StoppedRoom} {phase : StopPhase} {failed : Bool}

theorem of_locked {move' : CallMove} (h : m.locked move' = some move) : move' = move :=
  Option.some.inj (Option.ite_none_right_eq_some.mp h).2

theorem registered?_of (hreg : m.rooms roomID = some p) (hstate : m.states[p]? = some state) :
    m.registered? roomID = some (p, state) := by
  simp [registered?, hreg, hstate]

theorem registered?_eq_some (h : m.registered? roomID = some (p, state)) :
    m.rooms roomID = some p ∧ m.states[p]? = some state := by
  unfold registered? at h
  split at h
  · cases h
  · next hrooms =>
    obtain ⟨state', hstate, heq⟩ := Option.map_eq_some_iff.mp h
    cases heq
    exact ⟨hrooms, hstate⟩

theorem CallTurn.quiet {todo : List Task} (hreads : pc'.registers = none)
    (hlifecycle : pc'.holdsLifecycle = pc.holdsLifecycle) (hmu : pc'.holdsMu = pc.holdsMu) :
    m.CallTurn i pc choice ⟨m, pc', todo, .quiet⟩ :=
  .go rfl trivial rfl (.inl rfl) (fun room h => by simp [hreads] at h) hlifecycle hmu

theorem getRoomTurn_cases {classID : String} {name : Option String}
    (h : m.getRoomTurn roomID classID name ensure choice = some move) :
    m.CallTurn i (.getRoom roomID classID name ensure) choice move := by
  unfold getRoomTurn at h
  split at h
  · split at h
    · next existing hget =>
      cases h
      split
      · refine .go rfl trivial rfl (.inl rfl) (fun room h => ?_) rfl rfl
        cases h
        exact ⟨roomID, hget⟩
      · exact .quiet rfl rfl rfl
    · cases h
      exact .quiet rfl rfl rfl
  · cases h
    exact .quiet rfl rfl rfl
  · cases h

theorem insertTurn_cases (h : m.insertTurn i room ensure choice = some move) :
    m.CallTurn i (.insert room ensure) choice move := by
  unfold insertTurn at h
  split at h
  · split at h
    · next rows hinsert =>
      cases h
      refine .go ?_ ?_ (insertRoom_writes hinsert) (.inl rfl) (fun room h => by cases h) rfl rfl
      · split <;> rfl
      · split <;> trivial
    · cases h
      exact .finish _
  · cases h
    exact .finish _
  · cases h

theorem rereadTurn_cases (h : m.rereadTurn i roomID ensure choice = some move) :
    m.CallTurn i (.reread roomID ensure) choice move := by
  unfold rereadTurn at h
  split at h
  · split at h
    · next saved hget =>
      cases h
      refine .go rfl trivial rfl (.inl rfl) (fun room h => ?_) rfl rfl
      cases h
      exact ⟨roomID, hget⟩
    · cases h
      exact .finish _
  · cases h
    exact .finish _
  · cases h

theorem deleteRowTurn_cases (h : m.deleteRowTurn i roomID choice = some move) :
    m.CallTurn i (.deleteRow roomID) choice move := by
  unfold deleteRowTurn at h
  split at h
  · split at h
    · next hdelete =>
      cases h
      exact .go rfl trivial hdelete (.inl rfl) (fun room h => by cases h) rfl rfl
    · cases h
      exact .finish _
  · cases h
    exact .finish _
  · cases h

theorem ensuredTurn_cases {sessionID courseID : String} (h : m.ensuredTurn i sessionID courseID = some move) :
    m.CallTurn i (.ensured sessionID courseID) .proceed move := by
  rw [← of_locked h]
  split
  · exact .finish _
  · next p state hregistered =>
    have hstate := (registered?_eq_some hregistered).2
    split <;> split
    · exact .course hstate
    · exact .courseOnly hstate
    · exact .quiet rfl rfl rfl
    · exact .finish _

theorem startTurn_cases (h : m.startTurn i roomID = some move) : m.CallTurn i (.startLocked roomID) .proceed move := by
  rw [← of_locked h]
  split
  · exact .finish _
  · next p state hregistered =>
    obtain ⟨hreg, hstate⟩ := registered?_eq_some hregistered
    split
    · next hcancel => exact .alreadyStarted hreg hstate hcancel
    · next hcancel => exact .start hreg hstate (not_not.mp hcancel)

theorem stopTurn_cases (h : m.stopTurn i roomID = some move) : m.CallTurn i (.stopLocked roomID) .proceed move := by
  rw [← of_locked h]
  split
  · exact .finish _
  · next p state hregistered =>
    obtain ⟨hreg, hstate⟩ := registered?_eq_some hregistered
    exact .stop hreg hstate

theorem unregisterTurn_cases (h : m.unregisterTurn roomID = some move) :
    m.CallTurn i (.unregister roomID) .proceed move := by
  rw [← of_locked h]
  split
  · exact .quiet rfl rfl rfl
  · next p state hregistered =>
    obtain ⟨hreg, hstate⟩ := registered?_eq_some hregistered
    exact .delete hreg hstate

theorem sweepingTurn_cases {visited : List Nat}
    (h : m.sweepingTurn i visited stopped choice = some move) : m.CallTurn i (.sweeping visited stopped) choice move := by
  unfold sweepingTurn at h
  split at h
  · split at h
    · cases h
    · next state hstate =>
      obtain ⟨hp, heq⟩ := Option.ite_none_right_eq_some.mp h
      cases heq
      unfold sweepTurn
      split
      · exact .quiet rfl rfl rfl
      · exact .go rfl trivial rfl (.inr ⟨_, rfl⟩) (fun room h => by cases h) rfl rfl
      · next hcancel herr => exact .haltFailed hp hstate hcancel herr
      · next hcancel hroom => exact @CallTurn.halt m i visited stopped _ _ state _ hp hstate hcancel hroom
  · obtain ⟨-, heq⟩ := Option.ite_none_right_eq_some.mp h
    cases heq
    exact .unlockMu
  · cases h

theorem updateTurn_cases {phase₁ phase₂ : StopPhase} {failed₁ failed₂ : Bool}
    (h : m.updateTurn room choice (.stopping phase₁ stopped failed₁) (.stopping phase₂ stopped failed₂) = some move) :
    m.CallTurn i (.stopping phase stopped failed) choice move := by
  unfold updateTurn at h
  split at h
  · split at h
    · next hupdate =>
      cases h
      exact .go rfl trivial hupdate (.inl rfl) (fun room h => by cases h) rfl rfl
    · cases h
      exact .go rfl trivial rfl (.inl rfl) (fun room h => by cases h) rfl rfl
  · cases h
    exact .go rfl trivial rfl (.inl rfl) (fun room h => by cases h) rfl rfl
  · cases h

theorem stoppingTurn_cases (h : m.stoppingTurn i phase stopped failed choice = some move) :
    m.CallTurn i (.stopping phase stopped failed) choice move := by
  unfold stoppingTurn at h
  split at h
  · cases h
    exact .finish _
  · split at h
    · exact updateTurn_cases h
    · obtain ⟨-, heq⟩ := Option.ite_none_right_eq_some.mp h
      cases heq
      exact .quiet rfl rfl rfl
    · obtain ⟨-, heq⟩ := Option.ite_none_right_eq_some.mp h
      cases heq
      exact .finish _
    · obtain ⟨-, heq⟩ := Option.ite_none_right_eq_some.mp h
      cases heq
      exact .quiet rfl rfl rfl
    · obtain ⟨-, heq⟩ := Option.ite_none_right_eq_some.mp h
      cases heq
      exact .finish _
    · exact updateTurn_cases h
    · rw [← of_locked h]
      exact .clear _
    · cases h
      exact .quiet rfl rfl rfl
    · cases h

/-- **Every step of a caller is one of `CallTurn`.** -/
theorem callTurn_cases (h : m.callTurn i pc choice = some move) : m.CallTurn i pc choice move := by
  have hlock : ∀ {pc pc' : CallPC}, m.lockLifecycle i pc' = some move → pc'.registers = none →
      pc'.holdsLifecycle = true → pc'.holdsMu = pc.holdsMu → m.CallTurn i pc .proceed move := by
    intro pc pc' h hreads hlifecycle hmu
    obtain ⟨-, heq⟩ := Option.ite_none_right_eq_some.mp h
    cases heq
    exact .lockLifecycle hreads hlifecycle hmu
  unfold callTurn at h
  split at h
  · exact getRoomTurn_cases h
  · exact insertTurn_cases h
  · exact rereadTurn_cases h
  · obtain ⟨hmu, heq⟩ := Option.ite_none_right_eq_some.mp h
    cases heq
    split
    · next hrooms => exact .registerExisting hmu hrooms
    · exact .quiet rfl rfl rfl
  · obtain ⟨hmu, heq⟩ := Option.ite_none_right_eq_some.mp h
    cases heq
    exact .registerNew hmu
  · cases h
    exact .finish _
  · cases h
    exact .quiet rfl rfl rfl
  · exact ensuredTurn_cases h
  · exact hlock h rfl rfl rfl
  · exact startTurn_cases h
  · exact hlock h rfl rfl rfl
  · exact stopTurn_cases h
  · cases h
    exact .finish _
  · exact hlock h rfl rfl rfl
  · exact deleteRowTurn_cases h
  · exact unregisterTurn_cases h
  · cases h
    exact .finish _
  · exact hlock h rfl rfl rfl
  · rw [← of_locked h]
    exact .lockMu
  · exact sweepingTurn_cases h
  · exact stoppingTurn_cases h
  · cases h

end Calls

end Manager

/-! ## Workers -/

def Turn.lockFree : Turn → Bool
  | .go _ => true
  | _ => false

namespace Manager

/-- The step of a worker that `Worker.turn` names. -/
def act (m : Manager) (w : Nat) (worker : Worker) (state : RoomState) : Turn → Manager × Report
  | .go pc => (m.setWorker w { worker with pc := pc }, if pc = .exited then .exited w else .quiet)
  | .look pc => (m.setWorker w { worker with pc := pc }, .quiet)
  | .write lockSection pc => (m.write w worker state lockSection pc, .wrote w worker.state lockSection)
  | .giveUp => m.giveUp w worker state

/-- Worker `w` can take the step `turn`. -/
structure Acts (m : Manager) (client : Bool) (w : Nat) (choice : Choice) (worker : Worker) (state : RoomState) (turn : Turn) :
    Prop where
  runs : m.workers[w]? = some worker
  idle : worker.todo = []
  room : m.states[worker.state]? = some state
  next : worker.turn client state choice = some turn
  enters : turn.lockFree = true ∨ m.mu = none

section Workers
variable {m : Manager} {client : Bool} {w : Nat} {choice : Choice} {worker : Worker} {state : RoomState}

theorem workerTurn_eq_some {result : Manager × Report} :
    m.workerTurn client w worker state choice = some result ↔
      ∃ turn, worker.turn client state choice = some turn ∧ (turn.lockFree = true ∨ m.mu = none) ∧
        m.act w worker state turn = result := by
  unfold workerTurn
  cases worker.turn client state choice with
  | none => simp
  | some turn => cases turn <;> simp [Turn.lockFree, act]

theorem Acts.exec {turn : Turn} (h : m.Acts client w choice worker state turn) :
    m.exec client (.worker w choice) = m.act w worker state turn := by
  have hstep : m.step client (.worker w choice) = m.workerTurn client w worker state choice := by
    simp only [step, h.runs, h.room, h.idle]
  rw [Manager.exec, hstep, workerTurn_eq_some.mpr ⟨turn, h.next, h.enters, rfl⟩]
  rfl

end Workers

/-! ## The machine -/

/-- The steps of the machine, with their reports. -/
inductive Stepped (m : Manager) (client : Bool) : RoomOp → Manager → Report → Prop where
  | blocked {op : RoomOp} : Stepped m client op m .blocked
  | invoked (call : Call) : Stepped m client (.invoke call) { m with calls := m.calls ++ [{ pc := call.entry }] } .quiet
  | called {i : Nat} {choice : CallChoice} {pc : CallPC} {move : CallMove} (hcall : m.calls[i]? = some ⟨pc, []⟩)
      (hmove : m.callTurn i pc choice = some move) :
      Stepped m client (.call i choice) { move.manager with calls := move.manager.calls.set i ⟨move.pc, move.todo⟩ }
        move.report
  | callTask {i : Nat} {now : Time} {pc : CallPC} {todo todo' : List Task} {m' : Manager} {report : Report}
      (hcall : m.calls[i]? = some ⟨pc, todo⟩) (htask : m.runTask now todo = some (m', todo', report)) :
      Stepped m client (.callTask i now) { m' with calls := m'.calls.set i ⟨pc, todo'⟩ } report
  | acted {w : Nat} {choice : Choice} {worker : Worker} {state : RoomState} {turn : Turn}
      (hacts : m.Acts client w choice worker state turn) :
      Stepped m client (.worker w choice) (m.act w worker state turn).1 (m.act w worker state turn).2
  | workerTask {w : Nat} {now : Time} {worker : Worker} {todo' : List Task} {m' : Manager} {report : Report}
      (hworker : m.workers[w]? = some worker) (htask : m.runTask now worker.todo = some (m', todo', report)) :
      Stepped m client (.workerTask w now) (m'.setWorker w { worker with todo := todo' }) report
  | persisted {k : Nat} {ok saved : Bool} {write : Write} {rows : List RoomRow} (hwrite : m.pending[k]? = some write)
      (hrows : (Report.updated write.room saved).Writes m.rows rows) :
      Stepped m client (.persisted k ok) { m with pending := m.pending.eraseIdx k, rows := rows } (.updated write.room saved)

/-- **Every step of the machine is one of `Stepped`.** -/
theorem exec_cases (m : Manager) (client : Bool) (op : RoomOp) :
    m.Stepped client op (m.exec client op).1 (m.exec client op).2 := by
  unfold exec
  cases hstep : m.step client op with
  | none => exact .blocked
  | some result =>
    rw [Option.getD_some]
    cases op with
    | invoke call =>
      cases hstep
      exact .invoked call
    | call i choice =>
      simp only [step] at hstep
      split at hstep
      · next pc hcall =>
        obtain ⟨move, hmove, rfl⟩ := Option.map_eq_some_iff.mp hstep
        exact .called hcall hmove
      · cases hstep
    | callTask i now =>
      simp only [step] at hstep
      split at hstep
      · next pc todo hcall =>
        obtain ⟨⟨m', todo', report⟩, htask, rfl⟩ := Option.map_eq_some_iff.mp hstep
        exact .callTask hcall htask
      · cases hstep
    | worker w choice =>
      simp only [step] at hstep
      split at hstep
      · next worker hworker =>
        split at hstep
        · next state hstate htodo =>
          obtain ⟨turn, hturn, henters, rfl⟩ := workerTurn_eq_some.mp hstep
          exact .acted ⟨hworker, htodo, hstate, hturn, henters⟩
        · cases hstep
      · cases hstep
    | workerTask w now =>
      simp only [step] at hstep
      split at hstep
      · next worker hworker =>
        obtain ⟨⟨m', todo', report⟩, htask, rfl⟩ := Option.map_eq_some_iff.mp hstep
        exact .workerTask hworker htask
      · cases hstep
    | persisted k ok =>
      simp only [step, Manager.persisted] at hstep
      split at hstep
      · cases hstep
      · next write hwrite =>
        split at hstep
        · next hupdate =>
          cases hstep
          exact .persisted hwrite hupdate
        · cases hstep
          exact .persisted hwrite rfl

theorem runTask_frame {m m' : Manager} {now : Time} {todo todo' : List Task} {report : Report}
    (h : m.runTask now todo = some (m', todo', report)) :
    (∃ pending emission, m' = { m with pending := pending, emission := emission }) ∧ report.idle = true := by
  cases todo with
  | nil => cases h
  | cons task rest =>
    cases task with
    | _ =>
      cases h
      exact ⟨⟨_, _, rfl⟩, rfl⟩

theorem cancelOf_frame (m : Manager) (state : RoomState) : ∃ workers, m.cancelOf state = { m with workers := workers } := by
  unfold cancelOf
  split
  · exact ⟨m.workers, rfl⟩
  · exact ⟨_, rfl⟩

end Manager

end QrCommandCenter.Rooms
