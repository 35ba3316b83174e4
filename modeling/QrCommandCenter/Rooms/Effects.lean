import QrCommandCenter.Rooms.Registry

/-!
# What a step does, and where it comes from

The other side of `exec_registryStep`: from the report of a step, the goroutine that took it and where it was, and what the
step did to the table and to the events.

* `CallOrigin`, `callTurn_effect` : the steps of the callers;
* `act`, `Acts`, `GivesUp` : the steps of the workers;
* `exec_origin`, `exec_wrote`, `exec_exited`, `exec_givesUp`, `exec_registered`, `exec_halted` : where a report comes from;
* `Effect`, `exec_effect` : what a step does.
-/

namespace QrCommandCenter.Rooms
open Domain Transition Table

variable {i : Nat} {pc : CallPC} {m : Manager} {choice : CallChoice} {move : CallMove}

/-! ## Callers -/

structure CallEffect (m : Manager) (pc : CallPC) (choice : Manager.CallChoice) (move : Manager.CallMove) : Prop where
  origin : CallOrigin m pc choice move.report
  rows : move.report.Writes m.rows move.manager.rows
  calls : move.manager.calls = m.calls
  emission : m.emission.Moves move.manager.emission
  /-- A room that is about to be registered was read from the table. -/
  reads : ∀ room, move.pc.registers = some room → ∃ roomID, getRoom m.rows roomID = .ok room

namespace Manager

/-- **The effect of a step of a caller.** -/
theorem callTurn_effect (h : m.callTurn i pc choice = some move) : CallEffect m pc choice move := by
  have hnone : ∀ {pc' : CallPC}, pc'.registers = none →
      ∀ room, pc'.registers = some room → ∃ roomID, getRoom m.rows roomID = .ok room := by
    intro pc' hpc room hroom
    simp [hpc] at hroom
  cases callTurn_cases h with
  | finish | course | courseOnly | alreadyStarted | lockMu | unlockMu | clear =>
    exact ⟨trivial, rfl, rfl, .inl rfl, hnone rfl⟩
  | go hidle horigin hrows hemission hreads => exact ⟨horigin, hrows, rfl, hemission, hreads⟩
  | registerExisting hmu hrooms =>
    exact ⟨⟨rfl, hmu, .inr ⟨⟨_, rfl⟩, hrooms⟩⟩, rfl, rfl, .inl rfl, hnone rfl⟩
  | registerNew hmu => exact ⟨⟨rfl, hmu, .inl ⟨_, rfl⟩⟩, rfl, rfl, .inr ⟨_, rfl⟩, hnone rfl⟩
  | lockLifecycle hreads => exact ⟨trivial, rfl, rfl, .inl rfl, hnone hreads⟩
  | start => exact ⟨trivial, rfl, rfl, .inr ⟨_, rfl⟩, hnone rfl⟩
  | @stop _ p state hreg hstate =>
    obtain ⟨workers, hcancel⟩ := cancelOf_frame m state
    rw [hcancel]
    exact ⟨trivial, rfl, rfl, .inr ⟨_, rfl⟩, hnone rfl⟩
  | @delete _ p state hreg hstate =>
    obtain ⟨workers, hcancel⟩ := cancelOf_frame m state
    rw [hcancel]
    exact ⟨trivial, rfl, rfl, .inl rfl, hnone rfl⟩
  | haltFailed hp => exact ⟨⟨rfl, hp.1, _, _, rfl, hp.2⟩, rfl, rfl, .inl rfl, hnone rfl⟩
  | halt hp => exact ⟨⟨rfl, hp.1, _, _, rfl, hp.2⟩, rfl, rfl, .inr ⟨_, rfl⟩, hnone rfl⟩

end Manager

/-! ## Workers -/

theorem CallOrigin.ofWorker {choice : Manager.CallChoice} {report : Report}
    (h : CallOrigin m pc choice report) : report.ofWorker = none := by
  cases report <;> first | rfl | cases h

theorem Report.ofWorker_of_idle {report : Report} (h : report.idle = true) : report.ofWorker = none := by
  cases report <;> first | rfl | cases h

namespace Manager

variable {p : Nat}

section Workers
variable {m : Manager}
variable {client : Bool} {w : Nat} {worker : Worker} {state : RoomState} {choice : Choice} {op : RoomOp}

variable {lockSection : LockSection}

theorem Acts.exec_write {pc : WorkerPC} (h : m.Acts client w choice worker state (.write lockSection pc)) :
    (m.exec client (.worker w choice)).2 = .wrote w worker.state lockSection ∧
    (m.exec client (.worker w choice)).1.rooms = m.rooms ∧
    ∃ after, (m.exec client (.worker w choice)).1.states[worker.state]? = some after ∧
      after.room = lockSection.room state.room := by
  have hstep := m.exec_registryStep client (.worker w choice)
  have hreport : (m.exec client (.worker w choice)).2 = .wrote w worker.state lockSection := by
    rw [h.exec]
    rfl
  rw [hreport] at hstep
  obtain ⟨slot, hslot, heq⟩ := hstep.wrote_inv
  have hnew := (congrArg (fun c : Registry => c.slots[worker.state]?) heq).trans (getElem?_set_same hslot)
  obtain ⟨after, hafter, hslot'⟩ := slots_inv hnew
  rw [slots_getElem? h.room] at hslot
  cases hslot
  exact ⟨hreport, congrArg Registry.rooms heq, after, hafter, (congrArg Slot.room hslot').symm⟩

theorem act_report (m : Manager) (w : Nat) (worker : Worker) (state : RoomState) (turn : Turn) :
    (m.act w worker state turn).2 = .quiet ∨ (m.act w worker state turn).2.ofWorker = some w := by
  cases turn with
  | go pc =>
    by_cases hpc : pc = .exited
    · exact .inr (by simp [act, hpc, Report.ofWorker])
    · exact .inl (by simp [act, hpc])
  | look pc => exact .inl rfl
  | write lockSection pc => exact .inr rfl
  | giveUp =>
    unfold act giveUp
    cases hcancel : state.cancel <;> exact .inr rfl

/-! ### Whose step it was -/

/-- A step that changes the registry is one of a worker, under its number, or one of a caller. -/
theorem exec_origin (m : Manager) (client : Bool) (op : RoomOp) :
    (m.exec client op).2.idle = true ∨
    (∃ w choice, op = .worker w choice ∧ (m.exec client op).2.ofWorker = some w) ∨
    ∃ i choice pc move, op = .call i choice ∧ m.calls[i]? = some ⟨pc, []⟩ ∧ m.callTurn i pc choice = some move ∧
      (m.exec client op).2 = move.report := by
  have hstep := m.exec_cases client op
  generalize (m.exec client op).1 = m' at hstep
  generalize (m.exec client op).2 = report at hstep ⊢
  cases hstep with
  | blocked | invoked | persisted => exact .inl rfl
  | called hcall hmove => exact .inr (.inr ⟨_, _, _, _, rfl, hcall, hmove, rfl⟩)
  | callTask hcall htask => exact .inl (runTask_frame htask).2
  | @acted w choice worker state turn hacts =>
    rcases m.act_report w worker state turn with hquiet | hw
    · exact .inl (by rw [hquiet]; rfl)
    · exact .inr (.inl ⟨w, choice, rfl, hw⟩)
  | workerTask hworker htask => exact .inl (runTask_frame htask).2

theorem exec_ofWorker (h : (m.exec client op).2.ofWorker = some w) :
    ∃ choice, op = .worker w choice := by
  rcases m.exec_origin client op with hidle | ⟨v, choice, rfl, hv⟩ | ⟨i, choice, pc, move, rfl, -, hmove, hreport⟩
  · rw [Report.ofWorker_of_idle hidle] at h
    cases h
  · rw [hv] at h
    cases h
    exact ⟨choice, rfl⟩
  · rw [hreport, (callTurn_effect hmove).origin.ofWorker] at h
    cases h

theorem exec_ofCall (hidle : (m.exec client op).2.idle = false) (hworker : (m.exec client op).2.ofWorker = none) :
    ∃ i choice pc move, op = .call i choice ∧ m.calls[i]? = some ⟨pc, []⟩ ∧ m.callTurn i pc choice = some move ∧
      (m.exec client op).2 = move.report := by
  rcases m.exec_origin client op with h | ⟨w, choice, rfl, hw⟩ | hcall
  · rw [hidle] at h
    cases h
  · rw [hworker] at hw
    cases hw
  · exact hcall

theorem exec_worker_cases (m : Manager) (client : Bool) (w : Nat) (choice : Choice) :
    m.exec client (.worker w choice) = (m, .blocked) ∨ ∃ worker state turn,
      m.Acts client w choice worker state turn ∧ m.exec client (.worker w choice) = m.act w worker state turn := by
  have hstep := m.exec_cases client (.worker w choice)
  generalize m.exec client (.worker w choice) = result at hstep ⊢
  obtain ⟨m', report⟩ := result
  cases hstep with
  | blocked => exact .inl rfl
  | acted hacts => exact .inr ⟨_, _, _, hacts, rfl⟩

theorem exec_worker_report (client : Bool) (w : Nat) (choice : Choice) :
    (m.exec client (.worker w choice)).2.idle = true ∨ (m.exec client (.worker w choice)).2.ofWorker = some w := by
  rcases m.exec_worker_cases client w choice with h | ⟨worker, state, turn, -, h⟩
  · rw [h]
    exact .inl rfl
  · rw [h]
    rcases m.act_report w worker state turn with hquiet | hw
    · rw [hquiet]
      exact .inl rfl
    · exact .inr hw

theorem exec_acts (h : (m.exec client op).2.ofWorker = some w) :
    ∃ choice worker state turn, op = .worker w choice ∧ m.Acts client w choice worker state turn ∧
      m.exec client op = m.act w worker state turn := by
  obtain ⟨choice, rfl⟩ := exec_ofWorker h
  rcases m.exec_worker_cases client w choice with hexec | ⟨worker, state, turn, hacts, hexec⟩
  · rw [hexec] at h
    cases h
  · exact ⟨choice, worker, state, turn, rfl, hacts, hexec⟩

theorem exec_exited (h : (m.exec client op).2 = .exited w) :
    op = .worker w .proceed ∧ ∃ worker, m.workers[w]? = some worker ∧ worker.pc = .leaving ∧ worker.todo = [] := by
  obtain ⟨choice, worker, state, turn, rfl, hacts, hexec⟩ := exec_acts (w := w) (by rw [h]; rfl)
  rw [hexec] at h
  cases turn with
  | go pc =>
    simp only [act] at h
    split at h
    · rename_i hpc
      obtain ⟨hleaving, rfl⟩ := turn_fits hacts.next hpc
      exact ⟨rfl, worker, hacts.runs, hleaving, hacts.idle⟩
    · cases h
  | look | write => cases h
  | giveUp =>
    unfold act giveUp at h
    cases hcancel : state.cancel with
    | none | some => simp [hcancel] at h

theorem exec_wrote (h : (m.exec client op).2 = .wrote w p lockSection) :
    ∃ choice worker state pc, op = .worker w choice ∧
      m.Acts client w choice worker state (.write lockSection pc) ∧ worker.state = p := by
  obtain ⟨choice, worker, state, turn, rfl, hacts, hexec⟩ := exec_acts (w := w) (by rw [h]; rfl)
  rw [hexec] at h
  cases turn with
  | go pc =>
    simp only [act] at h
    split at h <;> cases h
  | look pc => cases h
  | write lockSection' pc =>
    cases h
    exact ⟨choice, worker, state, pc, rfl, hacts, rfl⟩
  | giveUp =>
    unfold act giveUp at h
    cases hcancel : state.cancel with
    | none | some => simp [hcancel] at h

/-! ### The end of `recoveryLoop` -/

/-- Worker `w` is at the section at the end of `recoveryLoop` and can enter it. -/
structure GivesUp (m : Manager) (w : Nat) (worker : Worker) (state : RoomState) : Prop where
  runs : m.workers[w]? = some worker
  exhausted : worker.pc = .exhausted
  idle : worker.todo = []
  unlocked : m.mu = none
  room : m.states[worker.state]? = some state

theorem GivesUp.acts (h : m.GivesUp w worker state) (client : Bool) :
    m.Acts client w .proceed worker state .giveUp :=
  ⟨h.runs, h.idle, h.room, by simp [Worker.turn, h.exhausted], .inr h.unlocked⟩

theorem GivesUp.report (h : m.GivesUp w worker state) (client : Bool) :
    (m.exec client (.worker w .proceed)).2 =
      if state.cancel = none then .panicked w worker.state else .gaveUp w worker.state := by
  rw [(h.acts client).exec, act, giveUp]
  cases hcancel : state.cancel <;> simp

theorem exec_givesUp (h : (m.exec client op).2 = .gaveUp w p ∨ (m.exec client op).2 = .panicked w p) :
    op = .worker w .proceed ∧ ∃ worker state, m.GivesUp w worker state ∧ worker.state = p := by
  have hworker : (m.exec client op).2.ofWorker = some w := by rcases h with h | h <;> (rw [h]; rfl)
  obtain ⟨choice, worker, state, turn, rfl, hacts, hexec⟩ := exec_acts hworker
  rw [hexec] at h
  cases turn with
  | go pc =>
    simp only [act] at h
    split at h <;> rcases h with h | h <;> cases h
  | look | write => rcases h with h | h <;> cases h
  | giveUp =>
    obtain ⟨hpc, rfl⟩ := turn_fits hacts.next
    have hmu : m.mu = none := hacts.enters.resolve_left (fun h => by cases h)
    have hstate : worker.state = p := by
      unfold act giveUp at h
      cases hcancel : state.cancel with
      | none | some => simpa [hcancel] using h
    exact ⟨rfl, worker, state, ⟨hacts.runs, hpc, hacts.idle, hmu, hacts.room⟩, hstate⟩

end Workers

/-! ## Reports of callers -/

section Reports
variable {m : Manager} {client : Bool} {op : RoomOp}

theorem exec_call (hcall : m.calls[i]? = some ⟨pc, []⟩)
    (hmove : m.callTurn i pc choice = some move) : m.exec client (.call i choice) =
      ({ move.manager with calls := move.manager.calls.set i ⟨move.pc, move.todo⟩ }, move.report) := by
  simp [exec, step, hcall, hmove]

/-- A room is registered by `CreateRoom`: a new one, or one that the map does not have. -/
theorem exec_registered {room : Room} (h : (m.exec client op).2 = .registered p room) :
    ∃ i, op = .call i .proceed ∧ m.mu = none ∧ ((∃ ensure, m.calls[i]? = some ⟨.registerNew room ensure, []⟩) ∨
        (∃ ensure, m.calls[i]? = some ⟨.registerExisting room ensure, []⟩) ∧ m.rooms room.roomID = none) := by
  obtain ⟨i, choice, pc, move, rfl, hcall, hmove, hreport⟩ := exec_ofCall (by rw [h]; rfl) (by rw [h]; rfl)
  have horigin := (callTurn_effect hmove).origin
  rw [← hreport, h] at horigin
  obtain ⟨rfl, hmu, ⟨ensure, rfl⟩ | ⟨⟨ensure, rfl⟩, hrooms⟩⟩ := horigin
  · exact ⟨i, rfl, hmu, .inl ⟨ensure, hcall⟩⟩
  · exact ⟨i, rfl, hmu, .inr ⟨⟨ensure, hcall⟩, hrooms⟩⟩

theorem exec_halted (h : (m.exec client op).2 = .halted p) : ∃ i visited stopped, op = .call i (.room p) ∧
    m.calls[i]? = some ⟨.sweeping visited stopped, []⟩ ∧ p ∈ m.registeredPointers ∧ p ∉ visited := by
  obtain ⟨i, choice, pc, move, rfl, hcall, hmove, hreport⟩ := exec_ofCall (by rw [h]; rfl) (by rw [h]; rfl)
  have horigin := (callTurn_effect hmove).origin
  rw [← hreport, h] at horigin
  obtain ⟨rfl, hp, visited, stopped, rfl, hvisited⟩ := horigin
  exact ⟨i, visited, stopped, rfl, hcall, hp, hvisited⟩

end Reports

/-! ## The effect of a step -/

/-- What a step does to the table and the events, and what its caller has read. -/
structure Effect (m m' : Manager) (report : Report) : Prop where
  rows : report.Writes m.rows m'.rows
  reads : ∀ (i : Nat) (call : CallThread) (room : Room), m'.calls[i]? = some call → call.pc.registers = some room →
    (∃ call' : CallThread, m.calls[i]? = some call' ∧ call'.pc.registers = some room) ∨
      ∃ roomID, getRoom m.rows roomID = .ok room
  emission : m.emission.Moves m'.emission ∨
    ∃ roomID, m'.emission = m.emission.forget roomID ∨ m'.emission = m.emission.publish (.roomDeleted roomID)

section Effects
variable {m m' : Manager}
variable {report : Report}

theorem Effect.of_calls (hcalls : m'.calls = m.calls) (hrows : report.Writes m.rows m'.rows)
    (hemission : m.emission.Moves m'.emission ∨
      ∃ roomID, m'.emission = m.emission.forget roomID ∨ m'.emission = m.emission.publish (.roomDeleted roomID)) :
    Effect m m' report := by
  refine ⟨hrows, fun i call room hcall hroom => ?_, hemission⟩
  rw [hcalls] at hcall
  exact .inl ⟨call, hcall, hroom⟩

theorem runTask_effect {now : Time} {todo todo' : List Task} {report : Report}
    (h : m.runTask now todo = some (m', todo', report)) : Effect m m' report := by
  cases todo with
  | nil => cases h
  | cons task rest =>
    cases task with
    | persist p room =>
      cases h
      exact .of_calls rfl rfl (.inl (.inl rfl))
    | forget roomID =>
      cases h
      exact .of_calls rfl rfl (.inr ⟨roomID, .inl rfl⟩)
    | deleted roomID =>
      cases h
      exact .of_calls rfl rfl (.inr ⟨roomID, .inr rfl⟩)
    | _ =>
      cases h
      exact .of_calls rfl rfl (.inl (.inr ⟨_, rfl⟩))

theorem act_effect (m : Manager) (w : Nat) (worker : Worker) (state : RoomState) (turn : Turn) :
    Effect m (m.act w worker state turn).1 (m.act w worker state turn).2 := by
  cases turn with
  | go pc =>
    refine .of_calls rfl ?_ (.inl (.inl rfl))
    show Report.Writes m.rows m.rows (if pc = .exited then .exited w else .quiet)
    split <;> rfl
  | look pc => exact .of_calls rfl rfl (.inl (.inl rfl))
  | write lockSection pc =>
    show Effect m (m.write w worker state lockSection pc) _
    unfold write
    split
    · exact .of_calls rfl rfl (.inl (.inr ⟨.copy _, rfl⟩))
    · exact .of_calls rfl rfl (.inl (.inl rfl))
  | giveUp =>
    show Effect m (m.giveUp w worker state).1 (m.giveUp w worker state).2
    unfold giveUp
    split
    · exact .of_calls rfl rfl (.inl (.inl rfl))
    · exact .of_calls rfl rfl (.inl (.inr ⟨.copy _, rfl⟩))

theorem Effect.setCall (h : Effect m m' report) {call : CallThread} (hreads : ∀ room, call.pc.registers = some room →
      (∃ call' : CallThread, m.calls[i]? = some call' ∧ call'.pc.registers = some room) ∨
        ∃ roomID, getRoom m.rows roomID = .ok room) : Effect m { m' with calls := m'.calls.set i call } report := by
  refine ⟨h.rows, fun j call' room hcall hroom => ?_, h.emission⟩
  rcases getElem?_set_cases hcall with ⟨rfl, rfl⟩ | ⟨-, hcall⟩
  · exact hreads room hroom
  · exact h.reads j call' room hcall hroom

theorem entry_registers (call : Call) : call.entry.registers = none := by
  cases call with
  | ensureSessionRoom sessionID courseID =>
    simp only [Call.entry]
    split <;> rfl
  | _ => rfl

theorem Stepped.effect {client : Bool} {op : RoomOp} {report : Report} (h : m.Stepped client op m' report) :
    Effect m m' report := by
  cases h with
  | blocked => exact .of_calls rfl rfl (.inl (.inl rfl))
  | invoked call =>
    refine ⟨rfl, fun i call' room hcall hroom => ?_, .inl (.inl rfl)⟩
    rcases getElem?_append_cases hcall with ⟨-, rfl⟩ | hcall
    · simp [entry_registers] at hroom
    · exact .inl ⟨call', hcall, hroom⟩
  | called hcall hmove =>
    have heffect := callTurn_effect hmove
    refine Effect.setCall (.of_calls heffect.calls heffect.rows (.inl heffect.emission)) fun room hroom => ?_
    exact .inr (heffect.reads room hroom)
  | callTask hcall htask => exact (runTask_effect htask).setCall fun room hroom => .inl ⟨_, hcall, hroom⟩
  | acted => exact m.act_effect _ _ _ _
  | workerTask hworker htask =>
    have heffect := runTask_effect htask
    exact ⟨heffect.rows, heffect.reads, heffect.emission⟩
  | persisted hwrite hrows => exact .of_calls rfl hrows (.inl (.inl rfl))

/-- **The effect of a step of the machine.** -/
theorem exec_effect (client : Bool) (m : Manager) (op : RoomOp) : Effect m (m.exec client op).1 (m.exec client op).2 :=
  (m.exec_cases client op).effect

end Effects

end Manager

end QrCommandCenter.Rooms
