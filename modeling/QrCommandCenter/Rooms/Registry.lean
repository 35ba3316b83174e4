import QrCommandCenter.Rooms.Moves

/-!
# Who runs a room

The part of the manager that says who runs: the rooms with their cancel functions, the map, and the contexts and returns of
the workers. Every step of the manager is one of few steps of this part.

* `Slot`, `Agent`, `Registry` : a room state, a worker, and all of them with the map;
* `RegistryStep` : what a step can do to them, by its report;
* `Manager.registry`, `exec_registryStep` : the manager refines it.
-/

namespace QrCommandCenter.Rooms
open Domain Transition

/-! ## The registry -/

structure Slot where
  room : Room
  cancel : Option Nat := none
deriving DecidableEq, Repr

structure Agent where
  state : Nat
  cancelled : Bool := false
  exited : Bool := false
deriving DecidableEq, Repr

def Agent.live (agent : Agent) : Bool := !agent.cancelled && !agent.exited

def Agent.cancel (agent : Agent) : Agent := { agent with cancelled := true }

def Agent.exit (agent : Agent) : Agent := { agent with exited := true }

structure Registry where
  slots : List Slot := []
  rooms : String → Option Nat := fun _ => none
  agents : List Agent := []

namespace Registry

def setSlot (c : Registry) (p : Nat) (slot : Slot) : Registry := { c with slots := c.slots.set p slot }

def cancelAgent (c : Registry) (w : Nat) : Registry :=
  { c with agents := c.agents.modify w Agent.cancel }

def cancelOf (c : Registry) (cancel : Option Nat) : Registry :=
  match cancel with
  | none => c
  | some w => c.cancelAgent w

def exit (c : Registry) (w : Nat) : Registry :=
  { c with agents := c.agents.modify w Agent.exit }

end Registry

/-- The section after a response in `recoveryLoop`, which looks at the context again. -/
def LockSection.isRecovered : LockSection → Bool
  | .recovered _ _ => true
  | _ => false

inductive RegistryStep (c : Registry) : Report → Registry → Prop where
  | stay {report : Report} (h : report.idle = true) : RegistryStep c report c
  | register (room : Room) : RegistryStep c (.registered c.slots.length room)
      { c with
        slots := c.slots ++ [{ room := room }]
        rooms := Function.update c.rooms room.roomID (some c.slots.length) }
  | alreadyStarted {id : String} {p : Nat} {slot : Slot} (hreg : c.rooms id = some p) (hslot : c.slots[p]? = some slot)
      (hcancel : slot.cancel ≠ none) : RegistryStep c (.alreadyStarted p) c
  | start {id : String} {p : Nat} {slot : Slot} (hreg : c.rooms id = some p) (hslot : c.slots[p]? = some slot)
      (hcancel : slot.cancel = none) : RegistryStep c (.started p c.agents.length)
      { c.setSlot p ⟨startedRoom slot.room, some c.agents.length⟩ with agents := c.agents ++ [{ state := p }] }
  | stop {id : String} {p : Nat} {slot : Slot} (hreg : c.rooms id = some p) (hslot : c.slots[p]? = some slot) :
      RegistryStep c (.stopped p) ((c.cancelOf slot.cancel).setSlot p ⟨stoppedRoom slot.room, none⟩)
  | halt {id : String} {p : Nat} {slot : Slot} {v : Nat} (hreg : c.rooms id = some p) (hslot : c.slots[p]? = some slot)
      (hcancel : slot.cancel = some v) :
      RegistryStep c (.halted p) ((c.cancelAgent v).setSlot p ⟨slot.room.moveTo .stopped, none⟩)
  | delete {id : String} {p : Nat} {slot : Slot} (hreg : c.rooms id = some p) (hslot : c.slots[p]? = some slot) :
      RegistryStep c (.deleted p) { c.cancelOf slot.cancel with rooms := Function.update c.rooms id none }
  | write {w : Nat} {agent : Agent} {slot : Slot} {lockSection : LockSection} (hagent : c.agents[w]? = some agent)
      (hruns : agent.exited = false) (hslot : c.slots[agent.state]? = some slot)
      (hopen : lockSection.isRecovered = true → agent.cancelled = false) :
      RegistryStep c (.wrote w agent.state lockSection)
        (c.setSlot agent.state ⟨lockSection.room slot.room, slot.cancel⟩)
  | giveUp {w : Nat} {agent : Agent} {slot : Slot} {v : Nat} (hagent : c.agents[w]? = some agent)
      (hruns : agent.exited = false) (hslot : c.slots[agent.state]? = some slot) (hcancel : slot.cancel = some v) :
      RegistryStep c (.gaveUp w agent.state)
        ((c.cancelAgent v).setSlot agent.state ⟨recoveryFailed slot.room, none⟩)
  | panic {w : Nat} {agent : Agent} {slot : Slot} (hagent : c.agents[w]? = some agent)
      (hruns : agent.exited = false) (hslot : c.slots[agent.state]? = some slot) (hcancel : slot.cancel = none) :
      RegistryStep c (.panicked w agent.state) ((c.exit w).setSlot agent.state ⟨recoveryFailed slot.room, none⟩)
  | exit {w : Nat} {agent : Agent} (hagent : c.agents[w]? = some agent) (hruns : agent.exited = false) :
      RegistryStep c (.exited w) (c.exit w)

variable {lockSection : LockSection}

section Inversion
variable {c c' : Registry} {w p : Nat}

theorem RegistryStep.gaveUp_inv (h : RegistryStep c (.gaveUp w p) c') : ∃ agent slot v, c.agents[w]? = some agent ∧
    agent.state = p ∧ c.slots[p]? = some slot ∧ c' = (c.cancelAgent v).setSlot p ⟨recoveryFailed slot.room, none⟩ := by
  cases h with
  | stay h => cases h
  | giveUp hagent hruns hslot hcancel => exact ⟨_, _, _, hagent, rfl, hslot, rfl⟩

theorem RegistryStep.exited_inv (h : RegistryStep c (.exited w) c') : c' = c.exit w := by
  cases h with
  | stay h => cases h
  | exit => rfl

theorem RegistryStep.registered_inv {room : Room} (h : RegistryStep c (.registered p room) c') : c' = { c with
    slots := c.slots ++ [{ room := room }]
    rooms := Function.update c.rooms room.roomID (some c.slots.length) } := by
  cases h with
  | stay h => cases h
  | register => rfl

theorem RegistryStep.halted_inv (h : RegistryStep c (.halted p) c') :
    ∃ slot : Slot, c.slots[p]? = some slot ∧ slot.cancel ≠ none := by
  cases h with
  | stay h => cases h
  | halt hreg hslot hcancel => exact ⟨_, hslot, by rw [hcancel]; intro h; cases h⟩

theorem RegistryStep.wrote_inv (h : RegistryStep c (.wrote w p lockSection) c') :
    ∃ slot : Slot, c.slots[p]? = some slot ∧ c' = c.setSlot p ⟨lockSection.room slot.room, slot.cancel⟩ := by
  cases h with
  | stay h => cases h
  | write hagent hruns hslot hopen => exact ⟨_, hslot, rfl⟩

end Inversion

/-! ## The registry of a manager -/

def RoomState.slot (state : RoomState) : Slot := ⟨state.room, state.cancel⟩

def Worker.agent (worker : Worker) : Agent := ⟨worker.state, worker.cancelled, worker.pc = .exited⟩

namespace Manager

variable {report : Report}

def registry (m : Manager) : Registry := ⟨m.states.map RoomState.slot, m.rooms, m.workers.map Worker.agent⟩

section Projections
variable {m : Manager} {p w : Nat} {state : RoomState} {worker : Worker}

theorem slots_getElem? (hstate : m.states[p]? = some state) : m.registry.slots[p]? = some state.slot := by
  simp [registry, hstate]

theorem agents_getElem? (hworker : m.workers[w]? = some worker) : m.registry.agents[w]? = some worker.agent := by
  simp [registry, hworker]

theorem slots_inv {slot : Slot} (hslot : m.registry.slots[p]? = some slot) : ∃ state, m.states[p]? = some state ∧ slot = state.slot := by
  obtain ⟨state, hstate, rfl⟩ := Option.map_eq_some_iff.mp ((List.getElem?_map).symm.trans hslot)
  exact ⟨state, hstate, rfl⟩

theorem registry_setState (m : Manager) (p : Nat) (state : RoomState) :
    (m.setState p state).registry = m.registry.setSlot p state.slot := by
  simp [registry, setState, Registry.setSlot, List.map_set]

theorem registry_cancelWorker (m : Manager) (w : Nat) : (m.cancelWorker w).registry = m.registry.cancelAgent w := by
  simp only [registry, cancelWorker, Registry.cancelAgent]
  rw [map_modify (fun _ => rfl : ∀ worker : Worker, { worker with cancelled := true }.agent = worker.agent.cancel)]

theorem registry_cancelOf (m : Manager) (state : RoomState) :
    (m.cancelOf state).registry = m.registry.cancelOf state.slot.cancel := by
  unfold cancelOf Registry.cancelOf RoomState.slot
  cases state.cancel with
  | none => rfl
  | some w => exact registry_cancelWorker m w

variable {worker' : Worker}

theorem registry_setWorker (hworker : m.workers[w]? = some worker)
    (h : worker'.agent = worker.agent) : (m.setWorker w worker').registry = m.registry := by
  have hset : (m.workers.map Worker.agent).set w worker.agent = m.workers.map Worker.agent :=
    set_eq_self (agents_getElem? hworker)
  simp [registry, setWorker, List.map_set, h, hset]

theorem registry_setWorker_exited (hworker : m.workers[w]? = some worker) (h : worker'.agent = worker.agent.exit) :
    (m.setWorker w worker').registry = m.registry.exit w := by
  have hset : (m.workers.map Worker.agent).set w worker.agent.exit = (m.workers.map Worker.agent).modify w Agent.exit :=
    set_eq_modify (agents_getElem? hworker)
  simp [registry, setWorker, Registry.exit, List.map_set, h, hset]

theorem registry_setState_setWorker (m : Manager) (p w : Nat) (state : RoomState) (worker : Worker) :
    ((m.setState p state).setWorker w worker).registry = (m.setWorker w worker).registry.setSlot p state.slot :=
  registry_setState (m.setWorker w worker) p state

end Projections

/-! ## Steps of the goroutines -/

section Steps
variable {m m' : Manager} {i : Nat} {choice : CallChoice} {move : CallMove} {p : Nat} {state state' : RoomState}

/-- A step of a caller that only moves the caller, the locks, the table or the events. -/
theorem stay_of_eq (hreport : report.idle = true) (h : m'.registry = m.registry) :
    RegistryStep m.registry report m'.registry := by
  rw [h]
  exact .stay hreport

theorem register_step (m : Manager) (room : Room) :
    RegistryStep m.registry (.registered m.states.length room) (m.register room).registry := by
  have hlength : m.states.length = m.registry.slots.length := by simp [registry]
  have hregister : (m.register room).registry =
      { m.registry with
        slots := m.registry.slots ++ [{ room := room }]
        rooms := Function.update m.registry.rooms room.roomID (some m.registry.slots.length) } := by
    simp [registry, register, RoomState.slot]
  rw [hregister, hlength]
  exact .register room

theorem registry_setState_same (hstate : m.states[p]? = some state) (h : state'.slot = state.slot) :
    (m.setState p state').registry = m.registry := by
  have hset : m.registry.slots.set p state.slot = m.registry.slots := set_eq_self (slots_getElem? hstate)
  rw [registry_setState, h, Registry.setSlot, hset]

theorem registry_clearPending (m : Manager) (p : Nat) :
    { m with states := m.states.modify p fun state => { state with stopPersistPending := false } }.registry =
      m.registry := by
  simp only [registry]
  rw [map_modify (fun _ => rfl : ∀ state : RoomState, { state with stopPersistPending := false }.slot = id state.slot),
    List.modify_id]

theorem start_step {roomID : String} (hreg : m.rooms roomID = some p) (hstate : m.states[p]? = some state)
    (hcancel : state.cancel = none) (hslot : state'.slot = ⟨startedRoom state.room, some m.workers.length⟩) :
    RegistryStep m.registry (.started p m.workers.length)
      ({ m.setState p state' with workers := m.workers ++ [{ state := p }] } : Manager).registry := by
  have hstart := RegistryStep.start hreg (slots_getElem? hstate) hcancel
  have hlength : m.registry.agents.length = m.workers.length := by simp [registry]
  have hroom : state.slot.room = state.room := rfl
  rw [hlength] at hstart
  convert hstart using 1
  simp [registry, setState, Registry.setSlot, List.map_set, hslot, hroom, Worker.agent]

theorem mem_registeredPointers (hstate : m.states[p]? = some state) (h : p ∈ m.registeredPointers) :
    m.rooms state.room.roomID = some p := by
  simp only [registeredPointers, List.mem_filter, hstate, Option.bind_some, decide_eq_true_eq] at h
  exact h.2

theorem halt_step {w : Nat} (hp : p ∈ m.registeredPointers) (hstate : m.states[p]? = some state)
    (hcancel : state.cancel = some w) (hslot : state'.slot = ⟨state.room.moveTo .stopped, none⟩) :
    RegistryStep m.registry (.halted p) ((m.cancelWorker w).setState p state').registry := by
  rw [registry_setState, registry_cancelWorker, hslot]
  exact .halt (mem_registeredPointers hstate hp) (slots_getElem? hstate) hcancel

/-- **Every step of a caller is a step of the registry.** -/
theorem callTurn_step {pc : CallPC} (h : m.callTurn i pc choice = some move) :
    RegistryStep m.registry move.report move.manager.registry := by
  cases callTurn_cases h with
  | finish | lockLifecycle | lockMu | unlockMu => exact stay_of_eq rfl rfl
  | go hidle => exact stay_of_eq hidle rfl
  | registerExisting | registerNew => exact register_step m _
  | course hstate | courseOnly hstate => exact stay_of_eq rfl (registry_setState_same hstate rfl)
  | alreadyStarted hreg hstate hcancel => exact .alreadyStarted hreg (slots_getElem? hstate) hcancel
  | start hreg hstate hcancel => exact start_step hreg hstate hcancel rfl
  | stop hreg hstate =>
    have hstop := RegistryStep.stop hreg (slots_getElem? hstate)
    rw [← registry_cancelOf] at hstop
    convert hstop using 1
    exact registry_setState _ _ _
  | delete hreg hstate =>
    have hdelete := RegistryStep.delete hreg (slots_getElem? hstate)
    rw [← registry_cancelOf] at hdelete
    exact hdelete
  | haltFailed hp hstate hcancel hroom | halt hp hstate hcancel hroom =>
    exact halt_step hp.1 hstate hcancel (by simp [RoomState.slot, Room.moveTo, hroom])
  | clear p => exact stay_of_eq rfl (registry_clearPending m p)

end Steps

section Workers
variable {m m' : Manager} {client : Bool} {w : Nat} {worker : Worker} {state : RoomState} {choice : Choice}
variable {pc : WorkerPC} {turn : Turn}

theorem turn_runs (h : worker.turn client state choice = some turn) : worker.pc ≠ .exited := by
  intro hpc
  simp [Worker.turn, hpc] at h

/-- Which of the two sections after an error a worker takes. -/
def branches (room : Room) : LockSection → Prop
  | .expired err => (room.moveTo (statusOfError err)).status = .authExpired
  | .failed err => (room.moveTo (statusOfError err)).status ≠ .authExpired
  | _ => True

/-- Where a worker returns, where sections lead, which one has seen an open context, and where the last one is. -/
def fits (worker : Worker) (state : RoomState) (choice : Choice) : Turn → Prop
  | .go pc => pc = .exited → worker.pc = .leaving ∧ choice = .proceed
  | .look pc => pc ≠ .exited
  | .write lockSection pc =>
    pc ≠ .exited ∧ (lockSection.isRecovered = true → worker.cancelled = false) ∧ branches state.room lockSection
  | .giveUp => worker.pc = .exhausted ∧ choice = .proceed

theorem fits_go (hpc : pc ≠ .exited) : fits worker state choice (.go pc) := fun h => absurd h hpc

theorem afterRetry_fits (attempts : Nat) (backoff : Duration) (err : QrError) :
    fits worker state choice (afterRetry attempts backoff err) := by
  have hconflict : fits worker state choice (.write .conflict .leaving) :=
    ⟨(fun h => by cases h), (fun h => by cases h), trivial⟩
  have hpayload : ∀ message, fits worker state choice (.write (.payload message) .leaving) :=
    fun _ => ⟨(fun h => by cases h), (fun h => by cases h), trivial⟩
  unfold afterRetry
  split
  · exact hconflict
  split
  · exact fits_go (fun h => by cases h)
  split
  · exact hpayload _
  · split <;> exact fits_go (fun h => by cases h)

theorem turn_fits (h : worker.turn client state choice = some turn) : fits worker state choice turn := by
  have hwrite : ∀ {lockSection : LockSection} {pc : WorkerPC}, lockSection.isRecovered = false → pc ≠ .exited →
      branches state.room lockSection → fits worker state choice (.write lockSection pc) :=
    fun hsection hpc hbranch => ⟨hpc, (fun h => by rw [hsection] at h; cases h), hbranch⟩
  unfold Worker.turn at h
  split at h
  · cases h
    split
    · exact fits_go (fun h => by cases h)
    · exact hwrite rfl (fun h => by cases h) trivial
  · cases h
    show (if _ then _ else _) ≠ WorkerPC.exited
    split <;> (intro h; cases h)
  · cases h
    exact hwrite rfl (fun h => by cases h) trivial
  · cases h
    split <;> exact fits_go (fun h => by cases h)
  · cases h
    exact hwrite rfl (fun h => by cases h) trivial
  · cases h
    split <;> rename_i hstatus <;> exact hwrite rfl (fun h => by cases h) hstatus
  · cases h
    exact hwrite rfl (fun h => by cases h) trivial
  · split at h
    · cases h
      exact fits_go (fun h => by cases h)
    · cases h
  · cases h
    exact fits_go (fun h => by cases h)
  · cases h
    split
    · exact fun h => by cases h
    · rename_i hopen
      exact ⟨(fun h => by cases h), (fun _ => by simpa using hopen), trivial⟩
  · cases h
    exact afterRetry_fits _ _ _
  · split at h
    · cases h
      exact fits_go (fun h => by cases h)
    · cases h
  · cases h
    exact fits_go (fun h => by cases h)
  · rename_i hpc
    cases h
    exact ⟨hpc, rfl⟩
  · split at h
    · cases h
      exact fits_go (fun h => by cases h)
    · cases h
  · cases h
    exact fits_go (fun h => by cases h)
  · rename_i hpc
    cases h
    exact fun _ => ⟨hpc, rfl⟩
  · cases h

theorem agent_move {todo : List Task} (hruns : worker.pc ≠ .exited) (hpc : pc ≠ .exited) :
    { worker with pc := pc, todo := todo }.agent = worker.agent := by
  simp [Worker.agent, hruns, hpc]

theorem write_registry (hworker : m.workers[w]? = some worker) (hruns : worker.pc ≠ .exited) (hpc : pc ≠ .exited) :
    (m.write w worker state lockSection pc).registry =
      m.registry.setSlot worker.state ⟨lockSection.room state.room, state.cancel⟩ := by
  have hset : ∀ todo, ((m.setState worker.state (lockSection.apply state)).setWorker w
      { worker with pc := pc, todo := todo }).registry =
      m.registry.setSlot worker.state ⟨lockSection.room state.room, state.cancel⟩ := by
    intro todo
    rw [registry_setState_setWorker, registry_setWorker hworker (agent_move hruns hpc)]
    rfl
  unfold write
  split <;> exact hset _

theorem giveUp_step (hworker : m.workers[w]? = some worker) (hstate : m.states[worker.state]? = some state)
    (hruns : worker.pc ≠ .exited) :
    RegistryStep m.registry (m.giveUp w worker state).2 (m.giveUp w worker state).1.registry := by
  have hagent : m.registry.agents[w]? = some worker.agent := agents_getElem? hworker
  have hexited : worker.agent.exited = false := by simp [Worker.agent, hruns]
  unfold giveUp
  cases hcancel : state.cancel with
  | none =>
    have hpanic := RegistryStep.panic hagent hexited (slots_getElem? hstate) hcancel
    have hexit : (m.setWorker w { worker with pc := .exited }).registry = m.registry.exit w :=
      registry_setWorker_exited hworker (by simp [Worker.agent, Agent.exit])
    have hset := registry_setState_setWorker m worker.state w { state with room := recoveryFailed state.room, cancel := none }
      { worker with pc := .exited }
    rw [hexit] at hset
    exact hset ▸ hpanic
  | some v =>
    have hgiveUp := RegistryStep.giveUp hagent hexited (slots_getElem? hstate) hcancel
    have hset : ∀ todo, (((m.setState worker.state { state with room := recoveryFailed state.room, cancel := none }).setWorker
        w { worker with pc := .leaving, todo := todo }).cancelWorker v).registry =
        (m.registry.cancelAgent v).setSlot worker.state ⟨recoveryFailed state.room, none⟩ := by
      intro todo
      have hleaving : WorkerPC.leaving ≠ .exited := fun h => by cases h
      rw [registry_cancelWorker, registry_setState_setWorker, registry_setWorker hworker (agent_move hruns hleaving)]
      rfl
    exact hset _ ▸ hgiveUp

/-- **Every step of a worker is a step of the registry.** -/
theorem act_step (h : m.Acts client w choice worker state turn) :
    RegistryStep m.registry (m.act w worker state turn).2 (m.act w worker state turn).1.registry := by
  have hruns := turn_runs h.next
  have hfits := turn_fits h.next
  have hexited : worker.agent.exited = false := by simp [Worker.agent, hruns]
  cases turn with
  | go pc =>
    by_cases hpc : pc = .exited
    · rw [act, if_pos hpc, registry_setWorker_exited h.runs (by simp [Worker.agent, Agent.exit, hpc])]
      exact .exit (agents_getElem? h.runs) hexited
    · rw [act, if_neg hpc, registry_setWorker h.runs (agent_move hruns hpc)]
      exact .stay rfl
  | look pc => exact stay_of_eq rfl (registry_setWorker h.runs (agent_move hruns hfits))
  | write lockSection pc =>
    rw [act, write_registry h.runs hruns hfits.1]
    exact .write (agents_getElem? h.runs) hexited (slots_getElem? h.room) hfits.2.1
  | giveUp => exact giveUp_step h.runs h.room hruns

end Workers

theorem Stepped.registryStep {m m' : Manager} {client : Bool} {op : RoomOp}
    (h : m.Stepped client op m' report) : RegistryStep m.registry report m'.registry := by
  cases h with
  | blocked | invoked | persisted => exact stay_of_eq rfl rfl
  | called hcall hmove => exact callTurn_step hmove
  | callTask hcall htask =>
    obtain ⟨⟨pending, emission, rfl⟩, hidle⟩ := runTask_frame htask
    exact stay_of_eq hidle rfl
  | acted hacts => exact act_step hacts
  | @workerTask w now worker todo' _ _ hworker htask =>
    obtain ⟨⟨pending, emission, rfl⟩, hidle⟩ := runTask_frame htask
    exact stay_of_eq hidle (registry_setWorker hworker rfl)

/-- **The manager refines the registry**: every step is one of the steps of `RegistryStep`, under its report. -/
theorem exec_registryStep (client : Bool) (m : Manager) (op : RoomOp) :
    RegistryStep m.registry (m.exec client op).2 (m.exec client op).1.registry :=
  (m.exec_cases client op).registryStep

end Manager

end QrCommandCenter.Rooms
