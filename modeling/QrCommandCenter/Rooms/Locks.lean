import QrCommandCenter.Rooms.Contexts
import QrCommandCenter.Rooms.Effects

/-!
# Locks, panics and the cancel functions of others

The end of `recoveryLoop` calls and clears the cancel function of the room without a look at the context of its own worker.

* `LocksHeld` : whoever holds a lock of the manager is still to release it (`exec_locksHeld`);
* `Spares`, `SafeStep` : a step neither panics, nor leaves a lock held, nor lets a cancelled worker cancel a later one;
* `OwnCancel` : a worker whose attempts are exhausted finds its own cancel function;
* `safe_iff` : the first holds in every step of a run exactly if the second does.
-/

namespace QrCommandCenter.Rooms
open Domain Transition

variable {op : RoomOp} {report : Report}

/-! ## Locks -/

/-- No lock is left held: its holder is a caller that is still to release it. -/
structure LocksHeld (m : Manager) : Prop where
  lifecycle : ∀ i, m.lifecycleMu = some i → ∃ c, m.calls[i]? = some c ∧ c.pc.holdsLifecycle = true
  mu : ∀ holder, m.mu = some holder → ∃ i c, holder = .call i ∧ m.calls[i]? = some c ∧ c.pc.holdsMu = true

/-- A step of caller `i`: it holds at its end what is newly held, and nobody else's lock is touched. -/
structure LockMove (m : Manager) (i : Nat) (move : Manager.CallMove) : Prop where
  calls : move.manager.calls = m.calls
  lifecycle : ∀ j, move.manager.lifecycleMu = some j →
    j = i ∧ move.pc.holdsLifecycle = true ∨ j ≠ i ∧ m.lifecycleMu = some j
  mu : ∀ holder, move.manager.mu = some holder →
    holder = .call i ∧ move.pc.holdsMu = true ∨ holder ≠ .call i ∧ m.mu = some holder

structure MayHold (m : Manager) (i : Nat) (pc : CallPC) : Prop where
  lifecycle : m.lifecycleMu = some i → pc.holdsLifecycle = true
  mu : m.mu = some (.call i) → pc.holdsMu = true

section Locks
open Manager
variable {m : Manager} {i : Nat} {pc : CallPC} {choice : CallChoice} {move : CallMove}
variable {m' : Manager} {ensure : Option String} {todo : List Task}

theorem LockMove.keep (hhold : MayHold m i pc) (hcalls : move.manager.calls = m.calls)
    (hlifecycle : move.manager.lifecycleMu = m.lifecycleMu) (hmu : move.manager.mu = m.mu)
    (hl : move.pc.holdsLifecycle = pc.holdsLifecycle) (hm : move.pc.holdsMu = pc.holdsMu) : LockMove m i move := by
  refine ⟨hcalls, fun j hj => ?_, fun holder hholder => ?_⟩
  · rw [hlifecycle] at hj
    by_cases hji : j = i
    · subst hji
      exact .inl ⟨rfl, hl.trans (hhold.lifecycle hj)⟩
    · exact .inr ⟨hji, hj⟩
  · rw [hmu] at hholder
    by_cases hi : holder = .call i
    · subst hi
      exact .inl ⟨rfl, hm.trans (hhold.mu hholder)⟩
    · exact .inr ⟨hi, hholder⟩

variable {m' : Manager}

theorem LockMove.finish (hcalls : m'.calls = m.calls) (hlifecycle : m'.lifecycleMu = m.lifecycleMu)
    (hmu : m'.mu = m.mu) (err : Option CallError) (report : Report) : LockMove m i (m'.finish i err report) := by
  refine ⟨hcalls, fun j hj => ?_, fun holder hholder => ?_⟩
  · simp only [Manager.finish, hlifecycle] at hj
    split at hj
    · cases hj
    · next hne => exact .inr ⟨fun hji => hne (hji ▸ hj), hj⟩
  · simp only [Manager.finish, hmu] at hholder
    split at hholder
    · cases hholder
    · next hne => exact .inr ⟨fun hi => hne (hi ▸ hholder), hholder⟩

theorem LockMove.setMu (hcalls : move.manager.calls = m.calls) (hlifecycle : move.manager.lifecycleMu = m.lifecycleMu)
    (hl : move.pc.holdsLifecycle = true)
    (hmu : ∀ holder, move.manager.mu = some holder → holder = .call i ∧ move.pc.holdsMu = true) : LockMove m i move := by
  refine ⟨hcalls, fun j hj => ?_, fun holder hholder => .inl (hmu holder hholder)⟩
  rw [hlifecycle] at hj
  by_cases hji : j = i
  · exact .inl ⟨hji, hl⟩
  · exact .inr ⟨hji, hj⟩

/-- **Every step of a caller keeps its locks in order.** -/
theorem callTurn_locks (hhold : MayHold m i pc) (h : m.callTurn i pc choice = some move) : LockMove m i move := by
  have htaken : ∀ holder, some (Holder.call i) = some holder → holder = .call i ∧ true = true :=
    fun holder h => ⟨(Option.some.inj h).symm, rfl⟩
  cases callTurn_cases h with
  | finish | alreadyStarted => exact .finish rfl rfl rfl _ _
  | courseOnly | haltFailed => apply LockMove.finish <;> rfl
  | go _ _ _ _ _ hlifecycle hmu => exact .keep hhold rfl rfl rfl hlifecycle hmu
  | registerExisting | registerNew | course | halt | clear => exact .keep hhold rfl rfl rfl rfl rfl
  | lockLifecycle hreads hlifecycle hmu =>
    refine ⟨rfl, fun j hj => .inl ⟨(Option.some.inj hj).symm, hlifecycle⟩, fun holder hholder => ?_⟩
    by_cases hi : holder = .call i
    · subst hi
      exact .inl ⟨rfl, hmu.trans (hhold.mu hholder)⟩
    · exact .inr ⟨hi, hholder⟩
  | start => exact .setMu rfl rfl rfl htaken
  | @stop _ p state hreg hstate =>
    obtain ⟨workers, hcancel⟩ := cancelOf_frame m state
    rw [hcancel]
    exact .setMu rfl rfl rfl htaken
  | @delete _ p state hreg hstate =>
    obtain ⟨workers, hcancel⟩ := cancelOf_frame m state
    rw [hcancel]
    exact .keep hhold rfl rfl rfl rfl rfl
  | lockMu => exact .setMu rfl rfl rfl htaken
  | unlockMu => exact .setMu rfl rfl rfl fun holder h => by cases h

theorem locksHeld_empty : LocksHeld {} := ⟨(fun _ h => by cases h), (fun _ h => by cases h)⟩

theorem LocksHeld.congr (hm : LocksHeld m) (hcalls : m'.calls = m.calls) (hlifecycle : m'.lifecycleMu = m.lifecycleMu)
    (hmu : m'.mu = m.mu) : LocksHeld m' := by
  refine ⟨fun i hi => ?_, fun holder hholder => ?_⟩
  · rw [hcalls]
    exact hm.lifecycle i (hlifecycle ▸ hi)
  · rw [hcalls]
    exact hm.mu holder (hmu ▸ hholder)

theorem LocksHeld.mayHold (hm : LocksHeld m) (hcall : m.calls[i]? = some ⟨pc, todo⟩) : MayHold m i pc := by
  constructor
  · intro hi
    obtain ⟨c, hc, hholds⟩ := hm.lifecycle i hi
    rw [hcall] at hc
    cases hc
    exact hholds
  · intro hi
    obtain ⟨j, c, hj, hc, hholds⟩ := hm.mu _ hi
    cases hj
    rw [hcall] at hc
    cases hc
    exact hholds

theorem LocksHeld.call (hm : LocksHeld m) (hcall : m.calls[i]? = some ⟨pc, todo⟩)
    (h : m.callTurn i pc choice = some move) :
    LocksHeld { move.manager with calls := move.manager.calls.set i ⟨move.pc, move.todo⟩ } := by
  obtain ⟨hcalls, hlifecycle, hmu⟩ := callTurn_locks (hm.mayHold hcall) h
  constructor
  · intro j hj
    rcases hlifecycle j hj with ⟨rfl, hholds⟩ | ⟨hji, hj⟩
    · exact ⟨⟨move.pc, move.todo⟩, by rw [hcalls]; exact getElem?_set_same hcall, hholds⟩
    · obtain ⟨c, hc, hholds⟩ := hm.lifecycle j hj
      exact ⟨c, by rw [hcalls]; exact getElem?_set_kept hji hc, hholds⟩
  · intro holder hholder
    rcases hmu holder hholder with ⟨rfl, hholds⟩ | ⟨hne, hholder⟩
    · exact ⟨i, ⟨move.pc, move.todo⟩, rfl, by rw [hcalls]; exact getElem?_set_same hcall, hholds⟩
    · obtain ⟨j, c, rfl, hc, hholds⟩ := hm.mu holder hholder
      have hji : j ≠ i := fun h => hne (by rw [h])
      exact ⟨j, c, rfl, by rw [hcalls]; exact getElem?_set_kept hji hc, hholds⟩

theorem LocksHeld.callTask (hm : LocksHeld m) {todo' : List Task} (hcall : m.calls[i]? = some ⟨pc, todo⟩)
    (hcalls : m'.calls = m.calls) (hlifecycle : m'.lifecycleMu = m.lifecycleMu) (hmu : m'.mu = m.mu) :
    LocksHeld { m' with calls := m'.calls.set i ⟨pc, todo'⟩ } := by
  have hmoved : ∀ (j : Nat) (c : CallThread), m.calls[j]? = some c →
      ∃ c' : CallThread, (m'.calls.set i ⟨pc, todo'⟩)[j]? = some c' ∧ c'.pc = c.pc := by
    intro j c hc
    rw [hcalls]
    exact exists_getElem?_set (P := fun c c' => c'.pc = c.pc) hcall (rfl : CallThread.pc ⟨pc, todo'⟩ = pc) rfl hc
  constructor
  · intro j hj
    obtain ⟨c, hc, hholds⟩ := hm.lifecycle j (hlifecycle ▸ hj)
    obtain ⟨c', hc', hpc⟩ := hmoved j c hc
    exact ⟨c', hc', by rw [hpc]; exact hholds⟩
  · intro holder hholder
    obtain ⟨j, c, rfl, hc, hholds⟩ := hm.mu holder (hmu ▸ hholder)
    obtain ⟨c', hc', hpc⟩ := hmoved j c hc
    exact ⟨j, c', rfl, hc', by rw [hpc]; exact hholds⟩

theorem act_locks {w : Nat} {worker : Worker} {state : RoomState} {turn : Turn}
    (hreport : ∀ p, (m.act w worker state turn).2 ≠ .panicked w p) :
    ∃ states workers emission,
      (m.act w worker state turn).1 = { m with states := states, workers := workers, emission := emission } := by
  cases turn with
  | go | look => exact ⟨_, _, _, rfl⟩
  | write lockSection pc =>
    simp only [act, Manager.write]
    split <;> exact ⟨_, _, _, rfl⟩
  | giveUp =>
    simp only [act, giveUp] at hreport ⊢
    split at hreport
    · exact absurd rfl (hreport _)
    · exact ⟨_, _, _, rfl⟩

theorem Manager.Stepped.locksHeld {client : Bool}
    (h : m.Stepped client op m' report) (hm : LocksHeld m) (hreport : ∀ w p, report ≠ .panicked w p) : LocksHeld m' := by
  cases h with
  | blocked => exact hm
  | invoked call =>
    refine ⟨fun i hi => ?_, fun holder hholder => ?_⟩
    · obtain ⟨c, hc, hholds⟩ := hm.lifecycle i hi
      exact ⟨c, getElem?_append_kept hc _, hholds⟩
    · obtain ⟨i, c, rfl, hc, hholds⟩ := hm.mu holder hholder
      exact ⟨i, c, rfl, getElem?_append_kept hc _, hholds⟩
  | called hcall hmove => exact hm.call hcall hmove
  | callTask hcall htask =>
    obtain ⟨⟨pending, emission, rfl⟩, -⟩ := runTask_frame htask
    exact hm.callTask hcall rfl rfl rfl
  | @acted w choice worker state turn hacts =>
    obtain ⟨states, workers, emission, hact⟩ := act_locks (hreport w)
    rw [hact]
    exact hm.congr rfl rfl rfl
  | workerTask hworker htask =>
    obtain ⟨⟨pending, emission, rfl⟩, -⟩ := runTask_frame htask
    exact hm.congr rfl rfl rfl
  | persisted => exact hm.congr rfl rfl rfl

theorem exec_locksHeld (client : Bool) (op : RoomOp) (hm : LocksHeld m)
    (hreport : ∀ w p, (m.exec client op).2 ≠ .panicked w p) : LocksHeld (m.exec client op).1 :=
  (m.exec_cases client op).locksHeld hm hreport

end Locks

/-! ## Workers that spare their successors -/

/-- Worker `w` leaves the context and the cancel function of every later worker of its room alone. -/
def Spares (c c' : Registry) (w : Nat) : Prop :=
  ∀ (v : Nat) (own later : Agent) (ownSlot laterSlot : Slot), w < v → c.agents[w]? = some own →
    c.slots[own.state]? = some ownSlot → c.agents[v]? = some later → c.slots[later.state]? = some laterSlot →
    laterSlot.room.roomID = ownSlot.room.roomID →
    (∃ later' : Agent, c'.agents[v]? = some later' ∧ later'.cancelled = later.cancelled) ∧
    (laterSlot.cancel = some v → ∃ slot : Slot, c'.slots[later.state]? = some slot ∧ slot.cancel = some v)

section Spares
variable {c c' : Registry} {w : Nat}

theorem Spares.refl (c : Registry) (w : Nat) : Spares c c w :=
  fun _ _ later _ laterSlot _ _ _ hlater hslot _ => ⟨⟨later, hlater, rfl⟩, fun hcancel => ⟨laterSlot, hslot, hcancel⟩⟩

/-- A section of worker `w` that keeps the cancel function of the room, or is left without it if it was its own. -/
theorem Spares.setSlot {p : Nat} {slot new : Slot} (hslot : c.slots[p]? = some slot) (hslots : c'.slots = c.slots.set p new)
    (hcancel : new.cancel = slot.cancel ∨ slot.cancel = some w)
    (hagents : ∀ (v : Nat) (y : Agent), v ≠ w → c.agents[v]? = some y → c'.agents[v]? = some y) : Spares c c' w := by
  intro v own later ownSlot laterSlot hwv hown hownSlot hlater hlaterSlot hid
  refine ⟨⟨later, hagents v later (Nat.ne_of_gt hwv) hlater, rfl⟩, fun hv => ?_⟩
  rw [hslots]
  by_cases hp : later.state = p
  · rw [hp] at hlaterSlot ⊢
    rw [hslot] at hlaterSlot
    cases hlaterSlot
    rcases hcancel with hsame | hw
    · exact ⟨new, getElem?_set_same hslot, hsame.trans hv⟩
    · rw [hv] at hw
      exact absurd (Option.some.inj hw) (Nat.ne_of_gt hwv)
  · exact ⟨laterSlot, getElem?_set_kept hp hlaterSlot, hv⟩

/-- A step of worker `w` that finds its own cancel function at the end of `recoveryLoop` spares the later workers. -/
theorem RegistryStep.spares (hstep : RegistryStep c report c')
    (hreport : report.idle = true ∨ report.ofWorker = some w) (hpanic : ∀ p, report ≠ .panicked w p)
    (hown : ∀ p slot, report = .gaveUp w p → c.slots[p]? = some slot → slot.cancel = some w) : Spares c c' w := by
  have hmodify : ∀ {f : Agent → Agent} (v : Nat) (y : Agent), v ≠ w → c.agents[v]? = some y →
      (c.agents.modify w f)[v]? = some y := by
    intro f v y hv hy
    simp [Ne.symm hv, hy]
  cases hstep with
  | stay | alreadyStarted => exact Spares.refl c w
  | register | start | stop | halt | delete => rcases hreport with h | h <;> cases h
  | write hagent hruns hslot hopen =>
    exact Spares.setSlot hslot rfl (.inl rfl) (fun v y _ hy => hy)
  | giveUp hagent hruns hslot hcancel =>
    rcases hreport with h | h
    · cases h
    cases h
    have hw := hown _ _ rfl hslot
    rw [hw] at hcancel
    cases hcancel
    exact Spares.setSlot hslot rfl (.inr hw) hmodify
  | panic =>
    rcases hreport with h | h
    · cases h
    cases h
    exact absurd rfl (hpanic _)
  | exit hagent hruns =>
    rcases hreport with h | h
    · cases h
    cases h
    intro v own later ownSlot laterSlot hwv _ _ hlater hlaterSlot _
    exact ⟨⟨later, hmodify v later (Nat.ne_of_gt hwv) hlater, rfl⟩, fun hv => ⟨laterSlot, hlaterSlot, hv⟩⟩

end Spares

/-- **What no step may do**: panic, leave a lock held, or be a cancelled worker's step that touches a later one. -/
structure SafeStep (e : Event Manager RoomOp Report) : Prop where
  calm : ∀ w p, e.out ≠ .panicked w p
  locks : LocksHeld e.post
  spares : ∀ w choice worker, e.op = .worker w choice → e.pre.workers[w]? = some worker → worker.cancelled = true →
    Spares e.pre.registry e.post.registry w

/-- A worker at the end of `recoveryLoop` finds its own cancel function: nobody has stopped the room since it last
looked at its context. -/
def OwnCancel (e : Event Manager RoomOp Report) : Prop :=
  ∀ w worker state, e.op = .worker w .proceed → e.pre.GivesUp w worker state → state.cancel = some w

structure Orderly (m : Manager) : Prop where
  sound : m.registry.Sound
  locks : LocksHeld m

section Safe
variable {m : Manager} {client : Bool} {w : Nat} {worker : Worker} {state : RoomState}

/-- A worker that clears the cancel function of another does so to a later one, and its own context is cancelled. -/
theorem Manager.GivesUp.not_spares (client : Bool) (hs : m.registry.Sound) (h : m.GivesUp w worker state) {v : Nat}
    (hcancel : state.cancel = some v) (hvw : v ≠ w) : worker.cancelled = true ∧ ¬ Spares m.registry (m.exec client (.worker w .proceed)).1.registry w := by
  have hagent : m.registry.agents[w]? = some worker.agent := Manager.agents_getElem? h.runs
  have hslot : m.registry.slots[worker.agent.state]? = some state.slot := Manager.slots_getElem? h.room
  have hruns : worker.agent.exited = false := by simp [Worker.agent, h.exhausted]
  constructor
  · -- a live worker finds its own function
    by_contra hopen
    have hlive : worker.agent.live = true := by
      simp only [Agent.live, hruns]
      simpa [Worker.agent] using hopen
    have hheld := hs.held w worker.agent state.slot hagent hlive hslot
    exact hvw (Option.some.inj (hcancel.symm.trans hheld))
  · intro hspares
    obtain ⟨later, hlater, hlaterState⟩ := hs.owned _ state.slot v hslot hcancel
    have hle : w ≤ v := hs.latest _ state.slot v w worker.agent hslot hcancel hagent rfl
    have hlt : w < v := Nat.lt_of_le_of_ne hle (Ne.symm hvw)
    rw [← hlaterState] at hslot
    obtain ⟨-, hkept⟩ := hspares v worker.agent later state.slot state.slot hlt hagent (hlaterState ▸ hslot) hlater hslot rfl
    obtain ⟨slot, hslot', hv⟩ := hkept hcancel
    -- the section has cleared it
    have hstep := Manager.exec_registryStep client m (.worker w .proceed)
    rw [h.report client, if_neg (by rw [hcancel]; intro h; cases h)] at hstep
    obtain ⟨agent, slot₀, u, hagent₀, hstate, hslot₀, heq⟩ := hstep.gaveUp_inv
    rw [hlaterState, heq] at hslot'
    cases Option.some.inj (hslot'.symm.trans (getElem?_set_same hslot₀))
    cases hv

theorem ownCancel_of_safe (hm : Orderly m) (h : SafeStep (Event.of (Manager.exec · client) m op)) :
    OwnCancel (Event.of (Manager.exec · client) m op) := by
  intro w worker state hop hgives
  change op = _ at hop
  subst hop
  have hreport := hgives.report client
  cases hcancel : state.cancel with
  | none =>
    rw [hcancel, if_pos rfl] at hreport
    exact absurd hreport (h.calm w worker.state)
  | some v =>
    by_contra hvw
    obtain ⟨hcancelled, hnot⟩ := hgives.not_spares client hm.sound hcancel fun h => hvw (congrArg some h)
    exact hnot (h.spares w .proceed worker rfl hgives.runs hcancelled)

theorem safe_of_ownCancel (hm : Orderly m)
    (h : OwnCancel (Event.of (Manager.exec · client) m op)) : SafeStep (Event.of (Manager.exec · client) m op) := by
  have hstep := m.exec_registryStep client op
  have hcalm : ∀ w p, (m.exec client op).2 ≠ .panicked w p := by
    intro w p hreport
    obtain ⟨rfl, worker, state, hgives, -⟩ := Manager.exec_givesUp (.inr hreport)
    rw [hgives.report client, h w worker state rfl hgives] at hreport
    cases hreport
  refine ⟨hcalm, exec_locksHeld client op hm.locks hcalm, fun w choice worker hop hworker _ => ?_⟩
  change op = _ at hop
  subst hop
  refine hstep.spares (Manager.exec_worker_report client w choice) (hcalm w) fun p slot hreport hslot => ?_
  obtain ⟨heq, worker', state, hgives, -⟩ := Manager.exec_givesUp (.inl hreport)
  cases heq
  have hown := h w worker' state rfl hgives
  rw [hgives.report client, hown] at hreport
  cases hreport
  rw [Manager.slots_getElem? hgives.room] at hslot
  cases hslot
  exact hown

/-- **No step panics, leaves a lock held or cancels a later worker, exactly if every worker at the end of `recoveryLoop`
finds its own cancel function.** -/
theorem safe_iff (client : Bool) (ops : List RoomOp) :
    (∀ e ∈ trace (Manager.exec · client) {} ops, SafeStep e) ↔ ∀ e ∈ trace (Manager.exec · client) {} ops, OwnCancel e := by
  have hinit : Orderly {} := ⟨Registry.sound_empty, locksHeld_empty⟩
  refine trace_forall_iff (fun m op hm => ⟨ownCancel_of_safe hm, safe_of_ownCancel hm⟩) (fun m op hm hown => ?_) hinit ops
  exact ⟨(m.exec_registryStep client op).sound hm.sound, (safe_of_ownCancel hm hown).locks⟩

/-! ### A stop before the end of `recoveryLoop` -/

/-- A worker whose session has expired and whose ten attempts to recover have failed. -/
def exhaustedOps (w : Nat) : List RoomOp :=
  let expired : QrError := { text := "session expired", fetchError := some { kind := .authExpired } }
  [.worker w (.result (.error expired)), .worker w .proceed] ++ List.replicate 4 (.workerTask w 0) ++
    (List.replicate 10 [.worker w (.result (.error expired)), .worker w .proceed]).flatten

/-- The room is stopped while its worker is about to enter the section at the end of `recoveryLoop`. -/
def stoppedRecovery : List RoomOp :=
  createRoomOps 0 "room" "class" ++ startRoomOps 1 "room" ++ fetchOps 0 ++ exhaustedOps 0 ++ stopRoomOps 2 "room"

theorem stoppedRecovery_not_safe :
    ¬ ∀ client ops, ∀ e ∈ trace (Manager.exec · client) {} ops, SafeStep e := by
  intro h
  have hlast := h true (stoppedRecovery ++ [.worker 0 .proceed]) _ (mem_trace_snoc _ _ _)
  have hpanic : (Event.of (Manager.exec · true) (final (Manager.exec · true) {} stoppedRecovery)
      (.worker 0 .proceed)).out = .panicked 0 0 := by
    decide +kernel
  exact hlast.calm 0 0 hpanic

end Safe

end QrCommandCenter.Rooms
