import QrCommandCenter.Rooms.Contexts
import QrCommandCenter.Rooms.Effects

/-!
# The cancel function as a sign of a live worker

`StartRoom` and `EnsureSessionRoom` start a worker if the room has no cancel function, since "only a live worker
(cancel != nil) proves the QR loop is running".

* `Registry.Worked` : an uncancelled worker of a room has not returned;
* `Registry.Truthful` : the cancel function of every registered room says so;
* `Registry.Tended` : what makes it truthful, and how the steps keep it;
* `StaffedStep`, `TendedStep`, `staffed_iff` : the flag is truthful in every run in which no worker returns on its own and
  `CreateRoom` does not replace a room with a worker.
-/

namespace QrCommandCenter.Rooms
open Domain Transition

/-! ## The flag -/

namespace Registry

variable {room : Room}

/-- An uncancelled worker of room `id` has not returned. -/
def Worked (c : Registry) (id : String) : Prop :=
  ∃ (w : Nat) (agent : Agent) (slot : Slot), c.agents[w]? = some agent ∧ agent.live = true ∧
    c.slots[agent.state]? = some slot ∧ slot.room.roomID = id

/-- The cancel function of a registered room is there exactly if a worker of the room is. -/
def Truthful (c : Registry) : Prop :=
  ∀ (id : String) (p : Nat) (slot : Slot), c.rooms id = some p → c.slots[p]? = some slot →
    (slot.cancel ≠ none ↔ c.Worked id)

/-- Live workers work on the room of the map, and the worker of a cancel function in the map runs. -/
structure Tended (c : Registry) : Prop where
  homed : ∀ (w : Nat) (agent : Agent) (slot : Slot), c.agents[w]? = some agent → agent.live = true →
    c.slots[agent.state]? = some slot → c.rooms slot.room.roomID = some agent.state
  manned : ∀ (id : String) (p : Nat) (slot : Slot) (w : Nat) (agent : Agent), c.rooms id = some p →
    c.slots[p]? = some slot → slot.cancel = some w → c.agents[w]? = some agent → agent.exited = false

theorem tended_empty : Tended {} where
  homed := fun w agent slot h => by simp at h
  manned := fun id p slot w agent h => by cases h

variable {c : Registry} {p w : Nat} {id : String} {slot : Slot} {agent : Agent}

section
variable (ht : c.Tended) (hs : c.Sound) (hreg : c.rooms id = some p) (hslot : c.slots[p]? = some slot)
include ht hs hreg hslot

theorem Tended.live
    (hcancel : slot.cancel = some w) : ∃ agent, c.agents[w]? = some agent ∧ agent.live = true ∧ agent.state = p := by
  obtain ⟨agent, hagent, hstate⟩ := hs.owned p slot w hslot hcancel
  have hopen := hs.armed id p slot w agent hreg hslot hcancel hagent
  have hruns := ht.manned id p slot w agent hreg hslot hcancel hagent
  exact ⟨agent, hagent, by simp [Agent.live, hopen, hruns], hstate⟩

theorem Tended.cancel_eq (hagent : c.agents[w]? = some agent) (hlive : agent.live = true) {own : Slot}
    (hown : c.slots[agent.state]? = some own) (hid : own.room.roomID = id) : slot.cancel = some w := by
  have hhome := ht.homed w agent own hagent hlive hown
  rw [hid, hreg] at hhome
  cases hhome
  rw [hslot] at hown
  cases hown
  exact hs.held w agent slot hagent hlive hslot

end

theorem Tended.truthful (ht : c.Tended) (hs : c.Sound) : c.Truthful := by
  intro id p slot hreg hslot
  constructor
  · intro hcancel
    obtain ⟨w, hw⟩ := Option.ne_none_iff_exists'.mp hcancel
    obtain ⟨agent, hagent, hlive, rfl⟩ := ht.live hs hreg hslot hw
    obtain ⟨named, hnamed, hid⟩ := hs.named id agent.state hreg
    rw [hslot] at hnamed
    cases hnamed
    exact ⟨w, agent, slot, hagent, hlive, hslot, hid⟩
  · rintro ⟨w, agent, own, hagent, hlive, hown, hid⟩
    rw [ht.cancel_eq hs hreg hslot hagent hlive hown hid]
    intro h
    cases h

/-! ### Steps -/

/-- No registered room has the cancel function of worker `v`. -/
def Unclaimed (c : Registry) (v : Nat) : Prop :=
  ∀ (id : String) (q : Nat) (y : Slot), c.rooms id = some q → c.slots[q]? = some y → y.cancel ≠ some v

/-- A step without a new room, worker or cancel function, where only unclaimed workers return. -/
theorem Tended.shrink (ht : c.Tended) {c' : Registry} (hrooms : c'.rooms = c.rooms)
    (hslots : ∀ (q : Nat) (x : Slot), c'.slots[q]? = some x → ∃ y : Slot, c.slots[q]? = some y ∧
      x.room.roomID = y.room.roomID ∧ (x.cancel = none ∨ x.cancel = y.cancel))
    (hagents : ∀ (v : Nat) (x : Agent), c'.agents[v]? = some x → ∃ y : Agent, c.agents[v]? = some y ∧ x.state = y.state ∧
      (x.live = true → y.live = true) ∧ (x.exited = y.exited ∨ c.Unclaimed v)) : c'.Tended := by
  constructor
  · intro v x slot hx hlive hslot
    obtain ⟨y, hy, hstate, hylive, -⟩ := hagents v x hx
    obtain ⟨z, hz, hid, -⟩ := hslots _ slot hslot
    rw [hstate] at hz
    rw [hrooms, hid, hstate]
    exact ht.homed v y z hy (hylive hlive) hz
  · intro id q slot v x hq hslot hv hx
    rw [hrooms] at hq
    obtain ⟨z, hz, -, hnone | hsame⟩ := hslots q slot hslot
    · rw [hnone] at hv
      cases hv
    · rw [hsame] at hv
      obtain ⟨y, hy, -, -, hexited | hfree⟩ := hagents v x hx
      · rw [hexited]
        exact ht.manned id q z v y hq hz hv hy
      · exact absurd hv (hfree id q z hq hz)

theorem slots_of_set {slots : List Slot} {q : Nat} {new x : Slot} (hslot : slots[p]? = some slot)
    (hx : (slots.set p new)[q]? = some x) (hid : new.room.roomID = slot.room.roomID)
    (hcancel : new.cancel = none ∨ new.cancel = slot.cancel) :
    ∃ y : Slot, slots[q]? = some y ∧ x.room.roomID = y.room.roomID ∧ (x.cancel = none ∨ x.cancel = y.cancel) := by
  rcases getElem?_set_cases hx with ⟨rfl, rfl⟩ | ⟨-, hx⟩
  · exact ⟨slot, hslot, hid, hcancel⟩
  · exact ⟨x, hx, rfl, .inr rfl⟩

theorem Tended.release (ht : c.Tended) {new : Slot} (hslot : c.slots[p]? = some slot)
    (hid : new.room.roomID = slot.room.roomID) (hcancel : new.cancel = none) :
    ((c.cancelOf slot.cancel).setSlot p new).Tended := by
  refine ht.shrink (cancelOf_rooms c _) (fun q x hx => ?_) (fun v x hx => ?_)
  · rw [Registry.setSlot, cancelOf_slots] at hx
    exact slots_of_set hslot hx hid (.inl hcancel)
  · obtain ⟨y, hy, hstate, hexited, hlive, -⟩ := cancelOf_agents hx
    exact ⟨y, hy, hstate, fun h => (hlive h).1, .inl hexited⟩

theorem exit_agents {v : Nat} {x : Agent} (hfree : c.Unclaimed w) (hx : (c.exit w).agents[v]? = some x) :
    ∃ y : Agent, c.agents[v]? = some y ∧ x.state = y.state ∧ (x.live = true → y.live = true) ∧
      (x.exited = y.exited ∨ c.Unclaimed v) := by
  obtain ⟨y, hy, ⟨rfl, rfl⟩ | ⟨-, rfl⟩⟩ := getElem?_modify_cases hx
  · exact ⟨y, hy, rfl, fun h => by simp [Agent.live, Agent.exit] at h, .inr hfree⟩
  · exact ⟨x, hy, rfl, fun h => h, .inl rfl⟩

theorem Sound.unclaimed (hs : c.Sound) (hagent : c.agents[w]? = some agent) (hcancelled : agent.cancelled = true) :
    c.Unclaimed w := by
  intro id q y hq hy hw
  have hopen := hs.armed id q y w agent hq hy hw hagent
  rw [hcancelled] at hopen
  cases hopen

theorem Sound.unclaimed_of_none (hs : c.Sound) (hagent : c.agents[w]? = some agent)
    (hslot : c.slots[agent.state]? = some slot) (hcancel : slot.cancel = none) : c.Unclaimed w := by
  intro id q y hq hy hw
  obtain ⟨agent', hagent', hstate⟩ := hs.owned q y w hy hw
  rw [hagent] at hagent'
  cases hagent'
  rw [hstate, hy] at hslot
  cases hslot
  rw [hcancel] at hw
  cases hw

section
variable (ht : c.Tended) (hs : c.Sound)
include ht hs

theorem Tended.delete (hreg : c.rooms id = some p) (hslot : c.slots[p]? = some slot) :
    ({ c.cancelOf slot.cancel with rooms := Function.update c.rooms id none } : Registry).Tended := by
  constructor
  · intro v x own hx hlive hown
    obtain ⟨y, hy, hstate, -, hylive, -⟩ := cancelOf_agents hx
    obtain ⟨hyl, hne⟩ := hylive hlive
    rw [cancelOf_slots, hstate] at hown
    have hother : own.room.roomID ≠ id := fun hid => hne (ht.cancel_eq hs hreg hslot hy hyl hown hid)
    show Function.update c.rooms id none own.room.roomID = some x.state
    rw [Function.update_of_ne hother, hstate]
    exact ht.homed v y own hy hyl hown
  · intro id' q own v x hq hown hv hx
    obtain ⟨y, hy, -, hexited, -⟩ := cancelOf_agents hx
    rw [cancelOf_slots] at hown
    rw [hexited]
    change Function.update c.rooms id none id' = some q at hq
    by_cases hid : id' = id
    · subst hid
      simp at hq
    · rw [Function.update_of_ne hid] at hq
      exact ht.manned id' q own v y hq hown hv hy

theorem Tended.start (hreg : c.rooms id = some p) (hslot : c.slots[p]? = some slot)
    (hid : room.roomID = slot.room.roomID) :
    ({ c.setSlot p ⟨room, some c.agents.length⟩ with agents := c.agents ++ [{ state := p }] } : Registry).Tended := by
  obtain ⟨named, hnamed, hname⟩ := hs.named id p hreg
  rw [hslot] at hnamed
  cases hnamed
  constructor
  · intro v x own hx hlive hown
    rcases getElem?_append_cases hx with ⟨-, rfl⟩ | hx
    · rw [Option.some.inj (hown.symm.trans (getElem?_set_same hslot)), hid, hname]
      exact hreg
    · rcases getElem?_set_cases hown with ⟨hstate, rfl⟩ | ⟨-, hown⟩
      · rw [← hstate] at hslot
        rw [hid]
        exact ht.homed v x slot hx hlive hslot
      · exact ht.homed v x own hx hlive hown
  · intro id' q own v x hq hown hv hx
    rcases getElem?_append_cases hx with ⟨-, rfl⟩ | hx
    · rfl
    · rcases getElem?_set_cases hown with ⟨-, rfl⟩ | ⟨-, hown⟩
      · cases hv
        exact absurd (List.getElem?_eq_some_iff.mp hx).1 (lt_irrefl _)
      · exact ht.manned id' q own v x hq hown hv hx

theorem Tended.register
    (hfree : ∀ p slot, c.rooms room.roomID = some p → c.slots[p]? = some slot → slot.cancel = none) : ({ c with
    slots := c.slots ++ [{ room := room }]
    rooms := Function.update c.rooms room.roomID (some c.slots.length) } : Registry).Tended := by
  constructor
  · intro v x own hx hlive hown
    obtain ⟨y, hy⟩ := hs.placed v x hx
    rcases getElem?_append_cases hown with ⟨hlength, -⟩ | hown
    · rw [hlength, List.getElem?_eq_none (le_refl _)] at hy
      cases hy
    · have hhome := ht.homed v x own hx hlive hown
      have hother : own.room.roomID ≠ room.roomID := by
        intro hid
        rw [hid] at hhome
        have hcancel := hfree x.state own hhome hown
        rw [hs.held v x own hx hlive hown] at hcancel
        cases hcancel
      exact (Function.update_of_ne hother _ _).trans hhome
  · intro id q own v x hq hown hv hx
    rcases getElem?_append_cases hown with ⟨-, rfl⟩ | hown
    · cases hv
    · change Function.update c.rooms room.roomID (some c.slots.length) id = some q at hq
      by_cases hid : id = room.roomID
      · subst hid
        rw [Function.update_self] at hq
        cases hq
        rw [List.getElem?_eq_none (le_refl _)] at hown
        cases hown
      · rw [Function.update_of_ne hid] at hq
        exact ht.manned id q own v x hq hown hv hx

/-! ### What makes the flag lie -/

theorem Tended.not_truthful_exit (hagent : c.agents[w]? = some agent)
    (hlive : agent.live = true) : ¬ (c.exit w).Truthful := by
  intro htruthful
  obtain ⟨own, hown⟩ := hs.placed w agent hagent
  have hhome := ht.homed w agent own hagent hlive hown
  have hheld := hs.held w agent own hagent hlive hown
  obtain ⟨v, x, slot, hx, hxlive, hslot, hid⟩ :=
    (htruthful _ agent.state own hhome hown).mp (by rw [hheld]; intro h; cases h)
  -- the live worker that is left has the same cancel function
  obtain ⟨y, hy, ⟨rfl, rfl⟩ | ⟨hvw, rfl⟩⟩ := getElem?_modify_cases hx
  · simp [Agent.live, Agent.exit] at hxlive
  · have hcancel := ht.cancel_eq hs hhome hown hy hxlive hslot hid
    rw [hheld] at hcancel
    exact hvw (Option.some.inj hcancel).symm

theorem Tended.not_truthful_register (hreg : c.rooms room.roomID = some p)
    (hslot : c.slots[p]? = some slot) (hcancel : slot.cancel = some w) : ¬ Truthful { c with
      slots := c.slots ++ [{ room := room }]
      rooms := Function.update c.rooms room.roomID (some c.slots.length) } := by
  intro htruthful
  obtain ⟨agent, hagent, hlive, rfl⟩ := ht.live hs hreg hslot hcancel
  obtain ⟨named, hnamed, hid⟩ := hs.named _ _ hreg
  rw [hslot] at hnamed
  cases hnamed
  have hnew := htruthful room.roomID c.slots.length { room := room } (Function.update_self _ _ _) List.getElem?_concat_length
  exact hnew.mpr ⟨w, agent, slot, hagent, hlive, getElem?_append_kept hslot _, hid⟩ rfl

end

end Registry

/-- **A step keeps the flag truthful** if no open worker returns in it and no room with a cancel function is replaced. -/
theorem RegistryStep.tended {c c' : Registry} {report : Report} (h : RegistryStep c report c') (hs : c.Sound) (ht : c.Tended)
    (hleaves : ∀ w agent, report = .exited w → c.agents[w]? = some agent → agent.cancelled = true)
    (hregisters : ∀ q room p slot, report = .registered q room → c.rooms room.roomID = some p → c.slots[p]? = some slot →
      slot.cancel = none) : c'.Tended := by
  cases h with
  | stay => exact ht
  | register room => exact ht.register hs fun p slot hreg hslot => hregisters _ room p slot rfl hreg hslot
  | alreadyStarted => exact ht
  | start hreg hslot hcancel => exact ht.start hs hreg hslot (startedRoom_roomID _)
  | stop hreg hslot => exact ht.release hslot (stoppedRoom_roomID _) rfl
  | halt hreg hslot hcancel =>
    have hrelease := ht.release hslot (Room.moveTo_roomID _ .stopped) (rfl : (⟨_, none⟩ : Slot).cancel = none)
    rw [hcancel] at hrelease
    exact hrelease
  | delete hreg hslot => exact ht.delete hs hreg hslot
  | write hagent hruns hslot hopen =>
    refine ht.shrink rfl (fun q x hx => ?_) (fun v x hx => ⟨x, hx, rfl, fun h => h, .inl rfl⟩)
    exact Registry.slots_of_set hslot hx (LockSection.room_roomID _ _) (.inr rfl)
  | giveUp hagent hruns hslot hcancel =>
    have hrelease := ht.release hslot (recoveryFailed_roomID _) (rfl : (⟨_, none⟩ : Slot).cancel = none)
    rw [hcancel] at hrelease
    exact hrelease
  | panic hagent hruns hslot hcancel =>
    have hfree := hs.unclaimed_of_none hagent hslot hcancel
    refine ht.shrink rfl (fun q x hx => ?_) (fun v x hx => Registry.exit_agents hfree hx)
    exact Registry.slots_of_set hslot hx (recoveryFailed_roomID _) (.inl rfl)
  | exit hagent hruns =>
    have hfree := hs.unclaimed hagent (hleaves _ _ rfl hagent)
    exact ht.shrink rfl (fun q x hx => ⟨x, hx, rfl, .inr rfl⟩) (fun v x hx => Registry.exit_agents hfree hx)

/-! ## Runs -/

/-- **The flag is right, and so are the calls that trust it**: a registered room has a cancel function exactly if a
worker of it is live, and `StartRoom` and `EnsureSessionRoom` start one exactly if none is. -/
structure StaffedStep (e : Event Manager RoomOp Report) : Prop where
  truthful : e.post.registry.Truthful
  starts : ∀ i id p, e.op = .call i .proceed → e.pre.calls[i]? = some ⟨.startLocked id, []⟩ → e.pre.mu = none →
    e.pre.rooms id = some p →
    e.out = .started p e.pre.workers.length ∧ ¬ e.pre.registry.Worked id ∨
    e.out = .alreadyStarted p ∧ e.pre.registry.Worked id
  ensures : ∀ i id courseID p, e.op = .call i .proceed → e.pre.calls[i]? = some ⟨.ensured id courseID, []⟩ →
    e.pre.mu = none → e.pre.rooms id = some p →
    ((∃ call, e.post.calls[i]? = some call ∧ call.pc = .startRoom id) ↔ ¬ e.pre.registry.Worked id)

/-- Only a cancelled worker returns, and `CreateRoom` replaces no room that has a cancel function. -/
structure TendedStep (e : Event Manager RoomOp Report) : Prop where
  leaves : ∀ w worker, e.op = .worker w .proceed → e.pre.workers[w]? = some worker → worker.pc = .leaving →
    worker.todo = [] → worker.cancelled = true
  registers : ∀ i room ensure p state, e.op = .call i .proceed → e.pre.calls[i]? = some ⟨.registerNew room ensure, []⟩ →
    e.pre.mu = none → e.pre.rooms room.roomID = some p → e.pre.states[p]? = some state → state.cancel = none

structure WellTended (m : Manager) : Prop where
  sound : m.registry.Sound
  tended : m.registry.Tended

section Runs
variable {m : Manager} {client : Bool} {op : RoomOp}
variable {i p : Nat} {id : String}

theorem wellTended_of_tendedStep (hm : WellTended m) (h : TendedStep (Event.of (Manager.exec · client) m op)) :
    WellTended (m.exec client op).1 := by
  have hstep := m.exec_registryStep client op
  refine ⟨hstep.sound hm.sound, hstep.tended hm.sound hm.tended (fun w agent hreport hagent => ?_)
    fun q room p slot hreport hreg hslot => ?_⟩
  · obtain ⟨rfl, worker, hworker, hpc, htodo⟩ := Manager.exec_exited hreport
    rw [Manager.agents_getElem? hworker] at hagent
    cases hagent
    exact h.leaves w worker rfl hworker hpc htodo
  · obtain ⟨i, rfl, hmu, ⟨ensure, hcall⟩ | ⟨-, hnone⟩⟩ := Manager.exec_registered hreport
    · obtain ⟨state, hstate, rfl⟩ := Manager.slots_inv hslot
      exact h.registers i room ensure p state rfl hcall hmu hreg hstate
    · rw [show m.registry.rooms = m.rooms from rfl, hnone] at hreg
      cases hreg

theorem tendedStep_of_truthful (hm : WellTended m) (h : (m.exec client op).1.registry.Truthful) :
    TendedStep (Event.of (Manager.exec · client) m op) := by
  have hstep := m.exec_registryStep client op
  constructor
  · intro w worker hop hworker hpc htodo
    change op = _ at hop
    subst hop
    have hagent : m.registry.agents[w]? = some worker.agent := Manager.agents_getElem? hworker
    obtain ⟨slot, hslot⟩ := hm.sound.placed w worker.agent hagent
    obtain ⟨state, hstate, rfl⟩ := Manager.slots_inv hslot
    have hacts : m.Acts client w .proceed worker state (.go .exited) :=
      ⟨hworker, htodo, hstate, by simp [Worker.turn, hpc], .inl rfl⟩
    have hreport : (m.exec client (.worker w .proceed)).2 = .exited w := by
      rw [hacts.exec]
      rfl
    by_contra hopen
    rw [hreport] at hstep
    rw [hstep.exited_inv] at h
    exact hm.tended.not_truthful_exit hm.sound hagent (by simpa [Agent.live, Worker.agent, hpc] using hopen) h
  · intro i room ensure p state hop hcall hmu hreg hstate
    change op = _ at hop
    subst hop
    change m.calls[i]? = _ at hcall
    have hmove : m.callTurn i (.registerNew room ensure) .proceed = some _ := if_pos hmu
    have hreport : (m.exec client (.call i .proceed)).2 = .registered m.states.length room := by
      rw [Manager.exec_call hcall hmove]
    by_contra hcancel
    obtain ⟨w, hw⟩ := Option.ne_none_iff_exists'.mp hcancel
    rw [hreport] at hstep
    rw [hstep.registered_inv] at h
    exact hm.tended.not_truthful_register hm.sound hreg (Manager.slots_getElem? hstate) hw h

theorem starts_of_truthful (hm : WellTended m) (hcall : m.calls[i]? = some ⟨.startLocked id, []⟩) (hmu : m.mu = none)
    (hreg : m.rooms id = some p) :
    (m.exec client (.call i .proceed)).2 = .started p m.workers.length ∧ ¬ m.registry.Worked id ∨
    (m.exec client (.call i .proceed)).2 = .alreadyStarted p ∧ m.registry.Worked id := by
  obtain ⟨slot, hslot, -⟩ := hm.sound.named id p hreg
  obtain ⟨state, hstate, rfl⟩ := Manager.slots_inv hslot
  have htruthful := hm.tended.truthful hm.sound id p state.slot hreg hslot
  have hmove : m.callTurn i (.startLocked id) .proceed = some _ := if_pos hmu
  rw [Manager.exec_call hcall hmove, Manager.registered?_of hreg hstate]
  by_cases hcancel : state.cancel = none
  · exact .inl ⟨by simp [hcancel], fun hworked => htruthful.mpr hworked hcancel⟩
  · exact .inr ⟨by simp [hcancel, Manager.finish], htruthful.mp hcancel⟩

theorem ensuredTurn_pc {courseID : String} {state : RoomState} {move : Manager.CallMove}
    (hregistered : m.registered? id = some (p, state)) (h : m.ensuredTurn i id courseID = some move) :
    move.manager.calls = m.calls ∧ (move.pc = .startRoom id ↔ state.cancel = none) := by
  have heq := Manager.of_locked h
  rw [hregistered] at heq
  rw [← heq]
  by_cases hcancel : state.cancel = none
  · simp only [hcancel, if_true]
    split <;> exact ⟨rfl, trivial⟩
  · simp only [hcancel, if_false, iff_false]
    split <;> exact ⟨rfl, (fun h => by cases h)⟩

/-- `EnsureSessionRoom` goes on to `StartRoom` exactly if a truthful flag says that there is no worker. -/
theorem ensures_of_truthful (hm : WellTended m) {courseID : String}
    (hcall : m.calls[i]? = some ⟨.ensured id courseID, []⟩) (hmu : m.mu = none) (hreg : m.rooms id = some p) :
    (∃ call, (m.exec client (.call i .proceed)).1.calls[i]? = some call ∧ call.pc = .startRoom id) ↔
      ¬ m.registry.Worked id := by
  obtain ⟨slot, hslot, -⟩ := hm.sound.named id p hreg
  obtain ⟨state, hstate, rfl⟩ := Manager.slots_inv hslot
  have htruthful := hm.tended.truthful hm.sound id p state.slot hreg hslot
  obtain ⟨move, hmove⟩ : ∃ move, m.ensuredTurn i id courseID = some move := ⟨_, if_pos hmu⟩
  obtain ⟨hcalls, hpc⟩ := ensuredTurn_pc (Manager.registered?_of hreg hstate) hmove
  have hturn : m.callTurn i (.ensured id courseID) .proceed = some move := hmove
  have hmoved : (m.exec client (.call i .proceed)).1.calls[i]? = some ⟨move.pc, move.todo⟩ := by
    rw [Manager.exec_call hcall hturn]
    show (move.manager.calls.set i _)[i]? = _
    rw [hcalls]
    exact getElem?_set_same hcall
  constructor
  · rintro ⟨call, hc, hstart⟩ hworked
    rw [hmoved] at hc
    cases hc
    exact htruthful.mpr hworked (hpc.mp hstart)
  · intro hidle
    have hnone : state.cancel = none := by
      by_contra hcancel
      exact hidle (htruthful.mp hcancel)
    exact ⟨_, hmoved, hpc.mpr hnone⟩

theorem staffedStep_of_tendedStep (hm : WellTended m) (h : TendedStep (Event.of (Manager.exec · client) m op)) :
    StaffedStep (Event.of (Manager.exec · client) m op) := by
  have hpost := wellTended_of_tendedStep hm h
  refine ⟨hpost.tended.truthful hpost.sound, fun i id p hop hcall hmu hreg => ?_, fun i id courseID p hop hcall hmu hreg => ?_⟩
  · change op = _ at hop
    subst hop
    exact starts_of_truthful hm hcall hmu hreg
  · change op = _ at hop
    subst hop
    exact ensures_of_truthful hm hcall hmu hreg

/-- **The cancel function of a registered room is truthful in every step, exactly if only cancelled workers return and
`CreateRoom` replaces no room that has one.** -/
theorem staffed_iff (client : Bool) (ops : List RoomOp) :
    (∀ e ∈ trace (Manager.exec · client) {} ops, StaffedStep e) ↔
      ∀ e ∈ trace (Manager.exec · client) {} ops, TendedStep e := by
  have hinit : WellTended {} := ⟨Registry.sound_empty, Registry.tended_empty⟩
  exact trace_forall_iff
    (fun m op hm => ⟨fun h => tendedStep_of_truthful hm h.truthful, staffedStep_of_tendedStep hm⟩)
    (fun m op hm h => wellTended_of_tendedStep hm h) hinit ops

/-! ### A worker that returns on its own -/

/-- A room is created and started without a QR client, and its worker returns. -/
def unattended : List RoomOp :=
  createRoomOps 0 "room" "class" ++ startRoomOps 1 "room" ++ .worker 0 .proceed :: List.replicate 4 (.workerTask 0 0)

def unattendedReturn : Event Manager RoomOp Report :=
  .of (Manager.exec · false) (final (Manager.exec · false) {} unattended) (.worker 0 .proceed)

theorem unattended_not_staffed : ¬ ∀ client ops, ∀ e ∈ trace (Manager.exec · client) {} ops, StaffedStep e := by
  intro h
  have hmem : unattendedReturn ∈ trace (Manager.exec · false) {} (unattended ++ [.worker 0 .proceed]) := mem_trace_snoc _ _ _
  have htruthful := (h false _ _ hmem).truthful
  have hreg : unattendedReturn.post.registry.rooms "room" = some 0 := by decide +kernel
  have hcancel : unattendedReturn.post.registry.slots[0]?.map Slot.cancel = some (some 0) := by decide +kernel
  have hidle : unattendedReturn.post.registry.agents.all (fun agent => !agent.live) = true := by decide +kernel
  obtain ⟨slot, hslot, hsome⟩ := Option.map_eq_some_iff.mp hcancel
  -- the room has a cancel function, and no worker is live
  obtain ⟨w, agent, -, hagent, hlive, -⟩ := (htruthful "room" 0 slot hreg hslot).mp (by rw [hsome]; intro h; cases h)
  have hdead := List.all_eq_true.mp hidle agent (List.mem_of_getElem? hagent)
  simp [hlive] at hdead

end Runs

end QrCommandCenter.Rooms
