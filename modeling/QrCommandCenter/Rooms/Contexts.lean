import QrCommandCenter.Rooms.Registry

/-!
# The contexts of the workers

What every run of the manager keeps: the cancel function of a room is that of its latest worker, and every worker that runs
with an open context has its cancel function in its room.

* `Registry.Sound` : the invariant;
* `Sound.rewrite`, `Sound.exit`, `Sound.release`, `Sound.delete`, `Sound.register`, `Sound.start` : the changes that keep it;
* `RegistryStep.sound` : every step does;
* `Manager.run_exclusive` : no two workers run a room.
-/

namespace QrCommandCenter.Rooms
open Domain Transition

/-! ## Rooms keep their names -/

section
variable (room : Room)

@[simp] theorem withQR_roomID (resp : QrResponse) (now : Time) : (withQR room resp now).roomID = room.roomID := rfl

@[simp] theorem LockSection.room_roomID (lockSection : LockSection) :
    (lockSection.room room).roomID = room.roomID := by
  cases lockSection <;> simp [LockSection.room]

@[simp] theorem startedRoom_roomID : (startedRoom room).roomID = room.roomID := by
  unfold startedRoom
  split <;> simp

@[simp] theorem stoppedRoom_roomID : (stoppedRoom room).roomID = room.roomID := by
  simp [stoppedRoom]

@[simp] theorem recoveryFailed_roomID : (recoveryFailed room).roomID = room.roomID := by
  simp [recoveryFailed]

end

/-! ## The invariant -/

namespace Registry

variable {p v : Nat} {slot new : Slot} {q : Nat} {y : Slot} {cancel : Option Nat}

structure Sound (c : Registry) : Prop where
  /-- The map leads to a room of that name. -/
  named : ∀ (id : String) (p : Nat), c.rooms id = some p → ∃ slot, c.slots[p]? = some slot ∧ slot.room.roomID = id
  placed : ∀ (w : Nat) (agent : Agent), c.agents[w]? = some agent → ∃ slot, c.slots[agent.state]? = some slot
  /-- A worker that runs with an open context has its cancel function in its room. -/
  held : ∀ (w : Nat) (agent : Agent) (slot : Slot), c.agents[w]? = some agent → agent.live = true →
    c.slots[agent.state]? = some slot → slot.cancel = some w
  /-- The cancel function of a room is that of one of its workers. -/
  owned : ∀ (p : Nat) (slot : Slot) (w : Nat), c.slots[p]? = some slot → slot.cancel = some w →
    ∃ agent, c.agents[w]? = some agent ∧ agent.state = p
  /-- The cancel function of a room is that of its latest worker. -/
  latest : ∀ (p : Nat) (slot : Slot) (v w : Nat) (agent : Agent), c.slots[p]? = some slot → slot.cancel = some v →
    c.agents[w]? = some agent → agent.state = p → w ≤ v
  /-- The cancel function of a registered room has not been called. -/
  armed : ∀ (id : String) (p : Nat) (slot : Slot) (w : Nat) (agent : Agent), c.rooms id = some p →
    c.slots[p]? = some slot → slot.cancel = some w → c.agents[w]? = some agent → agent.cancelled = false

theorem sound_empty : Sound {} where
  named := fun id p h => by cases h
  placed := fun w agent h => by simp at h
  held := fun w agent slot h => by simp at h
  owned := fun p slot w h => by simp at h
  latest := fun p slot v w agent h => by simp at h
  armed := fun id p slot w agent h => by cases h

variable {c : Registry}

theorem slots_set_of {slots : List Slot} (hslot : slots[p]? = some slot)
    (hid : new.room.roomID = slot.room.roomID) (hy : slots[q]? = some y) :
    ∃ x : Slot, (slots.set p new)[q]? = some x ∧ x.room.roomID = y.room.roomID :=
  exists_getElem?_set (P := fun y x => x.room.roomID = y.room.roomID) hslot hid rfl hy

theorem Sound.rewrite (hs : c.Sound) (hslot : c.slots[p]? = some slot) (hid : new.room.roomID = slot.room.roomID)
    (hcancel : new.cancel = slot.cancel) : (c.setSlot p new).Sound := by
  -- every room of the new heap is one of the old heap, up to the written one
  have hold : ∀ (q : Nat) (x : Slot), (c.slots.set p new)[q]? = some x →
      ∃ y : Slot, c.slots[q]? = some y ∧ x.cancel = y.cancel ∧ x.room.roomID = y.room.roomID := by
    intro q x hx
    rcases getElem?_set_cases hx with ⟨rfl, rfl⟩ | ⟨-, hx⟩
    · exact ⟨slot, hslot, hcancel, hid⟩
    · exact ⟨x, hx, rfl, rfl⟩
  constructor
  · intro id q hq
    obtain ⟨y, hy, hyid⟩ := hs.named id q hq
    obtain ⟨x, hx, hxid⟩ := slots_set_of hslot hid hy
    exact ⟨x, hx, hxid.trans hyid⟩
  · intro w agent hagent
    obtain ⟨y, hy⟩ := hs.placed w agent hagent
    obtain ⟨x, hx, -⟩ := slots_set_of hslot hid hy
    exact ⟨x, hx⟩
  · intro w agent x hagent hlive hx
    obtain ⟨y, hy, hxy, -⟩ := hold _ x hx
    rw [hxy]
    exact hs.held w agent y hagent hlive hy
  · intro q x w hx hw
    obtain ⟨y, hy, hxy, -⟩ := hold q x hx
    exact hs.owned q y w hy (hxy.symm.trans hw)
  · intro q x v w agent hx hv
    obtain ⟨y, hy, hxy, -⟩ := hold q x hx
    exact hs.latest q y v w agent hy (hxy.symm.trans hv)
  · intro id q x w agent hq hx hw
    obtain ⟨y, hy, hxy, -⟩ := hold q x hx
    exact hs.armed id q y w agent hq hy (hxy.symm.trans hw)

theorem Sound.exit (hs : c.Sound) (w : Nat) : (c.exit w).Sound := by
  have hold : ∀ (v : Nat) (x : Agent), (c.agents.modify w Agent.exit)[v]? = some x →
      ∃ y : Agent, c.agents[v]? = some y ∧ x.state = y.state ∧ x.cancelled = y.cancelled ∧ (x.live = true → y.live = true) := by
    intro v x hx
    obtain ⟨y, hy, ⟨-, rfl⟩ | ⟨-, rfl⟩⟩ := getElem?_modify_cases hx
    · exact ⟨y, hy, rfl, rfl, fun h => by simp [Agent.live, Agent.exit] at h⟩
    · exact ⟨x, hy, rfl, rfl, fun h => h⟩
  constructor
  · exact hs.named
  · intro v x hx
    obtain ⟨y, hy, hstate, -⟩ := hold v x hx
    rw [hstate]
    exact hs.placed v y hy
  · intro v x slot hx hlive hslot
    obtain ⟨y, hy, hstate, -, hyl⟩ := hold v x hx
    rw [hstate] at hslot
    exact hs.held v y slot hy (hyl hlive) hslot
  · intro p slot v hslot hv
    obtain ⟨y, hy, hstate⟩ := hs.owned p slot v hslot hv
    by_cases hvw : v = w
    · subst hvw
      exact ⟨y.exit, by simp [Registry.exit, hy], hstate⟩
    · exact ⟨y, by simp [Registry.exit, Ne.symm hvw, hy], hstate⟩
  · intro p slot v u x hslot hv hx
    obtain ⟨y, hy, hstate, -⟩ := hold u x hx
    rw [hstate]
    exact hs.latest p slot v u y hslot hv hy
  · intro id p slot v x hid hslot hv hx
    obtain ⟨y, hy, -, hcancelled, -⟩ := hold v x hx
    rw [hcancelled]
    exact hs.armed id p slot v y hid hslot hv hy

/-! ### Cancelling -/

theorem cancelOf_slots (c : Registry) (cancel : Option Nat) : (c.cancelOf cancel).slots = c.slots := by
  cases cancel <;> rfl

theorem cancelOf_rooms (c : Registry) (cancel : Option Nat) : (c.cancelOf cancel).rooms = c.rooms := by
  cases cancel <;> rfl

/-- The workers after a cancel function was called: the one of the function is not live, the others are as they were. -/
theorem cancelOf_agents {x : Agent} (h : (c.cancelOf cancel).agents[v]? = some x) :
    ∃ y : Agent, c.agents[v]? = some y ∧ x.state = y.state ∧ x.exited = y.exited ∧
      (x.live = true → y.live = true ∧ cancel ≠ some v) ∧ (cancel ≠ some v → x = y) := by
  cases cancel with
  | none => exact ⟨x, h, rfl, rfl, fun hlive => ⟨hlive, fun h => by cases h⟩, fun _ => rfl⟩
  | some w =>
    obtain ⟨y, hy, ⟨rfl, rfl⟩ | ⟨hvw, rfl⟩⟩ := getElem?_modify_cases h
    · exact ⟨y, hy, rfl, rfl, fun hlive => by simp [Agent.live, Agent.cancel] at hlive, fun h => absurd rfl h⟩
    · exact ⟨x, hy, rfl, rfl, fun hlive => ⟨hlive, fun h => hvw (Option.some.inj h).symm⟩, fun _ => rfl⟩

theorem cancelOf_agents_of {y : Agent} (h : c.agents[v]? = some y) :
    ∃ x : Agent, (c.cancelOf cancel).agents[v]? = some x ∧ x.state = y.state := by
  cases cancel with
  | none => exact ⟨y, h, rfl⟩
  | some w =>
    by_cases hvw : w = v
    · exact ⟨y.cancel, by simp [Registry.cancelOf, Registry.cancelAgent, hvw, h], rfl⟩
    · exact ⟨y, by simp [Registry.cancelOf, Registry.cancelAgent, hvw, h], rfl⟩

theorem Sound.cancel_inj (hs : c.Sound) {x : Slot} (hx : c.slots[p]? = some x) (hy : c.slots[q]? = some y)
    (hxv : x.cancel = some v) (hyv : y.cancel = some v) : p = q := by
  obtain ⟨agent, hagent, rfl⟩ := hs.owned p x v hx hxv
  obtain ⟨agent', hagent', rfl⟩ := hs.owned q y v hy hyv
  rw [hagent] at hagent'
  cases hagent'
  rfl

theorem Sound.release (hs : c.Sound) (hslot : c.slots[p]? = some slot) (hid : new.room.roomID = slot.room.roomID)
    (hcancel : new.cancel = none) :
    ((c.cancelOf slot.cancel).setSlot p new).Sound := by
  have hslots : ((c.cancelOf slot.cancel).setSlot p new).slots = c.slots.set p new := by
    rw [Registry.setSlot, cancelOf_slots]
  have hrooms : ((c.cancelOf slot.cancel).setSlot p new).rooms = c.rooms := cancelOf_rooms c _
  -- a room that still has a cancel function is another one, as it was
  have hother : ∀ (q : Nat) (x : Slot) (v : Nat), (c.slots.set p new)[q]? = some x → x.cancel = some v →
      q ≠ p ∧ c.slots[q]? = some x := by
    intro q x v hx hv
    rcases getElem?_set_cases hx with ⟨rfl, rfl⟩ | h
    · rw [hcancel] at hv
      cases hv
    · exact h
  constructor
  · rw [hslots, hrooms]
    intro id q hq
    obtain ⟨y, hy, hyid⟩ := hs.named id q hq
    obtain ⟨x, hx, hxid⟩ := slots_set_of hslot hid hy
    exact ⟨x, hx, hxid.trans hyid⟩
  · rw [hslots]
    intro w agent hagent
    obtain ⟨y, hy, hstate, -⟩ := cancelOf_agents hagent
    obtain ⟨z, hz⟩ := hs.placed w y hy
    obtain ⟨x, hx, -⟩ := slots_set_of hslot hid hz
    rw [hstate]
    exact ⟨x, hx⟩
  · rw [hslots]
    intro w agent x hagent hlive hx
    obtain ⟨y, hy, hstate, -, hylive, -⟩ := cancelOf_agents hagent
    obtain ⟨hyl, hne⟩ := hylive hlive
    rw [hstate] at hx
    rcases getElem?_set_cases hx with ⟨hq, -⟩ | ⟨-, hx⟩
    · rw [← hq] at hslot
      exact absurd (hs.held w y slot hy hyl hslot) hne
    · exact hs.held w y x hy hyl hx
  · rw [hslots]
    intro q x v hx hv
    obtain ⟨-, hold⟩ := hother q x v hx hv
    obtain ⟨y, hy, hyq⟩ := hs.owned q x v hold hv
    obtain ⟨z, hz, hstate⟩ := cancelOf_agents_of hy
    exact ⟨z, hz, hstate.trans hyq⟩
  · rw [hslots]
    intro q x v w agent hx hv hagent
    obtain ⟨-, hold⟩ := hother q x v hx hv
    obtain ⟨y, hy, hstate, -⟩ := cancelOf_agents hagent
    rw [hstate]
    exact hs.latest q x v w y hold hv hy
  · rw [hslots, hrooms]
    intro id q x v agent hid hx hv hagent
    obtain ⟨hqp, hold⟩ := hother q x v hx hv
    obtain ⟨y, hy, -, -, -, heq⟩ := cancelOf_agents hagent
    rw [heq fun hslotv => hqp (hs.cancel_inj hold hslot hv hslotv)]
    exact hs.armed id q x v y hid hold hv hy

theorem Sound.delete (hs : c.Sound) {id : String} (hreg : c.rooms id = some p) (hslot : c.slots[p]? = some slot) :
    ({ c.cancelOf slot.cancel with rooms := Function.update c.rooms id none } : Registry).Sound := by
  -- a name that is still in the map leads to another room
  have hrooms : ∀ (id' : String) (q : Nat), Function.update c.rooms id none id' = some q → c.rooms id' = some q ∧ q ≠ p := by
    intro id' q hq
    by_cases hid : id' = id
    · subst hid
      simp at hq
    · rw [Function.update_of_ne hid] at hq
      refine ⟨hq, fun hqp => hid ?_⟩
      subst hqp
      obtain ⟨x, hx, hxid⟩ := hs.named id' q hq
      obtain ⟨y, hy, hyid⟩ := hs.named id q hreg
      rw [hx] at hy
      cases hy
      exact hxid.symm.trans hyid
  constructor
  · intro id' q hq
    rw [cancelOf_slots]
    exact hs.named id' q (hrooms id' q hq).1
  · intro w agent hagent
    obtain ⟨y, hy, hstate, -⟩ := cancelOf_agents hagent
    rw [cancelOf_slots, hstate]
    exact hs.placed w y hy
  · intro w agent x hagent hlive hx
    obtain ⟨y, hy, hstate, -, hylive, -⟩ := cancelOf_agents hagent
    rw [cancelOf_slots, hstate] at hx
    exact hs.held w y x hy (hylive hlive).1 hx
  · intro q x v hx hv
    rw [cancelOf_slots] at hx
    obtain ⟨y, hy, hyq⟩ := hs.owned q x v hx hv
    obtain ⟨z, hz, hstate⟩ := cancelOf_agents_of hy
    exact ⟨z, hz, hstate.trans hyq⟩
  · intro q x v w agent hx hv hagent
    rw [cancelOf_slots] at hx
    obtain ⟨y, hy, hstate, -⟩ := cancelOf_agents hagent
    rw [hstate]
    exact hs.latest q x v w y hx hv hy
  · intro id' q x v agent hq hx hv hagent
    rw [cancelOf_slots] at hx
    obtain ⟨hq, hqp⟩ := hrooms id' q hq
    obtain ⟨y, hy, -, -, -, heq⟩ := cancelOf_agents hagent
    rw [heq fun hslotv => hqp (hs.cancel_inj hx hslot hv hslotv)]
    exact hs.armed id' q x v y hq hx hv hy

/-! ### New rooms and workers -/

theorem Sound.register (hs : c.Sound) (room : Room) : ({ c with
    slots := c.slots ++ [{ room := room }]
    rooms := Function.update c.rooms room.roomID (some c.slots.length) } : Registry).Sound := by
  have hrooms : ∀ {id : String} {q : Nat}, Function.update c.rooms room.roomID (some c.slots.length) id = some q →
      id = room.roomID ∧ q = c.slots.length ∨ c.rooms id = some q := by
    intro id q hq
    by_cases hid : id = room.roomID
    · subst hid
      rw [Function.update_self] at hq
      exact .inl ⟨rfl, (Option.some.inj hq).symm⟩
    · rw [Function.update_of_ne hid] at hq
      exact .inr hq
  -- the new room has no cancel function
  have hold : ∀ {q : Nat} {x : Slot} {v : Nat}, (c.slots ++ [({ room := room } : Slot)])[q]? = some x →
      x.cancel = some v → c.slots[q]? = some x := by
    intro q x v hx hv
    rcases getElem?_append_cases hx with ⟨-, rfl⟩ | hx
    · cases hv
    · exact hx
  constructor
  · intro id q hq
    rcases hrooms hq with ⟨rfl, rfl⟩ | hq
    · exact ⟨{ room := room }, List.getElem?_concat_length, rfl⟩
    · obtain ⟨y, hy, hyid⟩ := hs.named id q hq
      exact ⟨y, getElem?_append_kept hy _, hyid⟩
  · intro w agent hagent
    obtain ⟨y, hy⟩ := hs.placed w agent hagent
    exact ⟨y, getElem?_append_kept hy _⟩
  · intro w agent x hagent hlive hx
    obtain ⟨y, hy⟩ := hs.placed w agent hagent
    have hxy : x = y := Option.some.inj (hx.symm.trans (getElem?_append_kept hy _))
    rw [hxy]
    exact hs.held w agent y hagent hlive hy
  · intro q x v hx hv
    exact hs.owned q x v (hold hx hv) hv
  · intro q x v w agent hx hv
    exact hs.latest q x v w agent (hold hx hv) hv
  · intro id q x v agent hq hx hv hagent
    have hx' := hold hx hv
    rcases hrooms hq with ⟨-, rfl⟩ | hq
    · rw [List.getElem?_eq_none (le_refl _)] at hx'
      cases hx'
    · exact hs.armed id q x v agent hq hx' hv hagent

theorem Sound.start (hs : c.Sound) {room : Room} (hslot : c.slots[p]? = some slot) (hcancel : slot.cancel = none)
    (hid : room.roomID = slot.room.roomID) :
    ({ c.setSlot p ⟨room, some c.agents.length⟩ with agents := c.agents ++ [{ state := p }] } : Registry).Sound := by
  have hname : (⟨room, some c.agents.length⟩ : Slot).room.roomID = slot.room.roomID := hid
  have hlt : ∀ {w : Nat} {agent : Agent}, c.agents[w]? = some agent → w < c.agents.length :=
    fun h => (List.getElem?_eq_some_iff.mp h).1
  constructor
  · intro id q hq
    obtain ⟨y, hy, hyid⟩ := hs.named id q hq
    obtain ⟨x, hx, hxid⟩ := slots_set_of hslot hname hy
    exact ⟨x, hx, hxid.trans hyid⟩
  · intro w agent hagent
    rcases getElem?_append_cases hagent with ⟨-, rfl⟩ | hagent
    · exact ⟨_, getElem?_set_same hslot⟩
    · obtain ⟨y, hy⟩ := hs.placed w agent hagent
      obtain ⟨x, hx, -⟩ := slots_set_of hslot hname hy
      exact ⟨x, hx⟩
  · intro w agent x hagent hlive hx
    rcases getElem?_append_cases hagent with ⟨rfl, rfl⟩ | hagent
    · rw [Option.some.inj (hx.symm.trans (getElem?_set_same hslot))]
    · rcases getElem?_set_cases hx with ⟨hq, -⟩ | ⟨-, hx⟩
      · -- the room had no cancel function, so it had no live worker
        rw [← hq] at hslot
        have hheld := hs.held w agent slot hagent hlive hslot
        rw [hcancel] at hheld
        cases hheld
      · exact hs.held w agent x hagent hlive hx
  · intro q x v hx hv
    rcases getElem?_set_cases hx with ⟨rfl, rfl⟩ | ⟨-, hx⟩
    · cases hv
      exact ⟨{ state := q }, List.getElem?_concat_length, rfl⟩
    · obtain ⟨y, hy, hyq⟩ := hs.owned q x v hx hv
      exact ⟨y, getElem?_append_kept hy _, hyq⟩
  · intro q x v w agent hx hv hagent hq
    rcases getElem?_set_cases hx with ⟨rfl, rfl⟩ | ⟨hqp, hx⟩
    · cases hv
      rcases getElem?_append_cases hagent with ⟨rfl, -⟩ | hagent
      · exact le_refl _
      · exact le_of_lt (hlt hagent)
    · rcases getElem?_append_cases hagent with ⟨-, rfl⟩ | hagent
      · exact absurd hq.symm hqp
      · exact hs.latest q x v w agent hx hv hagent hq
  · intro id q x v agent hq hx hv hagent
    rcases getElem?_append_cases hagent with ⟨-, rfl⟩ | hagent
    · rfl
    · rcases getElem?_set_cases hx with ⟨-, rfl⟩ | ⟨-, hx⟩
      · cases hv
        exact absurd (hlt hagent) (lt_irrefl _)
      · exact hs.armed id q x v agent hq hx hv hagent

end Registry

/-- **Every step keeps the invariant.** -/
theorem RegistryStep.sound {c c' : Registry} {report : Report} (h : RegistryStep c report c') (hs : c.Sound) : c'.Sound := by
  cases h with
  | stay => exact hs
  | register room => exact hs.register room
  | alreadyStarted => exact hs
  | start hreg hslot hcancel => exact hs.start hslot hcancel (startedRoom_roomID _)
  | stop hreg hslot => exact hs.release hslot (stoppedRoom_roomID _) rfl
  | halt hreg hslot hcancel =>
    have hrelease := hs.release hslot (Room.moveTo_roomID _ .stopped) (rfl : (⟨_, none⟩ : Slot).cancel = none)
    rw [hcancel] at hrelease
    exact hrelease
  | delete hreg hslot => exact hs.delete hreg hslot
  | write hagent hruns hslot hopen => exact hs.rewrite hslot (LockSection.room_roomID _ _) rfl
  | giveUp hagent hruns hslot hcancel =>
    have hrelease := hs.release hslot (recoveryFailed_roomID _) (rfl : (⟨_, none⟩ : Slot).cancel = none)
    rw [hcancel] at hrelease
    exact hrelease
  | panic hagent hruns hslot hcancel => exact (hs.exit _).rewrite hslot (recoveryFailed_roomID _) hcancel.symm
  | exit hagent hruns => exact hs.exit _

/-! ## The workers of a room -/

/-- Of the workers of a room state only the last one runs with an open context, and its cancel function is in the state. -/
def Manager.Exclusive (m : Manager) : Prop :=
  ∀ (w : Nat) (worker : Worker), m.workers[w]? = some worker → worker.agent.live = true →
    (∃ state, m.states[worker.state]? = some state ∧ state.cancel = some w) ∧
    ∀ (v : Nat) (other : Worker), m.workers[v]? = some other → other.state = worker.state →
      v ≤ w ∧ (other.agent.live = true → v = w)

/-- **Two workers never run one room**, whatever the order of starts, stops, deletions and recoveries. -/
theorem Manager.run_exclusive (client : Bool) (ops : List RoomOp) : (final (Manager.exec · client) {} ops).Exclusive := by
  have hinit : ({} : Manager).registry.Sound := Registry.sound_empty
  have hs := @final_inv _ _ _ _ (fun m : Manager => m.registry.Sound)
    (fun m op hm => (m.exec_registryStep client op).sound hm) _ hinit ops
  intro w worker hworker hlive
  have hagent := Manager.agents_getElem? hworker
  obtain ⟨slot, hslot⟩ := hs.placed w worker.agent hagent
  have hcancel := hs.held w worker.agent slot hagent hlive hslot
  constructor
  · obtain ⟨state, hstate, rfl⟩ := Manager.slots_inv hslot
    exact ⟨state, hstate, hcancel⟩
  · intro v other hother hsame
    have hother := Manager.agents_getElem? hother
    refine ⟨hs.latest _ slot w v other.agent hslot hcancel hother hsame, fun hlive => ?_⟩
    have hheld := hs.held v other.agent slot hother hlive (hslot ▸ congrArg _ hsame)
    exact Option.some.inj (hheld.symm.trans hcancel)

end QrCommandCenter.Rooms
