import QrCommandCenter.Rooms.Contexts
import QrCommandCenter.Rooms.Effects

/-!
# Stopped rooms

`StopRoom` clears the QR of a room: "A stopped room no longer serves a QR". A worker looks at its context before it takes the
lock, and the other ways to `Stopped` leave the QR in place.

* `Watched` : the manager together with the rooms that `StopRoom` has stopped and nobody has asked to start since;
* `QuietStep` : these rooms stay stopped without a QR, and no stopped room of the map has one;
* `GentleStep` : no fetch succeeds after a stop, and a room that is stopped in another way has no QR;
* `quiet_iff` : the first holds in every step of a run exactly if the second does.
-/

namespace QrCommandCenter.Rooms
open Domain Transition

variable {room : Room} {w p : Nat} {choice : Choice}

/-! ## Sections and the status -/

namespace LockSection

def fetches : LockSection → Bool
  | .success _ _ | .recovered _ _ => true
  | _ => false

def stops : LockSection → Bool
  | .noClient | .payload _ => true
  | _ => false

variable {lockSection : LockSection} (room : Room)

theorem room_qr (h : lockSection.fetches = false) :
    (lockSection.room room).qrURL = room.qrURL ∧ (lockSection.room room).expiresAt = room.expiresAt := by
  cases lockSection with
  | success | recovered => cases h
  | _ => simp [LockSection.room]

theorem room_status_of_fetches (h : lockSection.fetches = true) : (lockSection.room room).status ≠ .stopped := by
  cases lockSection with
  | success | recovered =>
    simp only [LockSection.room, withQR, Room.moveTo_status]
    cases room.status <;> decide
  | _ => cases h

theorem room_status_of_stops (h : lockSection.stops = true) : (lockSection.room room).status = .stopped := by
  cases lockSection with
  | noClient | payload => exact Room.moveTo_stopped _
  | _ => cases h

theorem statusOfError_ne (err : QrError) : statusOfError err ≠ .stopped ∧ statusOfError err ≠ .running := by
  unfold statusOfError FetchError.toRoomStatus
  split
  · split <;> decide
  · decide

theorem room_status_of_rest (hfetch : lockSection.fetches = false) (hstop : lockSection.stops = false) :
    (lockSection.room room).status = .stopped ↔ room.status = .stopped := by
  cases lockSection with
  | noClient | payload => cases hstop
  | success | recovered => cases hfetch
  | nonRecoverable => exact Iff.rfl
  | fetching => exact Room.moveTo_stopped_iff (by decide) (by decide) room
  | expired err | failed err => exact Room.moveTo_stopped_iff (statusOfError_ne err).1 (statusOfError_ne err).2 room
  | conflict => exact Room.moveTo_stopped_iff (by decide) (by decide) _

theorem room_status_of_stopped (hfetch : lockSection.fetches = false) (h : room.status = .stopped) :
    (lockSection.room room).status = .stopped := by
  cases hstop : lockSection.stops with
  | true => exact room_status_of_stops room hstop
  | false => exact (room_status_of_rest room hfetch hstop).mpr h

end LockSection

theorem recoveryFailed_qr (room : Room) :
    (recoveryFailed room).qrURL = room.qrURL ∧ (recoveryFailed room).expiresAt = room.expiresAt := by
  simp [recoveryFailed]

theorem recoveryFailed_status (room : Room) : (recoveryFailed room).status = .stopped := Room.moveTo_stopped _

theorem startedRoom_status (room : Room) : (startedRoom room).status ≠ .stopped := by
  unfold startedRoom
  simp only [Room.moveTo_status]
  split <;> (cases room.status <;> decide)

/-! ## The registry -/

/-- A room that `StopRoom` has stopped has no cancel function and, in the map, no QR; nor has any stopped room there. -/
structure Slot.Quiet (slot : Slot) (marked registered : Prop) : Prop where
  released : marked → slot.cancel = none
  quiet : registered → marked → slot.room.status = .stopped ∧ slot.room.qrURL = none
  clean : registered → slot.room.status = .stopped → slot.room.bare

variable {slot : Slot}

theorem Slot.Quiet.mono {marked marked' registered registered' : Prop} (h : slot.Quiet marked registered)
    (hmarked : marked' → marked) (hregistered : registered' → registered) : slot.Quiet marked' registered' :=
  ⟨fun hm => h.released (hmarked hm), fun hr hm => h.quiet (hregistered hr) (hmarked hm), fun hr => h.clean (hregistered hr)⟩

namespace Registry

structure Quieted (c : Registry) (marks : List Nat) : Prop where
  made : ∀ p ∈ marks, p < c.slots.length
  slots : ∀ p (slot : Slot), c.slots[p]? = some slot → slot.Quiet (p ∈ marks) (∃ id, c.rooms id = some p)

theorem quieted_empty : Quieted {} [] where
  made := fun p h => by cases h
  slots := fun p slot h => by cases h

variable {c c' : Registry} {marks marks' : List Nat} {p : Nat} {slot new : Slot}

theorem Quieted.set (hq : c.Quieted marks) (hslot : c.slots[p]? = some slot) (hslots : c'.slots = c.slots.set p new)
    (hrooms : c'.rooms = c.rooms) (hmarks : ∀ q ∈ marks', q ∈ marks ∨ q = p)
    (hnew : new.Quiet (p ∈ marks') (∃ id, c.rooms id = some p)) : c'.Quieted marks' := by
  constructor
  · intro q hmark
    rw [hslots, List.length_set]
    rcases hmarks q hmark with h | rfl
    · exact hq.made q h
    · exact (List.getElem?_eq_some_iff.mp hslot).1
  · intro q x hx
    rw [hslots] at hx
    rw [hrooms]
    rcases getElem?_set_cases hx with ⟨rfl, rfl⟩ | ⟨hqp, hx⟩
    · exact hnew
    · exact (hq.slots q x hx).mono (fun hmark => (hmarks q hmark).resolve_right hqp) fun h => h

theorem Quieted.mono (hq : c.Quieted marks) (hslots : c'.slots = c.slots)
    (hrooms : ∀ id q, c'.rooms id = some q → c.rooms id = some q) (hmarks : ∀ q ∈ marks', q ∈ marks) : c'.Quieted marks' where
  made := fun q hmark => by
    rw [hslots]
    exact hq.made q (hmarks q hmark)
  slots := fun q x hx => (hq.slots q x (hslots ▸ hx)).mono (hmarks q) fun h => h.imp fun id => hrooms id q

theorem Quieted.register (hq : c.Quieted marks) (hmarks : ∀ q ∈ marks', q ∈ marks)
    (hclean : room.status = .stopped → room.bare) : Quieted { c with
      slots := c.slots ++ [{ room := room }]
      rooms := Function.update c.rooms room.roomID (some c.slots.length) } marks' := by
  constructor
  · intro q hmark
    have hlt := hq.made q (hmarks q hmark)
    simp only [List.length_append, List.length_singleton]
    omega
  · intro q x hx
    rcases getElem?_append_cases hx with ⟨rfl, rfl⟩ | hx
    · have hunmarked : c.slots.length ∉ marks' := fun hmark => lt_irrefl _ (hq.made _ (hmarks _ hmark))
      exact ⟨fun _ => rfl, fun _ hmark => absurd hmark hunmarked, fun _ => hclean⟩
    · refine (hq.slots q x hx).mono (hmarks q) fun ⟨id, hreg⟩ => ?_
      simp only at hreg
      have hne : id ≠ room.roomID := by
        rintro rfl
        rw [Function.update_self] at hreg
        cases hreg
        exact absurd (List.getElem?_eq_some_iff.mp hx).1 (lt_irrefl _)
      exact ⟨id, by rwa [Function.update_of_ne hne] at hreg⟩

end Registry

/-- The room that the step stops without `StopRoom`. -/
def Report.stops : Report → Option Nat
  | .wrote _ p lockSection => if lockSection.stops then some p else none
  | .gaveUp _ p | .panicked _ p | .halted p => some p
  | _ => none

variable {report : Report}

theorem Report.stops_of_idle (h : report.idle = true) : report.stops = none := by
  cases report <;> first | rfl | cases h

section Quieted
variable {c c' : Registry} {marks marks' : List Nat} {report : Report}

/-- A section of a worker that fetches no QR for a marked room, and stops no room with one. -/
theorem Registry.Quieted.write (hq : c.Quieted marks) (hs : c.Sound) {agent : Agent}
    {lockSection : LockSection} (hagent : c.agents[w]? = some agent) (hruns : agent.exited = false)
    (hslot : c.slots[agent.state]? = some slot) (hopen : lockSection.isRecovered = true → agent.cancelled = false)
    (hmarks : ∀ p ∈ marks', p ∈ marks)
    (hfetches : ∀ resp now id, lockSection = .success resp now → c.rooms id = some agent.state → agent.state ∉ marks')
    (hstops : ∀ id, lockSection.stops = true → c.rooms id = some agent.state → slot.room.bare) :
    (c.setSlot agent.state ⟨lockSection.room slot.room, slot.cancel⟩).Quieted marks' := by
  have hquiet := hq.slots _ slot hslot
  have hreleased : agent.state ∈ marks' → slot.cancel = none := fun hmark => hquiet.released (hmarks _ hmark)
  refine hq.set hslot rfl rfl (fun q hmark => .inl (hmarks q hmark)) ⟨hreleased, fun ⟨id, hreg⟩ hmark => ?_,
    fun ⟨id, hreg⟩ hstatus => ?_⟩
  · obtain ⟨hstatus, hqr⟩ := hquiet.quiet ⟨id, hreg⟩ (hmarks _ hmark)
    cases hfetch : lockSection.fetches with
    | false => exact ⟨LockSection.room_status_of_stopped _ hfetch hstatus, (LockSection.room_qr _ hfetch).1.trans hqr⟩
    | true =>
      cases lockSection with
      | success resp now => exact absurd hmark (hfetches resp now id rfl hreg)
      | recovered resp now =>
        -- the worker of a marked room is cancelled
        have hlive : agent.live = true := by simp [Agent.live, hopen rfl, hruns]
        have hheld := hs.held w agent slot hagent hlive hslot
        rw [hreleased hmark] at hheld
        cases hheld
      | _ => cases hfetch
  · cases hfetch : lockSection.fetches with
    | true => exact absurd hstatus (LockSection.room_status_of_fetches _ hfetch)
    | false =>
      have hqr := LockSection.room_qr slot.room hfetch
      cases hstop : lockSection.stops with
      | true => exact (hstops id hstop hreg).congr hqr
      | false =>
        have hbefore := (LockSection.room_status_of_rest slot.room hfetch hstop).mp hstatus
        exact (hquiet.clean ⟨id, hreg⟩ hbefore).congr hqr

/-- **A step keeps stopped rooms quiet** if it fetches no QR for a marked room, and stops or registers no room with one. -/
theorem RegistryStep.quieted (h : RegistryStep c report c') (hs : c.Sound) (hq : c.Quieted marks)
    (hmarks : ∀ p ∈ marks', p ∈ marks ∧ (∀ w, report ≠ .started p w) ∨ report = .stopped p)
    (hfetches : ∀ w p resp now id, report = .wrote w p (.success resp now) → c.rooms id = some p → p ∉ marks')
    (hstops : ∀ p id slot, report.stops = some p → c.rooms id = some p → c.slots[p]? = some slot → slot.room.bare)
    (hregisters : ∀ p room, report = .registered p room → room.status = .stopped → room.bare) : c'.Quieted marks' := by
  -- only `StopRoom` marks a room
  have hold : (∀ p, report ≠ .stopped p) → ∀ p ∈ marks', p ∈ marks := fun hreport p hmark =>
    ((hmarks p hmark).resolve_right (hreport p)).1
  cases h with
  | stay hidle => exact hq.mono rfl (fun _ _ h => h) (hold fun p hp => by rw [hp] at hidle; cases hidle)
  | register room => exact hq.register (hold fun p hp => by cases hp) (hregisters _ room rfl)
  | alreadyStarted => exact hq.mono rfl (fun _ _ h => h) (hold fun p hp => by cases hp)
  | @start id p slot hreg hslot hcancel =>
    have hmarks' := hold fun p hp => by cases hp
    have hunmarked : p ∉ marks' := fun hmark => by
      rcases hmarks p hmark with ⟨-, hstart⟩ | h
      · exact hstart _ rfl
      · cases h
    exact hq.set hslot rfl rfl (fun q hmark => .inl (hmarks' q hmark)) ⟨fun hmark => absurd hmark hunmarked,
      fun _ hmark => absurd hmark hunmarked, fun _ hstatus => absurd hstatus (startedRoom_status _)⟩
  | @stop id p slot hreg hslot =>
    have hmarks' : ∀ q ∈ marks', q ∈ marks ∨ q = p := fun q hmark => by
      rcases hmarks q hmark with ⟨h, -⟩ | h
      · exact .inl h
      · cases h
        exact .inr rfl
    have hslots : ((c.cancelOf slot.cancel).setSlot p ⟨stoppedRoom slot.room, none⟩).slots =
        c.slots.set p ⟨stoppedRoom slot.room, none⟩ := by
      rw [Registry.setSlot, Registry.cancelOf_slots]
    exact hq.set hslot hslots (Registry.cancelOf_rooms c _) hmarks'
      ⟨fun _ => rfl, fun _ _ => ⟨Room.moveTo_stopped _, rfl⟩, fun _ _ => ⟨rfl, rfl⟩⟩
  | @halt id p slot v hreg hslot hcancel =>
    have hmarks' := hold fun p hp => by cases hp
    refine hq.set hslot rfl rfl (fun q hmark => .inl (hmarks' q hmark))
      ⟨fun _ => rfl, fun _ hmark => ?_, fun hreg _ => ?_⟩
    · rw [(hq.slots p slot hslot).released (hmarks' p hmark)] at hcancel
      cases hcancel
    · exact (hstops p _ slot rfl hreg.choose_spec hslot).congr ⟨Room.moveTo_qrURL _ _, Room.moveTo_expiresAt _ _⟩
  | @delete id p slot hreg hslot =>
    refine hq.mono (Registry.cancelOf_slots c _) (fun id' q hq' => ?_) (hold fun p hp => by cases hp)
    change Function.update c.rooms id none id' = some q at hq'
    by_cases hid : id' = id
    · subst hid
      simp at hq'
    · rwa [Function.update_of_ne hid] at hq'
  | write hagent hruns hslot hopen =>
    exact hq.write hs hagent hruns hslot hopen (hold fun p hp => by cases hp)
      (fun resp now id hsection => hfetches _ _ resp now id (by rw [hsection]))
      (fun id hstop hreg => hstops _ id _ (if_pos hstop) hreg hslot)
  | @giveUp w agent slot v hagent hruns hslot hcancel =>
    have hmarks' := hold fun p hp => by cases hp
    refine hq.set hslot rfl rfl (fun q hmark => .inl (hmarks' q hmark))
      ⟨fun _ => rfl, fun _ hmark => ?_, fun hreg _ => ?_⟩
    · rw [(hq.slots _ slot hslot).released (hmarks' _ hmark)] at hcancel
      cases hcancel
    · exact (hstops _ _ slot rfl hreg.choose_spec hslot).congr (recoveryFailed_qr _)
  | @panic w agent slot hagent hruns hslot hcancel =>
    have hmarks' := hold fun p hp => by cases hp
    refine hq.set hslot rfl rfl (fun q hmark => .inl (hmarks' q hmark))
      ⟨fun _ => rfl, fun hreg hmark => ?_, fun hreg _ => ?_⟩
    · exact ⟨recoveryFailed_status _, (recoveryFailed_qr _).1.trans ((hq.slots _ slot hslot).quiet hreg (hmarks' _ hmark)).2⟩
    · exact (hstops _ _ slot rfl hreg.choose_spec hslot).congr (recoveryFailed_qr _)
  | exit hagent hruns => exact hq.mono rfl (fun _ _ h => h) (hold fun p hp => by cases hp)

theorem RegistryStep.stops_inv (h : RegistryStep c report c') (hstops : report.stops = some p) :
    ∃ slot new : Slot, c.slots[p]? = some slot ∧ c'.slots = c.slots.set p new ∧ c'.rooms = c.rooms ∧
      new.room.status = .stopped ∧ new.room.qrURL = slot.room.qrURL ∧ new.room.expiresAt = slot.room.expiresAt := by
  cases h with
  | stay hidle =>
    rw [Report.stops_of_idle hidle] at hstops
    cases hstops
  | register | alreadyStarted | start | stop | delete | exit => cases hstops
  | halt hreg hslot hcancel =>
    cases hstops
    exact ⟨_, _, hslot, rfl, rfl, Room.moveTo_stopped _, Room.moveTo_qrURL _ _, Room.moveTo_expiresAt _ _⟩
  | write hagent hruns hslot hopen =>
    obtain ⟨hstop, heq⟩ := Option.ite_none_right_eq_some.mp hstops
    cases heq
    have hfetch : ∀ {lockSection : LockSection}, lockSection.stops = true → lockSection.fetches = false := by
      intro lockSection h
      cases lockSection <;> first | rfl | cases h
    obtain ⟨hqr, hexpires⟩ := LockSection.room_qr _ (hfetch hstop)
    exact ⟨_, _, hslot, rfl, rfl, LockSection.room_status_of_stops _ hstop, hqr, hexpires⟩
  | giveUp hagent hruns hslot hcancel | panic hagent hruns hslot hcancel =>
    cases hstops
    exact ⟨_, _, hslot, rfl, rfl, recoveryFailed_status _, recoveryFailed_qr _⟩

end Quieted

/-! ## The watched manager -/

/-- The manager, and the rooms that `StopRoom` has stopped and nobody has asked to start since. -/
structure Watched where
  manager : Manager := {}
  marks : List Nat := []

/-- The operation is a call of `StartRoom` or `EnsureSessionRoom` for the room at `p`. -/
def Manager.asks (m : Manager) (op : RoomOp) (p : Nat) : Bool :=
  match op with
  | .invoke (.startRoom roomID) | .invoke (.ensureSessionRoom roomID _) =>
    (m.states[p]?.map fun state => state.room.roomID) = some roomID
  | _ => false

def Watched.marksAfter (s : Watched) (op : RoomOp) : Report → List Nat
  | .stopped p => p :: s.marks
  | .started p _ => s.marks.filter fun q => q ≠ p
  | _ => s.marks.filter fun q => !s.manager.asks op q

def Watched.exec (client : Bool) (s : Watched) (op : RoomOp) : Watched × Report :=
  let result := s.manager.exec client op
  ({ manager := result.1, marks := s.marksAfter op result.2 }, result.2)

variable {s : Watched}

theorem Watched.marksAfter_cases {op : RoomOp} (h : p ∈ s.marksAfter op report) :
    p ∈ s.marks ∧ (∀ w, report ≠ .started p w) ∨ report = .stopped p := by
  unfold marksAfter at h
  split at h
  · rcases List.mem_cons.mp h with rfl | h
    · exact .inr rfl
    · exact .inl ⟨h, fun w h => by cases h⟩
  · obtain ⟨hmem, hne⟩ := List.mem_filter.mp h
    refine .inl ⟨hmem, fun w heq => ?_⟩
    cases heq
    simp at hne
  · rename_i hstarted
    exact .inl ⟨(List.mem_filter.mp h).1, fun w heq => hstarted p w heq⟩

theorem Watched.exec_marks {client : Bool} (h : (s.manager.exec client (.worker w choice)).2.ofWorker = some w) :
    (s.exec client (.worker w choice)).1.marks = s.marks := by
  show s.marksAfter (.worker w choice) (s.manager.exec client (.worker w choice)).2 = s.marks
  cases hreport : (s.manager.exec client (.worker w choice)).2 with
  | wrote | gaveUp | panicked | exited => simp [marksAfter, Manager.asks]
  | _ =>
    rw [hreport] at h
    cases h

/-! ## Runs -/

/-- **What a stop promises**: a room stays stopped without a QR until somebody starts it, and no stopped room has a QR. -/
structure QuietStep (e : Event Watched RoomOp Report) : Prop where
  quiet : ∀ id p state, e.post.manager.rooms id = some p → p ∈ e.post.marks → e.post.manager.states[p]? = some state →
    state.room.status = .stopped ∧ state.room.qrURL = none
  clean : ∀ id p state, e.post.manager.rooms id = some p → e.post.manager.states[p]? = some state →
    state.room.status = .stopped → state.room.qrURL = none ∧ state.room.expiresAt = none

/-- The step of a worker that stops the room. -/
def Turn.stops : Turn → Bool
  | .write lockSection _ => lockSection.stops
  | .giveUp => true
  | _ => false

/-- What keeps the promise: no worker writes a QR after `StopRoom`, workers and `StopAllActiveRooms` stop no room that
shows one, and `CreateRoom` registers no stopped room with one. -/
structure GentleStep (client : Bool) (e : Event Watched RoomOp Report) : Prop where
  fetches : ∀ w choice worker state resp now pc, e.op = .worker w choice →
    e.pre.manager.Acts client w choice worker state (.write (.success resp now) pc) →
    e.pre.manager.rooms state.room.roomID = some worker.state → worker.state ∉ e.pre.marks
  stops : ∀ w choice worker state turn, e.op = .worker w choice → e.pre.manager.Acts client w choice worker state turn →
    turn.stops = true → e.pre.manager.rooms state.room.roomID = some worker.state →
    state.room.qrURL = none ∧ state.room.expiresAt = none
  halts : ∀ i p visited stopped state, e.op = .call i (.room p) →
    e.pre.manager.calls[i]? = some ⟨.sweeping visited stopped, []⟩ → p ∈ e.pre.manager.registeredPointers → p ∉ visited →
    e.pre.manager.states[p]? = some state → state.cancel ≠ none →
    state.room.qrURL = none ∧ state.room.expiresAt = none
  registers : ∀ i room, e.op = .call i .proceed → e.pre.manager.mu = none →
    ((∃ ensure, e.pre.manager.calls[i]? = some ⟨.registerNew room ensure, []⟩) ∨
      (∃ ensure, e.pre.manager.calls[i]? = some ⟨.registerExisting room ensure, []⟩) ∧
        e.pre.manager.rooms room.roomID = none) →
    room.status = .stopped → room.qrURL = none ∧ room.expiresAt = none

structure Hushed (s : Watched) : Prop where
  sound : s.manager.registry.Sound
  quieted : s.manager.registry.Quieted s.marks

section Runs
variable {s : Watched} {client : Bool} {op : RoomOp}
variable {p i : Nat} {state : RoomState} {id : String} {worker : Worker}

section
variable (hm : Hushed s) (h : GentleStep client (Event.of (Watched.exec client) s op))
include hm h

theorem GentleStep.bare_of_stops (hstops : (s.manager.exec client op).2.stops = some p)
    (hreg : s.manager.registry.rooms id = some p) (hslot : s.manager.registry.slots[p]? = some slot) :
    slot.room.bare := by
  obtain ⟨named, hnamed, hid⟩ := hm.sound.named id p hreg
  rw [hslot] at hnamed
  cases hnamed
  obtain ⟨state, hstate, rfl⟩ := Manager.slots_inv hslot
  have hworker : ∀ {w : Nat} {choice : Choice} {worker : Worker} {own : RoomState} {turn : Turn}, op = .worker w choice →
      s.manager.Acts client w choice worker own turn → worker.state = p → turn.stops = true → state.room.bare := by
    intro w choice worker own turn hop hacts hp hturn
    have hown := hacts.room
    rw [hp, hstate] at hown
    cases hown
    exact h.stops w choice worker state turn hop hacts hturn (by rw [hp]; exact hid ▸ hreg)
  cases hreport : (s.manager.exec client op).2 with
  | wrote w q lockSection =>
    rw [hreport] at hstops
    obtain ⟨hstop, heq⟩ := Option.ite_none_right_eq_some.mp hstops
    cases heq
    obtain ⟨choice, worker, own, pc, hop, hacts, hp⟩ := Manager.exec_wrote hreport
    exact hworker hop hacts hp hstop
  | gaveUp w q =>
    rw [hreport] at hstops
    cases hstops
    obtain ⟨hop, worker, own, hgives, hp⟩ := Manager.exec_givesUp (.inl hreport)
    exact hworker hop (hgives.acts client) hp rfl
  | panicked w q =>
    rw [hreport] at hstops
    cases hstops
    obtain ⟨hop, worker, own, hgives, hp⟩ := Manager.exec_givesUp (.inr hreport)
    exact hworker hop (hgives.acts client) hp rfl
  | halted q =>
    rw [hreport] at hstops
    cases hstops
    obtain ⟨i, visited, stopped, hop, hcall, hpointer, hvisited⟩ := Manager.exec_halted hreport
    have hstep := s.manager.exec_registryStep client op
    rw [hreport] at hstep
    obtain ⟨slot, hslot', hcancel⟩ := hstep.halted_inv
    rw [hslot] at hslot'
    cases hslot'
    exact h.halts i p visited stopped state hop hcall hpointer hvisited hstate hcancel
  | _ =>
    rw [hreport] at hstops
    cases hstops

theorem hushed_of_gentleStep : Hushed (s.exec client op).1 := by
  have hstep := s.manager.exec_registryStep client op
  refine ⟨hstep.sound hm.sound, hstep.quieted hm.sound hm.quieted (fun p => Watched.marksAfter_cases)
    (fun w p resp now id hreport hreg hmark => ?_) (fun p id slot hstops hreg hslot => h.bare_of_stops hm hstops hreg hslot)
    fun p room hreport hstatus => ?_⟩
  · obtain ⟨choice, worker, state, pc, rfl, hacts, rfl⟩ := Manager.exec_wrote hreport
    obtain ⟨slot, hslot, hid⟩ := hm.sound.named id _ hreg
    rw [Manager.slots_getElem? hacts.room] at hslot
    cases hslot
    rw [Watched.exec_marks (by rw [hreport]; rfl)] at hmark
    exact h.fetches w choice worker state resp now pc rfl hacts (hid ▸ hreg) hmark
  · obtain ⟨i, rfl, hmu, hcall⟩ := Manager.exec_registered hreport
    exact h.registers i room rfl hmu hcall hstatus

theorem quietStep_of_gentleStep : QuietStep (Event.of (Watched.exec client) s op) := by
  have hpost := (hushed_of_gentleStep hm h).quieted
  exact ⟨fun id p state hreg hmark hstate => (hpost.slots p _ (Manager.slots_getElem? hstate)).quiet ⟨id, hreg⟩ hmark,
    fun id p state hreg hstate => (hpost.slots p _ (Manager.slots_getElem? hstate)).clean ⟨id, hreg⟩⟩

end

/-- A room in the map that a step stops in another way than `StopRoom` was bare, if no stopped room shows a QR after it. -/
theorem QuietStep.bare_of_stops (h : QuietStep (Event.of (Watched.exec client) s op))
    (hstops : (s.manager.exec client op).2.stops = some p) (hreg : s.manager.rooms id = some p)
    (hstate : s.manager.states[p]? = some state) : state.room.bare := by
  obtain ⟨slot, new, hslot, hslots, hrooms, hstatus, hqr, hexpires⟩ :=
    (s.manager.exec_registryStep client op).stops_inv hstops
  rw [Manager.slots_getElem? hstate] at hslot
  cases hslot
  have hnew : (s.manager.exec client op).1.registry.slots[p]? = some new := by
    rw [hslots]
    exact getElem?_set_same (Manager.slots_getElem? hstate)
  obtain ⟨after, hafter, rfl⟩ := Manager.slots_inv hnew
  have hregistered : (s.manager.exec client op).1.rooms id = some p := by
    rw [← hreg]
    exact congrFun hrooms id
  obtain ⟨hnoQR, hnoExpiry⟩ := h.clean id p after hregistered hafter hstatus
  exact ⟨hqr.symm.trans hnoQR, hexpires.symm.trans hnoExpiry⟩

variable {turn : Turn}

theorem Manager.act_stops (m : Manager) (w : Nat) (worker : Worker) (state : RoomState)
    (h : turn.stops = true) : (m.act w worker state turn).2.stops = some worker.state := by
  cases turn with
  | go | look => cases h
  | write lockSection pc => exact if_pos h
  | giveUp =>
    unfold act giveUp
    cases hcancel : state.cancel <;> rfl

theorem QuietStep.unmarked {resp : QrResponse} {now : Time}
    {pc : WorkerPC} (h : QuietStep (Event.of (Watched.exec client) s (.worker w choice)))
    (hacts : s.manager.Acts client w choice worker state (.write (.success resp now) pc))
    (hreg : s.manager.rooms state.room.roomID = some worker.state) : worker.state ∉ s.marks := by
  intro hmark
  obtain ⟨hreport, hrooms, after, hafter, hroom⟩ := hacts.exec_write
  have hregistered : (s.manager.exec client (.worker w choice)).1.rooms state.room.roomID = some worker.state := by
    rw [hrooms]
    exact hreg
  have hmarked : worker.state ∈ (s.exec client (.worker w choice)).1.marks := by
    rw [Watched.exec_marks (by rw [hreport]; rfl)]
    exact hmark
  obtain ⟨hstatus, -⟩ := h.quiet _ _ after hregistered hmarked hafter
  rw [hroom] at hstatus
  exact LockSection.room_status_of_fetches _ rfl hstatus

theorem QuietStep.bare_of_acts (h : QuietStep (Event.of (Watched.exec client) s (.worker w choice)))
    (hacts : s.manager.Acts client w choice worker state turn) (hturn : turn.stops = true)
    (hreg : s.manager.rooms state.room.roomID = some worker.state) : state.room.bare := by
  refine h.bare_of_stops ?_ hreg hacts.room
  rw [hacts.exec]
  exact s.manager.act_stops w worker state hturn

theorem Manager.sweepTurn_report (m : Manager) (i : Nat) (visited : List Nat) (stopped : List StoppedRoom) (p : Nat)
    (h : state.cancel ≠ none) : (m.sweepTurn i visited stopped p state).report = .halted p := by
  unfold sweepTurn
  split
  · rename_i hcancel _
    exact absurd hcancel h
  · rename_i hcancel _
    exact absurd hcancel h
  · rfl
  · rfl

variable {m : Manager}

theorem Manager.rooms_of_pointer (h : p ∈ m.registeredPointers) (hstate : m.states[p]? = some state) :
    m.rooms state.room.roomID = some p := by
  have hp := (List.mem_filter.mp h).2
  simpa [hstate] using hp

theorem QuietStep.bare_of_halts {visited : List Nat} {stopped : List StoppedRoom}
    (h : QuietStep (Event.of (Watched.exec client) s (.call i (.room p))))
    (hcall : s.manager.calls[i]? = some ⟨.sweeping visited stopped, []⟩) (hp : p ∈ s.manager.registeredPointers)
    (hvisited : p ∉ visited) (hstate : s.manager.states[p]? = some state) (hcancel : state.cancel ≠ none) :
    state.room.bare := by
  have hmove : s.manager.callTurn i (.sweeping visited stopped) (.room p) =
      some (s.manager.sweepTurn i visited stopped p state) := by
    show s.manager.sweepingTurn i visited stopped (.room p) = _
    simp only [Manager.sweepingTurn, hstate]
    exact if_pos ⟨hp, hvisited⟩
  refine h.bare_of_stops ?_ (Manager.rooms_of_pointer hp hstate) hstate
  rw [Manager.exec_call hcall hmove]
  show Report.stops (s.manager.sweepTurn i visited stopped p state).report = some p
  rw [s.manager.sweepTurn_report i visited stopped p hcancel]
  rfl

theorem Manager.exec_registers (hmu : m.mu = none)
    (hcall : (∃ ensure, m.calls[i]? = some ⟨.registerNew room ensure, []⟩) ∨
      (∃ ensure, m.calls[i]? = some ⟨.registerExisting room ensure, []⟩) ∧ m.rooms room.roomID = none) :
    (m.exec client (.call i .proceed)).2 = .registered m.states.length room := by
  rcases hcall with ⟨ensure, hcall⟩ | ⟨⟨ensure, hcall⟩, hrooms⟩
  · have hmove : m.callTurn i (.registerNew room ensure) .proceed = some _ := if_pos hmu
    rw [exec_call hcall hmove]
  · have hmove : m.callTurn i (.registerExisting room ensure) .proceed = some _ := if_pos hmu
    rw [exec_call hcall hmove, hrooms]

theorem QuietStep.bare_of_registers
    (h : QuietStep (Event.of (Watched.exec client) s (.call i .proceed))) (hmu : s.manager.mu = none)
    (hcall : (∃ ensure, s.manager.calls[i]? = some ⟨.registerNew room ensure, []⟩) ∨
      (∃ ensure, s.manager.calls[i]? = some ⟨.registerExisting room ensure, []⟩) ∧ s.manager.rooms room.roomID = none)
    (hstatus : room.status = .stopped) : room.bare := by
  have hstep := s.manager.exec_registryStep client (.call i .proceed)
  rw [Manager.exec_registers hmu hcall] at hstep
  have heq := hstep.registered_inv
  have hnew := (congrArg (fun c : Registry => c.slots[s.manager.registry.slots.length]?) heq).trans List.getElem?_concat_length
  obtain ⟨after, hafter, hslot⟩ := Manager.slots_inv hnew
  have hregistered := (congrArg (fun c : Registry => c.rooms room.roomID) heq).trans (Function.update_self _ _ _)
  have hroom : after.room = room := (congrArg Slot.room hslot).symm
  have hclean := h.clean room.roomID _ after hregistered hafter
  rw [hroom] at hclean
  exact hclean hstatus

theorem gentleStep_of_quietStep (h : QuietStep (Event.of (Watched.exec client) s op)) :
    GentleStep client (Event.of (Watched.exec client) s op) := by
  constructor
  · intro w choice worker state resp now pc hop hacts hreg
    cases (hop : op = _)
    exact h.unmarked hacts hreg
  · intro w choice worker state turn hop hacts hturn hreg
    cases (hop : op = _)
    exact h.bare_of_acts hacts hturn hreg
  · intro i p visited stopped state hop hcall hp hvisited hstate hcancel
    cases (hop : op = _)
    exact h.bare_of_halts hcall hp hvisited hstate hcancel
  · intro i room hop hmu hcall hstatus
    cases (hop : op = _)
    exact h.bare_of_registers hmu hcall hstatus

/-- **Stopped rooms are quiet in every step of a run, exactly if every step is gentle.** -/
theorem quiet_iff (client : Bool) (ops : List RoomOp) :
    (∀ e ∈ trace (Watched.exec client) {} ops, QuietStep e) ↔ ∀ e ∈ trace (Watched.exec client) {} ops, GentleStep client e := by
  have hinit : Hushed {} := ⟨Registry.sound_empty, Registry.quieted_empty⟩
  exact trace_forall_iff (fun s op hm => ⟨gentleStep_of_quietStep, quietStep_of_gentleStep hm⟩)
    (fun s op hm h => hushed_of_gentleStep hm h) hinit ops

/-! ### A fetch that is late -/

/-- The client answers, the worker finds its context open, and the room is stopped before the worker takes the lock. -/
def lateFetch : List RoomOp :=
  createRoomOps 0 "room" "class" ++ startRoomOps 1 "room" ++ fetchOps 0 ++
    .worker 0 (.result (.ok ⟨"https://qr.example/1", 60⟩)) :: stopRoomOps 2 "room"

def lateFetchWrite : Event Watched RoomOp Report :=
  .of (Watched.exec true) (final (Watched.exec true) {} lateFetch) (.worker 0 .proceed)

theorem lateFetch_not_quiet : ¬ ∀ client ops, ∀ e ∈ trace (Watched.exec client) {} ops, QuietStep e := by
  intro h
  have hmem : lateFetchWrite ∈ trace (Watched.exec true) {} (lateFetch ++ [.worker 0 .proceed]) := mem_trace_snoc _ _ _
  have hreg : lateFetchWrite.post.manager.rooms "room" = some 0 := by decide +kernel
  have hmark : 0 ∈ lateFetchWrite.post.marks := by decide +kernel
  have hruns : lateFetchWrite.post.manager.states[0]?.map (fun state => state.room.status) = some .running := by
    decide +kernel
  obtain ⟨state, hstate, hstatus⟩ := Option.map_eq_some_iff.mp hruns
  have hstopped := ((h true _ _ hmem).quiet "room" 0 state hreg hmark hstate).1
  rw [hstatus] at hstopped
  cases hstopped

end Runs

end QrCommandCenter.Rooms
