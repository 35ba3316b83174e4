import QrCommandCenter.Rooms.Emission

/-!
# The room list of the browser

`web/src/shared/realtime/room-events.ts`, and what `websocket-client.ts` does with the events of rooms. Of the two events of a
change only `ROOM_CHANGED` carries a revision, and only it is compared with the revision seen last.

* `applyRoomChanged`, `applyRoomCreated`, `applyRoomUpdated`, `applyRoomDeleted` : the four updates of the list;
* `RoomsClient.handle` : a message;
* `Displays` : what the list shows for one room, with `overwrite` as the effect of the events that carry no revision.
-/

namespace QrCommandCenter.Rooms
open Domain

/-! ## Messages -/

section
variable (rooms : List RoomLite)

/-- `applyRoomChanged` patches the status and the expiry of the matching room. -/
def applyRoomChanged (event : RoomChanged) : List RoomLite :=
  rooms.map fun room =>
    if room.roomID = event.roomID then { room with status := event.status, expiresAt := event.expiresAt } else room

def applyRoomCreated (summary : RoomLite) : List RoomLite :=
  if rooms.any fun room => room.roomID = summary.roomID then rooms else rooms ++ [summary]

def applyRoomUpdated (summary : RoomLite) : List RoomLite :=
  rooms.map fun room => if room.roomID = summary.roomID then summary else room

def applyRoomDeleted (roomID : String) : List RoomLite :=
  rooms.filter fun room => room.roomID ≠ roomID

end

structure RoomsClient where
  rooms : List RoomLite
  roomRevisions : String → Option Int := fun _ => none

namespace RoomsClient

/-- `FullStateSync`: the list is replaced and the revisions are dropped. -/
def fullStateSync (rooms : List RoomLite) : RoomsClient := { rooms := rooms }

section
variable (c : RoomsClient)

/-- `#applyRoomChanged`: an event that is not newer than the last one is dropped. -/
def changed (event : RoomChanged) : RoomsClient :=
  if (c.roomRevisions event.roomID).any fun lastSeen => event.revision ≤ lastSeen then c
  else
    { rooms := applyRoomChanged c.rooms event
      roomRevisions := Function.update c.roomRevisions event.roomID (some event.revision) }

/-- `#handleMessage`, for the events of rooms. -/
def handle : RoomEvent → RoomsClient
  | .roomCreated room => { c with rooms := applyRoomCreated c.rooms room }
  | .roomUpdated room => { c with rooms := applyRoomUpdated c.rooms room }
  | .roomDeleted roomID =>
    { rooms := applyRoomDeleted c.rooms roomID, roomRevisions := Function.update c.roomRevisions roomID none }
  | .roomChanged event => c.changed event

def receive (log : List RoomEvent) : RoomsClient := log.foldl handle c

theorem receive_append (log log' : List RoomEvent) :
    c.receive (log ++ log') = (c.receive log).receive log' := List.foldl_append

theorem receive_cons (event : RoomEvent) (log : List RoomEvent) :
    c.receive (event :: log) = (c.handle event).receive log := rfl

end

end RoomsClient

/-! ## One room of the list -/

structure Shown where
  status : RoomStatus
  expiresAt : Option Time
deriving DecidableEq, Repr

def shownOf (room : RoomLite) : Shown := ⟨room.status, room.expiresAt⟩

def Listed (rooms : List RoomLite) (id : String) : Prop := ∃ room ∈ rooms, room.roomID = id

instance decidableListed (rooms : List RoomLite) (id : String) : Decidable (Listed rooms id) :=
  inferInstanceAs (Decidable (∃ room ∈ rooms, room.roomID = id))

/-- All entries for room `id` show `value`. -/
def Shows (rooms : List RoomLite) (id : String) (value : Shown) : Prop :=
  ∀ room ∈ rooms, room.roomID = id → shownOf room = value

/-- The list shows `value?` for room `id`, or has no entry for it. -/
def Displays (rooms : List RoomLite) (id : String) : Option Shown → Prop
  | none => ¬ Listed rooms id
  | some value => Listed rooms id ∧ Shows rooms id value

/-- An event without a revision, as far as room `id` is concerned. -/
def overwrite (id : String) (value? : Option Shown) : RoomEvent → Option Shown
  | .roomCreated room => if room.roomID = id then some (value?.getD (shownOf room)) else value?
  | .roomUpdated room => if room.roomID = id then value?.map fun _ => shownOf room else value?
  | _ => value?

theorem roomID_replaced (room old : RoomLite) : (if old.roomID = room.roomID then room else old).roomID = old.roomID := by
  split
  · exact Eq.symm ‹_›
  · rfl

theorem roomID_patched (event : RoomChanged) (old : RoomLite) :
    (if old.roomID = event.roomID then
      { old with status := event.status, expiresAt := event.expiresAt } else old).roomID = old.roomID := by
  split <;> rfl

section Lists
variable {rooms : List RoomLite} {id : String}
variable {f : RoomLite → RoomLite} {value? : Option Shown}

section
variable (hid : ∀ room, (f room).roomID = room.roomID)
include hid

theorem listed_map : Listed (rooms.map f) id ↔ Listed rooms id := by
  simp [Listed, hid]

theorem displays_edit {roomID : String} {value : Shown} (hself : ∀ room, room.roomID = roomID → shownOf (f room) = value)
    (hother : ∀ room, room.roomID ≠ roomID → f room = room) (h : Displays rooms id value?) :
    Displays (rooms.map f) id (if roomID = id then value?.map fun _ => value else value?) := by
  cases value? with
  | none => split <;> exact fun hlisted => h ((listed_map hid).mp hlisted)
  | some old =>
    split
    · rename_i hroom
      refine ⟨(listed_map hid).mpr h.1, fun room hmem hroomID => ?_⟩
      obtain ⟨before, -, rfl⟩ := List.mem_map.mp hmem
      rw [hid] at hroomID
      exact hself before (hroomID.trans hroom.symm)
    · rename_i hroom
      refine ⟨(listed_map hid).mpr h.1, fun room hmem hroomID => ?_⟩
      obtain ⟨before, hbefore, rfl⟩ := List.mem_map.mp hmem
      rw [hid] at hroomID
      rw [hother before fun heq => hroom (heq.symm.trans hroomID)]
      exact h.2 before hbefore hroomID

end

section
variable (h : Displays rooms id value?)
include h

theorem displays_updated (room : RoomLite) :
    Displays (applyRoomUpdated rooms room) id (overwrite id value? (.roomUpdated room)) :=
  displays_edit (roomID_replaced room) (fun _ hold => congrArg shownOf (if_pos hold)) (fun _ hold => if_neg hold) h

theorem displays_created (room : RoomLite) :
    Displays (applyRoomCreated rooms room) id (overwrite id value? (.roomCreated room)) := by
  simp only [overwrite, applyRoomCreated]
  by_cases hany : (rooms.any fun old => old.roomID = room.roomID) = true
  · rw [if_pos hany]
    by_cases hroom : room.roomID = id
    · rw [if_pos hroom]
      have hlisted : Listed rooms id := by simpa [Listed, hroom] using hany
      cases value? with
      | none => exact absurd hlisted h
      | some value => exact h
    · rwa [if_neg hroom]
  · rw [if_neg hany]
    have hlisted : Listed (rooms ++ [room]) id ↔ Listed rooms id ∨ room.roomID = id := by
      simp [Listed, or_and_right, exists_or]
    by_cases hroom : room.roomID = id
    · have hnone : ¬ Listed rooms id := by simpa [Listed, hroom] using hany
      rw [if_pos hroom]
      cases value? with
      | none =>
        refine ⟨hlisted.mpr (.inr hroom), fun old hold hid => ?_⟩
        rcases List.mem_append.mp hold with hold | hold
        · exact absurd ⟨old, hold, hid⟩ hnone
        · rw [List.mem_singleton.mp hold]
          rfl
      | some value => exact absurd h.1 hnone
    · rw [if_neg hroom]
      cases value? with
      | none =>
        intro h'
        rcases hlisted.mp h' with h' | h'
        · exact h h'
        · exact hroom h'
      | some value =>
        refine ⟨hlisted.mpr (.inl h.1), fun old hold hid => ?_⟩
        rcases List.mem_append.mp hold with hold | hold
        · exact h.2 old hold hid
        · exact absurd ((List.mem_singleton.mp hold) ▸ hid) hroom

theorem displays_changed (event : RoomChanged) :
    Displays (applyRoomChanged rooms event) id
      (if event.roomID = id then value?.map fun _ => ⟨event.status, event.expiresAt⟩ else value?) :=
  displays_edit (roomID_patched event) (fun _ hold => congrArg shownOf (if_pos hold)) (fun _ hold => if_neg hold) h

end

theorem displays_patched (rooms : List RoomLite) (event : RoomChanged) :
    Displays (applyRoomChanged rooms event) event.roomID
      (if Listed rooms event.roomID then some ⟨event.status, event.expiresAt⟩ else none) := by
  have hid := roomID_patched event
  by_cases hlisted : Listed rooms event.roomID
  · rw [if_pos hlisted]
    refine ⟨(listed_map hid).mpr hlisted, fun room hroom hroomID => ?_⟩
    obtain ⟨before, -, rfl⟩ := List.mem_map.mp hroom
    rw [hid] at hroomID
    rw [if_pos hroomID]
    rfl
  · rw [if_neg hlisted]
    exact fun h => hlisted ((listed_map hid).mp h)

end Lists

/-! ## Revisions -/

namespace RoomsClient
variable {c : RoomsClient} {id : String} {revision : Int}
variable {event : RoomEvent} {log : List RoomEvent} {revisions : Int → Prop}

/-- No revision of room `id` from `revision` on has been seen. -/
def Before (c : RoomsClient) (id : String) (revision : Int) : Prop :=
  ∀ lastSeen, c.roomRevisions id = some lastSeen → lastSeen < revision

/-- A revision of room `id` that is not below `revision` has been seen. -/
def Seen (c : RoomsClient) (id : String) (revision : Int) : Prop :=
  ∃ lastSeen, c.roomRevisions id = some lastSeen ∧ revision ≤ lastSeen

/-- An event that does not delete room `id`, and whose revision of the room is one of `revisions`. -/
def Within (id : String) (revisions : Int → Prop) : RoomEvent → Prop
  | .roomChanged event => event.roomID = id → revisions event.revision
  | .roomDeleted roomID => roomID ≠ id
  | _ => True

theorem Before.handle (h : c.Before id revision) (hevent : Within id (· < revision) event) :
    (c.handle event).Before id revision := by
  cases event with
  | roomCreated | roomUpdated => exact h
  | roomDeleted roomID =>
    intro lastSeen hseen
    simp only [RoomsClient.handle, Function.update_of_ne (Ne.symm hevent)] at hseen
    exact h lastSeen hseen
  | roomChanged event =>
    simp only [RoomsClient.handle, changed]
    split
    · exact h
    · intro lastSeen hseen
      by_cases hroom : event.roomID = id
      · subst hroom
        simp only [Function.update_self, Option.some.injEq] at hseen
        exact hseen ▸ hevent rfl
      · simp only [Function.update_of_ne (Ne.symm hroom)] at hseen
        exact h lastSeen hseen

theorem changed_of_before {event : RoomChanged} (h : c.Before event.roomID event.revision) :
    c.changed event =
      { rooms := applyRoomChanged c.rooms event
        roomRevisions := Function.update c.roomRevisions event.roomID (some event.revision) } := by
  rw [changed, if_neg]
  simp only [Option.any_eq_true, decide_eq_true_eq, not_exists, not_and]
  exact fun lastSeen hseen => Int.not_le.mpr (h lastSeen hseen)

variable {value? : Option Shown}

/-- **After the newest revision of a room only events without a revision change what the list shows of it.** -/
theorem Seen.handle (h : c.Seen id revision) (hrooms : Displays c.rooms id value?)
    (hevent : Within id (· ≤ revision) event) :
    (c.handle event).Seen id revision ∧ Displays (c.handle event).rooms id (overwrite id value? event) := by
  cases event with
  | roomCreated room => exact ⟨h, displays_created hrooms room⟩
  | roomUpdated room => exact ⟨h, displays_updated hrooms room⟩
  | roomDeleted roomID =>
    obtain ⟨lastSeen, hseen, hle⟩ := h
    refine ⟨⟨lastSeen, by simp [RoomsClient.handle, Function.update_of_ne (Ne.symm hevent), hseen], hle⟩, ?_⟩
    have hmem : ∀ room : RoomLite, room.roomID = id → (room ∈ applyRoomDeleted c.rooms roomID ↔ room ∈ c.rooms) := by
      intro room hroom
      simp [applyRoomDeleted, hroom, Ne.symm hevent]
    cases value? with
    | none => exact fun ⟨room, hroom, hid⟩ => hrooms ⟨room, (hmem room hid).mp hroom, hid⟩
    | some value =>
      obtain ⟨⟨room, hroom, hid⟩, hvalue⟩ := hrooms
      exact ⟨⟨room, (hmem room hid).mpr hroom, hid⟩, fun old hold hid => hvalue old ((hmem old hid).mp hold) hid⟩
  | roomChanged event =>
    by_cases hroom : event.roomID = id
    · -- a revision of the room that is not newer is dropped
      subst hroom
      obtain ⟨lastSeen, hseen, hle⟩ := h
      have hdrop : c.changed event = c := by
        rw [changed, if_pos]
        simp only [hseen, Option.any_some, decide_eq_true_eq]
        exact Int.le_trans (hevent rfl) hle
      simp only [RoomsClient.handle, hdrop]
      exact ⟨⟨lastSeen, hseen, hle⟩, hrooms⟩
    · simp only [RoomsClient.handle, changed]
      split
      · exact ⟨h, hrooms⟩
      · obtain ⟨lastSeen, hseen, hle⟩ := h
        refine ⟨⟨lastSeen, by simp [Function.update_of_ne (Ne.symm hroom), hseen], hle⟩, ?_⟩
        have hchanged := displays_changed hrooms event
        rwa [if_neg hroom] at hchanged

/-! ## The messages of a connection -/

theorem Before.receive (h : c.Before id revision) (hlog : ∀ event ∈ log, Within id (· < revision) event) :
    (c.receive log).Before id revision := by
  induction log generalizing c with
  | nil => exact h
  | cons event log ih =>
    exact ih (h.handle (hlog event List.mem_cons_self)) fun event' hmem => hlog event' (List.mem_cons_of_mem _ hmem)

theorem Seen.receive (h : c.Seen id revision) (hrooms : Displays c.rooms id value?)
    (hlog : ∀ event ∈ log, Within id (· ≤ revision) event) :
    Displays (c.receive log).rooms id (log.foldl (overwrite id) value?) := by
  induction log generalizing c value? with
  | nil => exact hrooms
  | cons event log ih =>
    obtain ⟨hseen, hshown⟩ := h.handle hrooms (hlog event List.mem_cons_self)
    exact ih hseen hshown fun event' hmem => hlog event' (List.mem_cons_of_mem _ hmem)

def creates (id : String) : RoomEvent → Bool
  | .roomCreated room => room.roomID = id
  | _ => false

theorem handle_listed (c : RoomsClient) (hevent : Within id revisions event) :
    Listed (c.handle event).rooms id ↔ Listed c.rooms id ∨ creates id event = true := by
  cases event with
  | roomCreated room =>
    simp only [RoomsClient.handle, applyRoomCreated, creates, decide_eq_true_eq]
    by_cases hany : (c.rooms.any fun old => old.roomID = room.roomID) = true
    · rw [if_pos hany]
      refine ⟨.inl, fun h => h.elim (fun h => h) fun hroom => ?_⟩
      simpa [Listed, hroom] using hany
    · rw [if_neg hany]
      simp [Listed, or_and_right, exists_or]
  | roomUpdated room => simp [RoomsClient.handle, applyRoomUpdated, creates, listed_map (roomID_replaced room)]
  | roomDeleted roomID =>
    have hne : id ≠ roomID := Ne.symm hevent
    simp only [RoomsClient.handle, applyRoomDeleted, creates, Listed, List.mem_filter, decide_eq_true_eq, Bool.false_eq_true,
      or_false]
    refine exists_congr fun room => ⟨fun h => ⟨h.1.1, h.2⟩, fun h => ⟨⟨h.1, ?_⟩, h.2⟩⟩
    rw [h.2]
    exact hne
  | roomChanged event =>
    simp only [RoomsClient.handle, changed, creates, Bool.false_eq_true, or_false]
    split
    · rfl
    · exact listed_map (roomID_patched event)

theorem receive_listed (c : RoomsClient) (hlog : ∀ event ∈ log, Within id revisions event) :
    Listed (c.receive log).rooms id ↔ Listed c.rooms id ∨ log.any (creates id) = true := by
  induction log generalizing c with
  | nil => simp [receive]
  | cons event log ih =>
    rw [receive_cons, ih _ fun event' hmem => hlog event' (List.mem_cons_of_mem _ hmem),
      handle_listed c (hlog event List.mem_cons_self), List.any_cons, Bool.or_eq_true, or_assoc]

/-- **What a list shows at last**: the newest revision, if the room was listed by then, under the later events without
one. -/
theorem receive_newest (rooms : List RoomLite) (event : RoomChanged) {before after : List RoomEvent}
    (hbefore : ∀ e ∈ before, Within event.roomID (· < event.revision) e)
    (hafter : ∀ e ∈ after, Within event.roomID (· ≤ event.revision) e) :
    Displays ((fullStateSync rooms).receive (before ++ .roomChanged event :: after)).rooms event.roomID
      (after.foldl (overwrite event.roomID)
        (if Listed rooms event.roomID ∨ before.any (creates event.roomID) = true then some ⟨event.status, event.expiresAt⟩
         else none)) := by
  have hnew : ((fullStateSync rooms).receive before).Before event.roomID event.revision :=
    Before.receive (fun lastSeen h => by cases h) hbefore
  have hshown := displays_patched ((fullStateSync rooms).receive before).rooms event
  rw [if_congr (receive_listed _ hbefore) rfl rfl] at hshown
  rw [receive_append, receive_cons]
  simp only [RoomsClient.handle, changed_of_before hnew]
  exact Seen.receive ⟨event.revision, by simp, Int.le_refl _⟩ hshown hafter

end RoomsClient

end QrCommandCenter.Rooms
