import QrCommandCenter.Lib.Heap
import QrCommandCenter.Rooms.Client
import QrCommandCenter.Rooms.Effects

/-!
# What a client shows after all events

The comment of `emitRoomEvents` says that the revisions are strictly increasing "so the frontend can always order events for a
room". They order the calls of `emitRoomEvents` by the section that numbers them, which need not be the order of the copies,
and `RoomUpdated` has none.

* `Emission.mark` : the room and the revision of a call, with `exec_numbers` and `exec_publishes` for what a step does;
* `Tracked` : the revisions are unique, and the log has the `ROOM_CHANGED` of exactly the calls that emitted one;
* `Converges` : the list shows the value copied last, and revisions are in the order of the copies;
* `InOrder`, `Settled`, `converges_iff` : it does exactly if calls are numbered in the order of their copies and no other value
  of the room is published without a revision at last;
* `Manager.emission_run` : the emissions of a manager are such steps and deletions.
-/

namespace QrCommandCenter.Rooms
open Domain Transition

variable {revision : Int} {j : Nat} {id : String}

/-! ## Steps -/

namespace Emission

variable {e : Emission} {k : Nat} {room : Room} {stage : Stage} {next : Stage}

/-- The room and the revision of call `k`, once it has one. -/
def mark (e : Emission) (k : Nat) : Option (String × Int) :=
  e.emitters[k]?.bind fun emitter => emitter.stage.revision.map fun revision => (emitter.room.roomID, revision)

theorem mark_eq {emitter : Emitter} (h : e.emitters[k]? = some emitter) :
    e.mark k = emitter.stage.revision.map fun revision => (emitter.room.roomID, revision) := by
  rw [mark, h, Option.bind_some]

/-- Call `k` has emitted `room` with `revision`. -/
def Emitted (e : Emission) (k : Nat) (room : Room) (revision : Int) : Prop :=
  e.emitters[k]? = some ⟨room, .emitted revision⟩

theorem Emitted.mark (h : e.Emitted k room revision) : e.mark k = some (room.roomID, revision) := mark_eq h

theorem mark_setStage (h : e.emitters[k]? = some ⟨room, stage⟩) (next : Stage) :
    (e.setStage k room next).mark =
      Function.update e.mark k (next.revision.map fun revision => (room.roomID, revision)) := by
  funext j
  by_cases hj : j = k
  · subst hj
    rw [Function.update_self, mark_eq (getElem?_set_same h)]
  · rw [Function.update_of_ne hj, mark, mark, setStage, List.getElem?_set_ne (Ne.symm hj)]

theorem mark_setStage_same (h : e.emitters[k]? = some ⟨room, stage⟩) (hsame : next.revision = stage.revision) :
    (e.setStage k room next).mark = e.mark := by
  rw [mark_setStage h, hsame, ← mark_eq h, Function.update_eq_self]

/-- A step numbers no call, or it is the section under `emitMu`. -/
inductive Numbers (e : Emission) (op : EmitOp) (e' : Emission) : Prop
  | none (mark : e'.mark = e.mark) (seqs : e'.emitSeqs = e.emitSeqs)
  | call (k : Nat) (now : Time) (room : Room) (op_eq : op = .step k now) (copied : e.emitters[k]? = some ⟨room, .copied⟩)
      (passes : e.passes room now = true)
      (mark : ∀ {j : Nat} {x : String × Int}, e'.mark j = some x ↔
        j = k ∧ x = (room.roomID, e.emitSeqs room.roomID + 1) ∨ e.mark j = some x)
      (seqs : e'.emitSeqs = Function.update e.emitSeqs room.roomID (e.emitSeqs room.roomID + 1))

theorem mark_number {now : Time} (hcopied : e.emitters[k]? = some ⟨room, .copied⟩) (hpasses : e.passes room now = true)
    {x : String × Int} : (e.number k room now).mark j = some x ↔
      j = k ∧ x = (room.roomID, e.emitSeqs room.roomID + 1) ∨ e.mark j = some x := by
  have hnew : (e.number k room now).mark = Function.update e.mark k (some (room.roomID, e.emitSeqs room.roomID + 1)) := by
    rw [number, if_pos hpasses]
    exact mark_setStage hcopied (.numbered (e.emitSeqs room.roomID + 1))
  rw [hnew]
  by_cases hj : j = k
  · subst hj
    have hnone : e.mark j = none := mark_eq hcopied
    simp [hnone, eq_comm]
  · simp [hj]

theorem exec_numbers (e : Emission) (op : EmitOp) : e.Numbers op (e.exec op).1 := by
  cases op with
  | created room => exact .none rfl rfl
  | copy room =>
    refine .none (funext fun j => ?_) rfl
    simp only [exec, mark]
    rcases Nat.lt_trichotomy j e.emitters.length with hj | hj | hj
    · rw [List.getElem?_append_left hj]
    · subst hj
      simp [Stage.revision]
    · rw [List.getElem?_eq_none (by simp; omega), List.getElem?_eq_none (by omega)]
  | step k now =>
    cases hk : e.emitters[k]? with
    | none =>
      simp only [exec, step, hk]
      exact .none rfl rfl
    | some emitter =>
      obtain ⟨room, stage⟩ := emitter
      cases stage with
      | copied =>
        simp only [exec, step, hk]
        by_cases hpasses : e.passes room now = true
        · refine .call k now room rfl hk hpasses (mark_number hk hpasses) ?_
          simp only [number, if_pos hpasses, setStage]
        · simp only [number, if_neg hpasses]
          exact .none (mark_setStage_same hk rfl) rfl
      | numbered | updated =>
        simp only [exec, step, hk]
        exact .none (mark_setStage_same hk rfl) rfl
      | emitted revision | suppressed =>
        simp only [exec, step, hk]
        exact .none rfl rfl

/-- A step publishes no `ROOM_CHANGED`, or it is the last one of a call. -/
inductive Publishes (e e' : Emission) : Prop
  | other (events : List RoomEvent) (log : e'.log = e.log ++ events)
      (unguarded : ∀ event ∈ events, ∃ room, event = .roomCreated room ∨ event = .roomUpdated room)
      (emitted : ∀ k room revision, e'.Emitted k room revision ↔ e.Emitted k room revision)
  | changed (k : Nat) (room : Room) (revision : Int) (updated : e.emitters[k]? = some ⟨room, .updated revision⟩)
      (log : e'.log = e.log ++ [.roomChanged (roomChanged room revision)])
      (emitters : e'.emitters = e.emitters.set k ⟨room, .emitted revision⟩)

theorem emitted_setStage (h : e.emitters[k]? = some ⟨room, stage⟩)
    (hstage : ∀ revision, stage ≠ .emitted revision) (hnext : ∀ revision, next ≠ .emitted revision) (j : Nat)
    (room' : Room) (revision : Int) :
    (e.setStage k room next).Emitted j room' revision ↔ e.Emitted j room' revision := by
  by_cases hj : j = k
  · subst hj
    simp only [Emitted, setStage, getElem?_set_same h, h, Option.some.injEq, Emitter.mk.injEq]
    exact ⟨fun heq => absurd heq.2 (hnext revision), fun heq => absurd heq.2 (hstage revision)⟩
  · rw [Emitted, Emitted, setStage, List.getElem?_set_ne (Ne.symm hj)]

theorem exec_publishes (e : Emission) (op : EmitOp) : e.Publishes (e.exec op).1 := by
  cases op with
  | created room =>
    refine .other [.roomCreated (newRoomLite room)] rfl (fun event hevent => ?_) fun k room revision => Iff.rfl
    exact ⟨_, .inl (List.mem_singleton.mp hevent)⟩
  | copy room =>
    refine .other [] (by simp [exec]) (fun event hevent => by cases hevent) fun k room' revision => ?_
    simp only [exec, Emitted]
    refine ⟨fun h => ?_, fun h => ?_⟩
    · rcases getElem?_append_cases h with ⟨-, heq⟩ | h
      · cases heq
      · exact h
    · exact getElem?_append_kept h _
  | step k now =>
    have hidle : ∀ e' : Emission, e'.log = e.log →
        (∀ j room revision, e'.Emitted j room revision ↔ e.Emitted j room revision) → e.Publishes e' :=
      fun e' hlog hemitters => .other [] (by simp [hlog]) (fun event hevent => by cases hevent) hemitters
    cases hk : e.emitters[k]? with
    | none =>
      simp only [exec, step, hk]
      exact hidle e rfl fun j room revision => Iff.rfl
    | some emitter =>
      obtain ⟨room, stage⟩ := emitter
      cases stage with
      | copied =>
        simp only [exec, step, hk, number]
        split <;> exact hidle _ rfl (emitted_setStage hk (fun r h => by cases h) (fun r h => by cases h))
      | numbered revision =>
        simp only [exec, step, hk]
        refine .other [.roomUpdated (newRoomLite room)] rfl (fun event hevent => ?_)
          (emitted_setStage hk (fun r h => by cases h) (fun r h => by cases h))
        exact ⟨_, .inr (List.mem_singleton.mp hevent)⟩
      | updated revision =>
        simp only [exec, step, hk]
        exact .changed k room revision hk rfl rfl
      | emitted revision | suppressed =>
        simp only [exec, step, hk]
        exact hidle e rfl fun j room revision => Iff.rfl

end Emission

/-! ## Revisions and the log -/

/-- Revisions are bounded by the counters and unique, and the log has what was emitted. -/
structure Tracked (e : Emission) : Prop where
  bounded : ∀ k id revision, e.mark k = some (id, revision) → revision ≤ e.emitSeqs id
  distinct : ∀ i j mark, e.mark i = some mark → e.mark j = some mark → i = j
  published : ∀ event, .roomChanged event ∈ e.log ↔ ∃ k room revision, e.Emitted k room revision ∧ event = roomChanged room revision
  kept : ∀ roomID, .roomDeleted roomID ∉ e.log

theorem tracked_start (seqs : String → Int) (last : String → Option Time) :
    Tracked { emitSeqs := seqs, lastEmittedAt := last } where
  bounded := fun k id revision h => by simp [Emission.mark] at h
  distinct := fun i j mark h => by simp [Emission.mark] at h
  published := fun event => by simp [Emission.Emitted]
  kept := fun roomID h => by cases h

section Steps
variable {e : Emission} {op : EmitOp}

section
variable (h : Tracked e)
include h

theorem Tracked.lt_next {k : Nat} (hmark : e.mark k = some (id, revision)) : revision < e.emitSeqs id + 1 := Int.lt_add_one_of_le (h.bounded k id revision hmark)

theorem Tracked.exec_bounded (k : Nat) (id : String) (revision : Int)
    (hmark : (e.exec op).1.mark k = some (id, revision)) : revision ≤ (e.exec op).1.emitSeqs id := by
  rcases e.exec_numbers op with ⟨hsame, hseqs⟩ | ⟨k', now, room, -, -, -, hnew, hseqs⟩
  · rw [hsame] at hmark
    rw [hseqs]
    exact h.bounded k id revision hmark
  · rw [hseqs]
    rcases hnew.mp hmark with ⟨-, heq⟩ | hold
    · cases heq
      simp
    · by_cases hid : id = room.roomID
      · subst hid
        rw [Function.update_self]
        exact Int.le_of_lt (h.lt_next hold)
      · rw [Function.update_of_ne hid]
        exact h.bounded k id revision hold

theorem Tracked.exec_distinct (i j : Nat) (mark : String × Int) (hi : (e.exec op).1.mark i = some mark)
    (hj : (e.exec op).1.mark j = some mark) : i = j := by
  rcases e.exec_numbers op with ⟨hsame, -⟩ | ⟨k, now, room, -, -, -, hnew, -⟩
  · rw [hsame] at hi hj
    exact h.distinct i j mark hi hj
  · -- a call that had a revision before has another one than the new
    rcases hnew.mp hi with ⟨hik, rfl⟩ | hi
    · rcases hnew.mp hj with ⟨hjk, -⟩ | hj
      · exact hik.trans hjk.symm
      · exact absurd (h.lt_next hj) (Int.lt_irrefl _)
    · rcases hnew.mp hj with ⟨-, rfl⟩ | hj
      · exact absurd (h.lt_next hi) (Int.lt_irrefl _)
      · exact h.distinct i j mark hi hj

theorem Tracked.exec_published (event : RoomChanged) : .roomChanged event ∈ (e.exec op).1.log ↔
      ∃ k room revision, (e.exec op).1.Emitted k room revision ∧ event = roomChanged room revision := by
  rcases e.exec_publishes op with ⟨events, hlog, hevents, hemitted⟩ | ⟨k, room, revision, hupdated, hlog, hemitters⟩
  · have hnone : .roomChanged event ∉ events := by
      intro hmem
      obtain ⟨room, heq | heq⟩ := hevents _ hmem
      · cases heq
      · cases heq
    simp only [hlog, List.mem_append, hnone, or_false, hemitted]
    exact h.published event
  · have hemit : (e.exec op).1.Emitted k room revision := by
      rw [Emission.Emitted, hemitters]
      exact getElem?_set_same hupdated
    rw [hlog, List.mem_append, h.published event]
    constructor
    · rintro (⟨j, room', revision', hj, rfl⟩ | hlast)
      · refine ⟨j, room', revision', ?_, rfl⟩
        have hne : j ≠ k := by
          rintro rfl
          rw [Emission.Emitted, hupdated] at hj
          cases hj
        rw [Emission.Emitted, hemitters]
        exact getElem?_set_kept hne hj
      · cases List.mem_singleton.mp hlast
        exact ⟨k, room, revision, hemit, rfl⟩
    · rintro ⟨j, room', revision', hj, rfl⟩
      rw [Emission.Emitted, hemitters] at hj
      rcases getElem?_set_cases hj with ⟨-, heq⟩ | ⟨-, hj⟩
      · cases heq
        exact .inr List.mem_cons_self
      · exact .inl ⟨j, room', revision', hj, rfl⟩

theorem Tracked.exec_kept (roomID : String) : .roomDeleted roomID ∉ (e.exec op).1.log := by
  rcases e.exec_publishes op with ⟨events, hlog, hevents, -⟩ | ⟨k, room, revision, -, hlog, -⟩
  · rw [hlog, List.mem_append]
    rintro (hmem | hmem)
    · exact h.kept roomID hmem
    · obtain ⟨room, heq | heq⟩ := hevents _ hmem
      · cases heq
      · cases heq
  · rw [hlog, List.mem_append]
    rintro (hmem | hmem)
    · exact h.kept roomID hmem
    · cases List.mem_singleton.mp hmem

theorem Tracked.exec : Tracked (e.exec op).1 :=
  ⟨h.exec_bounded, h.exec_distinct, h.exec_published, h.exec_kept⟩

end

/-! ## The order of revisions -/

/-- Revisions of a room are in the order of its copies. -/
def Ordered (e : Emission) : Prop :=
  ∀ i j id revision revision', i < j → e.mark i = some (id, revision) → e.mark j = some (id, revision') → revision < revision'

/-- A call is numbered before all later copies of the room. -/
def InOrder (ev : Event Emission EmitOp Unit) : Prop :=
  ∀ k now room, ev.op = .step k now → ev.pre.emitters[k]? = some ⟨room, .copied⟩ → ev.pre.passes room now = true →
    ∀ j revision, k < j → ev.pre.mark j ≠ some (room.roomID, revision)

/-- A step that leaves the revisions in order: they were, and the step numbers a call before all later copies. -/
theorem Tracked.ordered_exec (h : Tracked e) :
    Ordered (e.exec op).1 ↔ Ordered e ∧ InOrder (Event.of Emission.exec e op) := by
  rcases e.exec_numbers op with ⟨hsame, -⟩ | ⟨k, now, room, hop, hcopied, hpasses, hnew, -⟩
  · refine ⟨fun hordered => ⟨by rwa [Ordered, ← hsame], fun k now room hop hcopied hpasses => ?_⟩, fun hordered => ?_⟩
    · cases (hop : op = _)
      change e.emitters[k]? = _ at hcopied
      have hk : (e.exec (.step k now)).1.mark k = some (room.roomID, e.emitSeqs room.roomID + 1) := by
        simp only [Emission.exec, Emission.step, hcopied]
        exact (Emission.mark_number hcopied hpasses).mpr (.inl ⟨rfl, rfl⟩)
      rw [hsame, Emission.mark_eq hcopied] at hk
      cases hk
    · rw [Ordered, hsame]
      exact hordered.1
  · have hkeep : ∀ {l mark}, e.mark l = some mark → (e.exec op).1.mark l = some mark := fun hl => hnew.mpr (.inr hl)
    have hself : (e.exec op).1.mark k = some (room.roomID, e.emitSeqs room.roomID + 1) := hnew.mpr (.inl ⟨rfl, rfl⟩)
    constructor
    · intro hordered
      refine ⟨fun i j id revision revision' hij hi hj => hordered i j id revision revision' hij (hkeep hi) (hkeep hj), ?_⟩
      intro k' now' room' hop' hcopied' _ j revision hj hmark
      cases hop.symm.trans hop'
      cases Option.some.inj (hcopied.symm.trans hcopied')
      -- the later copy has a smaller revision than the new one
      have hlt := hordered k j room.roomID _ revision hj hself (hkeep hmark)
      exact Int.lt_irrefl _ (Int.lt_trans hlt (h.lt_next hmark))
    · rintro ⟨hordered, hin⟩ i j id revision revision' hij hi hj
      rcases hnew.mp hi with ⟨rfl, hi⟩ | hi
      · rcases hnew.mp hj with ⟨rfl, -⟩ | hj
        · exact absurd hij (Nat.lt_irrefl _)
        · cases hi
          exact absurd hj (hin i now room hop hcopied hpasses j revision' hij)
      · rcases hnew.mp hj with ⟨-, hj⟩ | hj
        · cases hj
          exact h.lt_next hi
        · exact hordered i j id revision revision' hij hi hj

end Steps

section
variable (seqs : String → Int) (last : String → Option Time) (ops : List EmitOp)

theorem tracked_final : Tracked (final Emission.exec { emitSeqs := seqs, lastEmittedAt := last } ops) :=
  final_inv (fun _ _ h => h.exec) (tracked_start seqs last) ops

theorem ordered_iff : Ordered (final Emission.exec { emitSeqs := seqs, lastEmittedAt := last } ops) ↔
      ∀ ev ∈ trace Emission.exec { emitSeqs := seqs, lastEmittedAt := last } ops, InOrder ev := by
  induction ops using List.reverseRecOn with
  | nil => simp [trace, Ordered, Emission.mark]
  | append_singleton ops op ih =>
    rw [final_snoc, trace_snoc, (tracked_final seqs last ops).ordered_exec, ih]
    simp [or_imp, forall_and]

end

/-! ## Convergence -/

def Emission.Quiescent (e : Emission) : Prop := ∀ emitter ∈ e.emitters, emitter.stage.final = true

/-- The value of call `k` was copied last among the emitted ones of its room. -/
structure Emission.LastEmitted (e : Emission) (k : Nat) (room : Room) (revision : Int) : Prop where
  emitted : e.Emitted k room revision
  last : ∀ j other revision', k < j → e.Emitted j other revision' → other.roomID ≠ room.roomID

/-- The client shows the value copied last, and the revisions are in the order of the copies. -/
structure Converges (rooms : List RoomLite) (e : Emission) : Prop where
  shows : ∀ k room revision, e.LastEmitted k room revision →
    Shows ((RoomsClient.fullStateSync rooms).receive e.log).rooms room.roomID ⟨room.status, room.expiresAt⟩
  ordered : ∀ i j room room' revision revision', e.Emitted i room revision → e.Emitted j room' revision' →
    room.roomID = room'.roomID → (i < j ↔ revision < revision')

/-- The events without a revision after the `ROOM_CHANGED` of the value copied last leave that value. -/
def Settled (rooms : List RoomLite) (e : Emission) : Prop :=
  ∀ k room revision before after, e.LastEmitted k room revision →
    e.log = before ++ .roomChanged (roomChanged room revision) :: after →
    .roomChanged (roomChanged room revision) ∉ before →
    ∀ value, after.foldl (overwrite room.roomID)
        (if Listed rooms room.roomID ∨ before.any (RoomsClient.creates room.roomID) = true
          then some ⟨room.status, room.expiresAt⟩ else none) = some value →
      value = ⟨room.status, room.expiresAt⟩

section Quiescent
variable {e : Emission} {rooms : List RoomLite}
variable {k : Nat} {revision : Int} {room : Room}

theorem Emission.Quiescent.emitted (h : e.Quiescent) (hmark : e.mark k = some (id, revision)) :
    ∃ room, e.Emitted k room revision ∧ room.roomID = id := by
  obtain ⟨⟨room, stage⟩, hk, hrevision⟩ := Option.bind_eq_some_iff.mp hmark
  have hfinal := h _ (List.mem_of_getElem? hk)
  cases stage with
  | emitted r =>
    cases hrevision
    exact ⟨room, hk, rfl⟩
  | copied | numbered | updated => cases hfinal
  | suppressed => cases hrevision

theorem Emission.Quiescent.ordered (hq : e.Quiescent)
    (hordered : ∀ i j room room' revision revision', e.Emitted i room revision → e.Emitted j room' revision' →
      room.roomID = room'.roomID → (i < j ↔ revision < revision')) : Ordered e := by
  intro i j id revision revision' hij hi hj
  obtain ⟨room, hroom, rfl⟩ := hq.emitted hi
  obtain ⟨room', hroom', hid⟩ := hq.emitted hj
  exact (hordered i j room room' revision revision' hroom hroom' hid.symm).mp hij

theorem Ordered.lt_iff (h : Ordered e) (i j : Nat) (room room' : Room) (revision revision' : Int)
    (hi : e.Emitted i room revision) (hj : e.Emitted j room' revision') (hid : room.roomID = room'.roomID) :
    i < j ↔ revision < revision' := by
  refine ⟨fun hij => h i j _ _ _ hij hi.mark (hid ▸ hj.mark), fun hlt => ?_⟩
  rcases Nat.lt_trichotomy i j with hij | rfl | hji
  · exact hij
  · cases Option.some.inj (hi.symm.trans hj)
    exact absurd hlt (Int.lt_irrefl _)
  · have hgt := h j i _ _ _ hji hj.mark (hid ▸ hi.mark)
    exact absurd (Int.lt_trans hlt hgt) (Int.lt_irrefl _)

theorem Emission.LastEmitted.newest (hlast : e.LastEmitted k room revision) (hordered : Ordered e)
    {other : Room} {revision' : Int} (hj : e.Emitted j other revision') (hid : other.roomID = room.roomID) :
    j = k ∧ revision' = revision ∨ revision' < revision := by
  rcases Nat.lt_trichotomy j k with hjk | rfl | hkj
  · exact .inr (hordered j k _ _ _ hjk hj.mark (hid ▸ hlast.emitted.mark))
  · cases Option.some.inj (hj.symm.trans hlast.emitted)
    exact .inl ⟨rfl, rfl⟩
  · exact absurd hid (hlast.last j other revision' hkj hj)

theorem Tracked.within (h : Tracked e) (hordered : Ordered e) (hlast : e.LastEmitted k room revision)
    {event : RoomEvent} (hevent : event ∈ e.log) :
    RoomsClient.Within room.roomID (· ≤ revision) event ∧
      (event ≠ .roomChanged (roomChanged room revision) → RoomsClient.Within room.roomID (· < revision) event) := by
  cases event with
  | roomCreated | roomUpdated => exact ⟨trivial, fun _ => trivial⟩
  | roomDeleted roomID => exact absurd hevent (h.kept roomID)
  | roomChanged changed =>
    obtain ⟨j, other, revision', hj, rfl⟩ := (h.published changed).mp hevent
    refine ⟨fun hid => ?_, fun hne hid => ?_⟩
    · rcases hlast.newest hordered hj hid with ⟨-, rfl⟩ | hlt
      · exact Int.le_refl _
      · exact Int.le_of_lt hlt
    · rcases hlast.newest hordered hj hid with ⟨rfl, rfl⟩ | hlt
      · cases Option.some.inj (hj.symm.trans hlast.emitted)
        exact absurd rfl hne
      · exact hlt

theorem Tracked.displays (h : Tracked e) (hordered : Ordered e) (rooms : List RoomLite)
    (hlast : e.LastEmitted k room revision) {before after : List RoomEvent}
    (hlog : e.log = before ++ .roomChanged (roomChanged room revision) :: after)
    (hfirst : .roomChanged (roomChanged room revision) ∉ before) :
    Displays ((RoomsClient.fullStateSync rooms).receive e.log).rooms room.roomID
      (after.foldl (overwrite room.roomID)
        (if Listed rooms room.roomID ∨ before.any (RoomsClient.creates room.roomID) = true
          then some ⟨room.status, room.expiresAt⟩ else none)) := by
  have hmem : ∀ event, event ∈ before ∨ event ∈ after → event ∈ e.log := by
    intro event hevent
    rw [hlog]
    rcases hevent with hevent | hevent
    · exact List.mem_append_left _ hevent
    · exact List.mem_append_right _ (List.mem_cons_of_mem _ hevent)
  rw [hlog]
  refine RoomsClient.receive_newest rooms (roomChanged room revision) (fun event hevent => ?_) fun event hevent => ?_
  · refine (h.within hordered hlast (hmem event (.inl hevent))).2 ?_
    rintro rfl
    exact hfirst hevent
  · exact (h.within hordered hlast (hmem event (.inr hevent))).1

theorem Tracked.converges_quiescent (h : Tracked e) (hq : e.Quiescent) : Converges rooms e ↔ Ordered e ∧ Settled rooms e := by
  constructor
  · intro hconverges
    have hordered := hq.ordered hconverges.ordered
    refine ⟨hordered, fun k room revision before after hlast hlog hfirst value hvalue => ?_⟩
    have hdisplays := h.displays hordered rooms hlast hlog hfirst
    rw [hvalue] at hdisplays
    obtain ⟨⟨entry, hentry, hid⟩, hshows⟩ := hdisplays
    rw [← hshows entry hentry hid]
    exact hconverges.shows k room revision hlast entry hentry hid
  · rintro ⟨hordered, hsettled⟩
    refine ⟨fun k room revision hlast => ?_, hordered.lt_iff⟩
    have hpublished : .roomChanged (roomChanged room revision) ∈ e.log :=
      (h.published _).mpr ⟨k, room, revision, hlast.emitted, rfl⟩
    obtain ⟨before, after, hlog, hfirst⟩ := List.eq_append_cons_of_mem hpublished
    have hdisplays := h.displays hordered rooms hlast hlog hfirst
    have hvalue := hsettled k room revision before after hlast hlog hfirst
    revert hdisplays hvalue
    cases after.foldl (overwrite room.roomID) _ with
    | none => exact fun hnone _ entry hentry hid => absurd ⟨entry, hentry, hid⟩ hnone
    | some value => exact fun hshows hvalue => hvalue value rfl ▸ hshows.2

end Quiescent

/-- **At last the list shows the value copied last, with the revisions in the order of the copies, exactly if every call
is numbered before all later copies of its room and the events without a revision leave that value.** -/
theorem converges_iff (seqs : String → Int) (last : String → Option Time) (rooms : List RoomLite) (ops : List EmitOp) :
    let e := final Emission.exec { emitSeqs := seqs, lastEmittedAt := last } ops
    (e.Quiescent → Converges rooms e) ↔
      (e.Quiescent → (∀ ev ∈ trace Emission.exec { emitSeqs := seqs, lastEmittedAt := last } ops, InOrder ev) ∧
        Settled rooms e) := by
  intro e
  refine forall_congr' fun hq => ?_
  rw [(tracked_final seqs last ops).converges_quiescent hq, ordered_iff seqs last ops]

/-! ### A stop that overtakes a fetch -/

def fetchedRoom : Room := { roomID := "room", classID := "class", status := .running, qrURL := some "https://qr.example/1" }

/-- The worker copies the fetched room, `StopRoom` copies and emits the stopped one, and then the worker emits its copy. -/
def overtakenOps : List EmitOp :=
  [.copy fetchedRoom, .copy (stoppedRoom fetchedRoom)] ++ List.replicate 3 (.step 1 0) ++ List.replicate 3 (.step 0 0)

theorem overtaken_not_converges :
    ¬ ∀ seqs last rooms ops, let e := final Emission.exec { emitSeqs := seqs, lastEmittedAt := last } ops
      e.Quiescent → Converges rooms e := by
  intro h
  let e := final Emission.exec {} overtakenOps
  have hemitters : e.emitters = [⟨fetchedRoom, .emitted 2⟩, ⟨stoppedRoom fetchedRoom, .emitted 1⟩] := by decide +kernel
  have hq : e.Quiescent := by
    intro emitter hemitter
    rw [hemitters] at hemitter
    simp only [List.mem_cons, List.not_mem_nil, or_false] at hemitter
    rcases hemitter with rfl | rfl
    · rfl
    · rfl
  have hconverges : Converges [newRoomLite fetchedRoom] e := h (fun _ => 0) (fun _ => none) _ overtakenOps hq
  have hfirst : e.Emitted 0 fetchedRoom 2 := by rw [Emission.Emitted, hemitters]; rfl
  have hsecond : e.Emitted 1 (stoppedRoom fetchedRoom) 1 := by rw [Emission.Emitted, hemitters]; rfl
  have hlt := (hconverges.ordered 0 1 _ _ 2 1 hfirst hsecond rfl).mp Nat.zero_lt_one
  exact absurd hlt (by decide)

/-! ## The emissions of the manager -/

/-- A step of `emitRoomEvents` or `RoomCreated`, or a part of `DeleteRoom`. -/
def Emission.Next (e e' : Emission) : Prop :=
  e.Moves e' ∨ ∃ roomID, e' = e.forget roomID ∨ e' = e.publish (.roomDeleted roomID)

/-- **The events of a manager** come from such steps, in every run. -/
theorem Manager.emission_run (client : Bool) (ops : List RoomOp) :
    Relation.ReflTransGen Emission.Next {} (final (Manager.exec · client) {} ops).emission :=
  @final_inv _ _ _ _ (fun m : Manager => Relation.ReflTransGen Emission.Next {} m.emission)
    (fun m op h => h.tail (m.exec_effect client op).emission) {} .refl ops

end QrCommandCenter.Rooms
