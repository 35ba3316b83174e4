import QrCommandCenter.Service.CheckinReplay

/-!
# What a check-in did upstream

A write upstream can be applied although its caller is told an error. What the call records and returns, against what it
did to the student.

* `WriteFate`, `Upstream` : what becomes of a write, and the states of the students;
* `facing` : the answers to a call, with an account of what its write did;
* `Reaches` : the calls that get to their write, which is all a call does upstream (`run_reaching`, `run_unreaching`);
* `accounted_iff` : when the recorded outcome tells what the call did.
-/

namespace QrCommandCenter.Service
open Domain Table Program

/-! ## Writes -/

/-- A write is accepted, or refused without effect; or its caller is told an error and it was applied or not. -/
inductive WriteFate where
  | accepted
  | refused (err : String)
  | unreported (err : String) (applied : Bool)
deriving DecidableEq, Repr

/-- The states of the students upstream, and whether a write was attempted. -/
structure Upstream where
  state : String → Bool
  attempted : Bool := false

namespace WriteFate

def answer : WriteFate → Except String Unit
  | .accepted => .ok ()
  | .refused err | .unreported err _ => .error err

def applied : WriteFate → Bool
  | .accepted => true
  | .refused _ => false
  | .unreported _ applied => applied

/-- The caller cannot tell whether the write was applied. -/
def unknown : WriteFate → Bool
  | .unreported _ _ => true
  | .accepted | .refused _ => false

def note (fate : WriteFate) : CheckinCall → Upstream → Upstream
  | .toggleCheckin _ _ studentID checkedIn, upstream =>
    { state := if fate.applied then Function.update upstream.state studentID checkedIn else upstream.state
      attempted := true }
  | _, upstream => upstream

end WriteFate

def World.meeting (world : World) (fate : WriteFate) : World := { world with write := fate.answer }

/-- The answers to call `i`, with an account of what it does upstream. -/
def facing (hashtext : String → BitVec 32) (i : Nat) (world : World) (fate : WriteFate) :
    Mutations × Upstream → (e : CheckinCall) → Option ((Mutations × Upstream) × e.Answer) :=
  recording (answering hashtext i (world.meeting fate).choose) fate.note

/-- The key is new, and the context lives until it is reserved. -/
structure Reserves (req : CheckinRequest) (table : List MutationRow) (world : World) : Prop where
  isNew : lookup MutationRow.idempotencyKey table req.idempotencyKey = none
  live : 1 < world.cancelAt

/-- The call gets to its write. -/
structure Reaches (service : TeacherService) (req : CheckinRequest) (table : List MutationRow) (world : World)
    (current : CurrentCheckinState) : Prop where
  mutator : service.mutator = true
  reserves : Reserves req table world
  asks : Asks service req world current

/-! ## What a call does upstream -/

section Effect
variable {hashtext : String → BitVec 32} {i : Nat} {world : World} {fate : WriteFate} {service : TeacherService}
  {req : CheckinRequest} {table : List MutationRow}

theorem note_notesWrites : NotesWrites fate.note := by
  intro e upstream he
  cases e <;> first | rfl | cases he

/-- A call that reserved its key writes exactly if the first read asks for a change. -/
theorem Recorded.asks_iff {wrote : Option CurrentCheckinState} {f : MutationRow → MutationRow} {outcome : CheckinOutcome}
    (h : Recorded service world req wrote f outcome) {current : CurrentCheckinState} :
    Asks service req world current ↔ wrote = some current := by
  cases h with
  | unread err hread =>
    refine ⟨fun hasks => ?_, fun h => by cases h⟩
    cases hread.symm.trans hasks.read
  | stale current' hread hstale =>
    refine ⟨fun hasks => ?_, fun h => by cases h⟩
    cases hread.symm.trans hasks.read
    cases hstale.symm.trans hasks.fresh
  | satisfied current' hread hfresh hsatisfied =>
    refine ⟨fun hasks => ?_, fun h => by cases h⟩
    cases hread.symm.trans hasks.read
    exact absurd hsatisfied hasks.differs
  | rejected current' hasks' | written current' hasks' =>
    refine ⟨fun hasks => ?_, fun h => ?_⟩
    · cases hasks'.read.symm.trans hasks.read
      rfl
    · cases h
      exact hasks'

theorem run_reaching {current : CurrentCheckinState} (hreaches : Reaches service req table world current)
    (upstream : Upstream) :
    ∃ f outcome, Recorded service (world.meeting fate) req (some current) f outcome ∧
      (service.checkin req).run (facing hashtext i world fate) (⟨table, []⟩, upstream) =
        some ((⟨((world.meeting fate).record ⟨table ++ [.reserve req], []⟩ req.idempotencyKey f).requests, []⟩,
          fate.note (req.write current) upstream), outcome) := by
  obtain ⟨wrote, f, outcome, hrecorded, hrun⟩ := @run_new Upstream fate.note note_notesWrites hashtext i
    (world.meeting fate) service upstream req table hreaches.mutator hreaches.reserves.isNew hreaches.reserves.live
  have hasks : Asks service req (world.meeting fate) current :=
    ⟨hreaches.asks.read, hreaches.asks.fresh, hreaches.asks.differs⟩
  cases hrecorded.asks_iff.mp hasks
  exact ⟨f, outcome, hrecorded, hrun⟩

theorem run_unreaching (hreach : ∀ current, ¬ Reaches service req table world current) (upstream : Upstream) :
    ∃ s outcome, (service.checkin req).run (facing hashtext i world fate) (⟨table, []⟩, upstream) =
      some ((s, upstream), outcome) := by
  cases hmutator : service.mutator with
  | false =>
    rw [TeacherService.checkin, hmutator]
    exact ⟨_, _, rfl⟩
  | true =>
    cases hrow : lookup MutationRow.idempotencyKey table req.idempotencyKey with
    | none =>
      by_cases hlive : 1 < world.cancelAt
      · obtain ⟨wrote, f, outcome, hrecorded, hrun⟩ := @run_new Upstream fate.note note_notesWrites hashtext i
          (world.meeting fate) service upstream req table hmutator hrow hlive
        cases wrote with
        | none => exact ⟨_, _, hrun⟩
        | some current =>
          obtain ⟨hread, hfresh, hdiffers⟩ := hrecorded.asks_iff.mpr rfl
          exact absurd ⟨hmutator, ⟨hrow, hlive⟩, ⟨hread, hfresh, hdiffers⟩⟩ (hreach current)
      · obtain ⟨err, -, hrun⟩ := @run_unreserved Upstream fate.note note_notesWrites hashtext i (world.meeting fate)
          service upstream req table hmutator (show world.cancelAt ≤ 2 by omega) fun _ => Nat.not_lt.mp hlive
        exact ⟨_, _, hrun⟩
    | some row =>
      by_cases hlive : 2 < world.cancelAt
      · exact ⟨_, _, run_found note_notesWrites hmutator hrow hlive⟩
      · obtain ⟨err, -, hrun⟩ := @run_unreserved Upstream fate.note note_notesWrites hashtext i (world.meeting fate)
          service upstream req table hmutator (show world.cancelAt ≤ 2 by omega)
          fun hnone => absurd (hrow.symm.trans hnone) (by simp)
        exact ⟨_, _, hrun⟩

end Effect

/-! ## What was recorded, against what was done -/

/-- The call returns. If its key is then failed, or it or a later replay returns an error upstream, it has changed
nothing upstream; a write whose effect is unknown is recorded as pending. -/
def Accounted (hashtext : String → BitVec 32) (service : TeacherService) (req : CheckinRequest)
    (table : List MutationRow) (state : String → Bool) (world : World) (fate : WriteFate) : Prop :=
  ∃ s upstream outcome,
    (service.checkin req).run (facing hashtext 0 world fate) (⟨table, []⟩, { state }) = some ((s, upstream), outcome) ∧
    (∀ row, s.find req.idempotencyKey = some row → row.status = .failed → upstream.state = state) ∧
    (∀ err, outcome = .error (.upstream err) → upstream.state = state) ∧
    (∀ row later s' err, s.find req.idempotencyKey = some row → 2 < World.cancelAt later →
      (service.checkin req).run (answering hashtext 1 later.choose) s = some (s', .error (.upstream err)) →
      upstream.state = state) ∧
    (upstream.attempted = true → fate.unknown = true →
      ∃ row, s.find req.idempotencyKey = some row ∧ row.status = .pendingVerification)

section Accounted
variable {hashtext : String → BitVec 32} {service : TeacherService} {req : CheckinRequest} {table : List MutationRow}
  {world : World} {fate : WriteFate}

theorem replay_upstream {row : MutationRow} {err : String}
    (h : (if row.isMatch req then row.replay else .error (.conflict 0 false)) = .error (.upstream err)) :
    row.status = .failed := by
  split at h
  · unfold MutationRow.replay storedCheckinResult at h
    split at h
    · rename_i hfailed
      exact Option.some.inj hfailed
    · split at h <;> cases h
  · cases h

theorem find_written {f : MutationRow → MutationRow} {current : CurrentCheckinState}
    (hreaches : Reaches service req table world current)
    (hf : ∀ row, (f row).idempotencyKey = row.idempotencyKey) :
    Mutations.find ⟨((world.meeting fate).record ⟨table ++ [.reserve req], []⟩ req.idempotencyKey f).requests, []⟩
      req.idempotencyKey = some (if 9 < world.cancelAt then f (.reserve req) else .reserve req) :=
  find_recorded (world.meeting fate) hf hreaches.reserves.isNew

theorem unknown_not_accounted {state : String → Bool} {current : CurrentCheckinState}
    (hreaches : Reaches service req table world current) (hunknown : fate.unknown = true) :
    ¬ Accounted hashtext service req table state world fate := by
  rintro ⟨s, upstream, outcome, hrun, -, -, -, hpending⟩
  obtain ⟨f, outcome', hrecorded, hrun'⟩ := @run_reaching hashtext 0 world fate service req table current hreaches
    { state }
  cases hrun.symm.trans hrun'
  obtain ⟨row, hrow, hstatus⟩ := hpending rfl hunknown
  rw [find_written hreaches hrecorded.key] at hrow
  cases hrow
  cases hrecorded with
  | rejected => split at hstatus <;> cases hstatus
  | written _ _ hwrite =>
    cases fate with
    | accepted | refused => cases hunknown
    | unreported => cases hwrite

/-- **The outcome tells what a call did upstream exactly when it does not reach its write or the effect of the write is
known.** -/
theorem accounted_iff (hashtext : String → BitVec 32) (service : TeacherService) (req : CheckinRequest)
    (table : List MutationRow) (state : String → Bool) (world : World) (fate : WriteFate) :
    Accounted hashtext service req table state world fate ↔
      ∀ current, Reaches service req table world current → fate.unknown = false := by
  constructor
  · intro h current hreaches
    rw [← Bool.not_eq_true]
    exact fun hunknown => unknown_not_accounted hreaches hunknown h
  intro h
  -- a call that left the states alone is accounted for, unless the effect of a write was unknown
  have hunchanged : ∀ s upstream outcome, (service.checkin req).run (facing hashtext 0 world fate)
      (⟨table, []⟩, { state }) = some ((s, upstream), outcome) → upstream.state = state →
      (upstream.attempted = true → fate.unknown = false) → Accounted hashtext service req table state world fate := by
    intro s upstream outcome hrun hstate hknown
    refine ⟨s, upstream, outcome, hrun, fun _ _ _ => hstate, fun _ _ => hstate, fun _ _ _ _ _ _ _ => hstate, ?_⟩
    intro hattempted hunknown
    rw [hknown hattempted] at hunknown
    cases hunknown
  by_cases hreach : ∃ current, Reaches service req table world current
  · obtain ⟨current, hreaches⟩ := hreach
    have hknown := h current hreaches
    obtain ⟨f, outcome, hrecorded, hrun⟩ := @run_reaching hashtext 0 world fate service req table current hreaches
      { state }
    have hkey := hrecorded.key
    cases hrecorded with
    | rejected _ hasks err hwrite =>
      refine hunchanged _ _ _ hrun ?_ fun _ => hknown
      cases fate with
      | accepted => cases hwrite
      | refused => rfl
      | unreported => cases hknown
    | written _ hasks hwrite result _ hf =>
      -- the row is confirmed, pending or still reserved
      have hnotFailed : ∀ row, Mutations.find ⟨((world.meeting fate).record ⟨table ++ [.reserve req], []⟩
          req.idempotencyKey f).requests, []⟩ req.idempotencyKey = some row → row.status ≠ .failed := by
        intro row hrow hfailed
        rw [find_written hreaches hkey] at hrow
        cases hrow
        split at hfailed
        · rcases hf with rfl | rfl <;> cases hfailed
        · cases hfailed
      refine ⟨_, _, _, hrun, fun row hrow hfailed => absurd hfailed (hnotFailed row hrow), fun err herr => ?_, ?_,
        fun _ hunknown => ?_⟩
      · cases herr
      · intro row later s' err hrow hlater hreplay
        rw [run_stored hreaches.mutator hrow hlater] at hreplay
        exact absurd (replay_upstream (Prod.mk.inj (Option.some.inj hreplay)).2) (hnotFailed row hrow)
      · rw [hknown] at hunknown
        cases hunknown
  · obtain ⟨s, outcome, hrun⟩ := @run_unreaching hashtext 0 world fate service req table (not_exists.mp hreach) { state }
    exact hunchanged s _ outcome hrun rfl fun hattempted => by cases hattempted

end Accounted

/-! ### A write that is applied and times out -/

def liveReader : TeacherService where
  snapshotMode := false
  host := "humanix"
  decodeSession := fun _ => none

def lateRequest : CheckinRequest where
  courseID := "course"
  sessionID := "session"
  studentID := "guid-a"
  desiredCheckedIn := true
  idempotencyKey := "key"

/-- Nothing is cancelled, and the roster shows the student as absent. -/
def absentWorld : World where
  cancelAt := 12
  reads := fun _ => ⟨.error .snapshotNotFound, .ok (some { sessionID := "session", students := [{ studentID := "guid-a" }] }),
    .ok []⟩
  write := .ok ()
  refreshed := fun _ => true

theorem lateRequest_run :
    ((liveReader.checkin lateRequest).run (facing (fun _ => 0) 0 absentWorld (.unreported "deadline exceeded" true))
      (⟨[], []⟩, { state := fun _ => false })).map
        (fun r => (r.2, r.1.1.requests.map MutationRow.status, r.1.2.state "guid-a")) =
      some (.error (.upstream "deadline exceeded"), [.failed], true) := by
  decide +kernel

theorem lateRequest_not_accounted :
    ¬ ∀ (hashtext : String → BitVec 32) (service : TeacherService) (req : CheckinRequest) (table : List MutationRow)
      (state : String → Bool) (world : World) (fate : WriteFate),
      Accounted hashtext service req table state world fate := by
  intro h
  obtain ⟨s, upstream, outcome, hrun, -, herror, -⟩ := h (fun _ => 0) liveReader lateRequest [] (fun _ => false)
    absentWorld (.unreported "deadline exceeded" true)
  have hfacts := lateRequest_run
  rw [hrun, Option.map_some, Option.some.injEq] at hfacts
  simp only [Prod.mk.injEq] at hfacts
  obtain ⟨houtcome, -, hstate⟩ := hfacts
  rw [herror _ houtcome] at hstate
  cases hstate

end QrCommandCenter.Service
