import QrCommandCenter.Service.Checkin

/-!
# Replays of a check-in

A call whose context is cancelled at some moment, and a later call with the same key and the same parameters.

* `CheckinCall.moment`, `World` : when a call is made, and what a check-in meets;
* `ErrorClass`, `SameOutcome` : the outcomes that a caller can tell apart;
* `Recorded` : the write of a call that reserved its key, what it records and what it returns (`run_reserved`);
* `replayed_iff` : when a replay returns what the first call did.
-/

namespace QrCommandCenter.Service
open Domain Table Program

/-! ## Outcomes -/

/-- The classes of errors of `idempotentCheckinHandler`; all others are answered as internal ones. -/
inductive ErrorClass where
  | conflict
  | studentNotFound
  | snapshotUnavailable
  | upstreamRejection
  | internal
deriving DecidableEq, Repr

def ReadError.errorClass : ReadError → ErrorClass
  | .snapshotNotFound | .snapshotExpired => .snapshotUnavailable
  | .other _ => .internal

def CheckinError.errorClass : CheckinError → ErrorClass
  | .conflict _ _ => .conflict
  | .studentNotFound _ _ => .studentNotFound
  | .readSnapshot err | .readLiveSession err | .readStudentProfiles err => err.errorClass
  | .upstream _ => .upstreamRejection
  | .notConfigured | .lock _ | .reserve _ | .decodeSnapshot | .nilDetail => .internal

/-- The same fields of a result, or errors of one class. -/
def SameOutcome : CheckinOutcome → CheckinOutcome → Prop
  | .ok result, .ok result' => result = result'
  | .error err, .error err' => err.errorClass = err'.errorClass
  | _, _ => False

theorem SameOutcome.refl (outcome : CheckinOutcome) : SameOutcome outcome outcome := by
  cases outcome <;> rfl

/-! ## What a check-in meets -/

def CheckinCall.moment : CheckinCall → Nat
  | .acquireCheckinLock _ _ => 0
  | .insertIdempotencyKey _ => 1
  | .readIdempotencyKey _ => 2
  | .readState 0 _ _ => 3
  | .toggleCheckin _ _ _ _ => 4
  | .refreshNow attempt _ => 5 + 2 * attempt
  | .readState (attempt + 1) _ _ => 6 + 2 * attempt
  | .confirmIdempotencyKey _ _ | .markIdempotencyKeyPending _ _ | .markIdempotencyKeyFailed _ _ => 9
  | .setDueNow _ => 10
  | .releaseCheckinLock => 11

/-- When the context is cancelled, and what the reads, the write and the refreshes return. -/
structure World where
  cancelAt : Nat
  reads : Nat → StateReads
  write : Except String Unit
  refreshed : Nat → Bool

/-- Statements made with a live context succeed, the others fail. -/
def World.choose (world : World) (e : CheckinCall) : Choice where
  sent := e.moment < world.cancelAt
  acknowledged := e.moment < world.cancelAt
  reads := match e with
    | .readState attempt _ _ => world.reads attempt
    | _ => world.reads 0
  write := world.write
  refreshed := match e with
    | .refreshNow attempt _ => world.refreshed attempt
    | _ => true

variable {e : CheckinCall} {world : World}

theorem World.sent (h : e.moment < world.cancelAt) : (world.choose e).sent = true :=
  decide_eq_true h

theorem World.not_sent (h : world.cancelAt ≤ e.moment) : (world.choose e).sent = false :=
  decide_eq_false (Nat.not_lt.mpr h)

/-! ## What a call that reserved its key records -/

/-- The table after the outcome was recorded, if the context is still live then. -/
def World.record (world : World) (s : Mutations) (key : String) (f : MutationRow → MutationRow) : Mutations :=
  if 9 < world.cancelAt then s.mark key f else s

/-- The first read finds a state that is to be changed. -/
structure Asks (service : TeacherService) (req : CheckinRequest) (world : World) (current : CurrentCheckinState) :
    Prop where
  read : service.currentCheckinState (world.reads 0) req = .ok current
  fresh : service.staleVersion req current = false
  differs : current.checkedIn ≠ req.desiredCheckedIn

/-- The state that a call with a reserved key set out to change, how it changes the row, and what it returns. -/
inductive Recorded (service : TeacherService) (world : World) (req : CheckinRequest) :
    Option CurrentCheckinState → (MutationRow → MutationRow) → CheckinOutcome → Prop where
  | unread (err : CheckinError) (hread : service.currentCheckinState (world.reads 0) req = .error err) :
      Recorded service world req none (.markFailed "student_state_error") (.error err)
  | stale (current : CurrentCheckinState) (hread : service.currentCheckinState (world.reads 0) req = .ok current)
      (hstale : service.staleVersion req current = true) :
      Recorded service world req none id (.error (.conflict current.snapshotVersion current.checkedIn))
  | satisfied (current : CurrentCheckinState) (hread : service.currentCheckinState (world.reads 0) req = .ok current)
      (hfresh : service.staleVersion req current = false) (hsatisfied : current.checkedIn = req.desiredCheckedIn)
      (result : CheckinResult) :
      Recorded service world req none (.confirm (checkinResultResponse result)) (.ok result)
  | rejected (current : CurrentCheckinState) (hasks : Asks service req world current) (err : String)
      (hwrite : world.write = .error err) :
      Recorded service world req (some current) (.markFailed "upstream_error") (.error (.upstream err))
  | written (current : CurrentCheckinState) (hasks : Asks service req world current) (hwrite : world.write = .ok ())
      (result : CheckinResult) (f : MutationRow → MutationRow)
      (hf : f = .confirm (checkinResultResponse result) ∨ f = .markPending (checkinResultResponse result)) :
      Recorded service world req (some current) f (.ok result)

def CheckinRequest.write (req : CheckinRequest) (current : CurrentCheckinState) : CheckinCall :=
  .toggleCheckin req.courseID req.sessionID current.upstreamStudentID req.desiredCheckedIn

def CheckinCall.isWrite : CheckinCall → Bool
  | .toggleCheckin _ _ _ _ => true
  | _ => false

/-- An account that only a write changes. -/
def NotesWrites {τ : Type} (note : CheckinCall → τ → τ) : Prop :=
  ∀ (e : CheckinCall) (t : τ), e.isWrite = false → note e t = t

/-- The answers of a world, with an account of the calls. -/
abbrev World.answers {τ : Type} (world : World) (hashtext : String → BitVec 32) (i : Nat) (note : CheckinCall → τ → τ) :
    Mutations × τ → (e : CheckinCall) → Option ((Mutations × τ) × e.Answer) :=
  recording (answering hashtext i world.choose) note

section Runs
variable {τ : Type} {note : CheckinCall → τ → τ} (hnote : NotesWrites note) {hashtext : String → BitVec 32} {i : Nat}
  {world : World} {service : TeacherService} {s s' : Mutations} {t : τ} {req : CheckinRequest}
  {table : List MutationRow}
include hnote

variable {r : e.Answer}

theorem answers_quiet (he : e.isWrite = false) (h : s.handle hashtext i (world.choose e) e = some (s', r)) :
    world.answers hashtext i note (s, t) e = some ((s', t), r) := by
  rw [World.answers, recording, answering, h, Option.map_some, hnote e t he]

theorem run_verify (attempts : List Nat) :
    ∃ verified, (service.verify req attempts).run (world.answers hashtext i note) (s, t) = some ((s, t), verified) := by
  induction attempts with
  | nil => exact ⟨none, rfl⟩
  | cons attempt attempts ih =>
    have hread : ∃ verified, (issue (.readState (attempt + 1) req.courseID req.sessionID) >>=
        service.judged req attempts).run (world.answers hashtext i note) (s, t) = some ((s, t), verified) := by
      rw [run_perform _ (answers_quiet hnote rfl rfl)]
      unfold TeacherService.judged
      split
      · split
        · exact ⟨_, rfl⟩
        · exact ih
      · exact ih
    rw [TeacherService.verify_cons]
    split
    · rw [run_perform _ (answers_quiet hnote rfl rfl)]
      split
      · exact hread
      · exact ih
    · exact hread

theorem run_mark {β : Type} {key : String} {f : MutationRow → MutationRow}
    (next : e.Answer → Checkin β) (he : e.isWrite = false) (hmoment : e.moment = 9)
    (hhandle : ∀ choice, s.handle hashtext i choice e = some (if choice.sent then s.mark key f else s, r)) :
    (issue e >>= next).run (world.answers hashtext i note) (s, t) =
      (next r).run (world.answers hashtext i note) (world.record s key f, t) := by
  rw [run_perform _ (answers_quiet hnote he (hhandle _))]
  simp only [World.choose, hmoment, decide_eq_true_eq, World.record]

theorem run_conclude (current : CurrentCheckinState) :
    ∃ result f, (f = .confirm (checkinResultResponse result) ∨ f = .markPending (checkinResultResponse result)) ∧
      (service.conclude req current).run (world.answers hashtext i note) (s, t) =
        some ((world.record s req.idempotencyKey f, t), .ok result) := by
  obtain ⟨verified, hverify⟩ : ∃ verified, (service.verify req [0, 1]).run (world.answers hashtext i note) (s, t) =
    some ((s, t), verified) := run_verify hnote [0, 1]
  rw [TeacherService.conclude, run_bind, hverify, Option.bind_some]
  cases verified with
  | some verified =>
    refine ⟨{ status := .confirmed, checkedIn := verified.checkedIn, snapshotVersion := verified.snapshotVersion }, _,
      .inl rfl, ?_⟩
    exact run_mark hnote _ rfl rfl fun _ => rfl
  | none =>
    refine ⟨{ status := .pendingVerification, checkedIn := req.desiredCheckedIn
              snapshotVersion := current.snapshotVersion, refreshPending := true }, _, .inr rfl, ?_⟩
    refine (run_mark hnote _ rfl rfl fun _ => rfl).trans ?_
    show (if service.snapshotMode = true then _ else _ : Checkin CheckinOutcome).run _ _ = _
    split
    · exact run_perform _ (answers_quiet hnote rfl rfl)
    · rfl

omit hnote in
theorem mark_id (s : Mutations) (key : String) : s.mark key id = s := by
  simp [Mutations.mark, updateWhere]

/-- **A call that reserved its key returns, and writes and records what `Recorded` says.** -/
theorem run_reserved :
    ∃ wrote f outcome, Recorded service world req wrote f outcome ∧
      (service.checkinReserved req).run (world.answers hashtext i note) (s, t) = some ((world.record s req.idempotencyKey f,
        wrote.elim t fun current => note (req.write current) t), outcome) := by
  rw [TeacherService.checkinReserved, run_perform _ (answers_quiet hnote rfl rfl)]
  simp only [World.choose]
  cases hread : service.currentCheckinState (world.reads 0) req with
  | error err => exact ⟨_, _, _, .unread err hread, run_mark hnote _ rfl rfl fun _ => rfl⟩
  | ok current =>
    simp only [TeacherService.mutate]
    cases hstale : service.staleVersion req current with
    | true =>
      refine ⟨_, _, _, .stale current hread hstale, ?_⟩
      rw [World.record, mark_id, ite_self]
      rfl
    | false =>
      rw [if_neg (by decide)]
      by_cases hsatisfied : current.checkedIn = req.desiredCheckedIn
      · rw [if_pos hsatisfied]
        let result : CheckinResult :=
          { status := .alreadySatisfied, checkedIn := current.checkedIn, snapshotVersion := current.snapshotVersion }
        refine ⟨_, _, _, .satisfied current hread hstale hsatisfied result, ?_⟩
        exact run_mark hnote _ rfl rfl fun _ => rfl
      · have hwrite : world.answers hashtext i note (s, t)
            (.toggleCheckin req.courseID req.sessionID current.upstreamStudentID req.desiredCheckedIn) =
          some ((s, note (req.write current) t), world.write) := rfl
        rw [if_neg hsatisfied, run_perform _ hwrite]
        cases hanswer : world.write with
        | error err =>
          refine ⟨_, _, _, .rejected current ⟨hread, hstale, hsatisfied⟩ err hanswer, ?_⟩
          exact run_mark hnote _ rfl rfl fun _ => rfl
        | ok =>
          obtain ⟨result, f, hf, hrun⟩ := run_conclude hnote current
          exact ⟨_, f, .ok result, .written current ⟨hread, hstale, hsatisfied⟩ hanswer result f hf, hrun⟩

omit hnote in
@[simp] theorem record_locks (key : String) (f : MutationRow → MutationRow) : (world.record s key f).locks = s.locks := by
  unfold World.record
  split <;> rfl

/-- What happens under the lock happens to the table; the lock is free again at the end. -/
theorem run_checkin (s' : Mutations) {t' : τ} {outcome : CheckinOutcome} (hmutator : service.mutator = true)
    (hlive : 0 < world.cancelAt) (hrun : (service.checkinLocked req).run (world.answers hashtext i note)
      (⟨table, [(lockKey hashtext req.sessionID req.studentID, i)]⟩, t) = some ((s', t'), outcome))
    (hlocks : s'.locks = [(lockKey hashtext req.sessionID req.studentID, i)]) :
    (service.checkin req).run (world.answers hashtext i note) (⟨table, []⟩, t) =
      some ((⟨s'.requests, []⟩, t'), outcome) := by
  have hlock : (world.choose (.acquireCheckinLock req.sessionID req.studentID)).sent = true := World.sent hlive
  rw [TeacherService.checkin, hmutator, if_neg (by decide),
    run_perform _ (answers_quiet hnote rfl (handle_lock_free (fun _ h => by cases h) hlock hlock))]
  show (service.checkinLocked req >>= _).run _ _ = _
  rw [run_bind, List.nil_append, hrun, Option.bind_some]
  refine (run_perform _ (answers_quiet hnote rfl rfl)).trans ?_
  show some ((s'.release i, t'), outcome) = _
  simp [Mutations.release, hlocks, deleteWhere]

theorem run_found {row : MutationRow} (hmutator : service.mutator = true)
    (hrow : lookup MutationRow.idempotencyKey table req.idempotencyKey = some row) (hlive : 2 < world.cancelAt) :
    (service.checkin req).run (world.answers hashtext i note) (⟨table, []⟩, t) = some ((⟨table, []⟩, t),
      if row.isMatch req then storedCheckinResult ⟨true, true, some row.status, row.response⟩
      else .error (.conflict 0 false)) := by
  have hread : (world.choose (.readIdempotencyKey req.idempotencyKey)).sent = true := World.sent hlive
  refine run_checkin hnote ⟨table, [(lockKey hashtext req.sessionID req.studentID, i)]⟩ hmutator (by omega) ?_ rfl
  have hfind : Mutations.find ⟨table, [(lockKey hashtext req.sessionID req.studentID, i)]⟩ req.idempotencyKey =
    some row := hrow
  rw [TeacherService.checkinLocked, run_bind, run_reserve (answers_quiet hnote rfl (handle_found hfind).1)
    (answers_quiet hnote rfl ((handle_found hfind).2 hread hread)), Option.bind_some]
  simp only [Except.map, Except.mapError]
  cases hmatch : row.isMatch req <;> rfl

theorem run_unreserved (hmutator : service.mutator = true) (hdead : world.cancelAt ≤ 2)
    (hnone : lookup MutationRow.idempotencyKey table req.idempotencyKey = none → world.cancelAt ≤ 1) :
    ∃ err, CheckinError.errorClass err = .internal ∧ (service.checkin req).run (world.answers hashtext i note)
      (⟨table, []⟩, t) = some ((⟨table, []⟩, t), .error err) := by
  by_cases hlive : 0 < world.cancelAt
  · have hinsert : Mutations.handle hashtext i (world.choose (.insertIdempotencyKey req))
        ⟨table, [(lockKey hashtext req.sessionID req.studentID, i)]⟩ (.insertIdempotencyKey req) =
          some (⟨table, [(lockKey hashtext req.sessionID req.studentID, i)]⟩, false) := by
      cases hrow : Mutations.find ⟨table, [(lockKey hashtext req.sessionID req.studentID, i)]⟩ req.idempotencyKey with
      | some row => exact (handle_found hrow).1
      | none => rw [Mutations.handle, World.not_sent (hnone hrow), Bool.false_and, if_neg Bool.false_ne_true]
    have hread : Mutations.handle hashtext i (world.choose (.readIdempotencyKey req.idempotencyKey))
        ⟨table, [(lockKey hashtext req.sessionID req.studentID, i)]⟩ (.readIdempotencyKey req.idempotencyKey) =
          some (⟨table, [(lockKey hashtext req.sessionID req.studentID, i)]⟩, .error "context canceled") := by
      rw [Mutations.handle, World.not_sent hdead, Bool.false_and, if_neg Bool.false_ne_true]
      rfl
    refine ⟨.reserve "read existing idempotency key: context canceled", rfl,
      run_checkin hnote ⟨table, [(lockKey hashtext req.sessionID req.studentID, i)]⟩ hmutator hlive ?_ rfl⟩
    rw [TeacherService.checkinLocked, run_bind,
      run_reserve (answers_quiet hnote rfl hinsert) (answers_quiet hnote rfl hread)]
    rfl
  · have hlock : Mutations.handle hashtext i (world.choose (.acquireCheckinLock req.sessionID req.studentID)) ⟨table, []⟩
        (.acquireCheckinLock req.sessionID req.studentID) = some (⟨table, []⟩, .error "context canceled") := by
      have hsent : (world.choose (.acquireCheckinLock req.sessionID req.studentID)).sent = false :=
        World.not_sent (Nat.not_lt.mp hlive)
      rw [Mutations.handle, hsent, Bool.false_and, Bool.not_false, if_pos rfl]
      rfl
    refine ⟨.lock "context canceled", rfl, ?_⟩
    rw [TeacherService.checkin, hmutator, if_neg (by decide), run_perform _ (answers_quiet hnote rfl hlock)]
    rfl

omit hnote in
theorem record_requests (requests : List MutationRow) (locks : List (BitVec 64 × Nat)) (key : String)
    (f : MutationRow → MutationRow) :
    (world.record ⟨requests, locks⟩ key f).requests = (world.record ⟨requests, []⟩ key f).requests := by
  unfold World.record
  split <;> rfl

theorem run_new (hmutator : service.mutator = true)
    (hnone : lookup MutationRow.idempotencyKey table req.idempotencyKey = none) (hlive : 1 < world.cancelAt) :
    ∃ wrote f outcome, Recorded service world req wrote f outcome ∧
      (service.checkin req).run (world.answers hashtext i note) (⟨table, []⟩, t) =
        some ((⟨(world.record ⟨table ++ [.reserve req], []⟩ req.idempotencyKey f).requests, []⟩,
          wrote.elim t fun current => note (req.write current) t), outcome) := by
  have hinsert : (world.choose (.insertIdempotencyKey req)).sent = true := World.sent hlive
  have hacknowledged : (world.choose (.insertIdempotencyKey req)).acknowledged = true := hinsert
  have hfind : Mutations.find ⟨table, [(lockKey hashtext req.sessionID req.studentID, i)]⟩ req.idempotencyKey = none :=
    hnone
  obtain ⟨wrote, f, outcome, hrecorded, hrun⟩ := @run_reserved τ note hnote hashtext i world service
    ⟨table ++ [.reserve req], [(lockKey hashtext req.sessionID req.studentID, i)]⟩ t req
  refine ⟨wrote, f, outcome, hrecorded, ?_⟩
  rw [← record_requests _ [(lockKey hashtext req.sessionID req.studentID, i)]]
  refine run_checkin hnote _ hmutator (by omega) ?_ (record_locks _ _)
  rw [TeacherService.checkinLocked, run_bind, reserveIdempotencyKey,
    run_perform _ (answers_quiet hnote rfl (handle_insert_new hfind hinsert)), hacknowledged]
  exact hrun

end Runs

/-! ## Replays -/

/-- A call returns, leaves no key it reserved in `reserved`, and later calls with its key and parameters return the same
outcome if their context is live until they have seen the key. -/
def Replayed (hashtext : String → BitVec 32) (service : TeacherService) (req : CheckinRequest) (table : List MutationRow)
    (world : World) : Prop :=
  ∃ s outcome, (service.checkin req).run (answering hashtext 0 world.choose) ⟨table, []⟩ = some (s, outcome) ∧
    (lookup MutationRow.idempotencyKey table req.idempotencyKey = none →
      ∀ row, s.find req.idempotencyKey = some row → row.status ≠ .reserved) ∧
    ∀ later : World, 2 < later.cancelAt →
      ∃ s' outcome', (service.checkin req).run (answering hashtext 1 later.choose) s = some (s', outcome') ∧
        SameOutcome outcome outcome'

/-- A key that was stored is seen; a new one is recorded after a first read that lets the call go on. -/
def Replayable (service : TeacherService) (req : CheckinRequest) (table : List MutationRow) (world : World) : Prop :=
  service.mutator = true →
    match lookup MutationRow.idempotencyKey table req.idempotencyKey with
    | some _ => 2 < world.cancelAt
    | none => 9 < world.cancelAt ∧ ∃ current, service.currentCheckinState (world.reads 0) req = .ok current ∧
        service.staleVersion req current = false

section Replays
variable {hashtext : String → BitVec 32} {service : TeacherService} {req : CheckinRequest} {table : List MutationRow}
  {world : World}
variable {wrote : Option CurrentCheckinState} {f : MutationRow → MutationRow} {outcome : CheckinOutcome}
  {row : MutationRow}

theorem run_unnoted {α : Type} {p : Checkin α} {i : Nat} {s s' : Mutations} {a : α}
    (h : p.run (world.answers hashtext i fun _ (t : Unit) => t) (s, ()) = some ((s', ()), a)) :
    p.run (answering hashtext i world.choose) s = some (s', a) := run_of_recording h

theorem notesWrites_unit : NotesWrites fun _ (t : Unit) => t := fun _ _ _ => rfl

variable {err : CheckinError}

theorem unread_class {reads : StateReads} (h : service.currentCheckinState reads req = .error err) :
    err.errorClass ≠ .upstreamRejection := by
  intro hclass
  obtain ⟨message, rfl⟩ : ∃ message, err = .upstream message := by
    cases err with
    | upstream message => exact ⟨message, rfl⟩
    | readSnapshot err | readLiveSession err | readStudentProfiles err => cases err <;> cases hclass
    | _ => cases hclass
  -- no read makes such an error
  unfold TeacherService.currentCheckinState TeacherService.sessionRead at h
  split at h
  · rename_i hsession
    cases h
    repeat' split at hsession
    all_goals cases hsession
  · repeat' split at h
    all_goals cases h

theorem find_recorded (world : World) (hf : ∀ row, (f row).idempotencyKey = row.idempotencyKey)
    (hnone : lookup MutationRow.idempotencyKey table req.idempotencyKey = none) :
    lookup MutationRow.idempotencyKey (world.record ⟨table ++ [.reserve req], []⟩ req.idempotencyKey f).requests
      req.idempotencyKey = some (if 9 < world.cancelAt then f (.reserve req) else .reserve req) := by
  have hnew : lookup MutationRow.idempotencyKey (table ++ [.reserve req]) req.idempotencyKey = some (.reserve req) := by
    rw [lookup_append, hnone, Option.none_or]
    simp [lookup, MutationRow.reserve]
  unfold World.record
  split
  · simp only [Mutations.mark]
    rw [lookup_updateWhere hf, hnew]
    simp [MutationRow.reserve]
  · exact hnew

theorem Recorded.key (h : Recorded service world req wrote f outcome) (row : MutationRow) :
    (f row).idempotencyKey = row.idempotencyKey := by
  cases h with
  | unread | stale | satisfied | rejected => rfl
  | written _ _ _ result _ hf => rcases hf with rfl | rfl <;> rfl

def MutationRow.replay (row : MutationRow) : CheckinOutcome :=
  storedCheckinResult ⟨true, true, some row.status, row.response⟩

theorem replay_class (h : row.replay = .error err) : err.errorClass = .upstreamRejection := by
  unfold MutationRow.replay storedCheckinResult at h
  split at h
  · cases h
    rfl
  · split at h <;> cases h

theorem run_stored {i : Nat} (hmutator : service.mutator = true)
    (hrow : lookup MutationRow.idempotencyKey table req.idempotencyKey = some row) (hlive : 2 < world.cancelAt) :
    (service.checkin req).run (answering hashtext i world.choose) ⟨table, []⟩ = some (⟨table, []⟩,
      if row.isMatch req then row.replay else .error (.conflict 0 false)) :=
  run_unnoted (run_found notesWrites_unit hmutator hrow hlive)

/-- A later call for which every snapshot and every live session has expired. -/
def expiredWorld : World where
  cancelAt := 12
  reads := fun _ => ⟨.error .snapshotExpired, .error .snapshotExpired, .error .snapshotExpired⟩
  write := .ok ()
  refreshed := fun _ => true

theorem expiredWorld_read :
    ∃ err, service.currentCheckinState (expiredWorld.reads 0) req = .error err ∧
      err.errorClass = .snapshotUnavailable := by
  unfold TeacherService.currentCheckinState TeacherService.sessionRead
  cases service.snapshotMode with
  | true | false => exact ⟨_, rfl, rfl⟩

theorem replayed_stored (hmutator : service.mutator = true)
    (hrow : lookup MutationRow.idempotencyKey table req.idempotencyKey = some row) :
    Replayed hashtext service req table world ↔ 2 < world.cancelAt := by
  constructor
  · rintro ⟨s, outcome, hrun, -, hlater⟩
    by_contra hdead
    obtain ⟨err, hclass, herr⟩ := @run_unreserved Unit _ notesWrites_unit hashtext 0 world service () req table hmutator
      (Nat.not_lt.mp hdead) fun hnone => absurd (hrow.symm.trans hnone) (by simp)
    rw [run_unnoted herr] at hrun
    cases hrun
    obtain ⟨s', outcome', hrun', hsame⟩ := hlater expiredWorld (by decide)
    rw [run_stored hmutator hrow (by decide)] at hrun'
    cases hrun'
    -- the stored outcome, or the conflict, is no internal error
    split at hsame
    · cases hreplay : row.replay with
      | ok result =>
        rw [hreplay] at hsame
        exact hsame
      | error err' =>
        rw [hreplay] at hsame
        have hsame' : err.errorClass = err'.errorClass := hsame
        rw [hclass, replay_class hreplay] at hsame'
        cases hsame'
    · have hsame' : err.errorClass = .conflict := hsame
      rw [hclass] at hsame'
      cases hsame'
  · intro hlive
    refine ⟨_, _, run_stored hmutator hrow hlive, fun hnone => ?_, fun later hlater => ?_⟩
    · rw [hrow] at hnone
      cases hnone
    · exact ⟨_, _, run_stored hmutator hrow hlater, SameOutcome.refl _⟩

theorem Recorded.settles {current : CurrentCheckinState} (h : Recorded service world req wrote f outcome)
    (hread : service.currentCheckinState (world.reads 0) req = .ok current)
    (hfresh : service.staleVersion req current = false) :
    (f (.reserve req)).status ≠ .reserved ∧ SameOutcome outcome (f (.reserve req)).replay ∧
      (f (.reserve req)).request = req := by
  cases h with
  | unread err hread' =>
    rw [hread] at hread'
    cases hread'
  | stale current' hread' hstale =>
    rw [hread] at hread'
    cases hread'
    rw [hfresh] at hstale
    cases hstale
  | satisfied | rejected => exact ⟨(fun hstatus => by cases hstatus), rfl, rfl⟩
  | written current' hasks hwrite result f hf =>
    rcases hf with rfl | rfl <;> exact ⟨(fun hstatus => by cases hstatus), rfl, rfl⟩

section
variable (hmutator : service.mutator = true) (hnone : lookup MutationRow.idempotencyKey table req.idempotencyKey = none)
include hmutator hnone

theorem later_recorded (hlive : 9 < world.cancelAt)
    (hrecorded : Recorded service world req wrote f outcome) (hrequest : (f (.reserve req)).request = req)
    {later : World} (hlater : 2 < later.cancelAt) (i : Nat) :
    ∃ s', (service.checkin req).run (answering hashtext i later.choose)
      ⟨(world.record ⟨table ++ [.reserve req], []⟩ req.idempotencyKey f).requests, []⟩ =
        some (s', (f (.reserve req)).replay) := by
  have hrow := find_recorded world hrecorded.key hnone
  rw [if_pos hlive] at hrow
  rw [run_stored hmutator hrow hlater, if_pos ((MutationRow.isMatch_iff (lookup_mem hrow).2).mpr hrequest)]
  exact ⟨_, rfl⟩

theorem replayed_new : Replayed hashtext service req table world ↔ 9 < world.cancelAt ∧
      ∃ current, service.currentCheckinState (world.reads 0) req = .ok current ∧
        service.staleVersion req current = false := by
  constructor
  · rintro ⟨s, outcome, hrun, hreserved, hlater⟩
    by_cases hinserted : 1 < world.cancelAt
    · obtain ⟨wrote, f, recorded, hrecorded, hnew⟩ := @run_new Unit _ notesWrites_unit hashtext 0 world service () req
        table hmutator hnone hinserted
      rw [run_unnoted hnew] at hrun
      cases hrun
      have hrow := find_recorded world hrecorded.key hnone
      have hstatus := hreserved hnone _ hrow
      by_cases hlive : 9 < world.cancelAt
      · rw [if_pos hlive] at hstatus
        refine ⟨hlive, ?_⟩
        cases hrecorded with
        | unread err hread =>
          obtain ⟨s', hlast⟩ := @later_recorded hashtext service req table world _ _ _ hmutator hnone hlive
            (.unread err hread) rfl expiredWorld (by decide) 1
          obtain ⟨s'', outcome', hrun', hsame⟩ := hlater expiredWorld (by decide)
          rw [hlast] at hrun'
          cases hrun'
          exact absurd hsame (unread_class hread)
        | stale current hread hstale => exact absurd rfl hstatus
        | satisfied current hread hfresh => exact ⟨current, hread, hfresh⟩
        | rejected current hasks | written current hasks => exact ⟨current, hasks.read, hasks.fresh⟩
      · rw [if_neg hlive] at hstatus
        exact absurd rfl hstatus
    · obtain ⟨err, hclass, herr⟩ := @run_unreserved Unit _ notesWrites_unit hashtext 0 world service () req table hmutator
        (by omega) fun _ => Nat.not_lt.mp hinserted
      rw [run_unnoted herr] at hrun
      cases hrun
      -- a later call that cannot read the session returns another class of error
      obtain ⟨wrote, f, recorded, hrecorded, hnew⟩ := @run_new Unit _ notesWrites_unit hashtext 1 expiredWorld service ()
        req table hmutator hnone (by decide)
      obtain ⟨s', outcome', hrun', hsame⟩ := hlater expiredWorld (by decide)
      rw [run_unnoted hnew] at hrun'
      cases hrun'
      obtain ⟨err', hread', hclass'⟩ := @expiredWorld_read service req
      cases hrecorded with
      | unread err'' hread =>
        rw [hread'] at hread
        cases hread
        have hsame' : err.errorClass = err'.errorClass := hsame
        rw [hclass, hclass'] at hsame'
        cases hsame'
      | stale current hread | satisfied current hread =>
        rw [hread'] at hread
        cases hread
      | rejected current hasks | written current hasks => cases hread'.symm.trans hasks.read
  · rintro ⟨hlive, current, hread, hfresh⟩
    obtain ⟨wrote, f, outcome, hrecorded, hnew⟩ := @run_new Unit _ notesWrites_unit hashtext 0 world service () req table
      hmutator hnone (by omega)
    obtain ⟨hstatus, hsame, hrequest⟩ := hrecorded.settles hread hfresh
    have hrow := find_recorded world hrecorded.key hnone
    rw [if_pos hlive] at hrow
    refine ⟨_, _, run_unnoted hnew, fun _ row hfind => ?_, fun later hlater => ?_⟩
    · cases hrow.symm.trans hfind
      exact hstatus
    · obtain ⟨s', hlast⟩ := @later_recorded hashtext service req table world _ _ _ hmutator hnone hlive hrecorded hrequest
        later hlater 1
      exact ⟨s', _, hlast, hsame⟩

end

/-- **A check-in is replayed exactly when its key was seen, or was recorded after a first read that let it go on.** -/
theorem replayed_iff (hashtext : String → BitVec 32) (service : TeacherService) (req : CheckinRequest)
    (table : List MutationRow) (world : World) :
    Replayed hashtext service req table world ↔ Replayable service req table world := by
  unfold Replayable
  cases hmutator : service.mutator with
  | false =>
    refine ⟨fun _ h => (Bool.false_ne_true h).elim, fun _ => ?_⟩
    have hrun : ∀ (i : Nat) (world : World), (service.checkin req).run (answering hashtext i world.choose) ⟨table, []⟩ =
        some (⟨table, []⟩, .error .notConfigured) := by
      intro i world
      rw [TeacherService.checkin, hmutator]
      rfl
    refine ⟨_, _, hrun 0 world, fun hnone row hrow => ?_, fun later _ => ⟨_, _, hrun 1 later, rfl⟩⟩
    cases hnone.symm.trans hrow
  | true =>
    cases hrow : lookup MutationRow.idempotencyKey table req.idempotencyKey with
    | some row =>
      rw [replayed_stored hmutator hrow]
      exact ⟨fun h _ => h, fun h => h rfl⟩
    | none =>
      rw [replayed_new hmutator hrow]
      exact ⟨fun h _ => h, fun h => h rfl⟩

end Replays

/-! ### A check-in of a version that has passed -/

/-- A client that was shown version 1 of a session whose snapshot is at version 2. -/
def staleRequest : CheckinRequest where
  courseID := "course"
  sessionID := "session"
  studentID := "guid-a"
  desiredCheckedIn := true
  expectedSnapshotVersion := some 1
  idempotencyKey := "key"

def secondVersion : Snapshot where
  id := 2
  targetID := 1
  ref := { host := "humanix", kind := .sessionDetail, resourceKey := "session", parentKey := "course" }
  version := 2
  validationSeq := 2
  contentHash := 1
  payload := .empty
  contentFetchedAt := 0
  validatedAt := 0
  verifiedAt := 0
  nextRunAt := 0
  maxServeAge := 0
  parserVersion := ""
  schemaVersion := ""
  rawBodyHash := ""
  complete := true
  manifest := {}
  validationReport := {}

def snapshotService : TeacherService where
  snapshotMode := true
  host := "humanix"
  decodeSession := fun _ => some { sessionID := "session", students := [{ studentID := "guid-a" }] }

def secondVersionWorld : World where
  cancelAt := 12
  reads := fun _ => ⟨.ok secondVersion, .ok none, .ok []⟩
  write := .ok ()
  refreshed := fun _ => true

/-- The first call conflicts and leaves its key reserved; the replay reports a pending verification. -/
theorem staleRequest_not_replayed :
    ¬ ∀ (hashtext : String → BitVec 32) (service : TeacherService) (req : CheckinRequest) (table : List MutationRow)
      (world : World), Replayed hashtext service req table world := by
  intro h
  obtain ⟨s, outcome, hrun, hreserved, -⟩ := h (fun _ => 0) snapshotService staleRequest [] secondVersionWorld
  have hfirst : ((snapshotService.checkin staleRequest).run (answering (fun _ => 0) 0 secondVersionWorld.choose)
      ⟨[], []⟩).map (fun r => r.1.requests) = some [.reserve staleRequest] := by
    decide +kernel
  rw [hrun, Option.map_some, Option.some.injEq] at hfirst
  have hrow : s.find staleRequest.idempotencyKey = some (.reserve staleRequest) := by
    rw [Mutations.find, hfirst]
    decide +kernel
  exact hreserved rfl _ hrow rfl

end QrCommandCenter.Service
