import QrCommandCenter.Service.Checkin

/-!
# The stages of a check-in

What a check-in may call at each stage, whatever it is answered, and the pool of all the check-ins of all processes over
one database.

* `CheckinStage`, `CheckinAllowed`, `checkinNext` : the protocol of a call;
* `checkin_follows` : `TeacherService.checkin` follows it;
* `checkinMachine`, `checkins` : the calls that interleave; each is started with the service of its process;
* `Retains`, `handle_retains` : no call takes a row away, changes its parameters or moves a settled one.
-/

namespace QrCommandCenter.Service
open Domain Table Program Transition

variable {s s' : Mutations} {hashtext : String → BitVec 32} {i : Nat} {choice : Choice}

/-- A call, with the service of the process that makes it. -/
structure CheckinTask where
  service : TeacherService
  request : CheckinRequest

abbrev CheckinTask.key (task : CheckinTask) : String := task.request.idempotencyKey

/-! ## The protocol -/

inductive CheckinProgress where
  | initial
  | refused (err : String)
  | locked
  | unsure
  | found (existing : Except String MutationRow)
  | owner
  | unresolved
  | resolved (current : CurrentCheckinState)
  | attempted (current : CurrentCheckinState)
  /-- The outcome was recorded, or at least sent. -/
  | settled

/-- How far a call is, and whether it holds its lock. -/
structure CheckinStage where
  progress : CheckinProgress
  held : Bool

inductive CheckinAllowed (task : CheckinTask) : CheckinStage → CheckinCall → Prop where
  | lock (hmutator : task.service.mutator = true) :
      CheckinAllowed task ⟨.initial, false⟩ (.acquireCheckinLock task.request.sessionID task.request.studentID)
  | insert : CheckinAllowed task ⟨.locked, true⟩ (.insertIdempotencyKey task.request)
  | readBack : CheckinAllowed task ⟨.unsure, true⟩ (.readIdempotencyKey task.key)
  | firstRead : CheckinAllowed task ⟨.owner, true⟩ (.readState 0 task.request.courseID task.request.sessionID)
  | fail : CheckinAllowed task ⟨.unresolved, true⟩ (.markIdempotencyKeyFailed task.key "student_state_error")
  | satisfied (current response) :
      CheckinAllowed task ⟨.resolved current, true⟩ (.confirmIdempotencyKey task.key response)
  | write (current) : CheckinAllowed task ⟨.resolved current, true⟩
      (.toggleCheckin task.request.courseID task.request.sessionID current.upstreamStudentID
        task.request.desiredCheckedIn)
  | rejected (current) :
      CheckinAllowed task ⟨.attempted current, true⟩ (.markIdempotencyKeyFailed task.key "upstream_error")
  | refresh (current attempt ref) : CheckinAllowed task ⟨.attempted current, true⟩ (.refreshNow attempt ref)
  | verify (current attempt) : CheckinAllowed task ⟨.attempted current, true⟩
      (.readState (attempt + 1) task.request.courseID task.request.sessionID)
  | confirm (current response) :
      CheckinAllowed task ⟨.attempted current, true⟩ (.confirmIdempotencyKey task.key response)
  | pending (current response) :
      CheckinAllowed task ⟨.attempted current, true⟩ (.markIdempotencyKeyPending task.key response)
  | due (ref) : CheckinAllowed task ⟨.settled, true⟩ (.setDueNow ref)
  | releaseFound (existing) : CheckinAllowed task ⟨.found existing, true⟩ .releaseCheckinLock
  | releaseStale (current) : CheckinAllowed task ⟨.resolved current, true⟩ .releaseCheckinLock
  | releaseSettled : CheckinAllowed task ⟨.settled, true⟩ .releaseCheckinLock

def checkinNext (task : CheckinTask) (stage : CheckinStage) : (e : CheckinCall) → e.Answer → CheckinStage
  | .acquireCheckinLock _ _, .ok () => ⟨.locked, true⟩
  | .acquireCheckinLock _ _, .error err => ⟨.refused err, false⟩
  | .insertIdempotencyKey _, inserted => if inserted then ⟨.owner, true⟩ else ⟨.unsure, true⟩
  | .readIdempotencyKey _, existing => ⟨.found existing, true⟩
  | .readState 0 _ _, reads =>
    match task.service.currentCheckinState reads task.request with
    | .ok current => ⟨.resolved current, true⟩
    | .error _ => ⟨.unresolved, true⟩
  | .toggleCheckin _ _ _ _, _ =>
    match stage.progress with
    | .resolved current => ⟨.attempted current, true⟩
    | _ => stage
  | .readState (_ + 1) _ _, _ | .refreshNow _ _, _ | .setDueNow _, _ => stage
  | .confirmIdempotencyKey _ _, _ | .markIdempotencyKeyPending _ _, _ | .markIdempotencyKeyFailed _ _, _ =>
    ⟨.settled, true⟩
  | .releaseCheckinLock, _ => ⟨stage.progress, false⟩

/-- The outcome of a call that did not get to reserve its key; the others are not restricted here. -/
def CheckinEnds (task : CheckinTask) : CheckinProgress → CheckinOutcome → Prop
  | .initial, outcome => outcome = .error .notConfigured
  | .refused err, outcome => outcome = .error (.lock err)
  | .found (.error err), outcome => outcome = .error (.reserve ("read existing idempotency key: " ++ err))
  | .found (.ok row), outcome => row.isMatch task.request = false → outcome = .error (.conflict 0 false)
  | .resolved _, _ | .settled, _ => True
  | _, _ => False

def checkinProtocol : Protocol CheckinCall CheckinCall.Answer CheckinOutcome CheckinTask where
  Stage := CheckinStage
  initial := ⟨.initial, false⟩
  Allowed := CheckinAllowed
  next := checkinNext
  Ends task stage outcome := stage.held = false ∧ CheckinEnds task stage.progress outcome

/-! ## The call follows its protocol -/

section Follows
variable (task : CheckinTask)

theorem verify_leads (current : CurrentCheckinState) (attempts : List Nat) :
    checkinProtocol.Leads task (fun stage _ => stage = ⟨.attempted current, true⟩) ⟨.attempted current, true⟩
      (task.service.verify task.request attempts) := by
  induction attempts with
  | nil => rfl
  | cons attempt attempts ih =>
    -- the read of an attempt, which the refresh of snapshot mode may precede
    have hread : checkinProtocol.Leads task (fun stage _ => stage = ⟨.attempted current, true⟩)
        ⟨.attempted current, true⟩ (issue (.readState (attempt + 1) task.request.courseID task.request.sessionID) >>=
          task.service.judged task.request attempts) := by
      refine (leads_perform _ _ _).mpr ⟨.verify current attempt, fun reads => ?_⟩
      show checkinProtocol.Leads task _ ⟨.attempted current, true⟩ _
      unfold TeacherService.judged
      split
      · split
        · rfl
        · exact ih
      · exact ih
    rw [TeacherService.verify_cons]
    split
    · refine (leads_perform _ _ _).mpr ⟨.refresh current attempt _, fun refreshed => ?_⟩
      cases refreshed with
      | true => exact hread
      | false => exact ih
    · exact hread

theorem conclude_leads (current : CurrentCheckinState) :
    checkinProtocol.Leads task (fun stage _ => stage = ⟨.settled, true⟩) ⟨.attempted current, true⟩
      (task.service.conclude task.request current) := by
  refine Leads.bind (verify_leads task current [0, 1]) fun stage verified hstage => ?_
  cases hstage
  cases verified with
  | some verified => exact (leads_perform _ _ _).mpr ⟨.confirm current _, fun _ => rfl⟩
  | none =>
    refine (leads_perform _ _ _).mpr ⟨.pending current _, fun _ => ?_⟩
    show checkinProtocol.Leads task _ ⟨.settled, true⟩ _
    split
    · exact (leads_perform _ _ _).mpr ⟨.due _, fun _ => rfl⟩
    · rfl

/-- Under the lock: where it is released, with the outcome the protocol asks for. -/
def Releasable (stage : CheckinStage) (outcome : CheckinOutcome) : Prop :=
  stage.held = true ∧ CheckinAllowed task stage .releaseCheckinLock ∧ CheckinEnds task stage.progress outcome

theorem releasable_settled (outcome : CheckinOutcome) : Releasable task ⟨.settled, true⟩ outcome :=
  ⟨rfl, .releaseSettled, trivial⟩

theorem mutate_leads (current : CurrentCheckinState) :
    checkinProtocol.Leads task (Releasable task) ⟨.resolved current, true⟩
      (task.service.mutate task.request current) := by
  rw [TeacherService.mutate]
  split
  · exact ⟨rfl, .releaseStale current, trivial⟩
  split
  · exact (leads_perform _ _ _).mpr ⟨.satisfied current _, fun _ => releasable_settled task _⟩
  · refine (leads_perform _ _ _).mpr ⟨.write current, fun written => ?_⟩
    show checkinProtocol.Leads task _ ⟨.attempted current, true⟩ _
    split
    · exact (leads_perform _ _ _).mpr ⟨.rejected current, fun _ => releasable_settled task _⟩
    · refine leads_mono (fun stage outcome hstage => ?_) (conclude_leads task current)
      rw [hstage]
      exact releasable_settled task outcome

theorem checkinReserved_leads :
    checkinProtocol.Leads task (Releasable task) ⟨.owner, true⟩ (task.service.checkinReserved task.request) := by
  refine (leads_perform _ _ _).mpr ⟨.firstRead, fun reads => ?_⟩
  show checkinProtocol.Leads task _ (match task.service.currentCheckinState reads task.request with
    | .ok current => ⟨.resolved current, true⟩
    | .error _ => ⟨.unresolved, true⟩) _
  cases task.service.currentCheckinState reads task.request with
  | error err => exact (leads_perform _ _ _).mpr ⟨.fail, fun _ => releasable_settled task _⟩
  | ok current => exact mutate_leads task current

theorem checkinLocked_leads :
    checkinProtocol.Leads task (Releasable task) ⟨.locked, true⟩ (task.service.checkinLocked task.request) := by
  refine (leads_perform _ _ _).mpr ⟨.insert, fun inserted => ?_⟩
  cases inserted with
  | true => exact checkinReserved_leads task
  | false =>
    refine (leads_perform _ _ _).mpr ⟨.readBack, fun existing => ?_⟩
    cases existing with
    | error err => exact ⟨rfl, .releaseFound _, rfl⟩
    | ok row =>
      show checkinProtocol.Leads task _ ⟨.found (.ok row), true⟩
        (if !row.isMatch task.request then pure (.error (.conflict 0 false)) else pure (storedCheckinResult _))
      cases hmatch : row.isMatch task.request with
      | false => exact ⟨rfl, .releaseFound _, fun _ => rfl⟩
      | true => exact ⟨rfl, .releaseFound _, fun h => absurd hmatch (by rw [h]; decide)⟩

/-- **A check-in follows its protocol, whatever it is answered.** -/
theorem checkin_follows :
    checkinProtocol.Follows task checkinProtocol.initial (task.service.checkin task.request) := by
  show checkinProtocol.Leads task _ ⟨.initial, false⟩ _
  rw [TeacherService.checkin]
  split
  · exact ⟨rfl, rfl⟩
  rename_i hmutator
  simp only [Bool.not_eq_true', Bool.not_eq_false] at hmutator
  refine (leads_perform _ _ _).mpr ⟨.lock hmutator, fun lock => ?_⟩
  cases lock with
  | error err => exact ⟨rfl, rfl⟩
  | ok u =>
    refine Leads.bind (checkinLocked_leads task) fun stage outcome hstage => ?_
    obtain ⟨-, hrelease, hends⟩ := hstage
    exact (leads_perform _ _ _).mpr ⟨hrelease, fun _ => ⟨rfl, hends⟩⟩

end Follows

/-! ## All the calls -/

abbrev CheckinPool := Pool Mutations checkinProtocol

abbrev CheckinEntry := Entry CheckinCall CheckinCall.Answer CheckinTask

abbrev CheckinOp := PoolOp CheckinTask Choice

/-- Calls that interleave over one database; a crash ends the transaction of the lock. -/
def checkinMachine (hashtext : String → BitVec 32) : Machine checkinProtocol Mutations Choice where
  program task := task.service.checkin task.request
  handle := Mutations.handle hashtext
  abort i s := s.release i

def checkins (hashtext : String → BitVec 32) (ops : List CheckinOp) : CheckinPool :=
  final (checkinMachine hashtext).exec { shared := {} } ops

/-! ## What a call does to the table -/

/-- A row keeps its parameters, and is not touched once its status has left `reserved`. -/
def Kept (row row' : MutationRow) : Prop :=
  row'.request = row.request ∧ (row.status ≠ .reserved → row' = row)

theorem Kept.refl (row : MutationRow) : Kept row row := ⟨rfl, fun _ => rfl⟩

theorem Kept.trans {a b c : MutationRow} (h₁ : Kept a b) (h₂ : Kept b c) : Kept a c := by
  refine ⟨h₂.1.trans h₁.1, fun ha => ?_⟩
  have hb := h₁.2 ha
  rw [hb] at h₂
  exact h₂.2 ha

/-- The rows of `s` are still there in `s'`. -/
def Retains (s s' : Mutations) : Prop :=
  Evolves MutationRow.idempotencyKey Kept (fun _ => True) s.requests s'.requests

theorem Retains.refl (s : Mutations) : Retains s s := Evolves.refl Kept.refl _ _

theorem Retains.trans {a b c : Mutations} (h₁ : Retains a b) (h₂ : Retains b c) : Retains a c :=
  Evolves.trans h₁ h₂ (fun _ _ _ => Kept.trans) (fun _ _ _ _ => trivial) fun _ _ => trivial

theorem Retains.find (h : Retains s s') {key : String} {row : MutationRow} (hrow : s.find key = some row) :
    ∃ row', s'.find key = some row' ∧ Kept row row' := h.kept key row hrow

theorem mark_retains {f : MutationRow → MutationRow} (hf : ∀ row, (f row).request = row.request) (s : Mutations)
    (key : String) : Retains s (s.mark key f) := by
  have hkey : ∀ row : MutationRow, (f row).idempotencyKey = row.idempotencyKey :=
    fun row => congrArg CheckinRequest.idempotencyKey (hf row)
  refine Evolves.updateWhere hkey (fun row hrow => ⟨hf row, fun hstatus => ?_⟩) (fun row _ => Kept.refl row) _ _
  simp only [Bool.and_eq_true, decide_eq_true_eq] at hrow
  exact absurd hrow.2 hstatus

theorem ite_retains (h : Retains s s') (c : Bool) : Retains s (if c then s' else s) := by
  cases c with
  | true => exact h
  | false => exact Retains.refl s

/-- **No call takes a row away, changes its parameters or moves a settled one.** -/
theorem handle_retains {e : CheckinCall} {r : e.Answer} (h : s.handle hashtext i choice e = some (s', r)) :
    Retains s s' := by
  cases e with
  | acquireCheckinLock sessionID studentID =>
    simp only [Mutations.handle] at h
    split at h
    · cases h
      exact Retains.refl s
    · split at h
      · cases h
      · cases h
        exact Retains.refl _
  | insertIdempotencyKey req =>
    simp only [Mutations.handle] at h
    split at h
    · cases h
      exact Evolves.append Kept.refl _ fun _ _ => trivial
    · cases h
      exact Retains.refl s
  | readIdempotencyKey key =>
    simp only [Mutations.handle] at h
    split at h
    · split at h <;> cases h <;> exact Retains.refl s
    · cases h
      exact Retains.refl s
  | confirmIdempotencyKey key response =>
    cases h
    exact ite_retains (mark_retains (MutationRow.request_confirm response) s key) choice.sent
  | markIdempotencyKeyPending key response =>
    cases h
    exact ite_retains (mark_retains (MutationRow.request_markPending response) s key) choice.sent
  | markIdempotencyKeyFailed key errorCode =>
    cases h
    exact ite_retains (mark_retains (MutationRow.request_markFailed errorCode) s key) choice.sent
  | readState _ _ _ | toggleCheckin _ _ _ _ | refreshNow _ _ | setDueNow _ | releaseCheckinLock =>
    cases h
    exact Retains.refl _

theorem handle_inserted {req : CheckinRequest}
    (h : s.handle hashtext i choice (.insertIdempotencyKey req) = some (s', true)) :
    s.find req.idempotencyKey = none ∧ s'.find req.idempotencyKey = some (.reserve req) := by
  simp only [Mutations.handle] at h
  split at h
  · rename_i hsent
    obtain ⟨rfl, -⟩ := Prod.mk.inj (Option.some.inj h)
    simp only [Bool.and_eq_true, Option.isNone_iff_eq_none] at hsent
    have hnone : lookup MutationRow.idempotencyKey s.requests req.idempotencyKey = none := hsent.2
    refine ⟨hsent.2, ?_⟩
    simp only [Mutations.find, lookup_append, hnone, Option.none_or]
    simp [lookup, MutationRow.reserve]
  · cases h

theorem handle_readBack {key : String} {row : MutationRow}
    (h : s.handle hashtext i choice (.readIdempotencyKey key) = some (s', .ok row)) :
    s' = s ∧ s.find key = some row := by
  simp only [Mutations.handle] at h
  split at h
  · split at h
    · rename_i hrow
      cases h
      exact ⟨rfl, hrow⟩
    · cases h
  · cases h

end QrCommandCenter.Service
