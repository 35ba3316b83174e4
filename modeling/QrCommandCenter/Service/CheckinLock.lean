import QrCommandCenter.Service.CheckinProtocol

/-!
# The lock of a check-in

The advisory lock is taken on the identifier of the request, and a student of the roster can be named by two.

* `lockKey_low`, `TeacherService.Resolves` : what the lock and the resolver make of an identifier;
* `mutating` : the student whose state a call is between reading and verifying; `Exclusive` : no two calls at once;
* `LockInv` : the invariant of the locks, `exec_lockInv`;
* `enters` : a call that finds its lock free gets to where it is `mutating`;
* `exclusive_iff` : the calls on a session exclude each other exactly when the identifiers of a student share one hash.
-/

namespace QrCommandCenter.Service
open Domain Table Program Transition

variable {reads : StateReads}

section
variable {hashtext : String → BitVec 32} {i : Nat} {choice : Choice} {s s' : Mutations} {e : CheckinCall} {r : e.Answer}
  {task : CheckinTask} {stage : CheckinStage} {thread : Thread checkinProtocol} {u : String} {site : CheckinSite} {pool : CheckinPool}

variable {j : Nat} {key : BitVec 64}

/-! ## Identifiers -/

theorem lockKey_low (hashtext : String → BitVec 32) (sessionID studentID : String) :
    (lockKey hashtext sessionID studentID).setWidth 32 = hashtext studentID := by
  apply BitVec.eq_of_getLsbD_eq
  intro i hi
  have hi64 : i < 64 := Nat.lt_trans hi (by decide)
  have hmask : (0xFFFFFFFF#64).getLsbD i = true := by
    have hones : 0xFFFFFFFF#64 = (BitVec.allOnes 32).setWidth 64 := by decide
    rw [hones, BitVec.getLsbD_setWidth, BitVec.getLsbD_allOnes]
    simp [hi, hi64]
  simp only [lockKey, BitVec.getLsbD_setWidth, BitVec.getLsbD_or, BitVec.getLsbD_shiftLeft, BitVec.getLsbD_and, hmask,
    BitVec.getLsbD_signExtend]
  simp [hi, hi64]

theorem lockKey_inj {sessionID studentID studentID' : String} :
    lockKey hashtext sessionID studentID = lockKey hashtext sessionID studentID' ↔
      hashtext studentID = hashtext studentID' := by
  constructor
  · intro h
    rw [← lockKey_low hashtext sessionID studentID, h, lockKey_low]
  · intro h
    simp only [lockKey, h]

theorem resolve_inRoster {requestedID : String} {students : List StudentCheckin} {profiles : List StudentProfile}
    (h : resolveCheckinStudentID requestedID students profiles = some u) : inRoster students u = true := by
  unfold resolveCheckinStudentID at h
  split at h
  · cases h
  split at h
  · rename_i hroster
    cases h
    exact hroster
  · obtain ⟨profile, hprofile, rfl⟩ := Option.map_eq_some_iff.mp h
    have hp := List.find?_some hprofile
    simp only [Bool.and_eq_true] at hp
    exact hp.2

/-- The identifier stands for student `u` of the roster that is read. -/
def TeacherService.Resolves (s : TeacherService) (reads : StateReads) (studentID u : String) : Prop :=
  ∃ detail version, s.sessionRead reads = .ok (detail, version) ∧
    resolveCheckinStudentID studentID detail.students (TeacherService.profilesRead reads) = some u

theorem resolves_iff {s : TeacherService} (req : CheckinRequest) : s.Resolves reads req.studentID u ↔
      ∃ current, s.currentCheckinState reads req = .ok current ∧ current.upstreamStudentID = u := by
  constructor
  · rintro ⟨detail, version, hread, hresolve⟩
    have hroster := resolve_inRoster hresolve
    simp only [inRoster, List.any_eq_true, Bool.and_eq_true, decide_eq_true_eq] at hroster
    obtain ⟨student, hstudent, -, hid⟩ := hroster
    obtain ⟨found, hfound⟩ : ∃ found, detail.students.find? (fun student => student.studentID = u) = some found := by
      rw [← Option.isSome_iff_exists, List.find?_isSome]
      exact ⟨student, hstudent, by simp [hid]⟩
    refine ⟨⟨u, found.checkedIn, version⟩, ?_, rfl⟩
    simp only [TeacherService.currentCheckinState, hread, hresolve, hfound]
  · rintro ⟨current, hcurrent, rfl⟩
    unfold TeacherService.currentCheckinState at hcurrent
    split at hcurrent
    · cases hcurrent
    rename_i detail version hread
    split at hcurrent
    · split at hcurrent <;> cases hcurrent
    rename_i u hresolve
    split at hcurrent
    · cases hcurrent
      exact ⟨detail, version, hread, hresolve⟩
    · cases hcurrent

/-! ## Calls in flight -/

/-- The student whose state a call has read and is still to verify. -/
def mutating (thread : Thread checkinProtocol) : Option String :=
  match thread.program, (thread.stage : CheckinStage) with
  | some _, ⟨.resolved current, true⟩ => some current.upstreamStudentID
  | some _, ⟨.attempted current, true⟩ => some current.upstreamStudentID
  | _, _ => none

/-- No two calls are between the first read and the verification of one student. -/
def Exclusive (pool : CheckinPool) : Prop :=
  ∀ (i j : Nat) (u : String), (pool.threads.map mutating)[i]? = some (some u) →
    (pool.threads.map mutating)[j]? = some (some u) → i = j

theorem mutating_eq_some (h : mutating thread = some u) :
    (∃ p, thread.program = some p) ∧ thread.stage.held = true ∧ ∃ current, current.upstreamStudentID = u ∧
      (thread.stage.progress = .resolved current ∨ thread.stage.progress = .attempted current) := by
  unfold mutating at h
  split at h
  · rename_i p current hp hstage
    cases h
    exact ⟨⟨p, hp⟩, by rw [hstage], current, rfl, .inl (by rw [hstage])⟩
  · rename_i p current hp hstage
    cases h
    exact ⟨⟨p, hp⟩, by rw [hstage], current, rfl, .inr (by rw [hstage])⟩
  · cases h

/-! ## What a call does to the locks -/

/-- A call is granted a lock, releases its own or leaves the locks alone. -/
theorem handle_locks (h : s.handle hashtext i choice e = some (s', r)) :
    (∃ sessionID studentID, e = .acquireCheckinLock sessionID studentID ∧
      (∀ lock ∈ s.locks, lock.1 ≠ lockKey hashtext sessionID studentID) ∧
      s'.locks = s.locks ++ [(lockKey hashtext sessionID studentID, i)]) ∨
    (e = .releaseCheckinLock ∧ s' = s.release i) ∨
    (e ≠ .releaseCheckinLock ∧ s'.locks = s.locks) := by
  cases e with
  | acquireCheckinLock sessionID studentID =>
    simp only [Mutations.handle] at h
    split at h
    · cases h
      exact .inr (.inr ⟨by simp, rfl⟩)
    split at h
    · cases h
    · rename_i hbusy
      cases h
      refine .inl ⟨sessionID, studentID, rfl, fun lock hlock hkey => hbusy ?_, rfl⟩
      exact List.any_eq_true.mpr ⟨lock, hlock, by simp [hkey]⟩
  | insertIdempotencyKey req =>
    simp only [Mutations.handle] at h
    split at h <;> cases h <;> exact .inr (.inr ⟨by simp, rfl⟩)
  | readIdempotencyKey key =>
    simp only [Mutations.handle] at h
    split at h
    · split at h <;> cases h <;> exact .inr (.inr ⟨by simp, rfl⟩)
    · cases h
      exact .inr (.inr ⟨by simp, rfl⟩)
  | confirmIdempotencyKey | markIdempotencyKeyPending | markIdempotencyKeyFailed =>
    cases h
    refine .inr (.inr ⟨by simp, ?_⟩)
    cases choice.sent <;> rfl
  | readState | toggleCheckin | refreshNow | setDueNow =>
    cases h
    exact .inr (.inr ⟨by simp, rfl⟩)
  | releaseCheckinLock =>
    cases h
    exact .inr (.inl ⟨rfl, rfl⟩)

theorem release_other (h : (key, j) ∈ s.locks) (hij : j ≠ i) : (key, j) ∈ (s.release i).locks :=
  mem_deleteWhere.mpr ⟨h, by simpa using hij⟩

theorem release_nodup (h : (s.locks.map Prod.fst).Nodup) : ((s.release i).locks.map Prod.fst).Nodup :=
  h.sublist (List.filter_sublist.map Prod.fst)

theorem handle_locks_other (h : s.handle hashtext i choice e = some (s', r)) (hij : j ≠ i)
    (hlock : (key, j) ∈ s.locks) : (key, j) ∈ s'.locks := by
  rcases handle_locks h with ⟨_, _, -, -, hlocks⟩ | ⟨-, rfl⟩ | ⟨-, hlocks⟩
  · rw [hlocks]
    exact List.mem_append_left _ hlock
  · exact release_other hlock hij
  · rwa [hlocks]

theorem handle_locks_nodup (h : s.handle hashtext i choice e = some (s', r)) (hn : (s.locks.map Prod.fst).Nodup) :
    (s'.locks.map Prod.fst).Nodup := by
  rcases handle_locks h with ⟨sessionID, studentID, -, hfree, hlocks⟩ | ⟨-, rfl⟩ | ⟨-, hlocks⟩
  · rw [hlocks]
    exact nodup_map_snoc hn (lookup_eq_none.mpr hfree)
  · exact release_nodup hn
  · rwa [hlocks]

theorem held_next (hallowed : CheckinAllowed task stage e)
    (hhandle : s.handle hashtext i choice e = some (s', r))
    (hheld : stage.held = true → (lockKey hashtext task.request.sessionID task.request.studentID, i) ∈ s.locks)
    (h : (checkinNext task stage e r).held = true) :
    (lockKey hashtext task.request.sessionID task.request.studentID, i) ∈ s'.locks := by
  rcases handle_locks hhandle with ⟨_, _, rfl, -, hlocks⟩ | ⟨rfl, -⟩ | ⟨hne, hlocks⟩
  · cases hallowed
    rw [hlocks]
    exact List.mem_append_right _ (List.mem_singleton_self _)
  · cases h
  · rw [hlocks]
    cases hallowed with
    | lock =>
      -- a lock that left the locks alone was refused
      cases r with
      | error err => cases h
      | ok =>
        simp only [Mutations.handle] at hhandle
        split at hhandle
        · cases hhandle
        split at hhandle
        · cases hhandle
        · cases hhandle
          exact absurd hlocks (by simp)
    | releaseFound | releaseStale | releaseSettled => exact absurd rfl hne
    | _ => exact hheld rfl

/-! ## The invariant of the locks -/

/-- The calls on one session: the services and the identifiers they may be made with, and what their reads may return. -/
structure CheckinSite where
  sessionID : String
  Caller : TeacherService → String → Prop
  Readable : StateReads → Prop

def CheckinSite.Admits (site : CheckinSite) : CheckinOp → Prop
  | .start task => task.request.sessionID = site.sessionID ∧ site.Caller task.service task.request.studentID
  | .step _ choice => site.Readable choice.reads
  | .crash _ => True

/-- A state that a call works on was read; a service without a mutator does not get there. -/
def CheckinSite.Seen (site : CheckinSite) (task : CheckinTask) : CheckinProgress → Prop
  | .initial => True
  | .resolved current | .attempted current => task.service.mutator = true ∧
      ∃ reads, site.Readable reads ∧ task.service.currentCheckinState reads task.request = .ok current
  | _ => task.service.mutator = true

structure CheckinSite.Sound (site : CheckinSite) (hashtext : String → BitVec 32) (s : Mutations) (i : Nat)
    (thread : Thread checkinProtocol) : Prop where
  held : (∃ p, thread.program = some p) → thread.stage.held = true →
    (lockKey hashtext thread.request.request.sessionID thread.request.request.studentID, i) ∈ s.locks
  called : site.Admits (.start thread.request)
  seen : site.Seen thread.request thread.stage.progress

structure LockInv (hashtext : String → BitVec 32) (site : CheckinSite) (pool : CheckinPool) : Prop where
  follows : pool.Follows
  locks : (pool.shared.locks.map Prod.fst).Nodup
  threads : ∀ (i : Nat) (thread : Thread checkinProtocol), pool.threads[i]? = some thread →
    site.Sound hashtext pool.shared i thread

theorem lockInv_empty : LockInv hashtext site { shared := {} } where
  follows := fun _ _ _ h => by cases h
  locks := List.nodup_nil
  threads := fun _ _ h => by cases h

theorem CheckinSite.Sound.other (h : site.Sound hashtext s j thread) (hkept : ∀ key, (key, j) ∈ s.locks → (key, j) ∈ s'.locks) :
    site.Sound hashtext s' j thread :=
  ⟨fun hp hheld => hkept _ (h.held hp hheld), h.called, h.seen⟩

theorem handle_reads {attempt : Nat} {courseID sessionID : String}
    (h : s.handle hashtext i choice (.readState attempt courseID sessionID) = some (s', reads)) :
    reads = choice.reads := by
  cases h
  rfl

theorem seen_next (hreads : site.Readable choice.reads) (hallowed : CheckinAllowed task stage e)
    (hhandle : s.handle hashtext i choice e = some (s', r)) (h : site.Seen task stage.progress) :
    site.Seen task (checkinNext task stage e r).progress := by
  cases hallowed with
  | lock hmutator => cases r <;> exact hmutator
  | insert => cases r <;> exact h
  | firstRead =>
    have hmutator : task.service.mutator = true := h
    simp only [checkinNext]
    cases hcurrent : task.service.currentCheckinState r task.request with
    | error err => exact hmutator
    | ok current => exact ⟨hmutator, r, by rw [handle_reads hhandle]; exact hreads, hcurrent⟩
  | satisfied | rejected | confirm | pending => exact h.1
  | readBack | fail | due | releaseFound | releaseSettled | write | refresh | verify | releaseStale => exact h

/-- **Every operation on the session keeps the invariant.** -/
theorem exec_lockInv (hinv : LockInv hashtext site pool) (op : CheckinOp) (hop : site.Admits op) :
    LockInv hashtext site ((checkinMachine hashtext).exec pool op).1 := by
  have hstep := exec_poolStep (M := checkinMachine hashtext) hinv.follows op
  have hfollows := exec_follows (M := checkinMachine hashtext) checkin_follows pool op hinv.follows
  generalize ((checkinMachine hashtext).exec pool op).1 = pool' at hstep hfollows ⊢
  cases hstep with
  | idle => exact hinv
  | started task =>
    refine ⟨hfollows, hinv.locks, fun j thread hj => ?_⟩
    rcases getElem?_append_cases hj with ⟨-, rfl⟩ | hold
    · exact ⟨(fun _ hheld => by cases hheld), hop, trivial⟩
    · exact hinv.threads j thread hold
  | @called i choice task stage e k s' r hthread hallowed hhandle =>
    refine ⟨hfollows, handle_locks_nodup hhandle hinv.locks, fun j thread hj => ?_⟩
    rcases getElem?_set_cases hj with ⟨rfl, rfl⟩ | ⟨hij, hold⟩
    · have h := hinv.threads j _ hthread
      exact ⟨fun _ => held_next hallowed hhandle (h.held ⟨_, rfl⟩), h.called, seen_next hop hallowed hhandle h.seen⟩
    · exact (hinv.threads j thread hold).other fun _ => handle_locks_other hhandle hij
  | @crashed i task stage e k hthread =>
    refine ⟨hfollows, release_nodup hinv.locks, fun j thread hj => ?_⟩
    rcases getElem?_set_cases hj with ⟨rfl, rfl⟩ | ⟨hij, hold⟩
    · have h := hinv.threads j _ hthread
      exact ⟨(fun ⟨p, hp⟩ => by cases hp), h.called, h.seen⟩
    · exact (hinv.threads j thread hold).other fun _ hlock => release_other hlock hij

/-- The identifiers that can stand for one student share one hash. -/
def CheckinSite.OneHash (site : CheckinSite) (hashtext : String → BitVec 32) : Prop :=
  ∀ (service service' : TeacherService) (studentID studentID' : String) (reads reads' : StateReads) (u : String),
    site.Caller service studentID → site.Caller service' studentID' → service.mutator = true →
    service'.mutator = true → site.Readable reads → site.Readable reads' →
    service.Resolves reads studentID u → service'.Resolves reads' studentID' u →
    hashtext studentID = hashtext studentID'

theorem LockInv.resolves (hinv : LockInv hashtext site pool) (hthread : pool.threads[i]? = some thread) (h : mutating thread = some u) :
    thread.request.service.mutator = true ∧
      ∃ reads, site.Readable reads ∧ thread.request.service.Resolves reads thread.request.request.studentID u := by
  obtain ⟨-, -, current, hu, hprogress⟩ := mutating_eq_some h
  have hseen := (hinv.threads i thread hthread).seen
  have hread : thread.request.service.mutator = true ∧ ∃ reads, site.Readable reads ∧
      thread.request.service.currentCheckinState reads thread.request.request = .ok current := by
    rcases hprogress with hprogress | hprogress <;> rw [hprogress] at hseen <;> exact hseen
  obtain ⟨hmutator, reads, hreadable, hcurrent⟩ := hread
  exact ⟨hmutator, reads, hreadable, (resolves_iff _).mpr ⟨current, hcurrent, hu⟩⟩

theorem LockInv.exclusive (hinv : LockInv hashtext site pool) (hhash : site.OneHash hashtext) : Exclusive pool := by
  intro i j u hi hj
  rw [List.getElem?_map, Option.map_eq_some_iff] at hi hj
  obtain ⟨thread, hthread, hmutating⟩ := hi
  obtain ⟨thread', hthread', hmutating'⟩ := hj
  obtain ⟨hp, hheld, -⟩ := mutating_eq_some hmutating
  obtain ⟨hp', hheld', -⟩ := mutating_eq_some hmutating'
  obtain ⟨hmutator, reads, hreads, hresolves⟩ := hinv.resolves hthread hmutating
  obtain ⟨hmutator', reads', hreads', hresolves'⟩ := hinv.resolves hthread' hmutating'
  obtain ⟨hsession, hcaller⟩ := (hinv.threads i thread hthread).called
  obtain ⟨hsession', hcaller'⟩ := (hinv.threads j thread' hthread').called
  have hsame := hhash _ _ _ _ _ _ u hcaller hcaller' hmutator hmutator' hreads hreads' hresolves hresolves'
  have hlock := (hinv.threads i thread hthread).held hp hheld
  have hlock' := (hinv.threads j thread' hthread').held hp' hheld'
  rw [hsession', ← lockKey_inj.mpr hsame, ← hsession] at hlock'
  exact congrArg Prod.snd (List.inj_on_of_nodup_map hinv.locks hlock hlock' rfl)

/-! ## How calls get to work on a student -/

theorem checkin_called {p : Checkin CheckinOutcome} {k : e.Answer → Checkin CheckinOutcome} (stage' : CheckinStage)
    (p' : Checkin CheckinOutcome) (hthread : pool.threads[i]? = some ⟨task, stage, some p⟩) (hp : p = .call e k)
    (hhandle : pool.shared.handle hashtext i choice e = some (s', r)) (hstage : checkinNext task stage e r = stage')
    (hp' : k r = p') :
    ((checkinMachine hashtext).exec pool (.step i choice)).1.shared = s' ∧
      ((checkinMachine hashtext).exec pool (.step i choice)).1.threads =
        pool.threads.set i ⟨task, stage', some p'⟩ ∧
      ((checkinMachine hashtext).exec pool (.step i choice)).1.threads[i]? = some ⟨task, stage', some p'⟩ := by
  subst hp hstage hp'
  rw [exec_called hthread hhandle]
  exact ⟨rfl, rfl, getElem?_set_same hthread⟩

/-- The end of a check-in, after what happens under its lock. -/
def unlocking (outcome : CheckinOutcome) : Checkin CheckinOutcome := do
  issue .releaseCheckinLock
  return outcome

theorem checkin_eq (hmutator : task.service.mutator = true) :
    ∃ k, task.service.checkin task.request =
      .call (.acquireCheckinLock task.request.sessionID task.request.studentID) k ∧
      k (.ok ()) = task.service.checkinLocked task.request >>= unlocking := by
  rw [TeacherService.checkin, hmutator, if_neg (by decide)]
  exact ⟨_, rfl, rfl⟩

theorem checkinReserved_eq (task : CheckinTask) :
    ∃ k, task.service.checkinReserved task.request >>= unlocking =
      .call (.readState 0 task.request.courseID task.request.sessionID) k ∧
      ∀ reads current, task.service.currentCheckinState reads task.request = .ok current →
        k reads = task.service.mutate task.request current >>= unlocking := by
  rw [TeacherService.checkinReserved, perform_bind, bind_call]
  refine ⟨_, rfl, fun reads current hcurrent => ?_⟩
  rw [hcurrent]

/-- A call that nothing stands in the way of works on its student after its lock, its insertion and its first read. -/
theorem enters (hashtext : String → BitVec 32) (choice : Choice) {current : CurrentCheckinState}
    (hthread : pool.threads[i]? = some ⟨task, checkinProtocol.initial, some (task.service.checkin task.request)⟩)
    (hmutator : task.service.mutator = true)
    (hfree : ∀ lock ∈ pool.shared.locks, lock.1 ≠ lockKey hashtext task.request.sessionID task.request.studentID)
    (hnew : pool.shared.find task.key = none) (hsent : choice.sent = true) (hacknowledged : choice.acknowledged = true)
    (hcurrent : task.service.currentCheckinState choice.reads task.request = .ok current) :
    (final (checkinMachine hashtext).exec pool (List.replicate 3 (.step i choice))).shared =
      { requests := pool.shared.requests ++ [.reserve task.request]
        locks := pool.shared.locks ++ [(lockKey hashtext task.request.sessionID task.request.studentID, i)] } ∧
    ∃ p, (final (checkinMachine hashtext).exec pool (List.replicate 3 (.step i choice))).threads =
      pool.threads.set i ⟨task, ⟨.resolved current, true⟩, some p⟩ := by
  have hsteps : List.replicate 3 (PoolOp.step i choice : CheckinOp) =
    [.step i choice, .step i choice, .step i choice] := rfl
  rw [hsteps, final_cons, final_cons, final_cons, final_nil]
  -- the lock
  obtain ⟨k, hprogram, hk⟩ := checkin_eq hmutator
  obtain ⟨hs₁, ht₁, hi₁⟩ := checkin_called ⟨.locked, true⟩ (task.service.checkinLocked task.request >>= unlocking)
    hthread hprogram (handle_lock_free hfree hsent hacknowledged) rfl hk
  generalize ((checkinMachine hashtext).exec pool (.step i choice)).1 = pool₁ at hs₁ ht₁ hi₁ ⊢
  -- the insertion
  have hinsert : pool₁.shared.handle hashtext i choice (.insertIdempotencyKey task.request) =
      some (⟨pool₁.shared.requests ++ [.reserve task.request], pool₁.shared.locks⟩, true) := by
    rw [handle_insert_new (by rw [hs₁]; exact hnew) hsent, hacknowledged]
  obtain ⟨hs₂, ht₂, hi₂⟩ := checkin_called ⟨.owner, true⟩ (task.service.checkinReserved task.request >>= unlocking)
    hi₁ rfl hinsert rfl rfl
  generalize ((checkinMachine hashtext).exec pool₁ (.step i choice)).1 = pool₂ at hs₂ ht₂ hi₂ ⊢
  -- the first read
  have hread : pool₂.shared.handle hashtext i choice
      (.readState 0 task.request.courseID task.request.sessionID) = some (pool₂.shared, choice.reads) := rfl
  obtain ⟨k', hprogram', hk'⟩ := checkinReserved_eq task
  obtain ⟨hs₃, ht₃, -⟩ := checkin_called ⟨.resolved current, true⟩
    (task.service.mutate task.request current >>= unlocking) hi₂ hprogram' hread
    (by simp only [checkinNext, hcurrent]) (hk' _ current hcurrent)
  refine ⟨by rw [hs₃, hs₂, hs₁], task.service.mutate task.request current >>= unlocking, ?_⟩
  rw [ht₃, ht₂, ht₁, List.set_set, List.set_set]

end

def CheckinSite.task (site : CheckinSite) (service : TeacherService) (studentID key : String) : CheckinTask where
  service := service
  request := { courseID := "", sessionID := site.sessionID, studentID := studentID, desiredCheckedIn := true
               idempotencyKey := key }

def answered (reads : StateReads) : Choice where
  reads := reads
  write := .ok ()
  refreshed := true

/-- Two calls that both get their locks, and then make their first reads. -/
def overlap (task task' : CheckinTask) (reads reads' : StateReads) : List CheckinOp :=
  [.start task, .start task'] ++ List.replicate 3 (.step 0 (answered reads)) ++
    List.replicate 3 (.step 1 (answered reads'))

theorem overlap_mutating {hashtext : String → BitVec 32} (site : CheckinSite) {service service' : TeacherService}
    {studentID studentID' : String} {reads' : StateReads} {u : String} (hmutator : service.mutator = true)
    (hmutator' : service'.mutator = true) (hresolves : service.Resolves reads studentID u)
    (hresolves' : service'.Resolves reads' studentID' u) (hhash : hashtext studentID ≠ hashtext studentID') :
    ((checkins hashtext (overlap (site.task service studentID "a") (site.task service' studentID' "b") reads
      reads')).threads).map mutating = [some u, some u] := by
  obtain ⟨current, hcurrent, hu⟩ := (resolves_iff (site.task service studentID "a").request).mp hresolves
  obtain ⟨current', hcurrent', hu'⟩ := (resolves_iff (site.task service' studentID' "b").request).mp hresolves'
  rw [checkins, overlap, final_append, final_append]
  obtain ⟨pool, hpool, hs, ht⟩ : ∃ pool, final (checkinMachine hashtext).exec { shared := {} }
      [.start (site.task service studentID "a"), .start (site.task service' studentID' "b")] = pool ∧
      pool.shared = {} ∧ pool.threads = [
        ⟨site.task service studentID "a", ⟨.initial, false⟩,
          some (service.checkin (site.task service studentID "a").request)⟩,
        ⟨site.task service' studentID' "b", ⟨.initial, false⟩,
          some (service'.checkin (site.task service' studentID' "b").request)⟩] := ⟨_, rfl, rfl, rfl⟩
  rw [hpool]
  -- the first call finds no lock, the second one the lock of the other identifier
  have hthread : pool.threads[0]? = some ⟨site.task service studentID "a", ⟨.initial, false⟩,
      some (service.checkin (site.task service studentID "a").request)⟩ := by
    rw [ht]
    rfl
  obtain ⟨hs₁, p, ht₁⟩ := enters hashtext (answered reads) hthread hmutator
    (by rw [hs]; intro lock hlock; cases hlock) (by rw [hs]; rfl) rfl rfl hcurrent
  generalize final (checkinMachine hashtext).exec pool (List.replicate 3 (.step 0 (answered reads))) = pool₁ at hs₁ ht₁ ⊢
  have hthread' : pool₁.threads[1]? = some ⟨site.task service' studentID' "b", ⟨.initial, false⟩,
      some (service'.checkin (site.task service' studentID' "b").request)⟩ := by
    rw [ht₁, ht]
    rfl
  obtain ⟨-, p', ht₂⟩ := enters hashtext (answered reads') hthread' hmutator' (by
    rw [hs₁, hs]
    intro lock hlock hkey
    cases List.mem_singleton.mp hlock
    exact hhash (lockKey_inj.mp hkey)) (by rw [hs₁, hs]; rfl) rfl rfl hcurrent'
  rw [ht₂, ht₁, ht]
  show [some current.upstreamStudentID, some current'.upstreamStudentID] = _
  rw [hu, hu']

/-- **The calls on a session exclude each other exactly when the identifiers of a student share one hash.** -/
theorem exclusive_iff (hashtext : String → BitVec 32) (site : CheckinSite) :
    (∀ ops : List CheckinOp, (∀ op ∈ ops, site.Admits op) → Exclusive (checkins hashtext ops)) ↔
      site.OneHash hashtext := by
  constructor
  · intro h service service' studentID studentID' reads reads' u hcaller hcaller' hmutator hmutator' hreads hreads'
      hresolves hresolves'
    by_contra hhash
    have hops : ∀ op ∈ overlap (site.task service studentID "a") (site.task service' studentID' "b") reads reads',
        site.Admits op := by
      intro op hop
      simp only [overlap, List.mem_append, List.mem_cons, List.not_mem_nil, or_false, List.mem_replicate] at hop
      rcases hop with ((rfl | rfl) | ⟨-, rfl⟩) | ⟨-, rfl⟩
      · exact ⟨rfl, hcaller⟩
      · exact ⟨rfl, hcaller'⟩
      · exact hreads
      · exact hreads'
    have hboth := overlap_mutating site hmutator hmutator' hresolves hresolves' hhash
    have hsame := h _ hops 0 1 u
    rw [hboth] at hsame
    exact absurd (hsame rfl rfl) (by decide)
  · intro hhash ops hops
    have hstep : ∀ pool, ∀ op ∈ ops, LockInv hashtext site pool →
        LockInv hashtext site ((checkinMachine hashtext).exec pool op).1 :=
      fun pool op hop hinv => exec_lockInv hinv op (hops op hop)
    exact (final_inv_of_mem lockInv_empty hstep).exclusive hhash

/-! ### A student with two identifiers -/

/-- The live roster has one student, whose profile has a public code. -/
def oneStudent : StateReads where
  snapshot := .error .snapshotNotFound
  detail := .ok (some { sessionID := "session", students := [{ studentID := "guid-a" }] })
  profiles := .ok [{ studentID := "W123", studentGuid := "guid-a", fullName := "A" }]

def liveService : TeacherService where
  snapshotMode := false
  host := "humanix"
  decodeSession := fun _ => none

/-- A check-in by the code and one by the identifier of the roster, which both get to write. -/
def twoSpellings : List CheckinOp :=
  overlap ⟨liveService, { courseID := "course", sessionID := "session", studentID := "W123", desiredCheckedIn := true
                          idempotencyKey := "a" }⟩
    ⟨liveService, { courseID := "course", sessionID := "session", studentID := "guid-a", desiredCheckedIn := true
                    idempotencyKey := "b" }⟩ oneStudent oneStudent ++
    [.step 0 (answered oneStudent), .step 1 (answered oneStudent)]

theorem twoSpellings_not_exclusive :
    ¬ ∀ (hashtext : String → BitVec 32) (ops : List CheckinOp),
      (∀ task, PoolOp.start task ∈ ops → task.request.sessionID = "session") → Exclusive (checkins hashtext ops) := by
  intro h
  -- any hash that tells the two identifiers apart; this one takes their lengths
  have hsession : ∀ task, PoolOp.start task ∈ twoSpellings → task.request.sessionID = "session" := by
    intro task htask
    simp only [twoSpellings, overlap, List.mem_append, List.mem_cons, List.not_mem_nil, List.mem_replicate,
      PoolOp.start.injEq, reduceCtorEq, and_false, or_false] at htask
    rcases htask with rfl | rfl <;> rfl
  have hexclusive := h (fun text => BitVec.ofNat 32 text.length) twoSpellings hsession 0 1 "guid-a"
  exact absurd (hexclusive (by decide +kernel) (by decide +kernel)) (by decide)

end QrCommandCenter.Service
