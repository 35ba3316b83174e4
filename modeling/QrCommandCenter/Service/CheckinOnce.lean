import QrCommandCenter.Service.CheckinProtocol

/-!
# At most one write for each idempotency key

Over every interleaving of check-ins, with calls that fail and crashes at any point.

* `owns`, `written` : a call that inserted its key, and one that is past its write;
* `Backed` : what the stage of a call says about the table and the log, `Backed.mono`, `backed_next`;
* `OnceInv` : the invariant of the pool, `exec_once`;
* `checkins_once` : at most one write for a key, of what is stored under it; the stored parameters and a settled row never
  change; a call with other parameters does not write.
-/

namespace QrCommandCenter.Service
open Domain Table Program Transition

variable {entry : CheckinEntry} {current : CurrentCheckinState} {thread : Thread checkinProtocol} {choice : Choice}

def CheckinProgress.owns : CheckinProgress → Bool
  | .owner | .unresolved | .resolved _ | .attempted _ | .settled => true
  | _ => false

/-- The call will not write any more. -/
def CheckinProgress.written : CheckinProgress → Bool
  | .attempted _ | .settled => true
  | _ => false

theorem CheckinProgress.owns_of_written {progress : CheckinProgress} (h : progress.written = true) :
    progress.owns = true := by
  cases progress <;> first | rfl | cases h

/-- The key of a call of `ToggleCheckin`. -/
def toggledKey (entry : CheckinEntry) : Option String :=
  match entry.effect with
  | .toggleCheckin _ _ _ _ => some entry.request.key
  | _ => none

theorem toggledKey_eq {key : String} (h : toggledKey entry = some key) : entry.request.key = key := by
  unfold toggledKey at h
  split at h
  · exact Option.some.inj h
  · cases h

/-! ## What a stage says -/

/-- The table has the parameters of the call under its key. -/
def Stored (s : Mutations) (task : CheckinTask) : Prop :=
  ∃ row, s.find task.key = some row ∧ row.request = task.request

def ReadBy (log : List CheckinEntry) (i : Nat) (task : CheckinTask) (current : CurrentCheckinState) : Prop :=
  ∃ reads : StateReads,
    (⟨i, task, .readState 0 task.request.courseID task.request.sessionID, reads⟩ : CheckinEntry) ∈ log ∧
      task.service.currentCheckinState reads task.request = .ok current

def Backed (s : Mutations) (log : List CheckinEntry) (i : Nat) (task : CheckinTask) : CheckinProgress → Prop
  | .found (.ok row) => ∃ row', s.find task.key = some row' ∧ row'.request = row.request
  | .resolved current => Stored s task ∧ ReadBy log i task current
  | .owner | .unresolved | .attempted _ | .settled => Stored s task
  | _ => True

section Backed
variable {s s' : Mutations} {log : List CheckinEntry} {i : Nat} {task : CheckinTask} {progress : CheckinProgress}

theorem Stored.mono (hs : Retains s s') (h : Stored s task) : Stored s' task := by
  obtain ⟨row, hrow, hrequest⟩ := h
  obtain ⟨row', hrow', hkept⟩ := hs.find hrow
  exact ⟨row', hrow', hkept.1.trans hrequest⟩

theorem ReadBy.mono (h : ReadBy log i task current) (new : List CheckinEntry) : ReadBy (log ++ new) i task current := by
  obtain ⟨reads, hmem, hcurrent⟩ := h
  exact ⟨reads, List.mem_append_left new hmem, hcurrent⟩

theorem Backed.mono (hs : Retains s s') (new : List CheckinEntry) (h : Backed s log i task progress) :
    Backed s' (log ++ new) i task progress := by
  cases progress with
  | initial | refused | locked | unsure => trivial
  | owner | unresolved | attempted | settled => exact Stored.mono hs h
  | resolved current => exact ⟨h.1.mono hs, h.2.mono new⟩
  | found existing =>
    cases existing with
    | error err => trivial
    | ok row =>
      obtain ⟨row', hrow', hrequest⟩ := h
      obtain ⟨row'', hrow'', hkept⟩ := hs.find hrow'
      exact ⟨row'', hrow'', hkept.1.trans hrequest⟩

theorem Backed.stored (h : Backed s log i task progress) (howns : progress.owns = true) : Stored s task := by
  cases progress with
  | initial | refused | locked | unsure | found => cases howns
  | owner | unresolved | attempted | settled => exact h
  | resolved current => exact h.1

end Backed

/-! ## What a call does to its own stage -/

section Next
variable {hashtext : String → BitVec 32} {s s' : Mutations} {log : List CheckinEntry} {i : Nat} {choice : Choice}
  {task : CheckinTask} {stage : CheckinStage} {e : CheckinCall} {r : e.Answer}

section
variable (hallowed : CheckinAllowed task stage e) (hhandle : s.handle hashtext i choice e = some (s', r))
include hallowed hhandle

theorem backed_next (h : Backed s log i task stage.progress) :
    Backed s' (log ++ [⟨i, task, e, r⟩]) i task (checkinNext task stage e r).progress := by
  have hs : Retains s s' := handle_retains hhandle
  cases hallowed with
  | lock => cases r <;> trivial
  | insert =>
    cases r with
    | true => exact ⟨_, (handle_inserted hhandle).2, rfl⟩
    | false => trivial
  | readBack =>
    cases r with
    | error err => trivial
    | ok row =>
      obtain ⟨rfl, hrow⟩ := handle_readBack hhandle
      exact ⟨row, hrow, rfl⟩
  | firstRead =>
    have hstored : Stored s' task := Stored.mono hs h
    simp only [checkinNext]
    cases hcurrent : task.service.currentCheckinState r task.request with
    | error err => exact hstored
    | ok current => exact ⟨hstored, r, List.mem_append_right log (List.mem_singleton_self _), hcurrent⟩
  | satisfied | write => exact h.1.mono hs
  | fail | rejected | refresh | verify | confirm | pending | due | releaseSettled => exact Stored.mono hs h
  | releaseFound | releaseStale => exact Backed.mono hs _ h

theorem owns_next (h : (checkinNext task stage e r).progress.owns = true) :
    stage.progress.owns = true ∨ s.find task.key = none := by
  cases hallowed with
  | lock => cases r <;> cases h
  | insert =>
    cases r with
    | true => exact .inr (handle_inserted hhandle).1
    | false => cases h
  | readBack | releaseFound => cases h
  | firstRead | fail | satisfied | write | rejected | refresh | verify | confirm | pending | due | releaseStale
  | releaseSettled => exact .inl rfl

end

theorem written_next (hallowed : CheckinAllowed task stage e) (h : stage.progress.written = true) :
    (checkinNext task stage e r).progress.written = true := by
  cases hallowed with
  | lock | insert | readBack | firstRead | fail | satisfied | write | releaseFound | releaseStale => cases h
  | rejected | refresh | verify | confirm | pending | due | releaseSettled => rfl

theorem toggle_allowed (h : CheckinAllowed task stage e) (hkey : toggledKey ⟨i, task, e, r⟩ ≠ none) :
    ∃ current, stage.progress = .resolved current ∧ e = .toggleCheckin task.request.courseID task.request.sessionID
      current.upstreamStudentID task.request.desiredCheckedIn := by
  cases h with
  | write current => exact ⟨current, rfl, rfl⟩
  | _ => exact absurd rfl hkey

end Next

/-! ## The invariant of the pool -/

/-- A write of what its call asks for and its first read resolved, by a call that is past it. -/
structure WriteOf (pool : CheckinPool) (entry : CheckinEntry) : Prop where
  effect : ∃ current, ReadBy pool.log entry.caller entry.request current ∧
    entry.effect = .toggleCheckin entry.request.request.courseID entry.request.request.sessionID
      current.upstreamStudentID entry.request.request.desiredCheckedIn
  caller : ∃ thread, pool.threads[entry.caller]? = some thread ∧ thread.request = entry.request ∧
    thread.stage.progress.written = true

structure OnceInv (pool : CheckinPool) : Prop where
  follows : pool.Follows
  backed : ∀ i thread, pool.threads[i]? = some thread →
    Backed pool.shared pool.log i thread.request thread.stage.progress
  unique : ∀ (i j : Nat) (thread thread' : Thread checkinProtocol), pool.threads[i]? = some thread →
    pool.threads[j]? = some thread' → thread.stage.progress.owns = true → thread'.stage.progress.owns = true →
    thread.request.key = thread'.request.key → i = j
  writes : ∀ entry ∈ pool.log, toggledKey entry ≠ none → WriteOf pool entry
  once : (pool.log.filterMap toggledKey).Nodup

theorem onceInv_empty : OnceInv { shared := {} } where
  follows := fun _ _ _ h => by cases h
  backed := fun _ _ h => by cases h
  unique := fun _ _ _ _ h => by cases h
  writes := fun _ h => by cases h
  once := List.nodup_nil

section Step
variable {hashtext : String → BitVec 32} {pool pool' : CheckinPool} {op : CheckinOp}

theorem WriteOf.mono (hstep : PoolStep (checkinMachine hashtext) pool op pool')
    {new : List CheckinEntry} (hlog : pool'.log = pool.log ++ new) (h : WriteOf pool entry) : WriteOf pool' entry := by
  constructor
  · obtain ⟨current, hread, heffect⟩ := h.effect
    exact ⟨current, by rw [hlog]; exact hread.mono new, heffect⟩
  · obtain ⟨thread, hthread, hrequest, hwritten⟩ := h.caller
    obtain ⟨thread', hthread', hrequest', hstage⟩ := hstep.thread hthread
    refine ⟨thread', hthread', hrequest'.trans hrequest, ?_⟩
    rcases hstage with hsame | ⟨e, r, hallowed, hnext⟩
    · rw [hsame]
      exact hwritten
    · rw [hnext]
      exact written_next hallowed hwritten

section Called
variable {i : Nat} {choice : Choice} {task : CheckinTask} {stage : CheckinStage} {e : CheckinCall}
  {k : e.Answer → Checkin CheckinOutcome} {s' : Mutations} {r : e.Answer}

section
variable (hinv : OnceInv pool) (hthread : pool.threads[i]? = some ⟨task, stage, some (.call e k)⟩)
include hinv hthread

theorem called_unique (hallowed : CheckinAllowed task stage e)
    (hhandle : pool.shared.handle hashtext i choice e = some (s', r))
    (howns : (checkinNext task stage e r).progress.owns = true) {j : Nat}
    (hthread' : pool.threads[j]? = some thread) (howns' : thread.stage.progress.owns = true)
    (hkey : task.key = thread.request.key) : i = j := by
  rcases owns_next hallowed hhandle howns with hold | hnone
  · exact hinv.unique i j _ _ hthread hthread' hold howns' hkey
  · obtain ⟨row, hrow, -⟩ := (hinv.backed j thread hthread').stored howns'
    rw [hkey, hrow] at hnone
    cases hnone

theorem called_first (hresolved : stage.progress = .resolved current) : task.key ∉ pool.log.filterMap toggledKey := by
  intro hmem
  obtain ⟨entry, hentry, hkey⟩ := List.mem_filterMap.mp hmem
  obtain ⟨thread, hthread', hrequest, hwritten⟩ := (hinv.writes entry hentry (by simp [hkey])).caller
  have howns : stage.progress.owns = true := by rw [hresolved]; rfl
  have hij : i = entry.caller := by
    refine hinv.unique i entry.caller _ _ hthread hthread' howns (CheckinProgress.owns_of_written hwritten) ?_
    rw [hrequest]
    exact (toggledKey_eq hkey).symm
  rw [← hij, hthread] at hthread'
  cases hthread'
  simp only [hresolved, CheckinProgress.written] at hwritten
  cases hwritten

theorem called_once (hallowed : CheckinAllowed task stage e) (r : e.Answer) :
    ((pool.log ++ [(⟨i, task, e, r⟩ : CheckinEntry)]).filterMap toggledKey).Nodup := by
  rw [List.filterMap_append]
  cases e with
  | toggleCheckin courseID sessionID studentID checkedIn =>
    obtain ⟨current, hresolved, -⟩ := toggle_allowed (i := i) (r := r) hallowed (by simp [toggledKey])
    show (pool.log.filterMap toggledKey ++ [task.key]).Nodup
    refine List.Nodup.append hinv.once (List.nodup_singleton _) ?_
    rw [List.disjoint_singleton]
    exact called_first hinv hthread hresolved
  | _ =>
    show (pool.log.filterMap toggledKey ++ []).Nodup
    rw [List.append_nil]
    exact hinv.once

end

end Called

theorem called_writes (hinv : OnceInv pool) {i : Nat} {task : CheckinTask} {stage : CheckinStage}
    {e : CheckinCall} {k : e.Answer → Checkin CheckinOutcome} {r : e.Answer}
    (hthread : pool.threads[i]? = some ⟨task, stage, some (.call e k)⟩) (hallowed : CheckinAllowed task stage e)
    (hstep : PoolStep (checkinMachine hashtext) pool (.step i choice) pool')
    (hthreads : pool'.threads = pool.threads.set i ⟨task, checkinNext task stage e r, some (k r)⟩)
    (hlog : pool'.log = pool.log ++ [⟨i, task, e, r⟩]) :
    ∀ entry ∈ pool'.log, toggledKey entry ≠ none → WriteOf pool' entry := by
  intro entry hentry hkey
  rw [hlog] at hentry
  rcases List.mem_append.mp hentry with hold | hnew
  · exact (hinv.writes entry hold hkey).mono hstep hlog
  rw [List.mem_singleton.mp hnew] at hkey ⊢
  obtain ⟨current, hresolved, heffect⟩ := toggle_allowed hallowed hkey
  have hbacked := hinv.backed i _ hthread
  simp only [hresolved] at hbacked
  refine ⟨⟨current, by rw [hlog]; exact hbacked.2.mono _, heffect⟩, ?_⟩
  refine ⟨_, by rw [hthreads]; exact getElem?_set_same hthread, rfl, ?_⟩
  subst heffect
  simp only [checkinNext, hresolved]
  rfl

theorem exec_once (hinv : OnceInv pool) (op : CheckinOp) : OnceInv ((checkinMachine hashtext).exec pool op).1 := by
  have hstep := exec_poolStep (M := checkinMachine hashtext) hinv.follows op
  have hfollows := exec_follows (M := checkinMachine hashtext) checkin_follows pool op hinv.follows
  generalize ((checkinMachine hashtext).exec pool op).1 = pool' at hstep hfollows ⊢
  have hkeep := hstep
  cases hstep with
  | idle => exact hinv
  | started task =>
    refine ⟨hfollows, fun j thread hj => ?_, fun j j' thread thread' hj hj' howns howns' hkey => ?_, ?_, hinv.once⟩
    · rcases getElem?_append_cases hj with ⟨-, rfl⟩ | hold
      · trivial
      · exact hinv.backed j thread hold
    · rcases getElem?_append_cases hj with ⟨-, rfl⟩ | hold
      · cases howns
      rcases getElem?_append_cases hj' with ⟨-, rfl⟩ | hold'
      · cases howns'
      exact hinv.unique j j' thread thread' hold hold' howns howns' hkey
    · exact fun entry hentry hkey => (hinv.writes entry hentry hkey).mono hkeep (List.append_nil _).symm
  | @called i choice task stage e k s' r hthread hallowed hhandle =>
    refine ⟨hfollows, fun j thread hj => ?_, fun j j' thread thread' hj hj' howns howns' hkey => ?_,
      called_writes hinv hthread hallowed hkeep rfl rfl, called_once hinv hthread hallowed r⟩
    · rcases getElem?_set_cases hj with ⟨rfl, rfl⟩ | ⟨-, hold⟩
      · exact backed_next hallowed hhandle (hinv.backed _ _ hthread)
      · exact (hinv.backed j thread hold).mono (handle_retains hhandle) _
    · rcases getElem?_set_cases hj with ⟨rfl, rfl⟩ | ⟨-, hold⟩
      · rcases getElem?_set_cases hj' with ⟨rfl, -⟩ | ⟨-, hold'⟩
        · rfl
        · exact called_unique hinv hthread hallowed hhandle howns hold' howns' hkey
      · rcases getElem?_set_cases hj' with ⟨rfl, rfl⟩ | ⟨-, hold'⟩
        · exact (called_unique hinv hthread hallowed hhandle howns' hold howns hkey.symm).symm
        · exact hinv.unique j j' thread thread' hold hold' howns howns' hkey
  | @crashed i task stage e k hthread =>
    -- every thread was there, in the same stage
    have hold : ∀ (j : Nat) (thread : Thread checkinProtocol), (pool.threads.set i ⟨task, stage, none⟩)[j]? = some thread →
        ∃ old, pool.threads[j]? = some old ∧ old.request = thread.request ∧ old.stage = thread.stage := by
      intro j thread hj
      rcases getElem?_set_cases hj with ⟨rfl, rfl⟩ | ⟨-, hold⟩
      · exact ⟨_, hthread, rfl, rfl⟩
      · exact ⟨thread, hold, rfl, rfl⟩
    refine ⟨hfollows, fun j thread hj => ?_, fun j j' thread thread' hj hj' => ?_, ?_, hinv.once⟩
    · obtain ⟨old, hj, hrequest, hstage⟩ := hold j thread hj
      rw [← hrequest, ← hstage]
      exact hinv.backed j old hj
    · obtain ⟨old, hj, hrequest, hstage⟩ := hold j thread hj
      obtain ⟨old', hj', hrequest', hstage'⟩ := hold j' thread' hj'
      rw [← hrequest, ← hstage, ← hrequest', ← hstage']
      exact hinv.unique j j' old old' hj hj'
    · exact fun entry hentry hkey => (hinv.writes entry hentry hkey).mono hkeep (List.append_nil _).symm

end Step

/-! ## Whole runs -/

section Runs
variable {hashtext : String → BitVec 32} {pool : CheckinPool}
variable {i : Nat} {row : MutationRow}

theorem checkins_onceInv (ops : List CheckinOp) : OnceInv (checkins hashtext ops) :=
  @final_inv _ _ _ (checkinMachine hashtext).exec OnceInv (fun _ op hinv => exec_once hinv op) _ onceInv_empty ops

theorem exec_retains (hinv : OnceInv pool) (op : CheckinOp) :
    Retains pool.shared ((checkinMachine hashtext).exec pool op).1.shared := by
  have hstep := exec_poolStep (M := checkinMachine hashtext) hinv.follows op
  generalize ((checkinMachine hashtext).exec pool op).1 = pool' at hstep ⊢
  cases hstep with
  | idle | started => exact Retains.refl _
  | called _ _ hhandle => exact handle_retains hhandle
  | crashed => exact Retains.refl _

/-- Rows stay, with their parameters, and settled ones as they are, in every continuation. -/
theorem checkins_retains (ops ops' : List CheckinOp) :
    Retains (checkins hashtext ops).shared (checkins hashtext (ops ++ ops')).shared := by
  rw [checkins, checkins, final_append]
  -- the step lemma needs the invariant, so both are carried along the continuation
  have hstep : ∀ pool op, OnceInv pool ∧ Retains (checkins hashtext ops).shared pool.shared →
      OnceInv ((checkinMachine hashtext).exec pool op).1 ∧
        Retains (checkins hashtext ops).shared ((checkinMachine hashtext).exec pool op).1.shared :=
    fun pool op h => ⟨exec_once h.1 op, h.2.trans (exec_retains h.1 op)⟩
  exact (final_inv hstep ⟨checkins_onceInv ops, Retains.refl _⟩ ops').2

section
variable (hinv : OnceInv pool) {thread : Thread checkinProtocol} (hthread : pool.threads[i]? = some thread)
  (hrow : pool.shared.find thread.request.key = some row) (hother : row.request ≠ thread.request.request)
include hinv hthread hrow hother

theorem not_owns_of_other : thread.stage.progress.owns = false := by
  rw [Bool.eq_false_iff]
  intro howns
  obtain ⟨row', hrow', hrequest⟩ := (hinv.backed i thread hthread).stored howns
  rw [hrow] at hrow'
  cases hrow'
  exact hother hrequest

theorem no_write_of_other (entry : CheckinEntry) (hentry : entry ∈ pool.log)
    (hcaller : entry.caller = i) : toggledKey entry = none := by
  by_contra hkey
  obtain ⟨thread', hthread', -, hwritten⟩ := (hinv.writes entry hentry hkey).caller
  rw [hcaller, hthread] at hthread'
  cases hthread'
  have howns := CheckinProgress.owns_of_written hwritten
  rw [not_owns_of_other hinv hthread hrow hother] at howns
  cases howns

end

/-- What a call returns that did not get to see the stored parameters. -/
inductive NotReserved : CheckinOutcome → Prop where
  | notConfigured : NotReserved (.error .notConfigured)
  | lock (err : String) : NotReserved (.error (.lock err))
  | reserve (err : String) : NotReserved (.error (.reserve err))

theorem outcome_of_other (hinv : OnceInv pool)
    (hthread : pool.threads[i]? = some thread) (hrow : pool.shared.find thread.request.key = some row)
    (hother : row.request ≠ thread.request.request) {outcome : CheckinOutcome} (hout : thread.outcome = some outcome) :
    outcome = .error (.conflict 0 false) ∨ NotReserved outcome := by
  have howns := not_owns_of_other hinv hthread hrow hother
  have hbacked := hinv.backed i thread hthread
  obtain ⟨-, hends⟩ := hinv.follows i thread _ hthread (Thread.outcome_eq_some.mp hout)
  generalize thread.stage.progress = progress at howns hbacked hends
  cases progress with
  | initial =>
    cases hends
    exact .inr .notConfigured
  | refused err =>
    cases hends
    exact .inr (.lock err)
  | locked | unsure => exact hends.elim
  | owner | unresolved | resolved | attempted | settled => cases howns
  | found existing =>
    cases existing with
    | error err =>
      cases hends
      exact .inr (.reserve _)
    | ok row' =>
      obtain ⟨stored, hstored, hrequest⟩ := hbacked
      rw [hrow] at hstored
      cases hstored
      -- what was read back has the stored parameters, so it does not match
      have hkey : row'.idempotencyKey = thread.request.key :=
        (congrArg CheckinRequest.idempotencyKey hrequest).symm.trans (lookup_mem hrow).2
      refine .inl (hends (Bool.eq_false_iff.mpr fun hmatch => hother ?_))
      rw [hrequest]
      exact (MutationRow.isMatch_iff hkey).mp hmatch

theorem checkin_conflict {service : TeacherService} {req : CheckinRequest} {s : Mutations} (i : Nat)
    (hmutator : service.mutator = true) (hrow : s.find req.idempotencyKey = some row) (hother : row.request ≠ req)
    (hfree : ∀ lock ∈ s.locks, lock.1 ≠ lockKey hashtext req.sessionID req.studentID) (hsent : choice.sent = true)
    (hacknowledged : choice.acknowledged = true) :
    ∃ s', (service.checkin req).run (Mutations.handle hashtext i choice) s = some (s', .error (.conflict 0 false)) := by
  have hmatch : row.isMatch req = false :=
    Bool.eq_false_iff.mpr fun h => hother ((MutationRow.isMatch_iff (lookup_mem hrow).2).mp h)
  rw [TeacherService.checkin, hmutator, if_neg (by decide),
    run_perform _ (handle_lock_free hfree hsent hacknowledged)]
  show ∃ s', (service.checkinLocked req >>= _).run _ _ = _
  have hrow' : Mutations.find { s with locks := s.locks ++ [(lockKey hashtext req.sessionID req.studentID, i)] }
      req.idempotencyKey = some row := hrow
  rw [run_bind, TeacherService.checkinLocked, run_bind,
    run_reserve (handle_found hrow').1 ((handle_found hrow').2 hsent hacknowledged)]
  simp only [Option.bind_some, Except.map, Except.mapError, hmatch]
  exact ⟨_, rfl⟩

end Runs

/-- A write is of the parameters stored under the key, for the student that the first read of its call resolved. -/
def WritesStored (pool : CheckinPool) (entry : CheckinEntry) : Prop :=
  ∀ courseID sessionID studentID checkedIn, entry.effect = .toggleCheckin courseID sessionID studentID checkedIn →
    ∃ row current, pool.shared.find entry.request.key = some row ∧ row.request = entry.request.request ∧
      courseID = row.courseID ∧ sessionID = row.sessionID ∧ checkedIn = row.desiredCheckedIn ∧
      ReadBy pool.log entry.caller entry.request current ∧ studentID = current.upstreamStudentID

theorem WriteOf.stored {pool : CheckinPool} (hinv : OnceInv pool)
    (h : WriteOf pool entry) : Stored pool.shared entry.request := by
  obtain ⟨thread, hthread, hrequest, hwritten⟩ := h.caller
  rw [← hrequest]
  exact (hinv.backed _ thread hthread).stored (CheckinProgress.owns_of_written hwritten)

/-- **Check-ins over any interleaving.** `ToggleCheckin` is called at most once for a key, with what is stored under it;
the stored parameters and a settled row never change; a call that reuses a key with other parameters does not call it,
and returns the conflict if it gets to the comparison. -/
theorem checkins_once (hashtext : String → BitVec 32) (ops ops' : List CheckinOp) :
    ((checkins hashtext ops).log.filterMap toggledKey).Nodup ∧
    (∀ entry ∈ (checkins hashtext ops).log, WritesStored (checkins hashtext ops) entry) ∧
    (∀ key row, (checkins hashtext ops).shared.find key = some row →
      ∃ row', (checkins hashtext (ops ++ ops')).shared.find key = some row' ∧ row'.request = row.request ∧
        (row.status ≠ .reserved → row' = row)) ∧
    (∀ i thread row, (checkins hashtext ops).threads[i]? = some thread →
      (checkins hashtext ops).shared.find thread.request.key = some row → row.request ≠ thread.request.request →
      (∀ entry ∈ (checkins hashtext ops).log, entry.caller = i → toggledKey entry = none) ∧
      (∀ outcome, thread.outcome = some outcome → outcome = .error (.conflict 0 false) ∨ NotReserved outcome) ∧
      (thread.program = some (thread.request.service.checkin thread.request.request) →
        thread.request.service.mutator = true →
        (∀ lock ∈ (checkins hashtext ops).shared.locks,
          lock.1 ≠ lockKey hashtext thread.request.request.sessionID thread.request.request.studentID) →
        ∀ choice : Choice, choice.sent = true → choice.acknowledged = true →
          ∃ n, ((checkins hashtext (ops ++ List.replicate n (.step i choice))).threads[i]?).bind Thread.outcome =
            some (.error (.conflict 0 false)))) := by
  have hinv : OnceInv (checkins hashtext ops) := checkins_onceInv ops
  refine ⟨hinv.once, ?_, ?_, ?_⟩
  · intro entry hentry courseID sessionID studentID checkedIn heffect
    have hwrite := hinv.writes entry hentry (by simp [toggledKey, heffect])
    obtain ⟨row, hrow, hrequest⟩ := hwrite.stored hinv
    obtain ⟨current, hread, hwritten⟩ := hwrite.effect
    obtain ⟨rfl, rfl, rfl, rfl⟩ := CheckinCall.toggleCheckin.inj (heffect.symm.trans hwritten)
    rw [← hrequest]
    exact ⟨row, current, hrow, rfl, rfl, rfl, rfl, hread, rfl⟩
  · intro key row hrow
    obtain ⟨row', hrow', hkept⟩ := (checkins_retains ops ops').find hrow
    exact ⟨row', hrow', hkept.1, hkept.2⟩
  · intro i thread row hthread hrow hother
    refine ⟨no_write_of_other hinv hthread hrow hother, fun outcome => outcome_of_other hinv hthread hrow hother, ?_⟩
    intro hprogram hmutator hfree choice hsent hacknowledged
    obtain ⟨s', hrun⟩ := checkin_conflict i hmutator hrow hother hfree hsent hacknowledged
    obtain ⟨n, -, hout⟩ := exec_alone (M := checkinMachine hashtext) hthread hprogram hrun
    refine ⟨n, ?_⟩
    rw [checkins, final_append]
    exact hout

/-! ### Calls that reuse a key -/

/-- A check-in of a student; the state of the roster does not matter here. -/
def firstCheckin (desiredCheckedIn : Bool) : CheckinTask where
  service := { snapshotMode := false, host := "humanix", decodeSession := fun _ => none }
  request := { courseID := "course", sessionID := "session", studentID := "student"
               desiredCheckedIn := desiredCheckedIn, idempotencyKey := "key" }

def unreadable (sent : Bool) : Choice where
  sent := sent
  reads := ⟨.error (.other "unreachable"), .error (.other "unreachable"), .error (.other "unreachable")⟩
  write := .error "unreachable"
  refreshed := false

def crashedReuse : List CheckinOp :=
  [.start (firstCheckin true), .step 0 (unreadable true), .step 0 (unreadable true), .crash 0,
    .start (firstCheckin false)]

theorem checkins_once_crashedReuse :
    ∃ n, ((checkins (fun _ => 0) (crashedReuse ++ List.replicate n (.step 1 (unreadable true)))).threads[1]?).bind
      Thread.outcome = some (.error (.conflict 0 false)) := by
  obtain ⟨-, -, hanswered⟩ := (checkins_once (fun _ => 0) crashedReuse []).2.2.2 1
    ⟨firstCheckin false, ⟨.initial, false⟩, some ((firstCheckin false).service.checkin (firstCheckin false).request)⟩
    (.reserve (firstCheckin true).request) rfl (by decide +kernel) (by decide)
  exact hanswered rfl rfl (by decide +kernel) (unreadable true) rfl rfl

/-- The key is reserved for a check-in, and reused for an undo whose context is cancelled before it has its lock. -/
def cancelledReuse : List CheckinOp :=
  [.start (firstCheckin true), .step 0 (unreadable true), .step 0 (unreadable true),
    .start (firstCheckin false), .step 1 (unreadable false)]

theorem cancelledReuse_lockError :
    ¬ ∀ (hashtext : String → BitVec 32) (ops : List CheckinOp) (i : Nat) (thread : Thread checkinProtocol)
      (row : MutationRow) (outcome : CheckinOutcome), (checkins hashtext ops).threads[i]? = some thread →
      (checkins hashtext ops).shared.find thread.request.key = some row → row.request ≠ thread.request.request →
      thread.outcome = some outcome → outcome = .error (.conflict 0 false) := by
  intro h
  have hconflict := h (fun _ => 0) cancelledReuse 1
    ⟨firstCheckin false, ⟨.refused "context canceled", false⟩, some (.done (.error (.lock "context canceled")))⟩
    (.reserve (firstCheckin true).request) (.error (.lock "context canceled")) rfl (by decide +kernel) (by decide) rfl
  cases hconflict

end QrCommandCenter.Service
