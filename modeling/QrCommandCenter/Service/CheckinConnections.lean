import QrCommandCenter.Service.CheckinLock
import Mathlib.Data.Finset.Card

/-!
# The connections of the check-ins

The calls of live mode over one pool of database connections. The transaction of the lock keeps its connection until the
call ends; every other statement takes one for its duration, and blocks while none is free.

* `Connections`, `Connections.exec` : the calls, with those whose statement is under way;
* `ConnectionStep` : all that an operation does (`exec_step`);
* `ConnectionInv` : the invariant, `exec_connectionInv`;
* `Connections.progress` : fewer calls than connections are never stuck;
* `Crowded`, `crowded_deadlock` : calls that hold all the connections get stuck;
* `deadlockFree_iff` : the calls cannot deadlock exactly when fewer run at once than there are connections.
-/

namespace QrCommandCenter.Service
open Domain Table Program Transition

/-! ## Calls and connections -/

/-- The call takes a connection of the pool. In live mode the reads of the state go upstream, and the release uses the
connection it has. -/
def CheckinCall.usesConnection : CheckinCall → Bool
  | .acquireCheckinLock _ _ | .insertIdempotencyKey _ | .readIdempotencyKey _ | .confirmIdempotencyKey _ _
  | .markIdempotencyKeyPending _ _ | .markIdempotencyKeyFailed _ _ | .setDueNow _ => true
  | .readState _ _ _ | .toggleCheckin _ _ _ _ | .refreshNow _ _ | .releaseCheckinLock => false

structure Connections where
  pool : CheckinPool
  busy : Finset Nat := ∅

namespace Connections

/-- The calls that hold their lock, and with it a connection. -/
def held (st : Connections) : Finset Nat :=
  (Finset.range st.pool.threads.length).filter fun i => (st.pool.threads[i]?).any fun thread => thread.stage.held

def unfinished (st : Connections) : Finset Nat :=
  (Finset.range st.pool.threads.length).filter fun i => (st.pool.threads[i]?).any fun thread => thread.outcome.isNone

def inUse (st : Connections) : Nat := st.busy.card + st.held.card

end Connections

/-- A new call; a statement that gets its connection; the answer to a call, with what the environment chooses for it. -/
inductive ConnectionOp where
  | start (task : CheckinTask)
  | borrow (i : Nat)
  | answer (i : Nat) (choice : Choice)

def Choice.live (choice : Choice) : Choice := { choice with sent := true, acknowledged := true }

section
variable (hashtext : String → BitVec 32) (size limit : Nat) (st : Connections)

/-- An operation, if it is enabled: at most `limit` live calls at once, for distinct students, over `size` connections. -/
def Connections.exec :
    ConnectionOp → Option Connections
  | .start task =>
    if task.service.snapshotMode = false ∧ st.unfinished.card < limit ∧
        ∀ thread ∈ st.pool.threads, thread.request.request.studentID ≠ task.request.studentID then
      some { st with pool := ((checkinMachine hashtext).exec st.pool (.start task)).1 }
    else none
  | .borrow i =>
    match (st.pool.threads[i]?).bind Thread.next with
    | some e =>
      if e.usesConnection = true ∧ i ∉ st.busy ∧ st.inUse < size then some { st with busy := insert i st.busy } else none
    | none => none
  | .answer i choice =>
    match (st.pool.threads[i]?).bind Thread.next with
    | some e =>
      if e.usesConnection = true ∧ i ∉ st.busy then none
      else if (st.pool.shared.handle hashtext i choice.live e).isSome then
        some { pool := ((checkinMachine hashtext).exec st.pool (.step i choice.live)).1, busy := st.busy.erase i }
      else none
    | none => none

/-- The state after operations that are all enabled. -/
def Connections.run (ops : List ConnectionOp) :
    Option Connections :=
  ops.foldlM (Connections.exec hashtext size limit) st

end

def ConnectionOp.isStart : ConnectionOp → Bool
  | .start _ => true
  | .borrow _ | .answer _ _ => false

/-- From every state that is reached with an unfinished call, some step of a call is enabled. -/
def DeadlockFree (hashtext : String → BitVec 32) (size limit : Nat) : Prop :=
  ∀ ops st, Connections.run hashtext size limit { pool := { shared := {} } } ops = some st → st.unfinished.Nonempty →
    ∃ op, op.isStart = false ∧ (st.exec hashtext size limit op).isSome = true

variable {thread : Thread checkinProtocol}

section Steps
variable {hashtext : String → BitVec 32} {size limit : Nat} {st st' : Connections}

inductive ConnectionStep (hashtext : String → BitVec 32) (size limit : Nat) (st : Connections) :
    ConnectionOp → Connections → Prop where
  | started (task : CheckinTask) (hmode : task.service.snapshotMode = false) (hlimit : st.unfinished.card < limit) :
      ConnectionStep hashtext size limit st (.start task)
        { st with pool := { st.pool with
            threads := st.pool.threads ++ [⟨task, checkinProtocol.initial, some (task.service.checkin task.request)⟩] } }
  | borrowed {i : Nat} {thread : Thread checkinProtocol} {e : CheckinCall} (hthread : st.pool.threads[i]? = some thread)
      (hnext : thread.next = some e) (huses : e.usesConnection = true) (hidle : i ∉ st.busy) (hfree : st.inUse < size) :
      ConnectionStep hashtext size limit st (.borrow i) { st with busy := insert i st.busy }
  | answered {i : Nat} {choice : Choice} {task : CheckinTask} {stage : CheckinStage} {e : CheckinCall}
      {k : e.Answer → Checkin CheckinOutcome} {s' : Mutations} {r : e.Answer}
      (hthread : st.pool.threads[i]? = some ⟨task, stage, some (.call e k)⟩)
      (hbusy : e.usesConnection = true → i ∈ st.busy)
      (hhandle : st.pool.shared.handle hashtext i choice.live e = some (s', r)) :
      ConnectionStep hashtext size limit st (.answer i choice)
        { pool :=
            { shared := s'
              threads := st.pool.threads.set i ⟨task, checkinNext task stage e r, some (k r)⟩
              log := st.pool.log ++ [⟨i, task, e, r⟩] }
          busy := st.busy.erase i }

theorem Thread.next_eq_some {e : CheckinCall} (h : thread.next = some e) : ∃ k, thread.program = some (.call e k) := by
  obtain ⟨task, stage, program⟩ := thread
  cases program with
  | none => cases h
  | some p =>
    cases p with
    | done outcome => cases h
    | call e' k =>
      cases h
      exact ⟨k, rfl⟩

theorem exec_step {op : ConnectionOp} (h : st.exec hashtext size limit op = some st') :
    ConnectionStep hashtext size limit st op st' := by
  cases op with
  | start task =>
    simp only [Connections.exec] at h
    split at h
    · rename_i hguard
      cases h
      exact .started task hguard.1 hguard.2.1
    · cases h
  | borrow i =>
    simp only [Connections.exec] at h
    split at h
    · rename_i e hnext
      obtain ⟨thread, hthread, hnext⟩ := Option.bind_eq_some_iff.mp hnext
      split at h
      · rename_i hguard
        cases h
        exact .borrowed hthread hnext hguard.1 hguard.2.1 hguard.2.2
      · cases h
    · cases h
  | answer i choice =>
    simp only [Connections.exec] at h
    split at h
    · rename_i e hnext
      obtain ⟨⟨task, stage, program⟩, hthread, hnext⟩ := Option.bind_eq_some_iff.mp hnext
      obtain ⟨k, hprogram⟩ := Thread.next_eq_some hnext
      cases hprogram
      split at h
      · cases h
      · rename_i hbusy
        split at h
        · rename_i hsome
          obtain ⟨⟨s', r⟩, hhandle⟩ := Option.isSome_iff_exists.mp hsome
          cases h
          rw [exec_called hthread hhandle]
          exact .answered hthread (fun huses => by_contra fun hidle => hbusy ⟨huses, hidle⟩) hhandle
        · cases h
    · cases h

end Steps

/-! ## The invariant -/

section Inv
variable {hashtext : String → BitVec 32} {size limit : Nat} {st st' : Connections}
variable {i : Nat} {e : CheckinCall} {choice : Choice} {s : Mutations} {op : ConnectionOp}

variable {threads : List (Thread checkinProtocol)} {task : CheckinTask} {stage : CheckinStage} {s' : Mutations}

theorem mem_indices {test : Thread checkinProtocol → Bool} :
    i ∈ (Finset.range threads.length).filter (fun i => (threads[i]?).any test) ↔
      ∃ thread, threads[i]? = some thread ∧ test thread = true := by
  rw [Finset.mem_filter, Finset.mem_range]
  constructor
  · rintro ⟨hlt, htest⟩
    rw [List.getElem?_eq_getElem hlt, Option.any_some] at htest
    exact ⟨_, List.getElem?_eq_getElem hlt, htest⟩
  · rintro ⟨thread, hthread, htest⟩
    refine ⟨(List.getElem?_eq_some_iff.mp hthread).1, ?_⟩
    rw [hthread]
    exact htest

theorem mem_held :
    i ∈ st.held ↔ ∃ thread, st.pool.threads[i]? = some thread ∧ thread.stage.held = true := mem_indices

theorem mem_unfinished :
    i ∈ st.unfinished ↔ ∃ thread, st.pool.threads[i]? = some thread ∧ thread.outcome = none := by
  rw [Connections.unfinished, mem_indices]
  simp only [Option.isNone_iff_eq_none]

/-- What holds of the calls at every moment. -/
structure ConnectionInv (limit : Nat) (st : Connections) : Prop where
  follows : st.pool.Follows
  alive : ∀ (i : Nat) (thread : Thread checkinProtocol), st.pool.threads[i]? = some thread → ∃ p, thread.program = some p
  owners : ∀ lock ∈ st.pool.shared.locks, lock.2 ∈ st.held
  busy : ∀ i ∈ st.busy, ∃ thread e, st.pool.threads[i]? = some thread ∧ thread.next = some e ∧ e.usesConnection = true
  limit : st.unfinished.card ≤ limit

theorem connectionInv_initial : ConnectionInv limit { pool := { shared := {} } } where
  follows := fun _ _ _ h => by cases h
  alive := fun _ _ h => by cases h
  owners := fun _ h => by cases h
  busy := fun _ h => absurd h (Finset.notMem_empty _)
  limit := Nat.zero_le _

theorem held_kept (hallowed : CheckinAllowed task stage e)
    (hheld : stage.held = true) (he : e ≠ .releaseCheckinLock) (r : e.Answer) :
    (checkinNext task stage e r).held = true := by
  cases hallowed with
  | lock => cases hheld
  | insert => cases r <;> rfl
  | firstRead =>
    simp only [checkinNext]
    split <;> rfl
  | releaseFound | releaseStale | releaseSettled => exact absurd rfl he
  | _ => rfl

theorem handle_lock_live {sessionID studentID : String} {r : Except String Unit}
    (h : s.handle hashtext i choice.live (.acquireCheckinLock sessionID studentID) = some (s', r)) : r = .ok () := by
  simp only [Mutations.handle] at h
  split at h
  · rename_i hrefused
    cases hrefused
  · split at h
    · cases h
    · exact (Prod.mk.inj (Option.some.inj h)).2.symm

theorem handle_isSome (he : ∀ sessionID studentID, e ≠ .acquireCheckinLock sessionID studentID) :
    (s.handle hashtext i choice e).isSome = true := by
  cases e with
  | acquireCheckinLock sessionID studentID => exact absurd rfl (he sessionID studentID)
  | insertIdempotencyKey req =>
    simp only [Mutations.handle]
    split <;> rfl
  | readIdempotencyKey key =>
    simp only [Mutations.handle]
    split
    · split <;> rfl
    · rfl
  | _ => rfl

theorem step_follows (h : ConnectionStep hashtext size limit st op st') (hfollows : st.pool.Follows) :
    st'.pool.Follows := by
  cases h with
  | started task => exact exec_follows (M := checkinMachine hashtext) checkin_follows st.pool (.start task) hfollows
  | borrowed => exact hfollows
  | @answered i choice task stage e k s' r hthread _ hhandle =>
    have hnext := exec_follows (M := checkinMachine hashtext) checkin_follows st.pool (.step i choice.live) hfollows
    rw [exec_called hthread hhandle] at hnext
    exact hnext

theorem answered_owners {k : e.Answer → Checkin CheckinOutcome} {r : e.Answer}
    (hthread : threads[i]? = some ⟨task, stage, some (.call e k)⟩) (hallowed : CheckinAllowed task stage e)
    (hhandle : s.handle hashtext i choice.live e = some (s', r))
    (howners : ∀ lock ∈ s.locks, ∃ thread, threads[lock.2]? = some thread ∧ thread.stage.held = true) :
    ∀ lock ∈ s'.locks, ∃ thread, (threads.set i ⟨task, checkinNext task stage e r, some (k r)⟩)[lock.2]? = some thread ∧
        thread.stage.held = true := by
  -- an owner other than the caller has not moved
  have hother : ∀ lock ∈ s.locks, lock.2 ≠ i → ∃ thread,
      (threads.set i ⟨task, checkinNext task stage e r, some (k r)⟩)[lock.2]? = some thread ∧
        thread.stage.held = true := by
    intro lock hlock hne
    obtain ⟨thread, howner, hheld⟩ := howners lock hlock
    exact ⟨thread, getElem?_set_kept hne howner, hheld⟩
  intro lock hlock
  by_cases hi : lock.2 = i
  · refine ⟨_, by rw [hi]; exact getElem?_set_same hthread, ?_⟩
    show (checkinNext task stage e r).held = true
    rcases handle_locks hhandle with ⟨sessionID, studentID, rfl, -, -⟩ | ⟨rfl, rfl⟩ | ⟨hne, hlocks⟩
    · rw [handle_lock_live hhandle]
      rfl
    · -- the caller has none left
      have hkept := (mem_deleteWhere.mp hlock).2
      simp [hi] at hkept
    · rw [hlocks] at hlock
      obtain ⟨thread, howner, hheld⟩ := howners lock hlock
      rw [hi, hthread] at howner
      cases howner
      exact held_kept hallowed hheld hne r
  · rcases handle_locks hhandle with ⟨sessionID, studentID, rfl, -, hlocks⟩ | ⟨rfl, rfl⟩ | ⟨-, hlocks⟩
    · rw [hlocks] at hlock
      rcases List.mem_append.mp hlock with hold | hnew
      · exact hother lock hold hi
      · rw [List.mem_singleton.mp hnew] at hi
        exact absurd rfl hi
    · exact hother lock (mem_deleteWhere.mp hlock).1 hi
    · rw [hlocks] at hlock
      exact hother lock hlock hi

/-- **Every operation keeps the invariant.** -/
theorem exec_connectionInv (hinv : ConnectionInv limit st) (h : st.exec hashtext size limit op = some st') :
    ConnectionInv limit st' := by
  have hstep := exec_step h
  have hfollows := step_follows hstep hinv.follows
  cases hstep with
  | started task _ hlimit =>
    refine ⟨hfollows, fun i thread hthread => ?_, fun lock hlock => ?_, fun i hi => ?_, ?_⟩
    · rcases getElem?_append_cases hthread with ⟨-, rfl⟩ | hthread
      · exact ⟨_, rfl⟩
      · exact hinv.alive i thread hthread
    · obtain ⟨thread, hthread, hheld⟩ := mem_held.mp (hinv.owners lock hlock)
      exact mem_held.mpr ⟨thread, getElem?_append_kept hthread _, hheld⟩
    · obtain ⟨thread, e, hthread, hnext⟩ := hinv.busy i hi
      exact ⟨thread, e, getElem?_append_kept hthread _, hnext⟩
    · -- the new call is one more
      refine (Finset.card_le_card (t := insert st.pool.threads.length st.unfinished) fun i hi => ?_).trans
        ((Finset.card_insert_le _ _).trans hlimit)
      obtain ⟨thread, hthread, houtcome⟩ := mem_unfinished.mp hi
      rcases getElem?_append_cases hthread with ⟨rfl, -⟩ | hthread
      · exact Finset.mem_insert_self _ _
      · exact Finset.mem_insert_of_mem (mem_unfinished.mpr ⟨thread, hthread, houtcome⟩)
  | borrowed hthread hnext huses =>
    refine ⟨hfollows, hinv.alive, hinv.owners, fun j hj => ?_, hinv.limit⟩
    rcases Finset.mem_insert.mp hj with rfl | hj
    · exact ⟨_, _, hthread, hnext, huses⟩
    · exact hinv.busy j hj
  | @answered i choice task stage e k s' r hthread _ hhandle =>
    refine ⟨hfollows, fun j thread hj => ?_, fun lock hlock => ?_, fun j hj => ?_, ?_⟩
    · rcases getElem?_set_cases hj with ⟨-, rfl⟩ | ⟨-, hold⟩
      · exact ⟨_, rfl⟩
      · exact hinv.alive j thread hold
    · exact mem_held.mpr (answered_owners hthread (hinv.follows i _ _ hthread rfl).1 hhandle
        (fun lock hlock => mem_held.mp (hinv.owners lock hlock)) lock hlock)
    · obtain ⟨hne, hj⟩ := Finset.mem_erase.mp hj
      obtain ⟨thread, e', hold, hnext⟩ := hinv.busy j hj
      exact ⟨thread, e', getElem?_set_kept hne hold, hnext⟩
    · refine (Finset.card_le_card fun j hj => ?_).trans hinv.limit
      obtain ⟨thread, hj, houtcome⟩ := mem_unfinished.mp hj
      rcases getElem?_set_cases hj with ⟨rfl, -⟩ | ⟨-, hold⟩
      · exact mem_unfinished.mpr ⟨_, hthread, rfl⟩
      · exact mem_unfinished.mpr ⟨thread, hold, houtcome⟩

theorem run_connectionInv (hinv : ConnectionInv limit st) {ops : List ConnectionOp}
    (h : st.run hashtext size limit ops = some st') : ConnectionInv limit st' := by
  induction ops generalizing st with
  | nil =>
    cases h
    exact hinv
  | cons op ops ih =>
    obtain ⟨st₁, hfirst, hrest⟩ := Option.bind_eq_some_iff.mp h
    exact ih (exec_connectionInv hinv hfirst) hrest

/-! ## Progress -/

/-- A read that finds nothing, a write that is accepted and a refresh that succeeds. -/
def plainChoice : Choice where
  reads := ⟨.error .snapshotNotFound, .ok none, .ok []⟩
  write := .ok ()
  refreshed := true

section
variable (hinv : ConnectionInv limit st)
include hinv

theorem ConnectionInv.next (hi : i ∈ st.unfinished) :
    ∃ thread e, st.pool.threads[i]? = some thread ∧ thread.next = some e := by
  obtain ⟨thread, hthread, houtcome⟩ := mem_unfinished.mp hi
  obtain ⟨p, hp⟩ := hinv.alive i thread hthread
  cases p with
  | done outcome =>
    rw [Thread.outcome_eq_some.mpr hp] at houtcome
    cases houtcome
  | call e k => exact ⟨thread, e, hthread, by rw [Thread.next, hp]; rfl⟩

theorem ConnectionInv.held_unfinished (hi : i ∈ st.held) :
    i ∈ st.unfinished := by
  obtain ⟨thread, hthread, hheld⟩ := mem_held.mp hi
  refine mem_unfinished.mpr ⟨thread, hthread, ?_⟩
  by_contra houtcome
  obtain ⟨outcome, houtcome⟩ := Option.ne_none_iff_exists'.mp houtcome
  have hends := hinv.follows i thread _ hthread (Thread.outcome_eq_some.mp houtcome)
  rw [hends.1] at hheld
  cases hheld

theorem ConnectionInv.busy_unfinished (hi : i ∈ st.busy) :
    i ∈ st.unfinished := by
  obtain ⟨thread, e, hthread, hnext, -⟩ := hinv.busy i hi
  obtain ⟨k, hprogram⟩ := Thread.next_eq_some hnext
  refine mem_unfinished.mpr ⟨thread, hthread, ?_⟩
  rw [Thread.outcome, hprogram]
  rfl

end

section
variable {thread : Thread checkinProtocol} (hthread : st.pool.threads[i]? = some thread) (hnext : thread.next = some e)
include hthread hnext

theorem exec_borrow_isSome (huses : e.usesConnection = true) (hidle : i ∉ st.busy) (hfree : st.inUse < size) :
    (st.exec hashtext size limit (.borrow i)).isSome = true := by
  have hcall : (st.pool.threads[i]?).bind Thread.next = some e := by
    rw [hthread]
    exact hnext
  simp only [Connections.exec, hcall]
  rw [if_pos ⟨huses, hidle, hfree⟩]
  rfl

theorem exec_answer_isSome (hbusy : e.usesConnection = true → i ∈ st.busy)
    (hhandle : (st.pool.shared.handle hashtext i plainChoice.live e).isSome = true) :
    (st.exec hashtext size limit (.answer i plainChoice)).isSome = true := by
  have hcall : (st.pool.threads[i]?).bind Thread.next = some e := by
    rw [hthread]
    exact hnext
  simp only [Connections.exec, hcall]
  rw [if_neg (fun h => h.2 (hbusy h.1)), if_pos hhandle]
  rfl

end

def Connections.Stuck (hashtext : String → BitVec 32) (size limit : Nat) (st : Connections) : Prop :=
  ∀ op, op.isStart = false → (st.exec hashtext size limit op).isSome = false

theorem stuck_waiting (hinv : ConnectionInv limit st) (hstuck : st.Stuck hashtext size limit)
    (hthread : st.pool.threads[i]? = some thread) (hnext : thread.next = some e)
    (hbusy : e.usesConnection = true → i ∈ st.busy) :
    thread.stage.held = false ∧ ∃ lock, lock ∈ st.pool.shared.locks := by
  have hblocked : (st.pool.shared.handle hashtext i plainChoice.live e).isSome = false := by
    rw [← Bool.not_eq_true]
    intro hhandle
    have hnone := hstuck (.answer i plainChoice) rfl
    rw [exec_answer_isSome hthread hnext hbusy hhandle] at hnone
    cases hnone
  obtain ⟨k, hprogram⟩ := Thread.next_eq_some hnext
  have hallowed : CheckinAllowed thread.request thread.stage e := (hinv.follows i thread _ hthread hprogram).1
  cases e with
  | acquireCheckinLock sessionID studentID =>
    simp only [Mutations.handle] at hblocked
    split at hblocked
    · cases hblocked
    · split at hblocked
      · rename_i hheld
        obtain ⟨lock, hlock, -⟩ := List.any_eq_true.mp hheld
        generalize hstage : thread.stage = stage at hallowed ⊢
        cases hallowed
        exact ⟨rfl, lock, hlock⟩
      · cases hblocked
  | _ =>
    rw [handle_isSome (by intro _ _ h; cases h)] at hblocked
    cases hblocked

/-- **Fewer calls than connections are never stuck.** -/
theorem Connections.progress (hinv : ConnectionInv limit st) (hfew : limit < size) (hcalls : st.unfinished.Nonempty) :
    ¬ st.Stuck hashtext size limit := by
  intro hstuck
  -- a statement that is under way waits for its lock
  have hbusy : ∀ i ∈ st.busy, i ∉ st.held := by
    intro i hi hheld
    obtain ⟨thread, e, hthread, hnext, -⟩ := hinv.busy i hi
    obtain ⟨thread', hthread', hheld⟩ := mem_held.mp hheld
    cases hthread.symm.trans hthread'
    rw [(stuck_waiting hinv hstuck hthread hnext fun _ => hi).1] at hheld
    cases hheld
  have hinUse : st.inUse ≤ limit := by
    have hdisjoint : Disjoint st.busy st.held := Finset.disjoint_left.mpr hbusy
    rw [Connections.inUse, ← Finset.card_union_of_disjoint hdisjoint]
    refine (Finset.card_le_card fun i hi => ?_).trans hinv.limit
    rcases Finset.mem_union.mp hi with hi | hi
    · exact hinv.busy_unfinished hi
    · exact hinv.held_unfinished hi
  -- so a connection is free, and no call waits for one
  have hall : ∀ i ∈ st.unfinished, ∃ thread e, st.pool.threads[i]? = some thread ∧ thread.next = some e ∧
      (e.usesConnection = true → i ∈ st.busy) := by
    intro i hi
    obtain ⟨thread, e, hthread, hnext⟩ := hinv.next hi
    refine ⟨thread, e, hthread, hnext, fun huses => ?_⟩
    by_contra hidle
    have hnone := hstuck (.borrow i) rfl
    rw [exec_borrow_isSome hthread hnext huses hidle (Nat.lt_of_le_of_lt hinUse hfew)] at hnone
    cases hnone
  obtain ⟨i, hi⟩ := hcalls
  obtain ⟨thread, e, hthread, hnext, hready⟩ := hall i hi
  obtain ⟨-, lock, hlock⟩ := stuck_waiting hinv hstuck hthread hnext hready
  -- the owner of the lock holds it, and waits for no lock
  have howner := hinv.owners lock hlock
  obtain ⟨owner, e', howner', hnext', hready'⟩ := hall lock.2 (hinv.held_unfinished howner)
  obtain ⟨owner', hsame, hheld⟩ := mem_held.mp howner
  cases howner'.symm.trans hsame
  rw [(stuck_waiting hinv hstuck howner' hnext' hready').1] at hheld
  cases hheld

/-! ## Deadlocks -/

structure AtLock (thread : Thread checkinProtocol) : Prop where
  stage : thread.stage = ⟨.initial, false⟩
  program : ∃ sessionID studentID k k', thread.program = some (.call (.acquireCheckinLock sessionID studentID) k) ∧
    k (.ok ()) = .call (.insertIdempotencyKey thread.request.request) k'

structure AtInsert (thread : Thread checkinProtocol) : Prop where
  held : thread.stage.held = true
  next : thread.next = some (.insertIdempotencyKey thread.request.request)

/-- Every call is about to take its lock or to reserve its key, and no connection is free for the latter. -/
structure Crowded (size : Nat) (st : Connections) : Prop where
  calls : ∀ (i : Nat) (thread : Thread checkinProtocol), st.pool.threads[i]? = some thread →
    AtLock thread ∨ AtInsert thread ∧ i ∉ st.busy
  full : st.inUse = size
  nonempty : st.pool.threads ≠ []

theorem held_granted {thread' : Thread checkinProtocol} (hthread : st.pool.threads[i]? = some thread)
    (hgranted : thread'.stage.held = true)
    (hthreads : st'.pool.threads = st.pool.threads.set i thread') : st'.held = insert i st.held := by
  ext j
  rw [mem_held, hthreads, Finset.mem_insert, mem_held]
  constructor
  · rintro ⟨other, hj, hheld⟩
    rcases getElem?_set_cases hj with ⟨rfl, -⟩ | ⟨-, hold⟩
    · exact .inl rfl
    · exact .inr ⟨other, hold, hheld⟩
  · rintro (rfl | ⟨other, hj, hheld⟩)
    · exact ⟨_, getElem?_set_same hthread, hgranted⟩
    · exact exists_getElem?_set (P := fun _ thread => thread.stage.held = true) hthread hgranted hheld hj

theorem crowded_step (hcrowded : Crowded size st) (hop : op.isStart = false)
    (h : st.exec hashtext size limit op = some st') : Crowded size st' ∧ st'.busy.card < st.busy.card := by
  cases exec_step h with
  | started => cases hop
  | borrowed _ _ _ _ hfree =>
    rw [hcrowded.full] at hfree
    exact absurd hfree (Nat.lt_irrefl size)
  | @answered i choice task stage e k s' r hthread hbusy hhandle =>
    rcases hcrowded.calls i _ hthread with hlock | ⟨hinsert, hidle⟩
    · obtain ⟨hstage, sessionID, studentID, k₀, k', hprogram, hk'⟩ := hlock
      cases hprogram
      cases hstage
      cases handle_lock_live hhandle
      have hi : i ∈ st.busy := hbusy rfl
      have hlt := (List.getElem?_eq_some_iff.mp hthread).1
      have hnotHeld : i ∉ st.held := by
        intro hheld
        obtain ⟨thread, hj, hheld⟩ := mem_held.mp hheld
        cases hthread.symm.trans hj
        cases hheld
      have hcard := Finset.card_erase_add_one hi
      refine ⟨⟨fun j thread hj => ?_, ?_, ?_⟩, Nat.lt_of_succ_le (Nat.le_of_eq hcard)⟩
      · rcases getElem?_set_cases hj with ⟨rfl, rfl⟩ | ⟨hij, hold⟩
        · refine .inr ⟨⟨rfl, ?_⟩, Finset.notMem_erase _ _⟩
          rw [Thread.next, hk']
          rfl
        · rcases hcrowded.calls j thread hold with hlock | ⟨hinsert, hidle⟩
          · exact .inl hlock
          · exact .inr ⟨hinsert, fun hj => hidle (Finset.mem_of_mem_erase hj)⟩
      · have hfull := hcrowded.full
        rw [Connections.inUse] at hfull ⊢
        -- the connection of the statement becomes that of the lock
        rw [held_granted hthread rfl rfl, Finset.card_insert_of_notMem hnotHeld]
        show (st.busy.erase i).card + _ = size
        omega
      · intro hnil
        have hlength := congrArg List.length hnil
        rw [List.length_set, List.length_nil] at hlength
        omega
    · have hnext : some e = some (.insertIdempotencyKey task.request) := hinsert.next
      obtain rfl := Option.some.inj hnext
      exact absurd (hbusy rfl) hidle

theorem crowded_stuck (hashtext : String → BitVec 32) (limit : Nat) (hcrowded : Crowded size st) :
    ∃ ops st', st.run hashtext size limit ops = some st' ∧ Crowded size st' ∧ st'.Stuck hashtext size limit := by
  -- every step of the crowd ends one of the statements that are under way
  induction hn : st.busy.card using Nat.strong_induction_on generalizing st with
  | _ n ih =>
    by_cases hstuck : st.Stuck hashtext size limit
    · exact ⟨[], st, rfl, hcrowded, hstuck⟩
    · simp only [Connections.Stuck, not_forall, Bool.not_eq_false] at hstuck
      obtain ⟨op, hop, hsome⟩ := hstuck
      obtain ⟨st₁, hexec⟩ := Option.isSome_iff_exists.mp hsome
      obtain ⟨hcrowded₁, hless⟩ := crowded_step hcrowded hop hexec
      obtain ⟨ops, st', hrun, hend⟩ := ih st₁.busy.card (hn ▸ hless) hcrowded₁ rfl
      refine ⟨op :: ops, st', ?_, hend⟩
      rw [Connections.run, List.foldlM_cons, hexec]
      exact hrun

theorem Crowded.unfinished (hcrowded : Crowded size st) : st.unfinished.Nonempty := by
  obtain ⟨thread, threads, hthreads⟩ := List.exists_cons_of_ne_nil hcrowded.nonempty
  have hfirst : st.pool.threads[0]? = some thread := by rw [hthreads]; rfl
  refine ⟨0, mem_unfinished.mpr ⟨thread, hfirst, ?_⟩⟩
  rcases hcrowded.calls 0 thread hfirst with hlock | ⟨hinsert, -⟩
  · obtain ⟨_, _, k, -, hprogram, -⟩ := hlock.program
    rw [Thread.outcome, hprogram]
    rfl
  · obtain ⟨k, hprogram⟩ := Thread.next_eq_some hinsert.next
    rw [Thread.outcome, hprogram]
    rfl

end Inv

/-! ### A crowd -/

/-- Calls of live mode for distinct students. -/
def crowdTask (i : Nat) : CheckinTask where
  service := { snapshotMode := false, host := "humanix", decodeSession := fun _ => none }
  request :=
    { courseID := "course", sessionID := "session", studentID := String.ofList (List.replicate i 'a')
      desiredCheckedIn := true, idempotencyKey := String.ofList (List.replicate i 'k') }

def crowdThread (i : Nat) : Thread checkinProtocol :=
  ⟨crowdTask i, checkinProtocol.initial, some ((crowdTask i).service.checkin (crowdTask i).request)⟩

/-- The first `busy` of these calls have got a connection for the transaction of their lock. -/
def crowd (calls busy : Nat) : Connections where
  pool := { shared := {}, threads := (List.range calls).map crowdThread }
  busy := Finset.range busy

section Crowd
variable {hashtext : String → BitVec 32} {size limit calls busy : Nat} {i : Nat}

theorem crowd_thread (hi : i < calls) : (crowd calls busy).pool.threads[i]? = some (crowdThread i) := by
  simp [crowd, hi]

theorem crowd_threads (h : (crowd calls busy).pool.threads[i]? = some thread) : thread = crowdThread i := by
  have hlt : i < calls := by simpa [crowd] using (List.getElem?_eq_some_iff.mp h).1
  exact Option.some.inj (h.symm.trans (crowd_thread hlt))

theorem crowd_held : (crowd calls busy).held = ∅ := by
  refine Finset.eq_empty_of_forall_notMem fun i hi => ?_
  obtain ⟨thread, hthread, hheld⟩ := mem_held.mp hi
  rw [crowd_threads hthread] at hheld
  cases hheld

theorem crowd_inUse : (crowd calls busy).inUse = busy := by
  rw [Connections.inUse, crowd_held, Finset.card_empty, Nat.add_zero]
  exact Finset.card_range busy

theorem exec_crowd_start (hlimit : calls < limit) :
    (crowd calls 0).exec hashtext size limit (.start (crowdTask calls)) = some (crowd (calls + 1) 0) := by
  have hcard : (crowd calls 0).unfinished.card ≤ calls := by
    refine (Finset.card_filter_le _ _).trans (Nat.le_of_eq ?_)
    simp [crowd]
  have hdistinct : ∀ thread ∈ (crowd calls 0).pool.threads,
      thread.request.request.studentID ≠ (crowdTask calls).request.studentID := by
    intro thread hthread hsame
    obtain ⟨i, hi, rfl⟩ := List.mem_map.mp hthread
    have hlength := congrArg (fun id => id.toList.length) hsame
    simp only [crowdThread, crowdTask, String.toList_ofList, List.length_replicate] at hlength
    exact absurd (List.mem_range.mp hi) (by omega)
  simp only [Connections.exec]
  rw [if_pos ⟨rfl, Nat.lt_of_le_of_lt hcard hlimit, hdistinct⟩]
  simp [crowd, List.range_succ, crowdThread, Machine.exec, checkinMachine]

theorem exec_crowd_borrow (hsize : busy < size) (hcalls : busy < calls) :
    (crowd calls busy).exec hashtext size limit (.borrow busy) = some (crowd calls (busy + 1)) := by
  have hnext : ((crowd calls busy).pool.threads[busy]?).bind Thread.next =
      some (.acquireCheckinLock (crowdTask busy).request.sessionID (crowdTask busy).request.studentID) := by
    rw [crowd_thread hcalls]
    rfl
  simp only [Connections.exec, hnext]
  rw [if_pos ⟨rfl, by simp [crowd], by rw [crowd_inUse]; exact hsize⟩]
  simp [crowd, Finset.range_add_one]

theorem run_append {st st' : Connections} {ops ops' : List ConnectionOp}
    (h : st.run hashtext size limit ops = some st') :
    st.run hashtext size limit (ops ++ ops') = st'.run hashtext size limit ops' := by
  rw [Connections.run, List.foldlM_append]
  show Option.bind (st.run hashtext size limit ops) _ = _
  rw [h]
  rfl

theorem run_crowd_start (hlimit : calls ≤ limit) :
    ∃ ops, Connections.run hashtext size limit { pool := { shared := {} } } ops = some (crowd calls 0) := by
  induction calls with
  | zero => exact ⟨[], rfl⟩
  | succ calls ih =>
    obtain ⟨ops, hops⟩ := ih (Nat.le_of_succ_le hlimit)
    refine ⟨ops ++ [.start (crowdTask calls)], ?_⟩
    rw [run_append hops, Connections.run, List.foldlM_cons, exec_crowd_start hlimit]
    rfl

theorem run_crowd (hlimit : calls ≤ limit) (hsize : busy ≤ size) (hcalls : busy ≤ calls) :
    ∃ ops, Connections.run hashtext size limit { pool := { shared := {} } } ops = some (crowd calls busy) := by
  induction busy with
  | zero => exact run_crowd_start hlimit
  | succ busy ih =>
    obtain ⟨ops, hops⟩ := ih (Nat.le_of_succ_le hsize) (Nat.le_of_succ_le hcalls)
    refine ⟨ops ++ [.borrow busy], ?_⟩
    rw [run_append hops, Connections.run, List.foldlM_cons, exec_crowd_borrow hsize hcalls]
    rfl

theorem crowd_crowded (hcalls : 0 < calls) : Crowded size (crowd calls size) := by
  refine ⟨fun i thread hthread => ?_, crowd_inUse, fun hnil => ?_⟩
  · rw [crowd_threads hthread]
    exact .inl ⟨rfl, _, _, _, _, rfl, rfl⟩
  · have hfirst := @crowd_thread calls size 0 hcalls
    rw [hnil] at hfirst
    cases hfirst

theorem not_deadlockFree (hashtext : String → BitVec 32) (hlimit : 0 < limit) (hsize : size ≤ limit) :
    ¬ DeadlockFree hashtext size limit := by
  intro hfree
  obtain ⟨ops, hops⟩ := @run_crowd hashtext size limit limit size le_rfl le_rfl hsize
  obtain ⟨ops', st', hrun, hcrowded, hstuck⟩ := crowded_stuck hashtext limit (crowd_crowded hlimit)
  obtain ⟨op, hop, hsome⟩ := hfree (ops ++ ops') st' ((run_append hops).trans hrun) hcrowded.unfinished
  rw [hstuck op hop] at hsome
  cases hsome

end Crowd

/-- **The calls cannot deadlock exactly when fewer run at once than there are connections.** -/
theorem deadlockFree_iff (hashtext : String → BitVec 32) (size limit : Nat) :
    DeadlockFree hashtext size limit ↔ limit < size ∨ limit = 0 := by
  constructor
  · intro hfree
    by_contra hmany
    rw [not_or, Nat.not_lt] at hmany
    exact not_deadlockFree hashtext (Nat.pos_of_ne_zero hmany.2) hmany.1 hfree
  · intro hfew ops st hrun hcalls
    have hinv : ConnectionInv limit st := run_connectionInv connectionInv_initial hrun
    have hlimit : limit < size := by
      rcases hfew with hfew | rfl
      · exact hfew
      · exact absurd hinv.limit (Nat.not_le.mpr (Finset.card_pos.mpr hcalls))
    have hprogress : ¬ st.Stuck hashtext size limit := Connections.progress hinv hlimit hcalls
    simp only [Connections.Stuck, not_forall, Bool.not_eq_false] at hprogress
    obtain ⟨op, hop, hsome⟩ := hprogress
    exact ⟨op, hop, hsome⟩

theorem two_connections_deadlock :
    ¬ ∀ (hashtext : String → BitVec 32) (size limit : Nat), 2 ≤ size → DeadlockFree hashtext size limit := by
  intro h
  -- the two students have locks of their own
  let hashtext : String → BitVec 32 := fun id => BitVec.ofNat 32 id.length
  exact not_deadlockFree hashtext (by decide) (by decide) (h hashtext 2 2 le_rfl)

end QrCommandCenter.Service
