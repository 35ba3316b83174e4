import QrCommandCenter.Service.Checkpoint

/-!
# Outbox sequences, commits and the shared checkpoint

A commit takes the sequence of its outbox event when it inserts the row, and the row becomes visible when the
transaction commits, so a listener can read a sequence while a lower one is still in flight. The checkpoint that a
listener then stores is durable and shared by all processes of the consumer, while what a process has observed is in its
own memory.

* `Publication`, `Phase`, `Process`, `Relay`, `Relay.exec` : transactions in flight, the outbox, and any number of
  listener processes, one database call per step;
* `commit_outbox`, `query_write_eq` : an uninterrupted commit and catch-up are those of the store and the listener;
* `Resumable` : no process resumes behind an event it has not observed;
* `Orderly` : one process, no transaction in flight below what it reads, and no more targets than one batch;
* `resumable_of_orderly` : orderly runs are resumable.
-/

namespace QrCommandCenter.Service
open Domain Table Transition

variable {starting : Bool} {e draft : CommitEvent} {i : Nat}

/-! ## The machine -/

/-- What a commit publishes: its outbox event, and the metadata of its notification. -/
structure Publication where
  event : CommitEvent
  metadata : SnapshotMetadata
deriving DecidableEq, Repr

/-- Where a process is between two database calls; `starting` tells `catchUp` from `catchUpFromCheckpoint`. -/
inductive Phase where
  | down
  | connected
  | reconciling
  | waiting
  | notified
  | querying (starting : Bool) (checkpoint : Int)
  | storing (starting : Bool) (sequence : Int)
deriving DecidableEq, Repr

/-- The phase after a call has failed: a failed `catchUp` ends the connection, later failures are logged. -/
def Phase.failed : Phase → Phase
  | .down | .connected | .reconciling | .querying true _ | .storing true _ => .down
  | .waiting | .notified | .querying false _ | .storing false _ => .waiting

/-- A listener process, with the notifications it has received and the outbox events it has observed. -/
structure Process where
  listener : Listener := {}
  phase : Phase := .down
  inbox : List Publication := []
  seen : List CommitEvent := []

/-- A committed notification reaches the processes that listen. -/
def Process.deliver (p : Process) (publication : Publication) : Process :=
  if p.phase = .down then p else { p with inbox := p.inbox ++ [publication] }

structure Relay where
  store : Store
  inFlight : List Publication := []
  process : Nat → Process := fun _ => {}

inductive RelayOp where
  /-- A commit inserts its outbox event; the sequence of `draft` is taken from the serial. -/
  | insert (draft : CommitEvent) (metadata : SnapshotMetadata)
  | commit (i : Nat)
  | rollback (i : Nat)
  | connect (k : Nat)
  | read (k : Nat)
  | reconcile (k : Nat) (metadata : List SnapshotMetadata)
  | query (k : Nat) (faults : Faults)
  | write (k : Nat)
  | notify (k : Nat)
  | fail (k : Nat)
  | disconnect (k : Nat)

def RelayOp.process? : RelayOp → Option Nat
  | .insert _ _ | .commit _ | .rollback _ => none
  | .connect k | .read k | .reconcile k _ | .query k _ | .write k | .notify k | .fail k | .disconnect k => some k

namespace Relay

def set (r : Relay) (k : Nat) (p : Process) : Relay := { r with process := Function.update r.process k p }

def checkpoint (r : Relay) : Int := r.store.getListenerCheckpoint snapshotNotificationConsumerName

def readPhase (r : Relay) : Phase → Phase
  | .connected => if 0 < r.checkpoint then .querying true r.checkpoint else .reconciling
  | .notified => if r.checkpoint = 0 then .waiting else .querying false r.checkpoint
  | phase => phase

def replay (p : Process) (starting : Bool) (events : List CommitEvent) : Process :=
  let after := replayEvents p.listener 0 events
  { p with
    listener := after.1
    seen := p.seen ++ events.filter fun event => event.targetKind.valid
    phase := if 0 < after.2 then .storing starting after.2 else .waiting }

def handle (p : Process) : Process :=
  match p.phase, p.inbox with
  | .waiting, publication :: rest =>
    match handlePayload p.listener { decoded := .ok publication.metadata } with
    | (l, .error _) => { p with listener := l, inbox := rest }
    | (l, .ok ()) => { p with listener := l, inbox := rest, phase := .notified, seen := p.seen ++ [publication.event] }
  | _, _ => p

/-- One database call of a transaction or of a process. -/
def exec (r : Relay) : RelayOp → Relay × Unit
  | .insert draft metadata =>
    ({ r with
        store := { r.store with nextEventSequence := r.store.nextEventSequence + 1 }
        inFlight := r.inFlight ++ [⟨{ draft with sequence := r.store.nextEventSequence }, metadata⟩] }, ())
  | .commit i =>
    match r.inFlight[i]? with
    | none => (r, ())
    | some publication =>
      ({ store := { r.store with events := r.store.events ++ [publication.event] }
         inFlight := r.inFlight.eraseIdx i
         process := fun k => (r.process k).deliver publication }, ())
  | .rollback i => ({ r with inFlight := r.inFlight.eraseIdx i }, ())
  | .connect k =>
    if (r.process k).phase = .down then (r.set k { r.process k with phase := .connected, inbox := [] }, ()) else (r, ())
  | .read k => (r.set k { r.process k with phase := r.readPhase (r.process k).phase }, ())
  | .reconcile k metadata =>
    match (r.process k).phase with
    | .reconciling =>
      (r.set k { r.process k with
        phase := .waiting, listener := (catchUpFromMetadata r.store (r.process k).listener {} metadata).2.1 }, ())
    | _ => (r, ())
  | .query k faults =>
    match (r.process k).phase with
    | .querying starting checkpoint =>
      match queryMissedEvents r.store faults checkpoint snapshotNotificationCatchUpBatchSize with
      | .error _ => (r.set k { r.process k with phase := (r.process k).phase.failed }, ())
      | .ok events => (r.set k (replay (r.process k) starting events), ())
    | _ => (r, ())
  | .write k =>
    match (r.process k).phase with
    | .storing _ sequence =>
      (({ r with store := r.store.updateListenerCheckpoint snapshotNotificationConsumerName sequence } : Relay).set k
        { r.process k with phase := .waiting }, ())
    | _ => (r, ())
  | .notify k => (r.set k (handle (r.process k)), ())
  | .fail k => (r.set k { r.process k with phase := (r.process k).phase.failed }, ())
  | .disconnect k => (r.set k { r.process k with phase := .down, inbox := [] }, ())

theorem replay_phase (p : Process) (starting : Bool) (events : List CommitEvent) : (replay p starting events).phase =
    if 0 < lastSequence 0 events then .storing starting (lastSequence 0 events) else .waiting := by
  simp only [replay, replayEvents_snd]

theorem set_process (r : Relay) (k : Nat) (p : Process) : (r.set k p).process k = p := by
  show Function.update r.process k p k = p
  rw [Function.update_self]

end Relay

/-! ## Uninterrupted commits and catch-ups -/

theorem commit_outbox {input : CommitInput} {s s' : Store} {target : TargetRow} {run : RunRow}
    (h : Store.CommitEffect input s s' target run) (hp : Store.publishes input = true) (metadata : SnapshotMetadata) :
    ∃ draft, (final Relay.exec { store := s } [.insert draft metadata, .commit 0]).store.events = s'.events ∧
      (final Relay.exec { store := s } [.insert draft metadata, .commit 0]).store.nextEventSequence =
        s'.nextEventSequence := by
  obtain ⟨-, -, hnext, now, hevents⟩ := h.published hp
  refine ⟨⟨0, s.nextSnapshotId, input.targetID, target.currentVersion + 1, target.ref.kind, now⟩, ?_, ?_⟩
  · rw [hevents]
    rfl
  · rw [hnext]
    rfl

/-- A query and the write that follows are a catch-up of the listener, with nothing between them. -/
theorem query_write_eq {r : Relay} {k : Nat} {c : Int} {faults : Faults}
    (hphase : (r.process k).phase = .querying starting c) (hstore : (r.process k).listener.eventStore = true)
    (hnil : (processMissedEvents snapshotNotificationCatchUpBatchSize r.store (r.process k).listener faults c).2.2 =
      .ok ()) : (final Relay.exec r [.query k faults, .write k]).store =
        (processMissedEvents snapshotNotificationCatchUpBatchSize r.store (r.process k).listener faults c).1 ∧
      ((final Relay.exec r [.query k faults, .write k]).process k).listener =
        (processMissedEvents snapshotNotificationCatchUpBatchSize r.store (r.process k).listener faults c).2.1 := by
  obtain ⟨events, hquery, hlistener, hafter⟩ := processMissedEvents_ok hstore hnil
  have hreplay : (r.exec (.query k faults)).1 = r.set k (Relay.replay (r.process k) starting events) := by
    simp only [Relay.exec, hphase, hquery]
  rw [hafter, hlistener]
  show ((r.exec (.query k faults)).1.exec (.write k)).1.store = _ ∧
    (((r.exec (.query k faults)).1.exec (.write k)).1.process k).listener = _
  rw [hreplay]
  unfold Relay.exec
  simp only [Relay.set_process]
  by_cases hmoved : 0 < lastSequence 0 events
  · rw [Relay.replay_phase, if_pos hmoved, if_pos hmoved]
    refine ⟨rfl, ?_⟩
    simp only [Relay.set_process]
    rfl
  · rw [Relay.replay_phase, if_neg hmoved, if_neg hmoved]
    refine ⟨rfl, ?_⟩
    simp only [Relay.set_process]
    rfl

/-! ## Resuming -/

def Observed (p : Process) (e : CommitEvent) : Prop :=
  ∃ o ∈ p.seen, o.targetId = e.targetId ∧ e.sequence ≤ o.sequence

/-- None of the first `n` processes would resume behind a committed event that it has not observed. -/
def Resumable (n : Nat) (r : Relay) : Prop :=
  ∀ k < n, ∀ e ∈ r.store.events, e.sequence ≤ r.checkpoint → Observed (r.process k) e

section
variable (r : Relay)

def Relay.events : List CommitEvent := r.store.events ++ r.inFlight.map Publication.event

structure Numbered : Prop where
  distinct : (r.events.map CommitEvent.sequence).Nodup
  below : ∀ e ∈ r.events, e.sequence < r.store.nextEventSequence
  valid : ∀ e ∈ r.events, e.targetKind.valid = true

/-- Process 0 has observed all that is or will be committed with a sequence up to `m`. -/
structure Covered (m : Int) : Prop where
  below : m < r.store.nextEventSequence
  flying : ∀ publication ∈ r.inFlight, m < publication.event.sequence
  observed : ∀ e ∈ r.store.events, e.sequence ≤ m → Observed (r.process 0) e

def PhaseCaught : Phase → Prop
  | .querying _ c => c = r.checkpoint
  | .storing _ m => Covered r m
  | _ => True

structure Caught : Prop where
  numbered : Numbered r
  checkpoint : Covered r r.checkpoint
  phase : PhaseCaught r (r.process 0).phase

/-- The steps of an orderly run. Only process 0 listens; when it queries, transactions in flight have sequences above
those it reads, and a compacted query fits one batch. Events are of valid kinds. -/
def Orderly (op : RelayOp) : Prop :=
  (∀ k, op.process? = some k → k = 0) ∧
    match op with
    | .insert draft _ => draft.targetKind.valid = true
    | .query k faults => ∀ starting c, (r.process k).phase = .querying starting c →
      (∀ publication ∈ r.inFlight, batchEnd r.store faults c snapshotNotificationCatchUpBatchSize <
        publication.event.sequence) ∧
      (faults.compactedMissedEvents = none →
        (r.store.latestEvents c).length ≤ Store.eventLimit snapshotNotificationCatchUpBatchSize)
    | _ => True

end

variable {r r' : Relay} {c m : Int} {faults : Faults} {p : Process} {events : List CommitEvent}

theorem Observed.mono {p' : Process} (h : Observed p e) (hseen : ∀ o ∈ p.seen, o ∈ p'.seen) : Observed p' e := by
  obtain ⟨o, ho, htarget, hle⟩ := h
  exact ⟨o, hseen o ho, htarget, hle⟩

theorem Covered.set (h : Covered r m) (hseen : ∀ o ∈ (r.process 0).seen, o ∈ p.seen) :
    Covered (r.set 0 p) m := by
  refine ⟨h.below, h.flying, fun e he hle => (h.observed e he hle).mono ?_⟩
  rw [Relay.set_process]
  exact hseen

theorem PhaseCaught.mono {phase : Phase} (h : PhaseCaught r phase) (hcheckpoint : r'.checkpoint = r.checkpoint)
    (hcovered : ∀ m, Covered r m → Covered r' m) : PhaseCaught r' phase := by
  cases phase with
  | querying starting c => exact Eq.trans h hcheckpoint.symm
  | storing starting m => exact hcovered m h
  | _ => trivial

theorem Caught.set (h : Caught r) (hseen : ∀ o ∈ (r.process 0).seen, o ∈ p.seen)
    (hphase : PhaseCaught (r.set 0 p) p.phase) : Caught (r.set 0 p) := by
  refine ⟨⟨h.numbered.distinct, h.numbered.below, h.numbered.valid⟩, h.checkpoint.set hseen, ?_⟩
  rw [Relay.set_process]
  exact hphase

theorem Numbered.subperm (h : Numbered r) (hevents : r'.events.Subperm r.events)
    (hnext : r'.store.nextEventSequence = r.store.nextEventSequence) : Numbered r' := by
  obtain ⟨l, hperm, hsub⟩ := hevents
  have hmem : ∀ e ∈ r'.events, e ∈ r.events := fun e he => hsub.mem (hperm.mem_iff.mpr he)
  refine ⟨?_, fun e he => ?_, fun e he => h.valid e (hmem e he)⟩
  · exact (hperm.map CommitEvent.sequence).nodup_iff.mp (h.distinct.sublist (hsub.map CommitEvent.sequence))
  · rw [hnext]
    exact h.below e (hmem e he)

/-! ## Transactions -/

/-! ## Transactions -/

theorem Numbered.insert (h : Numbered r) (hvalid : draft.targetKind.valid = true)
    (metadata : SnapshotMetadata) : Numbered (r.exec (.insert draft metadata)).1 := by
  have hevents : (r.exec (.insert draft metadata)).1.events =
      r.events ++ [{ draft with sequence := r.store.nextEventSequence }] := by
    show r.store.events ++ (r.inFlight ++ [_]).map Publication.event = _
    rw [List.map_append, ← List.append_assoc]
    rfl
  have hnext : (r.exec (.insert draft metadata)).1.store.nextEventSequence = r.store.nextEventSequence + 1 := rfl
  refine ⟨?_, ?_, ?_⟩
  · rw [hevents, List.map_append, List.nodup_append]
    refine ⟨h.distinct, List.nodup_singleton _, ?_⟩
    intro sequence hold _ hnew heq
    obtain ⟨e, he, hsequence⟩ := List.mem_map.mp hold
    have hbelow := h.below e he
    rw [heq, List.mem_singleton.mp hnew] at hsequence
    exact absurd hsequence (ne_of_lt hbelow)
  · intro e he
    rw [hevents] at he
    rw [hnext]
    rcases List.mem_append.mp he with he | he
    · have := h.below e he
      omega
    · rw [List.mem_singleton.mp he]
      exact lt_add_one _
  · intro e he
    rw [hevents] at he
    rcases List.mem_append.mp he with he | he
    · exact h.valid e he
    · rw [List.mem_singleton.mp he]
      exact hvalid

theorem Covered.insert (h : Covered r m) (draft : CommitEvent) (metadata : SnapshotMetadata) :
    Covered (r.exec (.insert draft metadata)).1 m := by
  refine ⟨h.below.trans (lt_add_one _), ?_, h.observed⟩
  intro publication hpublication
  rcases List.mem_append.mp hpublication with hold | hnew
  · exact h.flying publication hold
  · rw [List.mem_singleton.mp hnew]
    exact h.below

variable {publication : Publication}

theorem events_commit (hi : r.inFlight[i]? = some publication) :
    ((r.store.events ++ [publication.event]) ++ (r.inFlight.eraseIdx i).map Publication.event).Perm r.events := by
  obtain ⟨hlt, hget⟩ := List.getElem?_eq_some_iff.mp hi
  have hperm := (List.getElem_cons_eraseIdx_perm hlt).map Publication.event
  rw [hget] at hperm
  unfold Relay.events
  rw [List.append_assoc]
  exact hperm.append_left r.store.events

theorem deliver_seen (p : Process) (publication : Publication) : (p.deliver publication).seen = p.seen := by
  unfold Process.deliver
  split <;> rfl

theorem deliver_phase (p : Process) (publication : Publication) : (p.deliver publication).phase = p.phase := by
  unfold Process.deliver
  split <;> rfl

theorem Covered.rollback (h : Covered r m) (i : Nat) : Covered (r.exec (.rollback i)).1 m :=
  ⟨h.below, fun publication hpublication => h.flying publication (List.mem_of_mem_eraseIdx hpublication), h.observed⟩

theorem Covered.commit (h : Covered r m) (hi : r.inFlight[i]? = some publication) :
    Covered { store := { r.store with events := r.store.events ++ [publication.event] }
              inFlight := r.inFlight.eraseIdx i
              process := fun k => (r.process k).deliver publication } m := by
  refine ⟨h.below, fun other hother => h.flying other (List.mem_of_mem_eraseIdx hother), ?_⟩
  intro e he hle
  rcases List.mem_append.mp he with he | he
  · refine (h.observed e he hle).mono fun o ho => ?_
    show o ∈ ((r.process 0).deliver publication).seen
    rw [deliver_seen]
    exact ho
  · -- the event was in flight, so it is above `m`
    rw [List.mem_singleton.mp he] at hle
    have hflying := h.flying publication (List.mem_of_getElem? hi)
    omega

theorem commit_caught (h : Caught r) (i : Nat) : Caught (r.exec (.commit i)).1 := by
  cases hi : r.inFlight[i]? with
  | none =>
    simp only [Relay.exec, hi]
    exact h
  | some publication =>
    have hperm := events_commit hi
    simp only [Relay.exec, hi]
    refine ⟨h.numbered.subperm hperm.subperm rfl, h.checkpoint.commit hi, ?_⟩
    rw [deliver_phase]
    exact h.phase.mono rfl fun _ hm => hm.commit hi

theorem insert_caught (h : Caught r) (hvalid : draft.targetKind.valid = true)
    (metadata : SnapshotMetadata) : Caught (r.exec (.insert draft metadata)).1 :=
  ⟨h.numbered.insert hvalid metadata, h.checkpoint.insert draft metadata,
    h.phase.mono rfl fun _ hm => hm.insert draft metadata⟩

theorem rollback_caught (h : Caught r) (i : Nat) : Caught (r.exec (.rollback i)).1 := by
  have hsub : List.Sublist (r.exec (.rollback i)).1.events r.events :=
    (List.Sublist.refl _).append ((List.eraseIdx_sublist r.inFlight i).map Publication.event)
  exact ⟨h.numbered.subperm hsub.subperm rfl, h.checkpoint.rollback i, h.phase.mono rfl fun _ hm => hm.rollback i⟩

/-! ## The listener -/

theorem mem_of_query {s : Store} {limit : Int} (h : queryMissedEvents s faults c limit = .ok events) :
    ∀ e ∈ events, e ∈ s.events := by
  unfold queryMissedEvents at h
  split at h
  · cases h
    exact fun e he => (Store.mem_of_mem_compactedMissedEvents he).1
  · split at h
    · cases h
      exact fun e he => (Store.mem_of_mem_missedEvents he).1
    · cases h

/-- A query that has room for every target covers the events up to the last sequence it returns. -/
theorem query_covers (hnumbered : Numbered r)
    (hquery : queryMissedEvents r.store faults c snapshotNotificationCatchUpBatchSize = .ok events)
    (hroom : faults.compactedMissedEvents = none →
      (r.store.latestEvents c).length ≤ Store.eventLimit snapshotNotificationCatchUpBatchSize)
    (he : e ∈ r.store.events) (hc : c < e.sequence) (hle : e.sequence ≤ lastSequence 0 events)
    (hpositive : 0 < lastSequence 0 events) : ∃ o ∈ events, o.targetId = e.targetId ∧ e.sequence ≤ o.sequence := by
  unfold queryMissedEvents at hquery
  split at hquery
  · rename_i hcompacted
    cases hquery
    obtain ⟨o, ho, htarget, hlater⟩ := Store.exists_latestEvents he hc
    refine ⟨o, ?_, htarget, hlater⟩
    unfold Store.compactedMissedEvents
    rw [List.take_of_length_le (hroom hcompacted)]
    exact ho
  · split at hquery
    · cases hquery
      by_cases hin : e ∈ r.store.missedEvents c snapshotNotificationCatchUpBatchSize
      · exact ⟨e, hin, rfl, le_refl _⟩
      · -- the last event of the batch has the sequence of `e`, so it is `e`
        rcases lastSequence_mem 0 (r.store.missedEvents c snapshotNotificationCatchUpBatchSize) with hzero | ⟨o, ho, hlast⟩
        · omega
        · have hbefore := Store.missedEvents_le he hc hin ho
          have hsequence : o.sequence = e.sequence := by omega
          have hstored : o ∈ r.events := List.mem_append_left _ (Store.mem_of_mem_missedEvents ho).1
          have heq : o = e :=
            List.inj_on_of_nodup_map hnumbered.distinct hstored (List.mem_append_left _ he) hsequence
          exact ⟨o, ho, by rw [heq], le_of_eq hsequence.symm⟩
    · cases hquery

theorem replay_covered (h : Caught r) (hphase : (r.process 0).phase = .querying starting c)
    (hquery : queryMissedEvents r.store faults c snapshotNotificationCatchUpBatchSize = .ok events)
    (hroom : faults.compactedMissedEvents = none →
      (r.store.latestEvents c).length ≤ Store.eventLimit snapshotNotificationCatchUpBatchSize)
    (hflying : ∀ publication ∈ r.inFlight, lastSequence 0 events < publication.event.sequence)
    (hpositive : 0 < lastSequence 0 events) :
    Covered (r.set 0 (Relay.replay (r.process 0) starting events)) (lastSequence 0 events) := by
  have hcheckpoint := h.phase
  rw [hphase] at hcheckpoint
  refine ⟨?_, hflying, ?_⟩
  · -- the last sequence is that of an event
    show lastSequence 0 events < r.store.nextEventSequence
    rcases lastSequence_mem 0 events with hzero | ⟨o, ho, hlast⟩
    · omega
    · rw [hlast]
      exact h.numbered.below o (List.mem_append_left _ (mem_of_query hquery o ho))
  · intro e he hle
    rw [Relay.set_process]
    by_cases hc : e.sequence ≤ c
    · rw [show c = r.checkpoint from hcheckpoint] at hc
      exact (h.checkpoint.observed e he hc).mono fun o ho => List.mem_append_left _ ho
    · obtain ⟨o, ho, htarget, hlater⟩ := query_covers h.numbered hquery hroom he (by omega) hle hpositive
      have hvalid := h.numbered.valid o (List.mem_append_left _ (mem_of_query hquery o ho))
      exact ⟨o, List.mem_append_right _ (List.mem_filter.mpr ⟨ho, hvalid⟩), htarget, hlater⟩

theorem PhaseCaught.failed (r : Relay) (phase : Phase) : PhaseCaught r phase.failed := by
  unfold Phase.failed
  split <;> trivial

theorem query_caught (h : Caught r) (horderly : Orderly r (.query 0 faults)) :
    Caught (r.exec (.query 0 faults)).1 := by
  simp only [Relay.exec]
  split
  · rename_i starting c hphase
    obtain ⟨hflying, hroom⟩ := horderly.2 starting c hphase
    split
    · exact h.set (fun _ ho => ho) (PhaseCaught.failed _ _)
    · rename_i events hquery
      have hend : batchEnd r.store faults c snapshotNotificationCatchUpBatchSize = lastSequence 0 events := by
        unfold batchEnd
        rw [hquery]
      rw [hend] at hflying
      refine h.set (fun o ho => List.mem_append_left _ ho) ?_
      rw [Relay.replay_phase]
      split
      · rename_i hpositive
        exact replay_covered h hphase hquery hroom hflying hpositive
      · trivial
  · exact h

theorem updateListenerCheckpoint_outbox (s : Store) (consumerName : String) (sequence : Int) :
    (s.updateListenerCheckpoint consumerName sequence).events = s.events ∧
      (s.updateListenerCheckpoint consumerName sequence).nextEventSequence = s.nextEventSequence := by
  unfold Store.updateListenerCheckpoint
  split <;> exact ⟨rfl, rfl⟩

theorem write_caught (h : Caught r) : Caught (r.exec (.write 0)).1 := by
  simp only [Relay.exec]
  split
  · rename_i starting sequence hphase
    have hcovered := h.phase
    rw [hphase] at hcovered
    obtain ⟨hevents, hnext⟩ := updateListenerCheckpoint_outbox r.store snapshotNotificationConsumerName sequence
    have hcheckpoint : (({ r with store := r.store.updateListenerCheckpoint snapshotNotificationConsumerName sequence } :
        Relay).set 0 { r.process 0 with phase := .waiting }).checkpoint = sequence :=
      Store.getListenerCheckpoint_update r.store _ sequence
    generalize r.store.updateListenerCheckpoint snapshotNotificationConsumerName sequence = s' at *
    have hall : (({ r with store := s' } : Relay).set 0 { r.process 0 with phase := .waiting }).events = r.events := by
      show s'.events ++ _ = _
      rw [hevents]
      rfl
    refine ⟨h.numbered.subperm (by rw [hall]) hnext, ?_, ?_⟩
    · rw [hcheckpoint]
      refine ⟨?_, hcovered.flying, ?_⟩
      · show sequence < s'.nextEventSequence
        rw [hnext]
        exact hcovered.below
      · rw [Relay.set_process]
        exact fun e he hle => hcovered.observed e (hevents ▸ he) hle
    · rw [Relay.set_process]
      trivial
  · exact h

theorem read_caught (h : Caught r) : Caught (r.exec (.read 0)).1 := by
  refine h.set (fun _ ho => ho) ?_
  simp only [Relay.readPhase]
  split
  · split
    · rfl
    · trivial
  · split
    · trivial
    · rfl
  · exact h.phase.mono rfl fun _ hm => hm.set fun _ ho => ho

theorem handle_seen (p : Process) : ∀ o ∈ p.seen, o ∈ (Relay.handle p).seen := by
  intro o ho
  unfold Relay.handle
  split
  · split
    · exact ho
    · exact List.mem_append_left _ ho
  · exact ho

theorem notify_caught (h : Caught r) : Caught (r.exec (.notify 0)).1 := by
  have hphase : (Relay.handle (r.process 0)).phase = .notified ∨ (Relay.handle (r.process 0)).phase =
      (r.process 0).phase := by
    unfold Relay.handle
    split
    · split
      · exact .inr rfl
      · exact .inl rfl
    · exact .inr rfl
  refine h.set (handle_seen _) ?_
  rcases hphase with hnotified | hsame
  · rw [hnotified]
    trivial
  · rw [hsame]
    exact h.phase.mono rfl fun _ hm => hm.set (handle_seen _)

theorem exec_caught (h : Caught r) {op : RelayOp} (horderly : Orderly r op) : Caught (r.exec op).1 := by
  have hzero := horderly.1
  cases op with
  | insert draft metadata => exact insert_caught h horderly.2 metadata
  | commit i => exact commit_caught h i
  | rollback i => exact rollback_caught h i
  | connect k =>
    obtain rfl := hzero k rfl
    simp only [Relay.exec]
    split
    · exact h.set (fun _ ho => ho) trivial
    · exact h
  | read k =>
    obtain rfl := hzero k rfl
    exact read_caught h
  | reconcile k metadata =>
    obtain rfl := hzero k rfl
    simp only [Relay.exec]
    split
    · exact h.set (fun _ ho => ho) trivial
    · exact h
  | query k faults =>
    obtain rfl := hzero k rfl
    exact query_caught h horderly
  | write k =>
    obtain rfl := hzero k rfl
    exact write_caught h
  | notify k =>
    obtain rfl := hzero k rfl
    exact notify_caught h
  | fail k =>
    obtain rfl := hzero k rfl
    exact h.set (fun _ ho => ho) (PhaseCaught.failed _ _)
  | disconnect k =>
    obtain rfl := hzero k rfl
    exact h.set (fun _ ho => ho) trivial

/-! ## Orderly runs -/

/-- A state to start in: nothing in flight, the process down, and nothing at or below the checkpoint unobserved. -/
structure Ready (r : Relay) : Prop where
  numbered : Numbered r
  idle : r.inFlight = []
  down : (r.process 0).phase = .down
  checkpoint : r.checkpoint < r.store.nextEventSequence
  resumable : Resumable 1 r

theorem Ready.caught (h : Ready r) : Caught r where
  numbered := h.numbered
  checkpoint := by
    refine ⟨h.checkpoint, ?_, fun e he hle => h.resumable 0 Nat.one_pos e he hle⟩
    rw [h.idle]
    exact List.forall_mem_nil _
  phase := by
    rw [h.down]
    trivial

/-- **In an orderly run the listener never resumes behind an event it has not observed.** -/
theorem resumable_of_orderly (r : Relay) (ops : List RelayOp) (hready : Ready r)
    (horderly : ∀ event ∈ trace Relay.exec r ops, Orderly event.pre event.op) :
    Resumable 1 (final Relay.exec r ops) := by
  have hcaught : Caught (final Relay.exec r ops) :=
    final_inv_of_trace hready.caught fun r op hmem h => exec_caught h (horderly (Event.of Relay.exec r op) hmem)
  intro k hk e he hle
  obtain rfl : k = 0 := by omega
  exact hcaught.checkpoint.observed e he hle

/-! ## Two commits -/

/-- Three targets; the first has an event that the process has observed, and the checkpoint is at it. -/
def firstEvent : CommitEvent := ⟨1, 1, 1, 1, .courseDetail, second⟩
def laterEvent (target : Int) : CommitEvent := ⟨0, target, target, 1, .courseDetail, hour⟩

def relayStart : Relay where
  store := { events := [firstEvent], checkpoints := [⟨snapshotNotificationConsumerName, 1⟩], nextEventSequence := 2 }
  process := fun _ => { seen := [firstEvent] }

theorem relayStart_ready : Ready relayStart where
  numbered := ⟨by decide, by decide, by decide⟩
  idle := rfl
  down := rfl
  checkpoint := by decide +kernel
  resumable := fun _ _ e he _ => ⟨e, he, rfl, le_refl _⟩

def catchUpOnce : List RelayOp :=
  [.insert (laterEvent 2) firstMetadata, .commit 0, .connect 0, .read 0, .query 0 {}, .write 0]

def queryingRelay : Relay := final Relay.exec relayStart (catchUpOnce.take 4)

theorem queryingRelay_eq : (queryingRelay.process 0).phase = .querying true 1 ∧ queryingRelay.inFlight = [] ∧
    (queryingRelay.store.latestEvents 1).length = 1 := by decide +kernel

theorem catchUpOnce_orderly : ∀ event ∈ trace Relay.exec relayStart catchUpOnce, Orderly event.pre event.op := by
  have hquery : Orderly queryingRelay (.query 0 {}) := by
    obtain ⟨hphase, hidle, hlength⟩ := queryingRelay_eq
    refine ⟨fun k hk => (Option.some.inj hk).symm, fun starting c hquerying => ?_⟩
    rw [hphase] at hquerying
    cases hquerying
    rw [hidle, hlength]
    exact ⟨List.forall_mem_nil _, fun _ => by decide⟩
  have hzero : ∀ k, some 0 = some k → k = 0 := fun k hk => (Option.some.inj hk).symm
  have hnone : ∀ k, none = some k → k = 0 := fun k hk => absurd hk.symm (Option.some_ne_none k)
  intro event hevent
  simp only [catchUpOnce, trace, List.mem_cons, List.not_mem_nil, or_false] at hevent
  rcases hevent with rfl | rfl | rfl | rfl | rfl | rfl
  · exact ⟨hnone, rfl⟩
  · exact ⟨hnone, trivial⟩
  · exact ⟨hzero, trivial⟩
  · exact ⟨hzero, trivial⟩
  · exact hquery
  · exact ⟨hzero, trivial⟩

theorem resumable_of_orderly_once : Ready relayStart ∧ Resumable 1 (final Relay.exec relayStart catchUpOnce) :=
  ⟨relayStart_ready, resumable_of_orderly relayStart catchUpOnce relayStart_ready catchUpOnce_orderly⟩

/-- The transaction with sequence 2 commits after the one with sequence 3 was replayed. -/
def overtaken : List RelayOp :=
  [.insert (laterEvent 2) firstMetadata, .insert (laterEvent 3) firstMetadata, .commit 1, .connect 0, .read 0,
    .query 0 {}, .write 0, .disconnect 0, .commit 0]

def overtakenEvent : CommitEvent := { laterEvent 2 with sequence := 2 }

theorem overtaken_eq : (final Relay.exec relayStart overtaken).checkpoint = 3 ∧
    overtakenEvent ∈ (final Relay.exec relayStart overtaken).store.events ∧
    ∀ o ∈ ((final Relay.exec relayStart overtaken).process 0).seen, o.targetId ≠ 2 := by decide +kernel

/-- **A commit that is overtaken in the outbox is never observed.** -/
theorem overtaken_unresumable : Ready relayStart ∧ ¬ Resumable 1 (final Relay.exec relayStart overtaken) := by
  refine ⟨relayStart_ready, fun hresumable => ?_⟩
  obtain ⟨hcheckpoint, hstored, hunseen⟩ := overtaken_eq
  obtain ⟨o, ho, htarget, -⟩ := hresumable 0 Nat.one_pos overtakenEvent hstored (by rw [hcheckpoint]; decide)
  exact hunseen o ho htarget

end QrCommandCenter.Service
