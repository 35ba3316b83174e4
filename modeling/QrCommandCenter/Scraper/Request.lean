import QrCommandCenter.Store.Fencing

/-!
# Requests to refresh a target

`SetDueNow` asks for a run of a target by a minimum on `next_run_at`, a column that `Commit` and `RescheduleLease` write.
Any number of workers claim targets, begin their upstream fetch and commit; which runs had begun theirs before a request
is part of the state.

* `Crew`, `CrewOp`, `Crew.exec` : the store, the leases handed out, and the leases whose fetch has begun;
* `NotLater s s'` : every row of `s` is due in `s'` no later than before (`exec_notLater`);
* `RefreshRequest`, `RefreshRequest.Kept` : the target is still due, or a run that began after the request has committed;
* `putsOff` : the steps that lose a request;
* `refresh_request_kept` : a request is kept in every run without such a step.
-/

namespace QrCommandCenter
open Domain Table Transition

variable {row : TargetRow}

/-- The store, the leases that claims handed out, and the leases whose run has begun its upstream fetch. -/
structure Crew where
  store : Store := {}
  held : List (Int × Int) := []
  fetching : List (Int × Int) := []
deriving DecidableEq, Repr

inductive CrewOp where
  | transaction (op : Op)
  | fetch (lease : Int × Int)
deriving DecidableEq, Repr

def Op.committing : Op → Option (Int × Int)
  | .commit _ input => some (input.targetID, input.leaseGeneration)
  | _ => none

namespace Crew

/-- One step of a worker. `RunClaimedWithRelease` fetches under a lease that was claimed, and commits after its fetch. -/
def exec (notificationLength : SnapshotMetadata → Nat) (w : Crew) : CrewOp → Crew × Unit
  | .fetch lease => (if lease ∈ w.held then { w with fetching := w.fetching ++ [lease] } else w, ())
  | .transaction op =>
    (if op.committing.all w.fetching.contains then
      { w with
        store := (w.store.exec notificationLength op).1
        held := w.held ++ claimedLeases (Event.of (Store.exec notificationLength) w.store op) }
    else w, ())

variable {len : SnapshotMetadata → Nat} {w : Crew}

theorem exec_fetch_store (lease : Int × Int) : (w.exec len (.fetch lease)).1.store = w.store := by
  simp only [exec]
  split <;> rfl

/-- A transaction leaves the leases whose fetch has begun, and a commit is by one of them. -/
theorem exec_transaction (op : Op) :
    (w.exec len (.transaction op)).1.store = w.store ∨
      (w.exec len (.transaction op)).1.store = (w.store.exec len op).1 ∧
        ∀ lease, op.committing = some lease → lease ∈ w.fetching := by
  simp only [exec]
  split
  · rename_i hfetched
    refine .inr ⟨rfl, fun lease hlease => ?_⟩
    rw [hlease] at hfetched
    simpa using hfetched
  · exact .inl rfl

/-- A well-formed store, leases that their targets have reached, and fetches under leases that were handed out. -/
structure Sound (w : Crew) : Prop where
  store : w.store.WellFormed
  held : ∀ lease ∈ w.held, Reached w.store lease.1 lease.2
  fetching : ∀ lease ∈ w.fetching, lease ∈ w.held

theorem sound_start : Sound {} := ⟨Store.wellFormed_empty, List.forall_mem_nil _, List.forall_mem_nil _⟩

theorem Sound.store_exec (h : Sound w) (op : Op) :
    Sound { w with store := (w.store.exec len op).1 } := by
  refine ⟨Store.exec_wellFormed len w.store op h.store, fun lease hlease => ?_, h.fetching⟩
  obtain ⟨t, ht, hle⟩ := h.held lease hlease
  obtain ⟨t', ht', hle'⟩ := @Store.exec_generation w.store len lease.1 t op ht
  exact ⟨t', ht', hle.trans hle'⟩

theorem exec_sound (op : CrewOp) (h : Sound w) : Sound (w.exec len op).1 := by
  cases op with
  | fetch lease =>
    simp only [exec]
    split
    · rename_i hheld
      refine ⟨h.store, h.held, fun lease' hlease' => ?_⟩
      rcases List.mem_append.mp hlease' with hlease' | hlease'
      · exact h.fetching lease' hlease'
      · rw [List.mem_singleton.mp hlease']
        exact hheld
    · exact h
  | transaction op =>
    simp only [exec]
    split
    · have hexec := @Sound.store_exec len w h op
      refine ⟨hexec.store, fun lease hlease => ?_, fun lease hlease => List.mem_append_left _ (h.fetching lease hlease)⟩
      rcases List.mem_append.mp hlease with hlease | hlease
      · exact hexec.held lease hlease
      · obtain ⟨-, t', -, ht', -, hgeneration⟩ := (Store.claimedLeases_of h.store.targets op).2 lease hlease
        exact ⟨t', ht', hgeneration.ge⟩
    · exact h

theorem sound_run (len : SnapshotMetadata → Nat) (ops : List CrewOp) :
    Sound (final (exec len) {} ops) :=
  final_inv (fun _ op h => exec_sound op h) sound_start ops

end Crew

/-! ## Steps that leave a target due -/

namespace Store

variable {s s' : Store}

/-- Every row of `s` is there in `s'`, due no later. -/
def NotLater (s s' : Store) : Prop :=
  ∀ id row, s.target? id = some row → ∃ row', s'.target? id = some row' ∧ row'.nextRunAt ≤ row.nextRunAt

theorem NotLater.of_eq (h : s'.targets = s.targets) : NotLater s s' :=
  fun id row hrow => ⟨row, by unfold target?; rw [h]; exact hrow, le_refl _⟩

theorem NotLater.of_targets {R : TargetRow → TargetRow → Prop} (hR : ∀ t t', R t t' → t'.nextRunAt ≤ t.nextRunAt)
    (h : TargetsEffect R s s') : NotLater s s' := by
  intro id row hrow
  obtain ⟨row', hrow', hmoved⟩ := h.evolves.kept id row hrow
  exact ⟨row', hrow', hR _ _ hmoved⟩

end Store

/-- The operations that may put the next run of a target off. -/
def Op.defers : Op → Bool
  | .commit _ _ | .rescheduleLease _ _ _ _ | .reconcileLifecycle _ _ => true
  | _ => false

namespace Store

/-- **Every other operation leaves a target due as early as it was.** -/
theorem exec_notLater (len : SnapshotMetadata → Nat) (s : Store) {op : Op} (hop : op.defers = false) :
    NotLater s (s.exec len op).1 := by
  have h := exec_cases len s op
  generalize (s.exec len op).1 = s' at h ⊢
  cases h with
  | unchanged => exact .of_eq rfl
  | seeded h => exact .of_targets (fun _ _ hu => hu.due) (upsertSeeds_ok h)
  | @leased op p f _ _ _ h hf hdue =>
    rcases hdue with ⟨now, id, g, next, rfl⟩ | hdue
    · cases hop
    · intro id row hrow
      have hl := updateTargets_target? h (fun t => by rw [(hf t).columns]) id
      rw [hrow, Option.map_some] at hl
      refine ⟨_, hl, ?_⟩
      split
      · exact hdue row
      · exact le_refl _
  | committed | reconciled => cases hop
  | pruned _ h => exact .of_eq (by rw [h.frame])
  | dequeued => exact .of_eq rfl
  | hosted _ h => exact .of_eq (by rw [h])

variable {s : Store}

theorem rescheduleLease_due {s' : Store} {now : Time} {id generation : Int} {nextRunAt : Time}
    (h : s.rescheduleLease now id generation nextRunAt = .ok s') {k : Int} (hrow : s.target? k = some row) :
    ∃ row', s'.target? k = some row' ∧
      row'.nextRunAt = if k = id ∧ row.leaseGeneration = generation then nextRunAt else row.nextRunAt := by
  obtain ⟨n, hu, -⟩ := rescheduleLease_inv h
  have hl := updateTargets_target? hu (fun _ => rfl) k
  rw [hrow, Option.map_some] at hl
  refine ⟨_, hl, ?_⟩
  rw [(lookup_mem hrow).2]
  by_cases hlease : k = id ∧ row.leaseGeneration = generation
  · simp [hlease]
  · rw [if_neg hlease, if_neg (by simpa using hlease)]

end Store

/-! ## Requests -/

/-- A request to refresh the target `id` at `due`; `before` lists the leases whose fetch had begun by then. -/
structure RefreshRequest where
  id : Int
  due : Time
  before : List (Int × Int)

abbrev CrewEvent := Event Crew CrewOp Unit

namespace RefreshRequest

section
variable (request : RefreshRequest)

/-- The event is the commit of a run that began its fetch after the request, and the run is recorded by it. -/
def answeredBy (e : CrewEvent) : Bool :=
  match e.op with
  | .transaction (.commit _ input) =>
    let lease := (request.id, input.leaseGeneration)
    input.targetID = request.id && e.pre.fetching.contains lease && !request.before.contains lease &&
      (e.pre.store.run? lease.1 lease.2).isNone && (e.post.store.run? lease.1 lease.2).isSome
  | _ => false

/-- The target is still due, or a run that began after the request has committed. -/
def Kept (events : List CrewEvent) (w : Crew) : Prop :=
  (∃ row, w.store.target? request.id = some row ∧ row.nextRunAt ≤ request.due) ∨
    ∃ e ∈ events, request.answeredBy e = true

/-- The steps that lose a request: a later next run written by a commit whose fetch began before the request, or by a
reschedule. -/
def putsOff (s : Store) : CrewOp → Bool
  | .transaction (.commit _ input) =>
    input.targetID = request.id && request.due < input.nextRunAt &&
      request.before.contains (request.id, input.leaseGeneration) &&
      (s.target? request.id).any fun row =>
        row.leaseGeneration = input.leaseGeneration && row.leaseOwner = some input.workerID
  | .transaction (.rescheduleLease _ targetID generation nextRunAt) =>
    targetID = request.id && request.due < nextRunAt &&
      (s.target? request.id).any fun row => row.leaseGeneration = generation
  | _ => false

end

/-- A step of a reconcile, which schedules a child that is listed again. -/
def reconciles : CrewOp → Bool
  | .transaction (.reconcileLifecycle _ _) => true
  | _ => false

end RefreshRequest

variable {events : List CrewEvent}

section Kept
variable {len : SnapshotMetadata → Nat} {request : RefreshRequest} {w : Crew}

open RefreshRequest

theorem commit_kept {clocks : CommitClocks} {input : CommitInput}
    (hrow : w.store.target? request.id = some row) (hdue : row.nextRunAt ≤ request.due)
    (hput : request.putsOff w.store (.transaction (.commit clocks input)) = false) :
    (∃ row', (w.exec len (.transaction (.commit clocks input))).1.store.target? request.id = some row' ∧
        row'.nextRunAt ≤ request.due) ∨
      request.answeredBy (Event.of (Crew.exec len) w (.transaction (.commit clocks input))) = true := by
  rcases @Crew.exec_transaction len w (.commit clocks input) with e | ⟨e, hfetching⟩
  · exact .inl ⟨row, by rw [e]; exact hrow, hdue⟩
  have hstep : (w.store.exec len (.commit clocks input)).1 = w.store ∨ ∃ target run,
      Store.CommitEffect input w.store (w.store.exec len (.commit clocks input)).1 target run := by
    refine Store.answer_of (P := fun s' => s' = w.store ∨ ∃ target run, Store.CommitEffect input w.store s' target run)
      (.inl rfl) fun s' result h => ?_
    rcases Store.commit_ok h with ⟨rfl, -⟩ | heffect
    · exact .inl rfl
    · exact .inr heffect
  rcases hstep with hsame | ⟨target, run, heffect⟩
  · exact .inl ⟨row, by rw [e, hsame]; exact hrow, hdue⟩
  obtain ⟨row', hrow', hmoved⟩ := heffect.targets.kept _ _ hrow
  have hid : row.id = request.id := (lookup_mem hrow).2
  have hnext := hmoved.due
  by_cases htarget : input.targetID = request.id
  · -- the commit is of the requested target: by a run from before the request it keeps the target due
    rw [hid, if_pos htarget.symm] at hnext
    have hlocked := heffect.locked
    rw [htarget, hrow] at hlocked
    cases hlocked
    by_cases hbefore : (request.id, input.leaseGeneration) ∈ request.before
    · refine .inl ⟨row', by rw [e]; exact hrow', hnext.trans ?_⟩
      by_contra hlate
      simp [putsOff, htarget, hrow, heffect.generation, heffect.owner, hbefore, not_le.mp hlate] at hput
    · have hunrecorded := heffect.unrecorded
      have hrecorded : ((w.exec len (.transaction (.commit clocks input))).1.store.run? request.id
          input.leaseGeneration).isSome := by
        obtain ⟨-, hruntarget, hrungeneration, -⟩ := heffect.recorded
        rw [e, Store.run?, heffect.runs.1]
        simp [hruntarget, hrungeneration, htarget]
      have hlease := hfetching _ rfl
      rw [htarget] at hunrecorded hlease
      right
      simp only [answeredBy, Event.of]
      simp [htarget, hbefore, hlease, hunrecorded, hrecorded]
  · rw [hid, if_neg (Ne.symm htarget)] at hnext
    exact .inl ⟨row', by rw [e]; exact hrow', hnext.trans hdue⟩

/-- **The step lemma.** A target that is due stays due, or the step answers the request. -/
theorem exec_kept (op : CrewOp) (hrow : w.store.target? request.id = some row)
    (hdue : row.nextRunAt ≤ request.due) (hput : request.putsOff w.store op = false) (hscope : reconciles op = false) :
    (∃ row', (w.exec len op).1.store.target? request.id = some row' ∧ row'.nextRunAt ≤ request.due) ∨
      request.answeredBy (Event.of (Crew.exec len) w op) = true := by
  have hnotLater : Store.NotLater w.store (w.exec len op).1.store →
      ∃ row', (w.exec len op).1.store.target? request.id = some row' ∧ row'.nextRunAt ≤ request.due := by
    intro h
    obtain ⟨row', hrow', hle⟩ := h _ row hrow
    exact ⟨row', hrow', hle.trans hdue⟩
  cases op with
  | fetch lease =>
    refine .inl (hnotLater ?_)
    rw [Crew.exec_fetch_store]
    exact .of_eq rfl
  | transaction op =>
    by_cases hdefers : op.defers = false
    · refine .inl (hnotLater ?_)
      rcases @Crew.exec_transaction len w op with e | ⟨e, -⟩ <;> rw [e]
      · exact .of_eq rfl
      · exact Store.exec_notLater len w.store hdefers
    cases op with
    | commit clocks input => exact commit_kept hrow hdue hput
    | reconcileLifecycle now input => cases hscope
    | rescheduleLease now id generation nextRunAt =>
      rcases @Crew.exec_transaction len w (.rescheduleLease now id generation nextRunAt) with e | ⟨e, -⟩
      · exact .inl ⟨row, by rw [e]; exact hrow, hdue⟩
      rw [e]
      refine .inl (Store.settle_of
        (P := fun s' : Store => ∃ row', s'.target? request.id = some row' ∧ row'.nextRunAt ≤ request.due)
        ⟨row, hrow, hdue⟩ fun s' h => ?_)
      obtain ⟨row', hrow', hnext⟩ := Store.rescheduleLease_due h hrow
      refine ⟨row', hrow', ?_⟩
      by_cases hlease : request.id = id ∧ row.leaseGeneration = generation
      · rw [hnext, if_pos hlease]
        by_contra hlate
        simp [putsOff, hlease.1.symm, hlease.2, hrow, not_le.mp hlate] at hput
      · rw [hnext, if_neg hlease]
        exact hdue
    | _ => exact absurd rfl hdefers

/-- The invariant of a run: the request is kept as long as no step puts it off. -/
def RefreshRequest.Standing (request : RefreshRequest) (events : List CrewEvent) (w : Crew) : Prop :=
  (∀ e ∈ events, request.putsOff e.pre.store e.op = false) → request.Kept events w

theorem exec_standing (op : CrewOp) (hscope : reconciles op = false) (h : request.Standing events w) :
    request.Standing (events ++ [Event.of (Crew.exec len) w op]) (w.exec len op).1 := by
  intro hput
  rcases h fun e he => hput e (List.mem_append_left _ he) with ⟨row, hrow, hdue⟩ | ⟨e, he, hanswered⟩
  · have hop : request.putsOff w.store op = false :=
      hput (Event.of (Crew.exec len) w op) (by simp)
    rcases exec_kept op hrow hdue hop hscope with hstill | hanswered
    · exact .inl hstill
    · exact .inr ⟨_, by simp, hanswered⟩
  · exact .inr ⟨e, List.mem_append_left _ he, hanswered⟩

end Kept

theorem Store.setDueNow_due {s s' : Store} {ref : TargetRef} {t : Time} (h : s.setDueNow ref t = .ok s')
    (hrow : s'.targetByRef? ref = some row) : row.nextRunAt ≤ t := by
  obtain ⟨n, hu⟩ := Store.setDueNow_inv h
  obtain ⟨hmem, href⟩ := lookup_mem hrow
  rw [(Store.updateTargets_ok hu).1] at hmem
  obtain ⟨t₀, -, rfl⟩ := mem_updateWhere hmem
  by_cases hp : t₀.ref = ref
  · simp [hp]
  · simp only [hp, decide_false, Bool.false_eq_true, if_false] at href

/-- **A request to refresh is kept unless it is put off.** What `SetDueNow` accepts is kept through every interleaving
in which no commit of a run from before it, and no reschedule, writes a next run after it. -/
theorem refresh_request_kept (notificationLength : SnapshotMetadata → Nat) (before after : List CrewOp)
    (ref : TargetRef) (t : Time) (s : Store) (row : TargetRow)
    (hdue : (final (Crew.exec notificationLength) {} before).store.setDueNow ref t = .ok s)
    (hrow : s.targetByRef? ref = some row) :
    let w := final (Crew.exec notificationLength) {} before
    let request : RefreshRequest := { id := row.id, due := t, before := w.fetching }
    (∀ op ∈ after, RefreshRequest.reconciles op = false) →
    (∀ e ∈ trace (Crew.exec notificationLength) { w with store := s } after,
      request.putsOff e.pre.store e.op = false) →
    request.Kept (trace (Crew.exec notificationLength) { w with store := s } after)
      (final (Crew.exec notificationLength) { w with store := s } after) := by
  intro w request hscope hput
  have hkeyed : s.TargetsKeyed := (Store.setDueNow_ok hdue).keyed (Crew.sound_run notificationLength before).store.targets
  have hstart : request.Standing [] { w with store := s } := fun _ =>
    .inl ⟨row, lookup_of_nodup hkeyed.nodup (lookup_mem hrow).1, Store.setDueNow_due hdue hrow⟩
  exact history_inv hstart after (fun _ _ op hop h => exec_standing op (hscope op hop) h) hput

/-! ### A request that is kept, and requests that are lost -/

def polledRef : TargetRef := { host := "h", kind := .courseCatalog, resourceKey := "all" }

def polledClaim (worker : String) (now : Time) : CrewOp :=
  .transaction (.claimOne [] { ref := polledRef, now := now, workerID := worker, leaseDuration := minute })

/-- The commit of the lease of that generation, with the next run a minute later. -/
def polledCommit (worker : String) (generation : Int) (now : Time) : CrewOp :=
  .transaction (.commit { databaseNow := now, qualityNow := now, staleNow := now }
    { targetID := 1, workerID := worker, leaseGeneration := generation, outcome := .unchanged
      startedAt := now, finishedAt := now, nextRunAt := now + minute, currentInterval := minute
      consecutiveFailures := 0, recentChanges := [] })

/-- A target of which worker `a` takes the lease at second 10, and then `ops`. -/
def polled (ops : List CrewOp) : Crew :=
  final (Crew.exec fun _ => 0) {} ([.transaction (.seedHost 0
      { host := "h", baselineRequestsPerSecond := 1, burst := 1, baselineConcurrency := 1, now := second }),
    .transaction (.seed second [{ ref := polledRef, initialInterval := minute, minInterval := minute
                                  maxInterval := minute, maxServeAge := hour, nextRunAt := second }]),
    polledClaim "a" (10 * second)] ++ ops)

def requested (w : Crew) : Crew :=
  { w with store := (w.store.settle (w.store.setDueNow polledRef (11 * second))).1 }

theorem polled_requested : ∀ ops ∈ [[], [CrewOp.fetch (1, 1)]],
    (polled ops).store.setDueNow polledRef (11 * second) = .ok (requested (polled ops)).store ∧
      ∃ row, (requested (polled ops)).store.targetByRef? polledRef = some row ∧ row.id = 1 ∧ row.enabled = true := by
  intro ops hops
  have haccepted : ∀ ops ∈ [[], [CrewOp.fetch (1, 1)]], ((polled ops).store.settle
      ((polled ops).store.setDueNow polledRef (11 * second))).2 = .done := by decide +kernel
  have hrow : ∀ ops ∈ [[], [CrewOp.fetch (1, 1)]], ((requested (polled ops)).store.targetByRef? polledRef).map
      (fun row => (row.id, row.enabled)) = some (1, true) := by decide +kernel
  obtain ⟨row, hrow, hcolumns⟩ := Option.map_eq_some_iff.mp (hrow ops hops)
  exact ⟨Store.settle_done (haccepted ops hops), row, hrow, Prod.mk.inj hcolumns⟩

/-- Worker `a` had begun its fetch before the request. Its lease expires, worker `b` runs, and the commit of `a` comes too
late. -/
def overtaken : List CrewOp :=
  [polledClaim "b" (80 * second), .fetch (1, 2), polledCommit "a" 1 (81 * second), polledCommit "b" 2 (82 * second)]

theorem refresh_request_kept_overtaken :
    (polled [.fetch (1, 1)]).store.setDueNow polledRef (11 * second) = .ok (requested (polled [.fetch (1, 1)])).store ∧
      RefreshRequest.Kept { id := 1, due := 11 * second, before := [(1, 1)] }
        (trace (Crew.exec fun _ => 0) (requested (polled [.fetch (1, 1)])) overtaken)
        (final (Crew.exec fun _ => 0) (requested (polled [.fetch (1, 1)])) overtaken) := by
  obtain ⟨haccepted, row, hrow, hid, -⟩ := polled_requested [.fetch (1, 1)] (by decide)
  have hbefore : (polled [.fetch (1, 1)]).fetching = [(1, 1)] := by decide +kernel
  have hput : ∀ e ∈ trace (Crew.exec fun _ => 0) (requested (polled [.fetch (1, 1)])) overtaken,
      RefreshRequest.putsOff { id := 1, due := 11 * second, before := [(1, 1)] } e.pre.store e.op = false := by
    decide +kernel
  have hkept := refresh_request_kept (fun _ => 0) _ overtaken polledRef (11 * second) _ row haccepted hrow (by decide)
  rw [hid] at hkept
  rw [← hbefore] at hput ⊢
  exact ⟨haccepted, hkept hput⟩

theorem RefreshRequest.not_kept {request : RefreshRequest} {w : Crew}
    (hlate : ∀ row ∈ w.store.target? request.id, request.due < row.nextRunAt)
    (hevents : ∀ e ∈ events, request.answeredBy e = false) : ¬ request.Kept events w := by
  rintro (⟨row, hrow, hdue⟩ | ⟨e, he, hanswered⟩)
  · exact absurd hdue (not_le.mpr (hlate row hrow))
  · rw [hevents e he] at hanswered
    cases hanswered

/-- Worker `a` had begun its fetch before the request and commits; or it gets no permit and reschedules. -/
def lostRequests : List (List CrewOp × List CrewOp) :=
  [([.fetch (1, 1)], [polledCommit "a" 1 (12 * second)]),
    ([], [.transaction (.rescheduleLease (12 * second) 1 1 (30 * second))])]

theorem refresh_request_lost : lostRequests.length = 2 ∧ ∀ run ∈ lostRequests,
    ((polled run.1).store.setDueNow polledRef (11 * second) = .ok (requested (polled run.1)).store ∧
      ∃ row, (requested (polled run.1)).store.targetByRef? polledRef = some row ∧ row.id = 1 ∧ row.enabled = true) ∧
    ¬ RefreshRequest.Kept { id := 1, due := 11 * second, before := (polled run.1).fetching }
      (trace (Crew.exec fun _ => 0) (requested (polled run.1)) run.2)
      (final (Crew.exec fun _ => 0) (requested (polled run.1)) run.2) := by
  refine ⟨rfl, fun run hrun => ?_⟩
  have hops : ∀ run ∈ lostRequests, run.1 ∈ [[], [CrewOp.fetch (1, 1)]] := by decide
  have hlate : ∀ run ∈ lostRequests, ∀ row ∈ (final (Crew.exec fun _ => 0) (requested (polled run.1))
      run.2).store.target? 1, 11 * second < row.nextRunAt := by decide +kernel
  have hevents : ∀ run ∈ lostRequests, ∀ e ∈ trace (Crew.exec fun _ => 0) (requested (polled run.1)) run.2,
      RefreshRequest.answeredBy { id := 1, due := 11 * second, before := (polled run.1).fetching } e = false := by
    decide +kernel
  exact ⟨polled_requested run.1 (hops run hrun), RefreshRequest.not_kept (hlate run hrun) (hevents run hrun)⟩

end QrCommandCenter
