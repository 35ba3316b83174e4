import QrCommandCenter.Store.System

/-!
# The watchdog

`RunWatchdog` of `internal/scraper/scheduler.go` with `FindStaleTargets` of `internal/db/snapshot_repository.go`. Other
workers may run between its two statements.

* `SqlType`, `castExists` : the casts of the database among the types of the query;
* `findStaleTargets`, `runWatchdog` : the query and the repair of what it finds;
* `Watched` : orphaned leases are freed, and schedules that a commit has written are spared;
* `watched_iff` : the query has a cast that does not exist, so a run is right exactly if there is nothing to repair.
-/

namespace QrCommandCenter.Scraper
open Domain Table Transition

/-- The types in the query of `FindStaleTargets`. -/
inductive SqlType where
  | integer
  | text
  | timestamptz
  | interval
deriving DecidableEq, Repr

/-- The casts among them: every value is printed as text and read from it, and there is no other. -/
def castExists (source target : SqlType) : Bool := source = target || source = .text || target = .text

/-- The `WHERE` clause of `FindStaleTargets`. -/
def staleTarget (now : Time) (t : TargetRow) : Bool :=
  t.lifecycleState = .active && t.enabled &&
    (now + t.currentIntervalSeconds * 3 * second < t.nextRunAt || Store.orphaned now t)

/-- `FindStaleTargets`: `current_interval_seconds * 3` is an integer, and the query casts it to an interval. -/
def findStaleTargets (s : Store) (now : Time) : Except StoreError (List Int) :=
  if castExists .integer .interval then .ok (((s.targets.filter (staleTarget now)).take 100).map TargetRow.id)
  else .error (.invalid "find stale targets: cannot cast type integer to interval")

/-- `RunWatchdog` at `now`, with what other workers do between its statements: the tables before and after the repair. -/
def runWatchdog (notificationLength : SnapshotMetadata → Nat) (s : Store) (now : Time) (between : List Op) :
    Store × Store :=
  match findStaleTargets s now with
  | .error _ => (s, s)
  | .ok [] => (s, s)
  | .ok ids =>
    let s := final (Store.exec notificationLength) s between
    (s, (s.exec notificationLength (.repairStaleTargets ids now)).1)

/-- The row is active and enabled, and its lease ran out more than an hour before `now`. -/
def HoldsOrphan (now : Time) (t : TargetRow) : Prop :=
  t.lifecycleState = .active ∧ t.enabled = true ∧ Store.orphaned now t = true

/-- What a run of the watchdog is for; `written` has the schedules that the latest commits have written. -/
structure Watched (now : Time) (written : Int → Option Time) (run : Store × Store) : Prop where
  freed : ∀ t ∈ run.2.targets, HoldsOrphan now t → t.leaseOwner = none ∧ t.nextRunAt ≤ now
  spared : ∀ t ∈ run.1.targets, (∀ at_, t.leaseExpiresAt = some at_ → now ≤ at_) → written t.id = some t.nextRunAt →
    run.2.target? t.id = run.1.target? t.id

theorem findStaleTargets_error (s : Store) (now : Time) : ∃ err, findStaleTargets s now = .error err :=
  ⟨_, if_neg (by decide)⟩

theorem runWatchdog_eq (len : SnapshotMetadata → Nat) (s : Store) (now : Time) (between : List Op) :
    runWatchdog len s now between = (s, s) := by
  obtain ⟨err, herr⟩ := findStaleTargets_error s now
  simp only [runWatchdog, herr]

/-- **A run of the watchdog does its work exactly if no lease is orphaned**, whatever happens between its statements. -/
theorem watched_iff (notificationLength : SnapshotMetadata → Nat) (s : Store) (now : Time) (between : List Op) :
    (∀ written, Watched now written (runWatchdog notificationLength s now between)) ↔
      ∀ t ∈ s.targets, HoldsOrphan now t → t.leaseOwner = none ∧ t.nextRunAt ≤ now := by
  rw [runWatchdog_eq]
  constructor
  · exact fun h => (h fun _ => none).freed
  · exact fun h written => ⟨h, fun t _ _ _ => rfl⟩

/-- A target whose worker died two hours ago. -/
def orphanedStore : Store :=
  { targets := [{ Store.seedRow 1 0 { ref := { host := "h", kind := .courseCatalog, resourceKey := "all" }
                                      initialInterval := minute, minInterval := minute, maxInterval := minute
                                      maxServeAge := minute, nextRunAt := second } with
      leaseOwner := some "worker", leaseGeneration := 1, leaseExpiresAt := some minute }]
    nextTargetId := 2 }

/-- **The watchdog leaves the lease of a dead worker in place.** -/
theorem orphan_not_freed :
    (∀ t ∈ orphanedStore.targets, HoldsOrphan (2 * hour) t) ∧
      ¬ ∃ written, Watched (2 * hour) written (runWatchdog (fun _ => 0) orphanedStore (2 * hour) []) := by
  have horphan : ∀ t ∈ orphanedStore.targets, HoldsOrphan (2 * hour) t := by
    unfold HoldsOrphan
    decide +kernel
  refine ⟨horphan, fun ⟨written, h⟩ => ?_⟩
  rw [runWatchdog_eq] at h
  have howned : ∀ t ∈ orphanedStore.targets, t.leaseOwner ≠ none := by decide +kernel
  exact howned _ List.mem_cons_self (h.freed _ List.mem_cons_self (horphan _ List.mem_cons_self)).1

end QrCommandCenter.Scraper
