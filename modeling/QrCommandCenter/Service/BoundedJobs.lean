import Mathlib.Algebra.Order.Ring.Int
import Mathlib.Data.List.Nodup
import QrCommandCenter.Lib.Tokens
import QrCommandCenter.Lib.Transition

/-!
# Bounded jobs

`runBoundedJobs` of `internal/service/teacher.go` and `runBoundedIndices` of `internal/warwick/classroom_courses.go` are one
algorithm: workers take indices from a counter of 64 bits, and look at the context before each job.

* `JobPool.Dealt` : every index below the counter was run, is with a worker, or was dropped for the end of the context;
* `JobPool.Ran`, `bounded_ran` : which jobs run, as long as the counter does not overflow.
-/

namespace QrCommandCenter.Service
open Transition Tokens

inductive JobWorker where
  | taking
  /-- has an index, and looks at the context next -/
  | checking (index : Int)
  | running (index : Int)
  | done
deriving DecidableEq, Repr

structure JobPool where
  workers : List JobWorker
  /-- How often `next.Add(1)` was called. -/
  next : Nat := 0
  cancelled : Bool := false
  /-- The calls of `fn`. -/
  ran : List Int := []
  /-- The indices of the workers that found the context ended. -/
  dropped : List Int := []

inductive JobOp where
  | cancel
  | step (w : Nat)

/-- `int(next.Add(1) - 1)` after `n` additions. -/
def jobIndex (n : Nat) : Int := (n : Int).bmod (2 ^ 64)

/-- The number of workers; without jobs there are none. -/
def jobConcurrency (count concurrency : Int) : Nat :=
  let concurrency := if concurrency ≤ 0 then 1 else concurrency
  (if count < concurrency then count else concurrency).toNat

namespace JobPool

def exec (count : Int) (s : JobPool) : JobOp → JobPool × Unit
  | .cancel => ({ s with cancelled := true }, ())
  | .step w =>
    match s.workers[w]? with
    | some .taking =>
      let worker := if jobIndex s.next < count then .checking (jobIndex s.next) else .done
      ({ s with workers := s.workers.set w worker, next := s.next + 1 }, ())
    | some (.checking index) =>
      if s.cancelled then ({ s with workers := s.workers.set w .done, dropped := index :: s.dropped }, ())
      else ({ s with workers := s.workers.set w (.running index), ran := index :: s.ran }, ())
    | some (.running _) => ({ s with workers := s.workers.set w .taking }, ())
    | _ => (s, ())

/-- The function returns once all workers have, with whether the context has ended by then. -/
def result (s : JobPool) : Option Bool := if s.workers.all (· = .done) then some s.cancelled else none

def running (s : JobPool) : List JobWorker := s.workers.filter fun worker => worker matches .running _

end JobPool

/-- The state after an interleaving of the workers. -/
def boundedRun (count concurrency : Int) (ops : List JobOp) : JobPool :=
  final (JobPool.exec count) { workers := .replicate (jobConcurrency count concurrency) .taking } ops

def runBoundedJobs (count concurrency : Int) (ops : List JobOp) : JobPool := boundedRun count concurrency ops

def runBoundedIndices (count concurrency : Int) (ops : List JobOp) : JobPool := boundedRun count concurrency ops

/-! ## Where the indices are -/

/-- A worker has an index to run, or has returned. -/
def JobWorker.token : JobWorker → Option (Option Int)
  | .checking index => some (some index)
  | .done => some none
  | _ => none

namespace JobPool
variable {count concurrency : Int} {n : Nat} {s : JobPool}

/-- How often the index was taken from the counter. -/
def taken (count : Int) (next : Nat) (x : Int) : Nat := if 0 ≤ x ∧ x < count ∧ x < next then 1 else 0

structure Dealt (count : Int) (n : Nat) (s : JobPool) : Prop where
  size : s.workers.length = n
  share : ∀ x, s.ran.count x + s.dropped.count x + holders JobWorker.token s.workers (some x) = taken count s.next x
  dropped : s.cancelled = false → s.dropped = []
  next : s.next ≤ count.toNat + holders JobWorker.token s.workers none
  exits : .done ∈ s.workers → s.cancelled = true ∨ count ≤ s.next

theorem dealt_start (count : Int) (n : Nat) : Dealt count n { workers := .replicate n .taking } where
  size := List.length_replicate
  share := by
    intro x
    have htaken : taken count 0 x = 0 := if_neg (by omega)
    simp [holders, htaken, JobWorker.token, List.countP_replicate]
  dropped := fun _ => rfl
  next := Nat.zero_le _
  exits := fun hdone => by cases List.eq_of_mem_replicate hdone

section Step
variable (h : s.Dealt count n) {w : Nat} {old : JobWorker} (hw : s.workers[w]? = some old) (hold : old ≠ .done)
include h hw hold

/-- The counter does not overflow while a worker takes an index. -/
theorem Dealt.jobIndex_next (hsize : count.toNat + n ≤ 2 ^ 63) : jobIndex s.next = s.next := by
  have hlt : holders JobWorker.token s.workers none < n := by
    rw [← h.size]
    refine lt_of_le_of_ne List.countP_le_length fun heq => ?_
    have htoken := of_decide_eq_true (List.countP_eq_length.mp heq old (List.mem_of_getElem? hw))
    cases old with
    | done => exact hold rfl
    | _ => cases htoken
  have hnext := h.next
  exact Int.bmod_eq_of_le (by omega) (by omega)

theorem Dealt.move (new : JobWorker) {next : Nat} {ran dropped : List Int}
    (hshare : ∀ x, ran.count x + dropped.count x + weight new.token (some x) + taken count s.next x =
      s.ran.count x + s.dropped.count x + weight old.token (some x) + taken count next x)
    (hdropped : s.cancelled = false → dropped = s.dropped)
    (hnext : next ≤ s.next + weight new.token none ∨ next ≤ count.toNat) (hle : s.next ≤ next)
    (hexits : new = .done → s.cancelled = true ∨ count ≤ next) :
    Dealt count n { s with workers := s.workers.set w new, next := next, ran := ran, dropped := dropped } := by
  have hset : ∀ x, holders JobWorker.token (s.workers.set w new) x + weight old.token x =
      holders JobWorker.token s.workers x + weight new.token x := fun x => holders_set hw
  refine ⟨List.length_set.trans h.size, fun x => ?_, fun hopen => (hdropped hopen).trans (h.dropped hopen), ?_, fun hdone => ?_⟩
  · have := h.share x
    have := hset (some x)
    have := hshare x
    show ran.count x + dropped.count x + holders JobWorker.token (s.workers.set w new) (some x) = taken count next x
    omega
  · have := h.next
    have := hset none
    have hother : weight old.token none = 0 := by
      cases old with
      | done => exact absurd rfl hold
      | _ => rfl
    show next ≤ count.toNat + holders JobWorker.token (s.workers.set w new) none
    omega
  · rcases List.mem_or_eq_of_mem_set hdone with hmem | heq
    · exact (h.exits hmem).imp id fun hcount => hcount.trans (Int.ofNat_le.mpr hle)
    · exact hexits heq.symm

end Step

/-- **Every step keeps the account of the indices.** -/
theorem exec_dealt (hsize : count.toNat + n ≤ 2 ^ 63) (s : JobPool) (op : JobOp) (h : s.Dealt count n) :
    (s.exec count op).1.Dealt count n := by
  cases op with
  | cancel => exact ⟨h.size, h.share, fun hopen => (by cases hopen), h.next, fun _ => .inl rfl⟩
  | step w =>
    simp only [exec]
    split
    · next hw =>
      have hindex := h.jobIndex_next hw (by simp) hsize
      refine h.move hw (by simp) _ (fun x => ?_) (fun _ => rfl) ?_ (Nat.le_succ _) fun hdone => .inr ?_
      · simp only [hindex, taken, weight]
        split_ifs <;> simp_all [JobWorker.token] <;> omega
      · split_ifs
        · exact .inr (by omega)
        · exact .inl (le_refl _)
      · rw [hindex] at hdone
        split at hdone
        · cases hdone
        · omega
    · next index hw =>
      split
      · next hc =>
        refine h.move hw (by simp) .done (fun x => ?_) (fun hopen => ?_) (.inl (Nat.le_succ _)) (le_refl _) fun _ => .inl hc
        · simp [weight, JobWorker.token, List.count_cons]
          omega
        · rw [hc] at hopen
          cases hopen
      · refine h.move hw (by simp) (.running index) (fun x => ?_) (fun _ => rfl) (.inl (le_refl _)) (le_refl _) (by simp)
        simp [weight, JobWorker.token, List.count_cons]
        omega
    · next hw => exact h.move hw (by simp) .taking (fun _ => rfl) (fun _ => rfl) (.inl (le_refl _)) (le_refl _) (by simp)
    · exact h

/-- Every index is run at most once and no other, the jobs that run at once are bounded, none runs any more when the
function returns, and it returns nil only if all of them ran. -/
structure Ran (count concurrency : Int) (s : JobPool) : Prop where
  once : s.ran.Nodup
  indices : ∀ index ∈ s.ran, 0 ≤ index ∧ index < count
  bounded : (s.running.length : Int) ≤ max 1 concurrency
  finished : s.result ≠ none → s.running = []
  complete : s.result = some false → ∀ index, 0 ≤ index → index < count → index ∈ s.ran

/-- When the workers have returned, none runs a job; and with an open context every index was run. -/
theorem Dealt.of_done (h : s.Dealt count n) (hdone : ∀ worker ∈ s.workers, worker = .done) :
    s.running = [] ∧ (s.cancelled = false → (0 < count → 0 < n) → ∀ x, 0 ≤ x → x < count → x ∈ s.ran) := by
  constructor
  · refine List.filter_eq_nil_iff.mpr fun worker hworker => ?_
    rw [hdone worker hworker]
    simp
  intro hopen hn x hx hcount
  obtain ⟨worker, hworker⟩ := List.exists_mem_of_length_pos (h.size.symm ▸ hn (hx.trans_lt hcount))
  have hnext := (h.exits (hdone worker hworker ▸ hworker)).resolve_left (by simp [hopen])
  have hnone : holders JobWorker.token s.workers (some x) = 0 := by
    refine List.countP_eq_zero.mpr fun worker hworker => ?_
    rw [hdone worker hworker]
    simp [JobWorker.token]
  have hshare := h.share x
  rw [hnone, h.dropped hopen, taken, if_pos ⟨hx, hcount, hcount.trans_le hnext⟩] at hshare
  exact List.count_pos_iff.mp (by rw [List.count_nil] at hshare; omega)

theorem Dealt.ran (h : s.Dealt count (jobConcurrency count concurrency)) : s.Ran count concurrency := by
  have hle : ∀ x, s.ran.count x ≤ taken count s.next x := by
    intro x
    have := h.share x
    omega
  have hresult : ∀ failed, s.result = some failed → (∀ worker ∈ s.workers, worker = .done) ∧ s.cancelled = failed := by
    intro failed hresult
    unfold result at hresult
    split at hresult
    · next hdone => exact ⟨by simpa using hdone, Option.some.inj hresult⟩
    · cases hresult
  refine ⟨List.nodup_iff_count_le_one.mpr fun x => ?_, fun x hx => ?_, ?_, fun hsome => ?_, fun hsome => ?_⟩
  · refine (hle x).trans ?_
    unfold taken
    split <;> omega
  · have hpos := (List.count_pos_iff.mpr hx).trans_le (hle x)
    unfold taken at hpos
    split at hpos <;> omega
  · have hlength : s.running.length ≤ jobConcurrency count concurrency := h.size ▸ List.length_filter_le _ _
    simp only [jobConcurrency] at hlength
    split_ifs at hlength <;> omega
  · obtain ⟨failed, hfailed⟩ := Option.ne_none_iff_exists'.mp hsome
    exact (h.of_done (hresult failed hfailed).1).1
  · refine (h.of_done (hresult false hsome).1).2 (hresult false hsome).2 fun hcount => ?_
    unfold jobConcurrency
    dsimp only
    split_ifs <;> omega

end JobPool

/-- **The jobs of both functions**, over every interleaving, when the counter does not overflow. -/
theorem bounded_ran {count concurrency : Int} (h : count + jobConcurrency count concurrency ≤ 2 ^ 63) (ops : List JobOp) :
    (runBoundedJobs count concurrency ops).Ran count concurrency ∧
      (runBoundedIndices count concurrency ops).Ran count concurrency := by
  have hsize : count.toNat + jobConcurrency count concurrency ≤ 2 ^ 63 := by
    unfold jobConcurrency at h ⊢
    dsimp only at h ⊢
    split_ifs at h ⊢ <;> omega
  have hran : (boundedRun count concurrency ops).Ran count concurrency :=
    (final_inv (JobPool.exec_dealt hsize) (JobPool.dealt_start count _) ops).ran
  exact ⟨hran, hran⟩

theorem bounded_ran_cancelled : 2 ∉ (runBoundedJobs 3 2 [.step 0, .step 1, .step 0, .cancel, .step 1]).ran ∧
    (runBoundedJobs 3 2 [.step 0, .step 1, .step 0, .cancel, .step 1]).Ran 3 2 :=
  ⟨by decide, (bounded_ran (by decide) _).1⟩

/-! ### A counter that overflows -/

/-- The first worker runs `n` jobs. -/
def soloJobs : Nat → List JobOp
  | 0 => []
  | n + 1 => soloJobs n ++ [.step 0, .step 0, .step 0]

theorem soloJobs_run {count : Int} {worker : JobWorker} {n : Nat} (hn : n ≤ count) (hcount : count < 2 ^ 63) :
    ∃ ran, final (JobPool.exec count) { workers := [.taking, worker] } (soloJobs n) =
      { workers := [.taking, worker], next := n, ran := ran } := by
  induction n with
  | zero => exact ⟨[], rfl⟩
  | succ n ih =>
    obtain ⟨ran, hran⟩ := ih (by omega)
    have hindex : jobIndex n = n := Int.bmod_eq_of_le (by omega) (by omega)
    have hlt : jobIndex n < count := by omega
    refine ⟨jobIndex n :: ran, ?_⟩
    rw [soloJobs, final_append, hran]
    simp [JobPool.exec, hlt]

/-- **With the largest count and two workers, a negative index is run.** -/
theorem overflow_runs_other : ¬ ∀ ops, (runBoundedJobs 9223372036854775807 2 ops).Ran 9223372036854775807 2 := by
  intro h
  obtain ⟨ran, hran⟩ := @soloJobs_run 9223372036854775807 .taking 9223372036854775807 (by omega) (by omega)
  have hindices := (h (soloJobs 9223372036854775807 ++ [.step 0, .step 1, .step 1])).indices (-9223372036854775808)
  have hworkers : List.replicate (jobConcurrency 9223372036854775807 2) JobWorker.taking = [.taking, .taking] := by
    simp [jobConcurrency, List.replicate]
  have hlast : jobIndex 9223372036854775807 = 9223372036854775807 := by decide
  have hnext : jobIndex 9223372036854775808 = -9223372036854775808 := by decide
  rw [runBoundedJobs, boundedRun, hworkers, final_append, hran] at hindices
  simp [JobPool.exec, hlast, hnext] at hindices

end QrCommandCenter.Service
