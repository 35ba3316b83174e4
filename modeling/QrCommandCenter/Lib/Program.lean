import QrCommandCenter.Lib.Heap
import QrCommandCenter.Lib.Transition

/-!
# Programs that make calls, and threads that interleave

A program makes calls `e : ε` one after the other and goes on with their answers `ρ e`. The same program is run alone
(`Prog.run`) or as one of the threads of a pool (`Machine.exec`), which any thread may leave at any call.

* `Prog`, `perform` : programs, a monad;
* `Prog.Ensures` : what holds whenever a program returns (`ensures_perform`, `Ensures.bind`, `Ensures.mono`);
* `recording` : the same runs with an account of the calls (`run_of_recording`);
* `Protocol`, `Protocol.Leads` : what a program may call at each stage, and where it ends (`leads_bind`, `leads_mono`, `Leads.bind`);
* `Pool`, `PoolOp`, `Machine.exec` : threads over a shared state, with a log of the calls that were answered;
* `PoolStep` : all that an operation can do to a pool of threads that follow their protocol (`exec_poolStep`,
  `PoolStep.thread`);
* `Follows`, `exec_follows` : every thread of a run follows its protocol;
* `exec_alone` : a thread that goes on alone does what `Prog.run` does.
-/

namespace QrCommandCenter.Program
open Transition

/-- A program that makes calls `e` and goes on with their answers. -/
inductive Prog (ε : Type) (ρ : ε → Type) (α : Type) where
  | done (a : α)
  | call (e : ε) (k : ρ e → Prog ε ρ α)

variable {ε : Type} {ρ : ε → Type} {α β σ ι κ : Type}

namespace Prog

protected def bind : Prog ε ρ α → (α → Prog ε ρ β) → Prog ε ρ β
  | .done a, f => f a
  | .call e k, f => .call e fun r => (k r).bind f

instance : Monad (Prog ε ρ) where
  pure := .done
  bind := Prog.bind

/-- The program alone: `handle` answers every call, or blocks. -/
def run (handle : σ → (e : ε) → Option (σ × ρ e)) : Prog ε ρ α → σ → Option (σ × α)
  | .done a, s => some (s, a)
  | .call e k, s =>
    match handle s e with
    | none => none
    | some (s', r) => (k r).run handle s'

def result : Prog ε ρ α → Option α
  | .done a => some a
  | .call _ _ => none

def next : Prog ε ρ α → Option ε
  | .done _ => none
  | .call e _ => some e

end Prog

def perform (e : ε) : Prog ε ρ (ρ e) := .call e .done

@[simp] theorem bind_call (e : ε) (k : ρ e → Prog ε ρ α) (f : α → Prog ε ρ β) :
    (Prog.call e k >>= f) = .call e fun r => k r >>= f := rfl

@[simp] theorem perform_bind (e : ε) (f : ρ e → Prog ε ρ β) : (perform e >>= f) = .call e f := rfl

section Run
variable {handle : σ → (e : ε) → Option (σ × ρ e)}

theorem run_call (e : ε) (k : ρ e → Prog ε ρ α) (s : σ) :
    (Prog.call e k).run handle s = (handle s e).bind fun r => (k r.2).run handle r.1 := by
  rw [Prog.run]
  cases handle s e <;> rfl

theorem run_perform {e : ε} {s s' : σ} {r : ρ e} (f : ρ e → Prog ε ρ β) (h : handle s e = some (s', r)) :
    (perform e >>= f).run handle s = (f r).run handle s' := by
  rw [perform_bind, run_call, h, Option.bind_some]

theorem run_bind (p : Prog ε ρ α) (f : α → Prog ε ρ β) (s : σ) :
    (p >>= f).run handle s = (p.run handle s).bind fun r => (f r.2).run handle r.1 := by
  induction p generalizing s with
  | done a => rfl
  | call e k ih =>
    rw [bind_call, run_call, run_call]
    cases handle s e with
    | none => rfl
    | some r => exact ih r.2 r.1

end Run

/-! ## Partial correctness -/

/-- Whenever the program returns from `s`, `Q` holds of the state it leaves and of its result. -/
def Prog.Ensures (handle : σ → (e : ε) → Option (σ × ρ e)) (Q : σ → α → Prop) (p : Prog ε ρ α) (s : σ) : Prop :=
  ∀ s' a, p.run handle s = some (s', a) → Q s' a

variable {p : Prog ε ρ α}

section Ensures
variable {handle : σ → (e : ε) → Option (σ × ρ e)} {s : σ}

theorem ensures_done {Q : σ → α → Prop} {a : α} (h : Q s a) : (Prog.done a : Prog ε ρ α).Ensures handle Q s := by
  intro s' b hrun
  cases hrun
  exact h

theorem ensures_perform {Q : σ → β → Prop} {e : ε} {f : ρ e → Prog ε ρ β}
    (h : ∀ s' r, handle s e = some (s', r) → (f r).Ensures handle Q s') : (perform e >>= f).Ensures handle Q s := by
  intro s' b hrun
  rw [perform_bind, run_call] at hrun
  obtain ⟨⟨s₁, r⟩, hhandle, hrest⟩ := Option.bind_eq_some_iff.mp hrun
  exact h s₁ r hhandle s' b hrest

theorem Ensures.bind {R : σ → α → Prop} {Q : σ → β → Prop} {f : α → Prog ε ρ β}
    (hp : p.Ensures handle R s) (hf : ∀ s' a, R s' a → (f a).Ensures handle Q s') : (p >>= f).Ensures handle Q s := by
  intro s' b hrun
  rw [run_bind] at hrun
  obtain ⟨⟨s₁, a⟩, hfirst, hrest⟩ := Option.bind_eq_some_iff.mp hrun
  exact hf s₁ a (hp s₁ a hfirst) s' b hrest

theorem Ensures.mono {Q Q' : σ → α → Prop} (hp : p.Ensures handle Q s)
    (hQ : ∀ s' a, Q s' a → Q' s' a) : p.Ensures handle Q' s :=
  fun s' a hrun => hQ s' a (hp s' a hrun)

end Ensures

/-! ## An account of the calls -/

section Recording
variable {τ : Type} {handle : σ → (e : ε) → Option (σ × ρ e)} {note : ε → τ → τ}

/-- The answers of `handle`, with an account that notes every call that is answered. -/
def recording (handle : σ → (e : ε) → Option (σ × ρ e)) (note : ε → τ → τ) (s : σ × τ) (e : ε) :
    Option ((σ × τ) × ρ e) :=
  (handle s.1 e).map fun r => ((r.1, note e s.2), r.2)

theorem run_of_recording {s s' : σ × τ} {a : α} (h : p.run (recording handle note) s = some (s', a)) :
    p.run handle s.1 = some (s'.1, a) := by
  induction p generalizing s with
  | done b =>
    cases h
    rfl
  | call e k ih =>
    rw [run_call] at h
    obtain ⟨⟨s₁, r⟩, hrecord, hrest⟩ := Option.bind_eq_some_iff.mp h
    obtain ⟨⟨s₂, r'⟩, hhandle, heq⟩ := Option.map_eq_some_iff.mp hrecord
    cases heq
    rw [run_call, hhandle]
    exact ih _ hrest

end Recording

/-! ## Protocols -/

/-- What the program of a request may call at each stage, the stage after each answer, and the results it may end with. -/
structure Protocol (ε : Type) (ρ : ε → Type) (α ι : Type) where
  Stage : Type
  initial : Stage
  Allowed : ι → Stage → ε → Prop
  next : ι → Stage → (e : ε) → ρ e → Stage
  Ends : ι → Stage → α → Prop

/-- From a stage, the program makes allowed calls only, and ends with `Q`. -/
def Protocol.Leads (P : Protocol ε ρ α ι) (request : ι) (Q : P.Stage → β → Prop) : P.Stage → Prog ε ρ β → Prop
  | stage, .done b => Q stage b
  | stage, .call e k =>
    P.Allowed request stage e ∧ ∀ r, Protocol.Leads P request Q (P.next request stage e r) (k r)

def Protocol.Follows (P : Protocol ε ρ α ι) (request : ι) : P.Stage → Prog ε ρ α → Prop :=
  P.Leads request (P.Ends request)

section Leads
variable {P : Protocol ε ρ α ι} {request : ι} {stage : P.Stage} {γ : Type}

theorem leads_perform (Q : P.Stage → β → Prop) (e : ε) (f : ρ e → Prog ε ρ β) :
    P.Leads request Q stage (perform e >>= f) ↔
      P.Allowed request stage e ∧ ∀ r, P.Leads request Q (P.next request stage e r) (f r) := Iff.rfl

theorem leads_bind (Q : P.Stage → γ → Prop) (p : Prog ε ρ β) (f : β → Prog ε ρ γ) :
    P.Leads request Q stage (p >>= f) ↔ P.Leads request (fun st b => P.Leads request Q st (f b)) stage p := by
  induction p generalizing stage with
  | done b => exact Iff.rfl
  | call e k ih => exact and_congr Iff.rfl (forall_congr' fun r => ih r)

theorem leads_mono {Q Q' : P.Stage → β → Prop} (hQ : ∀ st b, Q st b → Q' st b) {p : Prog ε ρ β}
    (h : P.Leads request Q stage p) : P.Leads request Q' stage p := by
  induction p generalizing stage with
  | done b => exact hQ stage b h
  | call e k ih => exact ⟨h.1, fun r => ih r (h.2 r)⟩

theorem Leads.bind {Q : P.Stage → β → Prop} {Q' : P.Stage → γ → Prop} {p : Prog ε ρ β} {f : β → Prog ε ρ γ}
    (h : P.Leads request Q stage p) (hf : ∀ st b, Q st b → P.Leads request Q' st (f b)) :
    P.Leads request Q' stage (p >>= f) :=
  (leads_bind Q' p f).mpr (leads_mono hf h)

end Leads

/-! ## Threads -/

/-- The thread of a request, with its stage; it has no program any more once it has crashed. -/
structure Thread (P : Protocol ε ρ α ι) where
  request : ι
  stage : P.Stage
  program : Option (Prog ε ρ α)

section
variable {P : Protocol ε ρ α ι}

def Thread.outcome (thread : Thread P) : Option α := thread.program.bind Prog.result

theorem Thread.outcome_eq_some {thread : Thread P} {a : α} :
    thread.outcome = some a ↔ thread.program = some (.done a) := by
  obtain ⟨request, stage, program⟩ := thread
  cases program with
  | none => simp [Thread.outcome]
  | some p => cases p <;> simp [Thread.outcome, Prog.result]

/-- The call that the thread is about to make. -/
def Thread.next (thread : Thread P) : Option ε := thread.program.bind Prog.next

end

structure Entry (ε : Type) (ρ : ε → Type) (ι : Type) where
  caller : Nat
  request : ι
  effect : ε
  answer : ρ effect

/-- The threads over the shared state, and the calls so far. -/
structure Pool (σ : Type) (P : Protocol ε ρ α ι) where
  shared : σ
  threads : List (Thread P) := []
  log : List (Entry ε ρ ι) := []

/-- A new thread, the next call of a thread with what the environment chooses for it, or the end of a thread. -/
inductive PoolOp (ι κ : Type) where
  | start (request : ι)
  | step (i : Nat) (choice : κ)
  | crash (i : Nat)

/-- How threads start, how their calls are answered and what a crash leaves; a call that is not answered blocks. -/
structure Machine (P : Protocol ε ρ α ι) (σ κ : Type) where
  program : ι → Prog ε ρ α
  handle : Nat → κ → σ → (e : ε) → Option (σ × ρ e)
  abort : Nat → σ → σ

section Machine
variable {P : Protocol ε ρ α ι} (M : Machine P σ κ)

def Machine.advance (pool : Pool σ P) (i : Nat) (choice : κ) : Pool σ P :=
  match pool.threads[i]? with
  | some ⟨request, stage, some (.call e k)⟩ =>
    match M.handle i choice pool.shared e with
    | some (s', r) =>
      { shared := s'
        threads := pool.threads.set i ⟨request, P.next request stage e r, some (k r)⟩
        log := pool.log ++ [⟨i, request, e, r⟩] }
    | none => pool
  | _ => pool

/-- The end of thread `i`, unless it had returned. -/
def Machine.drop (pool : Pool σ P) (i : Nat) : Pool σ P :=
  match pool.threads[i]? with
  | some ⟨request, stage, some (.call _ _)⟩ =>
    { pool with shared := M.abort i pool.shared, threads := pool.threads.set i ⟨request, stage, none⟩ }
  | _ => pool

def Machine.exec (pool : Pool σ P) : PoolOp ι κ → Pool σ P × Unit
  | .start request =>
    ({ pool with threads := pool.threads ++ [⟨request, P.initial, some (M.program request)⟩] }, ())
  | .step i choice => (M.advance pool i choice, ())
  | .crash i => (M.drop pool i, ())

/-- Every thread that has not crashed follows its protocol from its stage. -/
def Pool.Follows (pool : Pool σ P) : Prop :=
  ∀ (i : Nat) (thread : Thread P) (p : Prog ε ρ α), pool.threads[i]? = some thread → thread.program = some p →
    P.Follows thread.request thread.stage p

/-- All that an operation can do. -/
inductive PoolStep (pool : Pool σ P) : PoolOp ι κ → Pool σ P → Prop where
  | idle (op : PoolOp ι κ) : PoolStep pool op pool
  | started (request : ι) : PoolStep pool (.start request)
      { pool with threads := pool.threads ++ [⟨request, P.initial, some (M.program request)⟩] }
  | called {i : Nat} {choice : κ} {request : ι} {stage : P.Stage} {e : ε} {k : ρ e → Prog ε ρ α} {s' : σ} {r : ρ e}
      (hthread : pool.threads[i]? = some ⟨request, stage, some (.call e k)⟩) (hallowed : P.Allowed request stage e)
      (hhandle : M.handle i choice pool.shared e = some (s', r)) : PoolStep pool (.step i choice)
        { shared := s'
          threads := pool.threads.set i ⟨request, P.next request stage e r, some (k r)⟩
          log := pool.log ++ [⟨i, request, e, r⟩] }
  | crashed {i : Nat} {request : ι} {stage : P.Stage} {e : ε} {k : ρ e → Prog ε ρ α}
      (hthread : pool.threads[i]? = some ⟨request, stage, some (.call e k)⟩) : PoolStep pool (.crash i)
        { pool with shared := M.abort i pool.shared, threads := pool.threads.set i ⟨request, stage, none⟩ }

variable {M} {pool : Pool σ P}

theorem exec_poolStep (hfollows : pool.Follows) (op : PoolOp ι κ) : PoolStep M pool op (M.exec pool op).1 := by
  cases op with
  | start request => exact .started request
  | step i choice =>
    simp only [Machine.exec, Machine.advance]
    split
    · rename_i request stage e k hthread
      split
      · rename_i s' r hhandle
        exact .called hthread (hfollows i _ _ hthread rfl).1 hhandle
      · exact .idle _
    · exact .idle _
  | crash i =>
    simp only [Machine.exec, Machine.drop]
    split
    · rename_i hthread
      exact .crashed hthread
    · exact .idle _

theorem PoolStep.thread {op : PoolOp ι κ} {pool' : Pool σ P} (h : PoolStep M pool op pool') {j : Nat} {thread : Thread P}
    (hthread : pool.threads[j]? = some thread) :
    ∃ thread', pool'.threads[j]? = some thread' ∧ thread'.request = thread.request ∧
      (thread'.stage = thread.stage ∨
        ∃ e r, P.Allowed thread.request thread.stage e ∧ thread'.stage = P.next thread.request thread.stage e r) := by
  cases h with
  | idle => exact ⟨thread, hthread, rfl, .inl rfl⟩
  | started request =>
    exact ⟨thread, getElem?_append_kept hthread _, rfl, .inl rfl⟩
  | @called i choice request stage e k s' r hcaller hallowed _ =>
    by_cases hji : j = i
    · subst hji
      rw [hcaller] at hthread
      cases hthread
      exact ⟨_, getElem?_set_same hcaller, rfl, .inr ⟨e, r, hallowed, rfl⟩⟩
    · exact ⟨thread, getElem?_set_kept hji hthread, rfl, .inl rfl⟩
  | @crashed i request stage e k hcaller =>
    by_cases hji : j = i
    · subst hji
      rw [hcaller] at hthread
      cases hthread
      exact ⟨_, getElem?_set_same hcaller, rfl, .inl rfl⟩
    · exact ⟨thread, getElem?_set_kept hji hthread, rfl, .inl rfl⟩

/-- **Threads whose programs follow the protocol from its start follow it all along.** -/
theorem exec_follows (hprogram : ∀ request, P.Follows request P.initial (M.program request)) (pool : Pool σ P)
    (op : PoolOp ι κ) (hfollows : pool.Follows) : (M.exec pool op).1.Follows := by
  have hstep := exec_poolStep (M := M) hfollows op
  generalize (M.exec pool op).1 = pool' at hstep ⊢
  intro j thread p hthread hp
  cases hstep with
  | idle => exact hfollows j thread p hthread hp
  | started request =>
    rcases getElem?_append_cases hthread with ⟨-, rfl⟩ | hold
    · cases hp
      exact hprogram request
    · exact hfollows j thread p hold hp
  | @called i choice request stage e k s' r hcaller _ _ =>
    rcases getElem?_set_cases hthread with ⟨-, rfl⟩ | ⟨-, hold⟩
    · cases hp
      exact (hfollows i _ _ hcaller rfl).2 r
    · exact hfollows j thread p hold hp
  | crashed hcaller =>
    rcases getElem?_set_cases hthread with ⟨-, rfl⟩ | ⟨-, hold⟩
    · cases hp
    · exact hfollows j thread p hold hp

theorem exec_called {i : Nat} {choice : κ} {request : ι} {stage : P.Stage} {e : ε} {k : ρ e → Prog ε ρ α} {s' : σ}
    {r : ρ e} (hthread : pool.threads[i]? = some ⟨request, stage, some (.call e k)⟩)
    (hhandle : M.handle i choice pool.shared e = some (s', r)) :
    (M.exec pool (.step i choice)).1 =
      { shared := s'
        threads := pool.threads.set i ⟨request, P.next request stage e r, some (k r)⟩
        log := pool.log ++ [⟨i, request, e, r⟩] } := by
  simp only [Machine.exec, Machine.advance, hthread, hhandle]

/-- **A thread that goes on alone does what its program does.** -/
theorem exec_alone {i : Nat} {choice : κ} {s' : σ} {a : α} {thread : Thread P}
    (hthread : pool.threads[i]? = some thread) (hp : thread.program = some p)
    (hrun : p.run (M.handle i choice) pool.shared = some (s', a)) :
    ∃ n, (final M.exec pool (List.replicate n (.step i choice))).shared = s' ∧
      ((final M.exec pool (List.replicate n (.step i choice))).threads[i]?).bind Thread.outcome = some a := by
  induction p generalizing pool thread with
  | done b =>
    cases hrun
    exact ⟨0, rfl, by rw [List.replicate_zero, final_nil, hthread]; exact Thread.outcome_eq_some.mpr hp⟩
  | call e k ih =>
    obtain ⟨request, stage, program⟩ := thread
    cases hp
    rw [run_call] at hrun
    obtain ⟨⟨s₁, r⟩, hhandle, hrest⟩ := Option.bind_eq_some_iff.mp hrun
    have hadvance := exec_called hthread hhandle
    have hset : (M.exec pool (.step i choice)).1.threads[i]? =
        some ⟨request, P.next request stage e r, some (k r)⟩ := by
      rw [hadvance]
      exact getElem?_set_same hthread
    have hrun' : (k r).run (M.handle i choice) (M.exec pool (.step i choice)).1.shared = some (s', a) := by
      rw [hadvance]
      exact hrest
    obtain ⟨n, hn⟩ := ih r hset rfl hrun'
    exact ⟨n + 1, by rw [List.replicate_succ, final_cons]; exact hn⟩

end Machine

end QrCommandCenter.Program
