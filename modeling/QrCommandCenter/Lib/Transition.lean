import Mathlib.Data.List.Basic
import Mathlib.Data.List.Induction

/-!
# Runs of a deterministic machine

`exec s i` is the state and the output after operation `i` in state `s`. The environment chooses the operations,
so a list of operations stands for one interleaving.

* `final exec s ops` : the state after `ops`;
* `trace exec s ops` : one `Event` per operation, with the states around it;
* `final_inv`, `trace_inv` : invariants of a step are invariants of a run;
* `history_inv` : the same for an invariant that speaks about the events so far;
* `trace_forall_iff` : when a property of all events is equivalent to a condition on all events;
* `trace_pairwise` : what an event establishes and every step keeps holds at every later event.
-/

namespace QrCommandCenter.Transition

/-- One executed operation with the states around it. -/
structure Event (σ ι ο : Type) where
  pre : σ
  op : ι
  out : ο
  post : σ

variable {σ ι ο : Type} (exec : σ → ι → σ × ο)

def Event.of (s : σ) (i : ι) : Event σ ι ο := ⟨s, i, (exec s i).2, (exec s i).1⟩

def final (s : σ) (ops : List ι) : σ := ops.foldl (fun s i => (exec s i).1) s

def trace : σ → List ι → List (Event σ ι ο)
  | _, [] => []
  | s, i :: ops => Event.of exec s i :: trace (exec s i).1 ops

variable {exec}

section
variable (s : σ)

@[simp] theorem final_nil : final exec s [] = s := rfl

@[simp] theorem final_cons (i : ι) (ops : List ι) :
    final exec s (i :: ops) = final exec (exec s i).1 ops := rfl

theorem final_append (ops ops' : List ι) :
    final exec s (ops ++ ops') = final exec (final exec s ops) ops' := by
  simp [final, List.foldl_append]

theorem final_snoc (ops : List ι) (i : ι) :
    final exec s (ops ++ [i]) = (exec (final exec s ops) i).1 := by
  rw [final_append]
  rfl

theorem trace_append (ops ops' : List ι) :
    trace exec s (ops ++ ops') = trace exec s ops ++ trace exec (final exec s ops) ops' := by
  induction ops generalizing s with
  | nil => rfl
  | cons i ops ih => simp [trace, ih]

theorem trace_snoc (ops : List ι) (i : ι) :
    trace exec s (ops ++ [i]) = trace exec s ops ++ [Event.of exec (final exec s ops) i] := by
  rw [trace_append]
  rfl

theorem mem_trace_snoc (ops : List ι) (i : ι) :
    Event.of exec (final exec s ops) i ∈ trace exec s (ops ++ [i]) := by
  rw [trace_snoc]
  exact List.mem_append_right _ List.mem_cons_self

end

/-! ## Invariants -/

section Invariants
variable {Inv : σ → Prop} (hstep : ∀ s i, Inv s → Inv (exec s i).1)
include hstep

theorem final_inv {s : σ} (hs : Inv s) (ops : List ι) : Inv (final exec s ops) := by
  induction ops generalizing s with
  | nil => exact hs
  | cons i ops ih => exact ih (hstep s i hs)

/-- Every event of a run is an execution from a state of the invariant. -/
theorem trace_inv {s : σ} (hs : Inv s) {ops : List ι} {e : Event σ ι ο} (he : e ∈ trace exec s ops) :
    Inv e.pre ∧ e = Event.of exec e.pre e.op := by
  induction ops generalizing s with
  | nil => cases he
  | cons i ops ih =>
    rcases List.mem_cons.mp he with rfl | he
    · exact ⟨hs, rfl⟩
    · exact ih (hstep s i hs) he

/-- What an event establishes (`Q e`) and every step keeps holds before every later event. -/
theorem trace_pairwise {Q : Event σ ι ο → σ → Prop} {P : Event σ ι ο → Event σ ι ο → Prop}
    (hnew : ∀ s i, Inv s → Q (Event.of exec s i) (exec s i).1)
    (hkeep : ∀ e s i, Inv s → Q e s → Q e (exec s i).1)
    (huse : ∀ e s i, Inv s → Q e s → P e (Event.of exec s i)) {s : σ} (hs : Inv s) (ops : List ι) :
    (trace exec s ops).Pairwise P := by
  induction ops generalizing s with
  | nil => exact List.Pairwise.nil
  | cons i ops ih =>
    refine List.Pairwise.cons (fun e' he' => ?_) (ih (hstep s i hs))
    -- the invariant carried along the rest of the run is `Inv` together with `Q` of the first event
    have hinv : ∀ t j, Inv t ∧ Q (Event.of exec s i) t →
        Inv (exec t j).1 ∧ Q (Event.of exec s i) (exec t j).1 :=
      fun t j ht => ⟨hstep t j ht.1, hkeep _ t j ht.1 ht.2⟩
    obtain ⟨⟨h1, h2⟩, e⟩ := trace_inv hinv ⟨hstep s i hs, hnew s i hs⟩ he'
    rw [e]
    exact huse _ e'.pre e'.op h1 h2

end Invariants

theorem trace_event {s : σ} {ops : List ι} {e : Event σ ι ο} (he : e ∈ trace exec s ops) :
    e = Event.of exec e.pre e.op :=
  (trace_inv (fun _ _ h => h : ∀ s i, (fun _ : σ => True) s → (fun _ : σ => True) (exec s i).1) trivial he).2

section
variable {Inv : σ → Prop}

theorem final_inv_of_mem {s : σ} (hs : Inv s) {ops : List ι}
    (hstep : ∀ s, ∀ i ∈ ops, Inv s → Inv (exec s i).1) : Inv (final exec s ops) := by
  induction ops generalizing s with
  | nil => exact hs
  | cons i ops ih =>
    exact ih (hstep s i List.mem_cons_self hs) fun s j hj => hstep s j (List.mem_cons_of_mem i hj)

theorem final_inv_of_trace {s : σ} (hs : Inv s) {ops : List ι}
    (hstep : ∀ s' i, Event.of exec s' i ∈ trace exec s ops → Inv s' → Inv (exec s' i).1) : Inv (final exec s ops) := by
  induction ops generalizing s with
  | nil => exact hs
  | cons i ops ih =>
    exact ih (hstep s i List.mem_cons_self hs) fun s' j hj => hstep s' j (List.mem_cons_of_mem _ hj)

/-- **A property of the events that is equivalent to a condition while the condition held** is equivalent to it over
whole runs. -/
theorem trace_forall_iff_of_mem {P C : Event σ ι ο → Prop} {s : σ} (hs : Inv s) (ops : List ι)
    (hiff : ∀ s, ∀ i ∈ ops, Inv s → (P (Event.of exec s i) ↔ C (Event.of exec s i)))
    (hstep : ∀ s, ∀ i ∈ ops, Inv s → C (Event.of exec s i) → Inv (exec s i).1) :
    (∀ e ∈ trace exec s ops, P e) ↔ ∀ e ∈ trace exec s ops, C e := by
  induction ops generalizing s with
  | nil => simp [trace]
  | cons i ops ih =>
    simp only [trace, List.forall_mem_cons]
    rw [hiff s i List.mem_cons_self hs]
    refine and_congr_right fun hc => ih (hstep s i List.mem_cons_self hs hc) ?_ ?_
    · exact fun s j hj => hiff s j (List.mem_cons_of_mem i hj)
    · exact fun s j hj => hstep s j (List.mem_cons_of_mem i hj)

theorem trace_forall_iff {P C : Event σ ι ο → Prop}
    (hiff : ∀ s i, Inv s → (P (Event.of exec s i) ↔ C (Event.of exec s i)))
    (hstep : ∀ s i, Inv s → C (Event.of exec s i) → Inv (exec s i).1) {s : σ} (hs : Inv s) (ops : List ι) :
    (∀ e ∈ trace exec s ops, P e) ↔ ∀ e ∈ trace exec s ops, C e :=
  trace_forall_iff_of_mem hs ops (fun s i _ => hiff s i) fun s i _ => hstep s i

end

/-- An invariant of the events so far and the state, kept by every step, holds at the end of every run. -/
theorem history_inv {Inv : List (Event σ ι ο) → σ → Prop} {s : σ} (hs : Inv [] s) (ops : List ι)
    (hstep : ∀ events s, ∀ i ∈ ops, Inv events s → Inv (events ++ [Event.of exec s i]) (exec s i).1) :
    Inv (trace exec s ops) (final exec s ops) := by
  induction ops using List.reverseRecOn with
  | nil => exact hs
  | append_singleton ops i ih =>
    rw [trace_snoc, final_snoc]
    have hops : Inv (trace exec s ops) (final exec s ops) :=
      ih fun events s j hj => hstep events s j (List.mem_append_left [i] hj)
    exact hstep _ _ i (by simp) hops

end QrCommandCenter.Transition
