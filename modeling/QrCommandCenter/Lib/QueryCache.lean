import Mathlib.Algebra.Order.Ring.Int
import Mathlib.Data.List.Basic

/-!
# A cache of query results

A client keeps the results of its queries by key. A result is built from sources of the server, each read at some version. An
announcement of newer versions marks the queries under a key as invalidated, and an invalidated query is fetched again.

* `Query` : a cached result, and the fetch that runs for it;
* `invalidateQueries`, `invalidateKeys` : the queries under a key, and under one of several keys, are invalidated;
* `Op`, `exec` : everything else that happens to the queries;
* `Query.Fresh` : what is cached and not invalidated, and what a running fetch has read, is as new as what is known;
* `exec_fresh` : fetches keep that, and `fresh_announce_iff` : when an announcement does.
-/

namespace QrCommandCenter.QueryCache

variable {κ σ : Type}

/-! ## Queries -/

/-- A query: the sources and versions of its cached result, and those that the running fetch has read so far. -/
structure Query (κ σ : Type) where
  key : List κ
  data : Option (List (σ × Int)) := none
  invalidated : Bool := false
  /-- somebody shows the result -/
  active : Bool := true
  fetch : Option (List (σ × Int)) := none

namespace Query

def cached (q : Query κ σ) : List (σ × Int) := q.data.getD []

def running (q : Query κ σ) : List (σ × Int) := q.fetch.getD []

/-- The query is marked; `cancels` says whether a running fetch is dropped. -/
def invalidate (cancels : Bool → Bool → Bool) (q : Query κ σ) : Query κ σ :=
  { q with
    invalidated := true
    fetch := if cancels q.active q.data.isSome then none else q.fetch }

theorem invalidate_invalidate (cancels : Bool → Bool → Bool) (q : Query κ σ) :
    (q.invalidate cancels).invalidate cancels = q.invalidate cancels := by
  unfold invalidate
  cases cancels q.active q.data.isSome <;> rfl

end Query

section
variable [DecidableEq κ] (cancels : Bool → Bool → Bool)

def invalidateQueries (key : List κ) (cache : List (Query κ σ)) :
    List (Query κ σ) :=
  cache.map fun q => if key.isPrefixOf q.key then q.invalidate cancels else q

def invalidateKeys (keys : List (List κ)) (cache : List (Query κ σ)) :
    List (Query κ σ) :=
  keys.foldl (fun queries key => invalidateQueries cancels key queries) cache

theorem invalidateKeys_eq (keys : List (List κ)) (cache : List (Query κ σ)) :
    invalidateKeys cancels keys cache =
      cache.map fun q => if keys.any fun key => key.isPrefixOf q.key then q.invalidate cancels else q := by
  induction keys generalizing cache with
  | nil => simp [invalidateKeys]
  | cons key keys ih =>
    show invalidateKeys cancels keys (invalidateQueries cancels key cache) = _
    rw [ih, invalidateQueries, List.map_map]
    refine List.map_congr_left fun q _ => ?_
    rw [Function.comp_apply]
    by_cases hkey : key.isPrefixOf q.key = true
    · have hany : ((key :: keys).any fun key => key.isPrefixOf q.key) = true := by simp [hkey]
      rw [if_pos hkey, if_pos hany, Query.invalidate_invalidate, ite_self]
    · have hany : ((key :: keys).any fun key => key.isPrefixOf q.key) = keys.any fun key => key.isPrefixOf q.key := by
        simp [hkey]
      rw [if_neg hkey, hany]

end

/-! ## Fetches -/

/-- What happens to the queries apart from announcements; queries are given by their position. -/
inductive Op (κ σ : Type) where
  /-- somebody shows the query -/
  | mount (key : List κ)
  /-- nobody shows it any longer, which aborts its fetch -/
  | unmount (k : Nat)
  /-- an unused query is forgotten -/
  | remove (k : Nat)
  | start (k : Nat)
  /-- the server reads a source for the running fetch -/
  | read (k : Nat) (source : σ)
  | finish (k : Nat)
  /-- a fetch fails or is cancelled -/
  | cancel (k : Nat)
  /-- the query is invalidated for another reason -/
  | mark (k : Nat)

def update (cache : List (Query κ σ)) (k : Nat) (f : Query κ σ → Query κ σ) : List (Query κ σ) :=
  match cache[k]? with
  | none => cache
  | some q => cache.set k (f q)

/-- One step, where the sources are at their `current` versions and a query is built from those it `reads`. -/
def exec [DecidableEq κ] (reads : List κ → σ → Bool) (current : σ → Int) (cache : List (Query κ σ)) :
    Op κ σ → List (Query κ σ)
  | .mount key =>
    if cache.any fun q => q.key = key then cache.map fun q => if q.key = key then { q with active := true } else q
    else cache ++ [{ key := key }]
  | .unmount k => update cache k fun q => { q with active := false, fetch := none }
  | .remove k => if (cache[k]?).any fun q => q.active then cache else cache.eraseIdx k
  | .start k => update cache k fun q => if q.active && q.fetch.isNone then { q with fetch := some [] } else q
  | .read k source => update cache k fun q =>
    if reads q.key source then { q with fetch := q.fetch.map fun read => read ++ [(source, current source)] } else q
  | .finish k => update cache k fun q =>
    if q.fetch.isSome then { q with data := q.fetch, invalidated := false, fetch := none } else q
  | .cancel k => update cache k fun q => { q with fetch := none }
  | .mark k => update cache k fun q => { q with invalidated := true }

/-! ## Freshness -/

/-- What is cached and not invalidated, and what the running fetch has read, is at least as new as what is known. -/
structure Query.Fresh (known : σ → Int) (q : Query κ σ) : Prop where
  cached : q.invalidated = false → ∀ x ∈ q.cached, known x.1 ≤ x.2
  running : ∀ x ∈ q.running, known x.1 ≤ x.2

variable {known : σ → Int} {cache : List (Query κ σ)}

theorem update_forall {P : Query κ σ → Prop} (h : ∀ q ∈ cache, P q) (k : Nat)
    {f : Query κ σ → Query κ σ} (hf : ∀ q, P q → P (f q)) : ∀ q ∈ update cache k f, P q := by
  unfold update
  cases hk : cache[k]? with
  | none => exact h
  | some q =>
    intro q' hq'
    rcases List.mem_or_eq_of_mem_set hq' with hq' | rfl
    · exact h q' hq'
    · exact hf q (h q (List.mem_of_getElem? hk))

/-- **Fetches keep the cache fresh**: what they read is current, and nothing newer is known. -/
theorem exec_fresh [DecidableEq κ] {reads : List κ → σ → Bool} {current : σ → Int} (hknown : ∀ source, known source ≤ current source)
    (h : ∀ q ∈ cache, q.Fresh known) (op : Op κ σ) : ∀ q ∈ exec reads current cache op, q.Fresh known := by
  have hdrop : ∀ q : Query κ σ, ∀ x ∈ ({ q with fetch := none } : Query κ σ).running, known x.1 ≤ x.2 :=
    fun q => List.forall_mem_nil _
  cases op with
  | mount key =>
    simp only [exec]
    split
    · intro q' hq'
      obtain ⟨q, hq, rfl⟩ := List.mem_map.mp hq'
      split
      · exact ⟨(h q hq).cached, (h q hq).running⟩
      · exact h q hq
    · intro q' hq'
      rcases List.mem_append.mp hq' with hq' | hq'
      · exact h q' hq'
      · rw [List.mem_singleton.mp hq']
        exact ⟨fun _ => List.forall_mem_nil _, List.forall_mem_nil _⟩
  | unmount k => exact update_forall h k fun q hq => ⟨hq.cached, hdrop q⟩
  | remove k =>
    simp only [exec]
    split
    · exact h
    · exact fun q hq => h q (List.mem_of_mem_eraseIdx hq)
  | start k =>
    refine update_forall h k fun q hq => ?_
    split
    · exact ⟨hq.cached, List.forall_mem_nil _⟩
    · exact hq
  | read k source =>
    refine update_forall h k fun q hq => ?_
    split
    · refine ⟨hq.cached, fun x hx => ?_⟩
      cases hfetch : q.fetch with
      | none => simp [Query.running, hfetch] at hx
      | some read =>
        simp only [Query.running, hfetch, Option.map_some, Option.getD_some] at hx
        rcases List.mem_append.mp hx with hx | hx
        · exact hq.running x (by rwa [Query.running, hfetch])
        · rw [List.mem_singleton.mp hx]
          exact hknown source
    · exact hq
  | finish k =>
    refine update_forall h k fun q hq => ?_
    split
    · exact ⟨fun _ => hq.running, List.forall_mem_nil _⟩
    · exact hq
  | cancel k => exact update_forall h k fun q hq => ⟨hq.cached, hdrop q⟩
  | mark k => exact update_forall h k fun q hq => ⟨(fun hmark => by cases hmark), hq.running⟩

theorem Query.Fresh.invalidate {q : Query κ σ} (h : q.Fresh known) (cancels : Bool → Bool → Bool) :
    (q.invalidate cancels).Fresh known := by
  refine ⟨(fun hmark => by cases hmark), fun x hx => ?_⟩
  unfold Query.invalidate Query.running at hx
  simp only at hx
  split at hx
  · cases hx
  · exact h.running x hx

/-- An announcement reaches what is older: the cached result is affected or invalidated, and a running fetch that has
read it is dropped. -/
structure Query.Reached (known : σ → Int) (cancels : Bool → Bool → Bool) (affected : Bool) (q : Query κ σ) : Prop where
  cached : q.invalidated = false → ∀ x ∈ q.cached, x.2 < known x.1 → affected = true
  running : ∀ x ∈ q.running, x.2 < known x.1 → affected = true ∧ cancels q.active q.data.isSome = true

/-- **A query is fresh after an announcement exactly when the announcement reaches what is older.** -/
theorem fresh_announce_iff (cancels : Bool → Bool → Bool) (affected : Bool) (q : Query κ σ) :
    (if affected then q.invalidate cancels else q).Fresh known ↔ q.Reached known cancels affected := by
  cases affected with
  | false =>
    rw [if_neg Bool.false_ne_true]
    constructor
    · intro h
      exact ⟨fun hmark x hx hlt => absurd (h.cached hmark x hx) (not_le.mpr hlt),
        fun x hx hlt => absurd (h.running x hx) (not_le.mpr hlt)⟩
    · intro h
      exact ⟨fun hmark x hx => not_lt.mp fun hlt => Bool.false_ne_true (h.cached hmark x hx hlt),
        fun x hx => not_lt.mp fun hlt => Bool.false_ne_true (h.running x hx hlt).1⟩
  | true =>
    rw [if_pos rfl]
    by_cases hcancels : cancels q.active q.data.isSome = true
    · constructor
      · exact fun _ => ⟨fun _ _ _ _ => rfl, fun _ _ _ => ⟨rfl, hcancels⟩⟩
      · refine fun _ => ⟨(fun hmark => by cases hmark), ?_⟩
        unfold Query.invalidate Query.running
        rw [if_pos hcancels]
        exact List.forall_mem_nil _
    · have hrunning : (q.invalidate cancels).running = q.running := by
        unfold Query.invalidate Query.running
        rw [if_neg hcancels]
      constructor
      · intro h
        refine ⟨fun _ _ _ _ => rfl, fun x hx hlt => ?_⟩
        exact absurd (h.running x (hrunning ▸ hx)) (not_le.mpr hlt)
      · intro h
        refine ⟨(fun hmark => by cases hmark), fun x hx => not_lt.mp fun hlt => ?_⟩
        exact hcancels (h.running x (hrunning ▸ hx) hlt).2

end QrCommandCenter.QueryCache
