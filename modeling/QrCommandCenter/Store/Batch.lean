import QrCommandCenter.Store.System

/-!
# A batch of seeds and its seeds one by one

`upsertSeeds` collapses the seeds of one conflict key to the last of them, "so the batch matches the old per-seed loop's
last-write-wins". The conflict update takes minima and clamps against the row it finds, so it is no last write.

* `Store.upsertOneByOne` : every seed as a batch of its own;
* `Store.admits` : the constraints of the table let a seed pass;
* `absorb`, `Store.Absorbs` : an upsert, seen from the state of a row;
* `Overridden`, `Repeated`, `Collapsible` : when the earlier seeds of a key leave no trace;
* `batch_iff` : the batch equals its seeds one by one exactly then.
-/

namespace QrCommandCenter
open Domain Table

variable {earlier : List TargetSeed} {last : TargetSeed}

/-- The row up to its surrogate id and `updated_at`. -/
def TargetRow.state (t : TargetRow) : TargetRow := { t with id := 0, updatedAt := 0 }

/-! ## Rows -/

def proposedRow (seed : TargetSeed) : TargetRow := Store.seedRow 0 0 seed

def absorb (row? : Option TargetRow) (seed : TargetSeed) : Option TargetRow :=
  match row? with
  | none => some (proposedRow seed)
  | some t => some (Store.onSeedConflict 0 (proposedRow seed) t)

variable {t : TargetRow}

namespace Store

def rowState (s : Store) (ref : TargetRef) : Option TargetRow := (s.targetByRef? ref).map TargetRow.state

def Checked (s : Store) : Prop := ∀ t ∈ s.targets, t.checks = true

/-- The constraints of the table let the seed pass: its `CHECK`s and, for a new row, the key of its host. -/
def admits (s : Store) (seed : TargetSeed) : Bool :=
  (proposedRow seed).checks && ((s.rowState seed.ref).isSome || (s.host? seed.ref.host).isSome)

/-- The seeds in order, each as its own single-element batch with its own `NOW()`. -/
def upsertOneByOne : Store → List (Time × TargetSeed) → Store
  | s, [] => s
  | s, (now, seed) :: rest => (s.settle (s.upsertSeeds now [seed])).1.upsertOneByOne rest

/-- The upsert of a seed reaches the row of its reference only. -/
structure Absorbs (s : Store) (seed : TargetSeed) (s' : Store) : Prop where
  rows : ∀ ref, s'.rowState ref = if seed.ref = ref then absorb (s.rowState ref) seed else s.rowState ref
  hosts : s'.hosts = s.hosts
  checked : s'.Checked

/-! ## One seed -/

section Seeds
variable {s s' : Store} {now : Time} {seed : TargetSeed}

theorem upsertSeed_update (hs : s.Checked) (hchecks : (proposedRow seed).checks = true)
    (ht : s.targetByRef? seed.ref = some t) : ∃ s', s.upsertSeed now seed = .ok s' ∧ s.Absorbs seed s' := by
  let p : TargetRow → Bool := fun x => x.ref = seed.ref
  let f : TargetRow → TargetRow := onSeedConflict now (seedRow s.nextTargetId now seed)
  refine ⟨_, upsertSeed_found hs hchecks ht now, fun ref => ?_, rfl, fun x hx => ?_⟩
  · have hkeeps : ∀ x, (f x).ref = x.ref := fun _ => rfl
    have hlookup := lookup_updateWhere (p := p) hkeeps s.targets ref
    simp only [rowState, targetByRef?] at ht ⊢
    rw [hlookup]
    by_cases href : seed.ref = ref
    · subst href
      have hp : p t = true := decide_eq_true (lookup_mem ht).2
      rw [if_pos rfl, ht, Option.map_some, if_pos hp]
      rfl
    · rw [if_neg href]
      cases hfound : lookup TargetRow.ref s.targets ref with
      | none => rfl
      | some x =>
        have hne : p x = false := decide_eq_false fun heq => href (heq.symm.trans (lookup_mem hfound).2)
        simp [hne]
  · obtain ⟨old, hold, rfl⟩ := mem_updateWhere hx
    split
    · exact onSeedConflict_checks hchecks (hs old hold)
    · exact hs old hold

theorem upsertSeed_insert (hs : s.Checked) (hchecks : (proposedRow seed).checks = true)
    (ht : s.targetByRef? seed.ref = none) (hhost : (s.host? seed.ref.host).isSome = true) :
    ∃ s', s.upsertSeed now seed = .ok s' ∧ s.Absorbs seed s' := by
  have hrow : (seedRow s.nextTargetId now seed).checks = true := hchecks
  obtain ⟨host, hhost⟩ := Option.isSome_iff_exists.mp hhost
  refine ⟨{ s with targets := s.targets ++ [seedRow s.nextTargetId now seed], nextTargetId := s.nextTargetId + 1 },
    ?_, ?_, rfl, ?_⟩
  · unfold upsertSeed
    rw [ht]
    simp [hrow, hhost]
  · intro ref
    simp only [rowState, targetByRef?, lookup_append]
    by_cases href : seed.ref = ref
    · subst href
      simp only [targetByRef?] at ht
      rw [ht, if_pos rfl]
      simp [lookup, seedRow, absorb, proposedRow, TargetRow.state]
    · rw [if_neg href]
      have hnone : lookup TargetRow.ref [seedRow s.nextTargetId now seed] ref = none := by
        simp [lookup, seedRow, href]
      rw [hnone, Option.or_none]
  · intro x hx
    rcases List.mem_append.mp hx with hx | hx
    · exact hs x hx
    · rw [List.mem_singleton.mp hx]
      exact hrow

theorem upsertSeed_admitted (hs : s.Checked) (h : s.admits seed = true) (now : Time) :
    ∃ s', s.upsertSeed now seed = .ok s' ∧ s.Absorbs seed s' := by
  obtain ⟨hchecks, hplace⟩ := Bool.and_eq_true_iff.mp h
  cases ht : s.targetByRef? seed.ref with
  | some t => exact upsertSeed_update hs hchecks ht
  | none =>
    rw [rowState, ht] at hplace
    exact upsertSeed_insert hs hchecks ht hplace

theorem upsertSeed_refused (h : s.admits seed = false) (now : Time) : ∃ err, s.upsertSeed now seed = .error err := by
  unfold upsertSeed
  by_cases hchecks : (seedRow s.nextTargetId now seed).checks = true
  · have hrow : (proposedRow seed).checks = true := hchecks
    simp only [admits, hrow, Bool.true_and, Bool.or_eq_false_iff, rowState, Option.isSome_map] at h
    have hrowNone : s.targetByRef? seed.ref = none := Option.isSome_eq_false_iff.mp h.1 |> Option.isNone_iff_eq_none.mp
    have hhostNone : s.host? seed.ref.host = none := Option.isSome_eq_false_iff.mp h.2 |> Option.isNone_iff_eq_none.mp
    rw [hrowNone, hhostNone]
    simp [hchecks]
  · simp [hchecks]

theorem Absorbs.admits (h : s.Absorbs seed s') (hseed : s.admits seed = true) (other : TargetSeed) :
    s'.admits other = s.admits other := by
  have hhost : s'.host? other.ref.host = s.host? other.ref.host := by rw [host?, h.hosts, host?]
  simp only [Store.admits, h.rows, hhost]
  by_cases href : seed.ref = other.ref
  · obtain ⟨-, hplace⟩ := Bool.and_eq_true_iff.mp hseed
    rw [href] at hplace
    have hsome : (absorb (s.rowState other.ref) seed).isSome = true := by
      cases s.rowState other.ref <;> rfl
    rw [if_pos href, hsome, hplace, Bool.true_or]
  · rw [if_neg href]

end Seeds

/-! ## Lists of seeds -/

/-- The seeds of a reference that the table admits. -/
def admitted (s : Store) (seeds : List TargetSeed) (ref : TargetRef) : List TargetSeed :=
  seeds.filter fun seed => seed.ref = ref && s.admits seed

section Lists
variable {s s' : Store} {now : Time} {seed : TargetSeed} {seeds : List TargetSeed}

theorem admitted_cons (s : Store) (seed : TargetSeed) (rest : List TargetSeed) (ref : TargetRef) :
    s.admitted (seed :: rest) ref =
      if seed.ref = ref ∧ s.admits seed = true then seed :: s.admitted rest ref else s.admitted rest ref := by
  simp [admitted, List.filter_cons]

theorem Absorbs.foldl (h : s.Absorbs seed s') (hseed : s.admits seed = true) (rest : List TargetSeed) (ref : TargetRef) :
    (s'.admitted rest ref).foldl absorb (s'.rowState ref) =
      (s.admitted (seed :: rest) ref).foldl absorb (s.rowState ref) := by
  have hrest : s'.admitted rest ref = s.admitted rest ref := by simp only [Store.admitted, h.admits hseed]
  rw [hrest, h.rows, admitted_cons]
  by_cases href : seed.ref = ref
  · rw [if_pos href, if_pos ⟨href, hseed⟩, List.foldl_cons]
  · rw [if_neg href, if_neg fun h => href h.1]

theorem upsertAll_admitted (hs : s.Checked) (hseeds : ∀ seed ∈ seeds, s.admits seed = true) (now : Time) :
    ∃ s', upsertAll now s seeds = .ok s' ∧ ∀ ref, s'.rowState ref = (s.admitted seeds ref).foldl absorb (s.rowState ref) := by
  induction seeds generalizing s with
  | nil => exact ⟨s, rfl, fun ref => rfl⟩
  | cons seed rest ih =>
    have hseed := hseeds seed List.mem_cons_self
    obtain ⟨s₁, h₁, habsorbs⟩ := upsertSeed_admitted hs hseed now
    have hrest : ∀ x ∈ rest, s₁.admits x = true := fun x hx => by
      rw [habsorbs.admits hseed]
      exact hseeds x (List.mem_cons_of_mem seed hx)
    obtain ⟨s', h₂, hrows⟩ := ih habsorbs.checked hrest
    refine ⟨s', bind_eq_ok.mpr ⟨s₁, h₁, h₂⟩, fun ref => ?_⟩
    rw [hrows, habsorbs.foldl hseed]

theorem upsertAll_refused (hs : s.Checked) (hseeds : ∃ seed ∈ seeds, s.admits seed = false) (now : Time) :
    ∃ err, upsertAll now s seeds = .error err := by
  induction seeds generalizing s with
  | nil =>
    obtain ⟨seed, hseed, -⟩ := hseeds
    cases hseed
  | cons seed rest ih =>
    cases hadmits : s.admits seed with
    | false =>
      obtain ⟨err, herr⟩ := upsertSeed_refused hadmits now
      exact ⟨err, by rw [upsertAll, herr]; rfl⟩
    | true =>
      obtain ⟨s₁, h₁, habsorbs⟩ := upsertSeed_admitted hs hadmits now
      obtain ⟨x, hx, hrefused⟩ := hseeds
      have hx' : x ∈ rest := by
        rcases List.mem_cons.mp hx with rfl | hx
        · rw [hadmits] at hrefused
          cases hrefused
        · exact hx
      obtain ⟨err, herr⟩ := ih habsorbs.checked ⟨x, hx', by rw [habsorbs.admits hadmits, hrefused]⟩
      exact ⟨err, by rw [upsertAll, h₁]; exact herr⟩

theorem upsertSeeds_singleton (hvalid : validateSeed seed = .ok ()) : s.upsertSeeds now [seed] = s.upsertSeed now seed := by
  rw [upsertSeeds, validateSeeds, hvalid]
  change upsertAll now s [seed] = _
  rw [upsertAll]
  cases s.upsertSeed now seed with
  | error | ok => rfl

theorem validateSeeds_ok : validateSeeds seeds = .ok () ↔ ∀ seed ∈ seeds, validateSeed seed = .ok () := by
  induction seeds with
  | nil => simp [validateSeeds]
  | cons seed rest ih =>
    rw [validateSeeds, List.forall_mem_cons, ← ih, bind_eq_ok]
    exact ⟨fun ⟨_, h₁, h₂⟩ => ⟨h₁, h₂⟩, fun ⟨h₁, h₂⟩ => ⟨(), h₁, h₂⟩⟩

/-- The seeds one by one: a row has absorbed the seeds of its reference that the table admits. -/
theorem upsertOneByOne_rowState {batches : List (Time × TargetSeed)} (hs : s.Checked)
    (hvalid : ∀ seed ∈ batches.map Prod.snd, validateSeed seed = .ok ()) (ref : TargetRef) :
    (s.upsertOneByOne batches).rowState ref = (s.admitted (batches.map Prod.snd) ref).foldl absorb (s.rowState ref) := by
  induction batches generalizing s with
  | nil => rfl
  | cons batch rest ih =>
    obtain ⟨now, seed⟩ := batch
    simp only [List.map_cons, List.forall_mem_cons] at hvalid
    rw [upsertOneByOne, upsertSeeds_singleton hvalid.1, List.map_cons]
    cases hadmits : s.admits seed with
    | false =>
      obtain ⟨err, herr⟩ := upsertSeed_refused hadmits now
      rw [herr, admitted_cons, if_neg (by simp [hadmits])]
      exact ih hs hvalid.2
    | true =>
      obtain ⟨s₁, h₁, habsorbs⟩ := upsertSeed_admitted hs hadmits now
      rw [h₁, ← habsorbs.foldl hadmits]
      exact ih habsorbs.checked hvalid.2

theorem dedupSeeds_filter (seeds : List TargetSeed) (ref : TargetRef) :
    (dedupSeeds seeds).filter (fun seed => seed.ref = ref) = (seeds.filter fun seed => seed.ref = ref).getLast?.toList := by
  induction seeds with
  | nil => rfl
  | cons seed rest ih =>
    unfold dedupSeeds
    by_cases hlater : (rest.any fun r => r.ref = seed.ref) = true
    · rw [if_pos hlater, ih, List.filter_cons]
      by_cases href : seed.ref = ref
      · obtain ⟨later, hmem, hlaterRef⟩ := List.any_eq_true.mp hlater
        have hne : rest.filter (fun r => r.ref = ref) ≠ [] := by
          intro hnil
          have := List.filter_eq_nil_iff.mp hnil later hmem
          simp_all
        rw [if_pos (decide_eq_true href), List.getLast?_cons_of_ne_nil hne]
      · rw [if_neg (by simpa using href)]
    · rw [if_neg hlater, List.filter_cons, List.filter_cons, ih]
      by_cases href : seed.ref = ref
      · have hnil : rest.filter (fun r => r.ref = ref) = [] := by
          rw [List.filter_eq_nil_iff]
          intro r hr
          have hr' : ¬ r.ref = seed.ref := by
            intro heq
            exact hlater (List.any_eq_true.mpr ⟨r, hr, decide_eq_true heq⟩)
          simpa [← href] using hr'
        rw [if_pos (decide_eq_true href), if_pos (decide_eq_true href), hnil]
        rfl
      · rw [if_neg (by simpa using href), if_neg (by simpa using href)]

end Lists

end Store

/-! ## Traces of the earlier seeds -/

def seedClamp (seconds : Int) (seed : TargetSeed) : Int :=
  min (proposedRow seed).maxIntervalSeconds (max seconds (proposedRow seed).minIntervalSeconds)

/-- The earlier seeds of a reference leave no trace under the last one: none has a smaller priority or an earlier run,
and their policies do not carry the interval where the last one would tell. -/
def Overridden : Option TargetRow → List TargetSeed → TargetSeed → Prop
  | none, [], _ => True
  | none, first :: rest, last =>
    (∀ seed ∈ first :: rest, (proposedRow last).priority ≤ (proposedRow seed).priority) ∧
    (∀ seed ∈ first :: rest, last.nextRunAt ≤ seed.nextRunAt) ∧
    seedClamp (rest.foldl seedClamp (proposedRow first).currentIntervalSeconds) last =
      (proposedRow last).currentIntervalSeconds
  | some t, earlier, last =>
    (∀ seed ∈ earlier, min t.priority (proposedRow last).priority ≤ (proposedRow seed).priority) ∧
    (∀ seed ∈ earlier, min t.nextRunAt last.nextRunAt ≤ seed.nextRunAt) ∧
    seedClamp (earlier.foldl seedClamp t.currentIntervalSeconds) last = seedClamp t.currentIntervalSeconds last

structure Unmoved (t : TargetRow) (seeds : List TargetSeed) (last : TargetSeed) : Prop where
  present : t.missingCount = 0 ∧ t.enabled = true
  priority : ∀ seed ∈ seeds, t.priority ≤ (proposedRow seed).priority
  nextRunAt : ∀ seed ∈ seeds, t.nextRunAt ≤ seed.nextRunAt
  interval : seeds.foldl seedClamp t.currentIntervalSeconds = t.currentIntervalSeconds
  attributes : (proposedRow last).attributes = t.attributes
  policy : (proposedRow last).minIntervalSeconds = t.minIntervalSeconds ∧
    (proposedRow last).maxIntervalSeconds = t.maxIntervalSeconds ∧
    (proposedRow last).maxServeAgeSeconds = t.maxServeAgeSeconds

/-- The seeds of a reference change nothing: there are none, or the row is there and has all that they say. -/
def Repeated (row? : Option TargetRow) (seeds : List TargetSeed) : Prop :=
  ∀ last, seeds.getLast? = some last → ∃ t, row? = some t ∧ Unmoved t seeds last

/-- A row that has absorbed seeds: the minima, the carried interval, and the columns that no seed writes. -/
structure Absorbed (t : TargetRow) (seeds : List TargetSeed) (t' : TargetRow) : Prop where
  priority : t'.priority = seeds.foldl (fun p seed => min p (proposedRow seed).priority) t.priority
  nextRunAt : t'.nextRunAt = seeds.foldl (fun at_ seed => min at_ seed.nextRunAt) t.nextRunAt
  interval : t'.currentIntervalSeconds = seeds.foldl seedClamp t.currentIntervalSeconds
  others : ∀ excluded, Store.onSeedConflict 0 excluded t' =
    { Store.onSeedConflict 0 excluded t with
      priority := min t'.priority excluded.priority
      nextRunAt := min t'.nextRunAt excluded.nextRunAt
      currentIntervalSeconds := min excluded.maxIntervalSeconds (max t'.currentIntervalSeconds excluded.minIntervalSeconds) }

theorem foldl_absorb (t : TargetRow) (seeds : List TargetSeed) :
    ∃ t', seeds.foldl absorb (some t) = some t' ∧ Absorbed t seeds t' := by
  induction seeds generalizing t with
  | nil => exact ⟨t, rfl, rfl, rfl, rfl, fun excluded => rfl⟩
  | cons seed rest ih =>
    obtain ⟨t', hfold, h⟩ := ih (Store.onSeedConflict 0 (proposedRow seed) t)
    exact ⟨t', hfold, h.priority, h.nextRunAt, h.interval, fun excluded => by rw [h.others]; rfl⟩

section Minima
variable {α β : Type} [LinearOrder β] (key : α → β)

theorem le_foldl_min (xs : List α) (a b : β) :
    a ≤ xs.foldl (fun m x => min m (key x)) b ↔ a ≤ b ∧ ∀ x ∈ xs, a ≤ key x := by
  induction xs generalizing b with
  | nil => simp
  | cons x xs ih => simp [ih, and_assoc]

theorem foldl_min_eq_self (xs : List α) (b : β) :
    xs.foldl (fun m x => min m (key x)) b = b ↔ ∀ x ∈ xs, b ≤ key x := by
  have hle : xs.foldl (fun m x => min m (key x)) b ≤ b := ((le_foldl_min key xs _ b).mp le_rfl).1
  rw [← hle.ge_iff_eq, le_foldl_min, and_iff_right le_rfl]

theorem min_foldl_min_eq (xs : List α) (a b : β) :
    min (xs.foldl (fun m x => min m (key x)) b) a = min b a ↔ ∀ x ∈ xs, min b a ≤ key x := by
  have hle : xs.foldl (fun m x => min m (key x)) b ≤ b := ((le_foldl_min key xs _ b).mp le_rfl).1
  constructor
  · intro h
    exact ((le_foldl_min key xs _ b).mp (h ▸ min_le_left _ _)).2
  · intro h
    refine le_antisymm (min_le_min_right a hle) (le_min ?_ (min_le_right _ _))
    exact (le_foldl_min key xs _ b).mpr ⟨min_le_left _ _, h⟩

end Minima

/-! ## What leaves no trace -/

theorem overridden_some_iff (t : TargetRow) (earlier : List TargetSeed) (last : TargetSeed) :
    absorb (earlier.foldl absorb (some t)) last = absorb (some t) last ↔ Overridden (some t) earlier last := by
  obtain ⟨t', hfold, h⟩ := foldl_absorb t earlier
  have hpriority := min_foldl_min_eq (fun seed => (proposedRow seed).priority) earlier (proposedRow last).priority
    t.priority
  have hnextRunAt := min_foldl_min_eq (fun seed : TargetSeed => seed.nextRunAt) earlier last.nextRunAt t.nextRunAt
  rw [← h.priority] at hpriority
  rw [← h.nextRunAt] at hnextRunAt
  rw [hfold, absorb, absorb, h.others, Option.some.injEq, Overridden, ← hpriority, ← hnextRunAt, ← h.interval]
  constructor
  · intro heq
    exact ⟨congrArg TargetRow.priority heq, congrArg TargetRow.nextRunAt heq, congrArg TargetRow.currentIntervalSeconds heq⟩
  · rintro ⟨h₁, h₂, h₃⟩
    have h₂' : min t'.nextRunAt (proposedRow last).nextRunAt = min t.nextRunAt (proposedRow last).nextRunAt := h₂
    simp only [seedClamp] at h₃
    rw [h₁, h₂', h₃]
    rfl

theorem overridden_none_iff (href : ∀ seed ∈ earlier, seed.ref = last.ref) :
    absorb (earlier.foldl absorb none) last = absorb none last ↔ Overridden none earlier last := by
  cases earlier with
  | nil => simp [Overridden]
  | cons first rest =>
    obtain ⟨t', hfold, h⟩ := foldl_absorb (proposedRow first) rest
    have hpriority : (proposedRow last).priority ≤ t'.priority ↔
        ∀ seed ∈ first :: rest, (proposedRow last).priority ≤ (proposedRow seed).priority := by
      rw [h.priority, le_foldl_min (fun seed => (proposedRow seed).priority), List.forall_mem_cons]
    have hnextRunAt : last.nextRunAt ≤ t'.nextRunAt ↔ ∀ seed ∈ first :: rest, last.nextRunAt ≤ seed.nextRunAt := by
      rw [h.nextRunAt, le_foldl_min (fun seed : TargetSeed => seed.nextRunAt), List.forall_mem_cons]
      rfl
    have hstart : (first :: rest).foldl absorb none = some t' := hfold
    rw [hstart, absorb, absorb, h.others, Option.some.injEq, Overridden, ← hpriority, ← hnextRunAt, ← h.interval]
    constructor
    · intro heq
      exact ⟨min_eq_right_iff.mp (congrArg TargetRow.priority heq), min_eq_right_iff.mp (congrArg TargetRow.nextRunAt heq),
        congrArg TargetRow.currentIntervalSeconds heq⟩
    · rintro ⟨h₁, h₂, h₃⟩
      have h₂' : min t'.nextRunAt (proposedRow last).nextRunAt = (proposedRow last).nextRunAt := min_eq_right h₂
      simp only [seedClamp] at h₃
      rw [min_eq_right h₁, h₂', h₃]
      have hfirst : (proposedRow first).ref = (proposedRow last).ref := href first List.mem_cons_self
      simp only [Store.onSeedConflict, proposedRow, Store.seedRow] at hfirst ⊢
      rw [hfirst]

variable {row? : Option TargetRow}

theorem overridden_iff (href : ∀ seed ∈ earlier, seed.ref = last.ref) :
    absorb (earlier.foldl absorb row?) last = absorb row? last ↔ Overridden row? earlier last := by
  cases row? with
  | none => exact overridden_none_iff href
  | some t => exact overridden_some_iff t earlier last

theorem unmoved_iff (ht : t.state = t) (earlier : List TargetSeed) (last : TargetSeed) :
    absorb (earlier.foldl absorb (some t)) last = some t ↔ Unmoved t (earlier ++ [last]) last := by
  obtain ⟨t', hfold, h⟩ := foldl_absorb t earlier
  have hpriority : min t'.priority (proposedRow last).priority = t.priority ↔
      ∀ seed ∈ earlier ++ [last], t.priority ≤ (proposedRow seed).priority := by
    rw [← foldl_min_eq_self fun seed => (proposedRow seed).priority, List.foldl_append, h.priority]
    rfl
  have hnextRunAt : min t'.nextRunAt last.nextRunAt = t.nextRunAt ↔
      ∀ seed ∈ earlier ++ [last], t.nextRunAt ≤ seed.nextRunAt := by
    rw [← foldl_min_eq_self fun seed : TargetSeed => seed.nextRunAt, List.foldl_append, h.nextRunAt]
    rfl
  have hinterval : seedClamp t'.currentIntervalSeconds last =
      (earlier ++ [last]).foldl seedClamp t.currentIntervalSeconds := by
    rw [h.interval, List.foldl_append]
    rfl
  rw [hfold, absorb, h.others, Option.some.injEq]
  constructor
  · intro heq
    have hattributes := congrArg TargetRow.attributes heq
    have hmin := congrArg TargetRow.minIntervalSeconds heq
    have hmax := congrArg TargetRow.maxIntervalSeconds heq
    have hserve := congrArg TargetRow.maxServeAgeSeconds heq
    have hclamp := congrArg TargetRow.currentIntervalSeconds heq
    have hmissing := congrArg TargetRow.missingCount heq
    have henabled := congrArg TargetRow.enabled heq
    exact ⟨⟨hmissing.symm, henabled.symm⟩, hpriority.mp (congrArg TargetRow.priority heq),
      hnextRunAt.mp (congrArg TargetRow.nextRunAt heq), hinterval.symm.trans hclamp, hattributes, hmin, hmax, hserve⟩
  · intro hu
    have h₁ := hpriority.mpr hu.priority
    have h₂ : min t'.nextRunAt (proposedRow last).nextRunAt = t.nextRunAt := hnextRunAt.mpr hu.nextRunAt
    have h₃ := hinterval.trans hu.interval
    simp only [seedClamp] at h₃
    rw [h₁, h₂, h₃]
    simp only [Store.onSeedConflict, hu.attributes, hu.policy.1, hu.policy.2.1, hu.policy.2.2]
    have hupdated : t.updatedAt = 0 := (congrArg TargetRow.updatedAt ht).symm
    have hmissing := hu.present.1
    have henabled := hu.present.2
    cases t
    simp_all

theorem repeated_iff (hrow : ∀ t, row? = some t → t.state = t) (seeds : List TargetSeed) :
    seeds.foldl absorb row? = row? ↔ Repeated row? seeds := by
  rcases List.eq_nil_or_concat seeds with rfl | ⟨earlier, last, rfl⟩
  · simp [Repeated]
  · rw [List.concat_eq_append, List.foldl_append, Repeated]
    simp only [List.foldl_cons, List.foldl_nil, List.getLast?_append, List.getLast?_singleton, Option.some_or,
      Option.some.injEq, forall_eq']
    cases row? with
    | none =>
      refine ⟨fun h => ?_, fun ⟨t, ht, _⟩ => by cases ht⟩
      unfold absorb at h
      split at h <;> cases h
    | some t =>
      rw [unmoved_iff (hrow t rfl)]
      exact ⟨fun h => ⟨t, rfl, h⟩, fun ⟨t', ht', h⟩ => by cases ht'; exact h⟩

/-! ## Batches -/

namespace Store

/-- The batch passes and earlier seeds leave no trace, or it is refused and the seeds say nothing new. -/
def Collapsible (s : Store) (seeds : List TargetSeed) : Prop :=
  if (dedupSeeds seeds).all s.admits then
    ∀ ref earlier last, s.admitted seeds ref = earlier ++ [last] → Overridden (s.rowState ref) earlier last
  else ∀ ref, Repeated (s.rowState ref) (s.admitted seeds ref)

section Batches
variable {s : Store} {seeds : List TargetSeed}
variable {ref : TargetRef}

theorem admitted_eq (s : Store) (seeds : List TargetSeed) (ref : TargetRef) :
    s.admitted seeds ref = (seeds.filter fun seed => seed.ref = ref).filter s.admits := by
  simp [admitted, List.filter_filter, Bool.and_comm]

theorem rowState_state (h : s.rowState ref = some t) : t.state = t := by
  obtain ⟨row, -, rfl⟩ := Option.map_eq_some_iff.mp h
  rfl

theorem admitted_dedupSeeds (hall : ∀ seed ∈ dedupSeeds seeds, s.admits seed = true) (ref : TargetRef) :
    s.admitted (dedupSeeds seeds) ref = (s.admitted seeds ref).getLast?.toList := by
  have hkept : (dedupSeeds seeds).filter s.admits = dedupSeeds seeds := List.filter_eq_self.mpr hall
  have hfilter := dedupSeeds_filter seeds ref
  rw [admitted_eq, hfilter, admitted_eq]
  rcases List.eq_nil_or_concat (seeds.filter fun seed => seed.ref = ref) with hnil | ⟨earlier, last, hlast⟩
  · rw [hnil]
    rfl
  · rw [hlast, List.concat_eq_append] at hfilter ⊢
    have hmem : last ∈ (dedupSeeds seeds).filter fun seed => seed.ref = ref := by
      rw [hfilter]
      simp
    have hlast := hall last (List.mem_filter.mp hmem).1
    simp [List.filter_append, hlast]

theorem admitted_ref {seed : TargetSeed} (h : seed ∈ s.admitted seeds ref) : seed.ref = ref := by
  simp only [admitted, List.mem_filter, Bool.and_eq_true, decide_eq_true_eq] at h
  exact h.2.1

theorem upsertSeeds_rowState (hs : s.Checked) (hvalid : validateSeeds seeds = .ok ()) (now : Time) (ref : TargetRef) :
    (s.settle (s.upsertSeeds now seeds)).1.rowState ref =
      if (dedupSeeds seeds).all s.admits then (s.admitted seeds ref).getLast?.toList.foldl absorb (s.rowState ref)
      else s.rowState ref := by
  have hbatch : s.upsertSeeds now seeds = upsertAll now s (dedupSeeds seeds) := by
    rw [upsertSeeds, hvalid]
    rfl
  rw [hbatch]
  by_cases hall : (dedupSeeds seeds).all s.admits = true
  · rw [if_pos hall]
    have hall' := List.all_eq_true.mp hall
    obtain ⟨s', hs', hrows⟩ := upsertAll_admitted hs hall' now
    rw [hs', settle, hrows, admitted_dedupSeeds hall']
  · rw [if_neg hall]
    obtain ⟨seed, hseed, hrefused⟩ : ∃ seed ∈ dedupSeeds seeds, s.admits seed = false := by
      simpa using hall
    obtain ⟨err, herr⟩ := upsertAll_refused hs ⟨seed, hseed, hrefused⟩ now
    rw [herr, settle]

theorem collapsed_iff (row? : Option TargetRow) (href : ∀ seed ∈ seeds, seed.ref = ref) :
    seeds.getLast?.toList.foldl absorb row? = seeds.foldl absorb row? ↔
      ∀ earlier last, seeds = earlier ++ [last] → Overridden row? earlier last := by
  rcases List.eq_nil_or_concat seeds with rfl | ⟨earlier, last, rfl⟩
  · simp
  · simp only [List.concat_eq_append, List.mem_append, List.mem_singleton] at href ⊢
    have hrefs : ∀ seed ∈ earlier, seed.ref = last.ref :=
      fun seed hseed => (href seed (.inl hseed)).trans (href last (.inr rfl)).symm
    simp only [List.getLast?_append, List.getLast?_singleton, Option.some_or, Option.toList_some, List.foldl_cons,
      List.foldl_nil, List.foldl_append, List.append_singleton_inj]
    rw [eq_comm, overridden_iff hrefs]
    refine ⟨?_, fun h => h earlier last ⟨rfl, rfl⟩⟩
    rintro h _ _ ⟨rfl, rfl⟩
    exact h

/-- **A batch leaves every row as its seeds one by one would, exactly if earlier seeds of a conflict key leave no
trace.** -/
theorem batch_iff (hs : s.Checked) (now : Time) (batches : List (Time × TargetSeed))
    (hvalid : validateSeeds (batches.map Prod.snd) = .ok ()) :
    (∀ ref, (s.settle (s.upsertSeeds now (batches.map Prod.snd))).1.rowState ref = (s.upsertOneByOne batches).rowState ref) ↔
      s.Collapsible (batches.map Prod.snd) := by
  have hone := fun ref => upsertOneByOne_rowState hs (validateSeeds_ok.mp hvalid) ref
  simp only [upsertSeeds_rowState hs hvalid, hone, Collapsible]
  split
  · exact forall_congr' fun ref => collapsed_iff (s.rowState ref) fun seed hseed => admitted_ref hseed
  · refine forall_congr' fun ref => ?_
    rw [eq_comm]
    exact repeated_iff (fun t ht => rowState_state ht) _

/-! ### A smaller priority that is lost -/

def seededHost : Store :=
  { hosts := [hostSeedRow 1 { host := "host", baselineRequestsPerSecond := 1, burst := 1, baselineConcurrency := 1, now := 1 }] }

def prioritySeed (priority : Int) : TargetSeed where
  ref := { host := "host", kind := .courseDetail, resourceKey := "course" }
  priority := priority
  initialInterval := 60 * second
  minInterval := 60 * second
  maxInterval := 60 * second
  maxServeAge := 60 * second
  nextRunAt := 1

theorem batch_iff_repeated : seededHost.Checked ∧ validateSeeds [prioritySeed 20, prioritySeed 10] = .ok () ∧
    ∀ ref, (seededHost.settle (seededHost.upsertSeeds 5 [prioritySeed 20, prioritySeed 10])).1.rowState ref =
      (seededHost.upsertOneByOne [(6, prioritySeed 20), (7, prioritySeed 10)]).rowState ref := by
  have hchecked : seededHost.Checked := fun t ht => by cases ht
  have hvalid : validateSeeds [prioritySeed 20, prioritySeed 10] = .ok () := by decide +kernel
  refine ⟨hchecked, hvalid, (batch_iff hchecked 5 [(6, prioritySeed 20), (7, prioritySeed 10)] hvalid).mpr ?_⟩
  have hpasses : (dedupSeeds [prioritySeed 20, prioritySeed 10]).all seededHost.admits = true := by decide +kernel
  have hboth : seededHost.admits (prioritySeed 20) = true ∧ seededHost.admits (prioritySeed 10) = true := by decide +kernel
  refine (if_pos hpasses).mpr fun ref earlier last hsplit => ?_
  by_cases href : (prioritySeed 20).ref = ref
  · have href' : (prioritySeed 10).ref = ref := href
    rw [List.map_cons, admitted_cons, if_pos ⟨href, hboth.1⟩, List.map_cons, admitted_cons, if_pos ⟨href', hboth.2⟩] at hsplit
    have hlist : earlier ++ [last] = [prioritySeed 20] ++ [prioritySeed 10] := hsplit.symm
    obtain ⟨rfl, rfl⟩ := List.append_singleton_inj.mp hlist
    subst href
    refine ⟨?_, ?_, by decide +kernel⟩ <;> simp only [List.mem_singleton, forall_eq]
    · decide +kernel
    · decide +kernel
  · have href' : ¬ (prioritySeed 10).ref = ref := href
    rw [List.map_cons, admitted_cons, if_neg fun h => href h.1, List.map_cons, admitted_cons, if_neg fun h => href' h.1] at hsplit
    cases earlier <;> cases hsplit

theorem smaller_priority_lost : ¬ ∀ (s : Store) (now : Time) (batches : List (Time × TargetSeed)), s.Checked →
    validateSeeds (batches.map Prod.snd) = .ok () → ∀ ref,
    (s.settle (s.upsertSeeds now (batches.map Prod.snd))).1.rowState ref = (s.upsertOneByOne batches).rowState ref := by
  intro h
  have hrow := h seededHost 5 [(6, prioritySeed 10), (7, prioritySeed 20)] (fun t ht => by cases ht) (by decide +kernel)
    (prioritySeed 10).ref
  have hbatch : ((seededHost.settle (seededHost.upsertSeeds 5 [prioritySeed 10, prioritySeed 20])).1.rowState
      (prioritySeed 10).ref).map TargetRow.priority = some 20 := by decide +kernel
  have hone : ((seededHost.upsertOneByOne [(6, prioritySeed 10), (7, prioritySeed 20)]).rowState
      (prioritySeed 10).ref).map TargetRow.priority = some 10 := by decide +kernel
  rw [← hrow] at hone
  cases hbatch.symm.trans hone

end Batches

end Store

end QrCommandCenter
