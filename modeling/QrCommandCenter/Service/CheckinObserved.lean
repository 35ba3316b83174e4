import QrCommandCenter.Service.CheckinProtocol

/-!
# What a check-in saw of the roster

A call among changes of the roster upstream and fetches of the scraper, and whether the roster showed what the call
reports.

* `Timeline`, `TimelineEvent` : the roster at every moment, the fetch under way and the snapshot that is committed;
* `Timeline.Faithful`, `Timeline.Later` : a snapshot shows the roster of the moment it was observed, and a later one comes
  from a later fetch (`replay_step`);
* `Scene`, `Scene.handle` : a call, with what happens during each of its calls;
* `verify_ensures` : a verification that succeeds saw the roster during the call;
* `observed_iff` : when a result says what the roster showed during the call.
-/

namespace QrCommandCenter.Service
open Domain Table Program

variable {current : CurrentCheckinState}

/-! ## The roster and the scraper -/

/-- The fetch under the live lease of the session: the moment it started, and the moment it observed the roster. -/
structure Scrape where
  started : Nat
  observed : Option Nat
deriving DecidableEq

/-- The committed snapshot, with the moments of its fetch. -/
structure PublishedRoster where
  snapshot : Snapshot
  started : Nat
  observed : Nat

/-- The rosters of the earlier moments and of the present one, the fetch under way and what is committed. -/
structure Timeline where
  past : List SessionDetail := []
  roster : SessionDetail
  scrape : Option Scrape := none
  current : Option PublishedRoster := none

inductive TimelineEvent where
  | change (roster : SessionDetail)
  | fetch
  | observe
  | commit (snapshot : Snapshot)

namespace Timeline

variable {roster : SessionDetail}

def now (t : Timeline) : Nat := t.past.length

def rosters (t : Timeline) : List SessionDetail := t.past ++ [t.roster]

section
variable (decode : RawMessage → Option SessionDetail) (t : Timeline)

/-- One event. A new lease fences the one before it, so that only the last fetch can be committed. -/
def apply : TimelineEvent → Timeline
  | .change roster => { t with past := t.past ++ [t.roster], roster := roster }
  | .fetch => { t with scrape := some ⟨t.now, none⟩ }
  | .observe =>
    match t.scrape with
    | some ⟨started, none⟩ => { t with scrape := some ⟨started, some t.now⟩ }
    | _ => t
  | .commit snapshot =>
    match t.scrape with
    | some ⟨started, some observed⟩ =>
      -- a snapshot decodes to the roster that was observed
      if (decode snapshot.payload).isSome && decode snapshot.payload = t.rosters[observed]? then
        { t with scrape := none, current := some ⟨snapshot, started, observed⟩ }
      else t
    | _ => t

def replay (events : List TimelineEvent) : Timeline :=
  events.foldl (apply decode) t

/-- What is committed and what is fetched is in order, and shows the roster of its moment. -/
structure Faithful : Prop where
  published : ∀ p, t.current = some p → p.started ≤ p.observed ∧
    ∃ roster, t.rosters[p.observed]? = some roster ∧ decode p.snapshot.payload = some roster
  scraped : ∀ f, t.scrape = some f → f.started ≤ t.now ∧ (∀ m, f.observed = some m → f.started ≤ m) ∧
    ∀ p, t.current = some p → p.started ≤ f.started

end

/-- Nothing that happened is undone, and a snapshot is only replaced by one of a later fetch. -/
structure Later (t t' : Timeline) : Prop where
  rosters : t.rosters <+: t'.rosters
  current : ∀ p, t.current = some p → ∃ p', t'.current = some p' ∧ p.started ≤ p'.started

variable {decode : RawMessage → Option SessionDetail} {t t' t'' : Timeline}

theorem length_rosters (t : Timeline) : t.rosters.length = t.now + 1 := by
  simp [rosters, now]

theorem getElem?_rosters_now (t : Timeline) : t.rosters[t.now]? = some t.roster := by
  simp [rosters, now]

theorem le_now {m : Nat} (h : t.rosters[m]? = some roster) : m ≤ t.now := by
  have hlt := (List.getElem?_eq_some_iff.mp h).1
  rw [length_rosters] at hlt
  omega

theorem Later.refl (t : Timeline) : Later t t := ⟨List.prefix_refl _, fun p hp => ⟨p, hp, le_rfl⟩⟩

theorem Later.trans (h₁ : Later t t') (h₂ : Later t' t'') : Later t t'' := by
  refine ⟨h₁.rosters.trans h₂.rosters, fun p hp => ?_⟩
  obtain ⟨p', hp', hle⟩ := h₁.current p hp
  obtain ⟨p'', hp'', hle'⟩ := h₂.current p' hp'
  exact ⟨p'', hp'', hle.trans hle'⟩

theorem Later.now_le (h : Later t t') : t.now ≤ t'.now := by
  have hlength := h.rosters.length_le
  rw [length_rosters, length_rosters] at hlength
  omega

theorem Later.getElem? (h : Later t t') {m : Nat} (hm : t.rosters[m]? = some roster) :
    t'.rosters[m]? = some roster := by
  obtain ⟨rest, hrest⟩ := h.rosters
  rw [← hrest]
  exact getElem?_append_kept hm _

theorem faithful_initial (roster : SessionDetail) : Faithful decode { roster } :=
  ⟨(fun p hp => by cases hp), (fun f hf => by cases hf)⟩

/-- **One event keeps the timeline faithful, and undoes nothing.** -/
theorem apply_step (h : Faithful decode t) (event : TimelineEvent) :
    Faithful decode (t.apply decode event) ∧ Later t (t.apply decode event) := by
  cases event with
  | change roster =>
    have hlater : Later t (t.apply decode (.change roster)) :=
      ⟨⟨[roster], rfl⟩, fun p hp => ⟨p, hp, le_rfl⟩⟩
    refine ⟨⟨fun p hp => ?_, fun f hf => ?_⟩, hlater⟩
    · obtain ⟨hle, shown, hshown, hdecode⟩ := h.published p hp
      exact ⟨hle, shown, hlater.getElem? hshown, hdecode⟩
    · obtain ⟨hstarted, hobserved, hcurrent⟩ := h.scraped f hf
      exact ⟨hstarted.trans hlater.now_le, hobserved, hcurrent⟩
  | fetch =>
    refine ⟨⟨h.published, fun f hf => ?_⟩, List.prefix_refl _, fun p hp => ⟨p, hp, le_rfl⟩⟩
    cases hf
    refine ⟨le_rfl, (fun m hm => by cases hm), fun p hp => ?_⟩
    -- what is committed was observed by now
    obtain ⟨hle, roster, hroster, -⟩ := h.published p hp
    exact hle.trans (le_now hroster)
  | observe =>
    simp only [apply]
    split
    · rename_i started hscrape
      obtain ⟨hstarted, -, hcurrent⟩ := h.scraped _ hscrape
      refine ⟨⟨h.published, fun f hf => ?_⟩, List.prefix_refl _, fun p hp => ⟨p, hp, le_rfl⟩⟩
      cases hf
      refine ⟨hstarted, fun m hm => ?_, hcurrent⟩
      cases hm
      exact hstarted
    · exact ⟨h, Later.refl t⟩
  | commit snapshot =>
    simp only [apply]
    split
    · rename_i started observed hscrape
      obtain ⟨-, hobserved, hcurrent⟩ := h.scraped _ hscrape
      split
      · rename_i hdecode
        simp only [Bool.and_eq_true, decide_eq_true_eq] at hdecode
        obtain ⟨roster, hroster⟩ := Option.isSome_iff_exists.mp hdecode.1
        refine ⟨⟨fun p hp => ?_, (fun f hf => by cases hf)⟩, List.prefix_refl _, fun p hp => ⟨_, rfl, hcurrent p hp⟩⟩
        cases hp
        exact ⟨hobserved observed rfl, roster, hdecode.2.symm.trans hroster, hroster⟩
      · exact ⟨h, Later.refl t⟩
    · exact ⟨h, Later.refl t⟩

theorem replay_step (h : Faithful decode t) (events : List TimelineEvent) :
    Faithful decode (t.replay decode events) ∧ Later t (t.replay decode events) := by
  induction events generalizing t with
  | nil => exact ⟨h, Later.refl t⟩
  | cons event events ih =>
    obtain ⟨hfirst, hlater⟩ := apply_step h event
    obtain ⟨hrest, hlater'⟩ := ih hfirst
    exact ⟨hrest, hlater.trans hlater'⟩

end Timeline

/-! ## A call among these events -/

/-- What happens during one of the calls, before and after it takes effect, and what the environment chooses for it. -/
structure Occasion where
  before : List TimelineEvent := []
  after : List TimelineEvent := []
  choice : Choice

/-- The timeline and the table, what is to happen during the calls that follow, and what was read so far. -/
structure Scene where
  timeline : Timeline
  table : Mutations
  occasions : List Occasion
  answered : List StateReads := []

/-- What a read returns that does not fail: the roster of the moment, or the snapshot that is committed then. -/
def Timeline.reads (t : Timeline) (chosen : StateReads) : StateReads where
  snapshot :=
    match chosen.snapshot, t.current with
    | .error err, _ => .error err
    | .ok _, none => .error .snapshotNotFound
    | .ok _, some p => .ok p.snapshot
  detail := chosen.detail.map fun detail => detail.map fun _ => t.roster
  profiles := chosen.profiles

/-- The choices that agree with the timeline: `RefreshNow` returns nil only after the commit of a fetch from after its
`start`. -/
def Timeline.choose (t : Timeline) (start : Nat) (chosen : Choice) : Choice :=
  { chosen with
    reads := t.reads chosen.reads
    refreshed := chosen.refreshed && t.current.any fun p => start ≤ p.started }

def CheckinCall.logged : CheckinCall → StateReads → List StateReads
  | .readState _ _ _, reads => [reads]
  | _, _ => []

def Scene.handle (decode : RawMessage → Option SessionDetail) (hashtext : String → BitVec 32) (i : Nat) (s : Scene)
    (e : CheckinCall) : Option (Scene × e.Answer) :=
  match s.occasions with
  | [] => none
  | occasion :: occasions =>
    let t := s.timeline.replay decode occasion.before
    let choice := t.choose s.timeline.now occasion.choice
    (s.table.handle hashtext i choice e).map fun r =>
      ({ timeline := t.replay decode occasion.after, table := r.1, occasions
         answered := s.answered ++ e.logged choice.reads }, r.2)

/-- Nothing that happened or was read is undone. -/
structure Scene.Later (decode : RawMessage → Option SessionDetail) (s s' : Scene) : Prop where
  timeline : s.timeline.Later s'.timeline
  answered : s.answered <+: s'.answered
  faithful : s'.timeline.Faithful decode

def stateIn (req : CheckinRequest) (profiles : List StudentProfile) (roster : SessionDetail) : Option Bool :=
  (resolveCheckinStudentID req.studentID roster.students profiles).bind fun upstreamStudentID =>
    (roster.students.find? fun student => student.studentID = upstreamStudentID).map StudentCheckin.checkedIn

/-- At a moment between the two scenes the roster showed the student in the desired state. -/
def Shown (req : CheckinRequest) (s s' : Scene) : Prop :=
  ∃ reads ∈ s'.answered, ∃ m roster, s.timeline.now ≤ m ∧ s'.timeline.rosters[m]? = some roster ∧
    stateIn req (TeacherService.profilesRead reads) roster = some req.desiredCheckedIn

section Handle
variable {decode : RawMessage → Option SessionDetail} {hashtext : String → BitVec 32} {i : Nat} {s s' s'' : Scene}
  {req : CheckinRequest} {service : TeacherService}
variable {attempt : Nat} {reads : StateReads}

theorem Scene.Later.trans (h₁ : Scene.Later decode s s') (h₂ : Scene.Later decode s' s'') : Scene.Later decode s s'' :=
  ⟨h₁.timeline.trans h₂.timeline, h₁.answered.trans h₂.answered, h₂.faithful⟩

theorem Shown.later (h : Shown req s s') (hlater : Scene.Later decode s' s'') : Shown req s s'' := by
  obtain ⟨reads, hreads, m, roster, hm, hroster, hstate⟩ := h
  exact ⟨reads, hlater.answered.subset hreads, m, roster, hm, hlater.timeline.getElem? hroster, hstate⟩

section
variable (hs : s.timeline.Faithful decode) {e : CheckinCall} {r : e.Answer}
  (h : s.handle decode hashtext i e = some (s', r))
include hs h

/-- A call takes effect at one moment between its start and its end. -/
theorem handle_effect : ∃ (t : Timeline) (chosen : Choice), s.timeline.Later t ∧ t.Faithful decode ∧ t.Later s'.timeline ∧
      s.table.handle hashtext i (t.choose s.timeline.now chosen) e = some (s'.table, r) ∧
      s'.answered = s.answered ++ e.logged (t.reads chosen.reads) ∧ s'.timeline.Faithful decode := by
  unfold Scene.handle at h
  split at h
  · cases h
  · rename_i occasion occasions _
    obtain ⟨⟨table, r'⟩, hhandle, heq⟩ := Option.map_eq_some_iff.mp h
    cases heq
    obtain ⟨hbefore, hlater⟩ := Timeline.replay_step hs occasion.before
    obtain ⟨hafter, hlater'⟩ := Timeline.replay_step hbefore occasion.after
    exact ⟨_, occasion.choice, hlater, hbefore, hlater', hhandle, rfl, hafter⟩

theorem handle_later : Scene.Later decode s s' := by
  obtain ⟨t, chosen, hbefore, -, hafter, -, hanswered, hs'⟩ := handle_effect hs h
  exact ⟨hbefore.trans hafter, ⟨_, hanswered.symm⟩, hs'⟩

end

theorem Scene.Later.step (hlater : Scene.Later decode s s') {e : CheckinCall} {r : e.Answer}
    (h : s'.handle decode hashtext i e = some (s'', r)) : Scene.Later decode s s'' :=
  hlater.trans (handle_later hlater.faithful h)

theorem handle_refreshed (hs : s.timeline.Faithful decode) {ref : TargetRef}
    (h : s.handle decode hashtext i (.refreshNow attempt ref) = some (s', true)) :
    ∃ p, s'.timeline.current = some p ∧ s.timeline.now ≤ p.started := by
  obtain ⟨t, chosen, -, -, hafter, hhandle, -, -⟩ := handle_effect hs h
  have hrefreshed : (chosen.refreshed && t.current.any fun p => s.timeline.now ≤ p.started) = true :=
    (Prod.mk.inj (Option.some.inj hhandle)).2
  cases hcurrent : t.current with
  | none =>
    rw [hcurrent, Option.any_none, Bool.and_false] at hrefreshed
    cases hrefreshed
  | some p =>
    rw [hcurrent, Option.any_some, Bool.and_eq_true, decide_eq_true_eq] at hrefreshed
    obtain ⟨p', hp', hle⟩ := hafter.current p hcurrent
    exact ⟨p', hp', hrefreshed.2.trans hle⟩

theorem currentCheckinState_ok (h : service.currentCheckinState reads req = .ok current) :
    ∃ detail version, service.sessionRead reads = .ok (detail, version) ∧
      stateIn req (TeacherService.profilesRead reads) detail = some current.checkedIn := by
  unfold TeacherService.currentCheckinState at h
  split at h
  · cases h
  · rename_i detail version hsession
    refine ⟨detail, version, hsession, ?_⟩
    split at h
    · split at h <;> cases h
    · rename_i upstreamStudentID hresolve
      split at h
      · rename_i student hstudent
        cases h
        rw [stateIn, hresolve, Option.bind_some, hstudent]
        rfl
      · cases h

/-- The roster that is read is that of a moment of the read, or the one that the committed snapshot shows. -/
theorem sessionRead_observed {t : Timeline} {chosen : StateReads} (ht : t.Faithful service.decodeSession)
    {detail : SessionDetail} {version : Int} (h : service.sessionRead (t.reads chosen) = .ok (detail, version)) :
    ∃ m, t.rosters[m]? = some detail ∧ (service.snapshotMode = false → m = t.now) ∧
      (service.snapshotMode = true → ∀ p, t.current = some p → p.started ≤ m) := by
  unfold TeacherService.sessionRead at h
  split at h
  · rename_i hmode
    split at h
    · cases h
    · rename_i snapshot hsnapshot
      split at h
      · cases h
      · rename_i detail' hdecode
        cases h
        simp only [Timeline.reads] at hsnapshot
        split at hsnapshot
        · cases hsnapshot
        · cases hsnapshot
        · rename_i p _ hp
          cases hsnapshot
          obtain ⟨hle, roster, hroster, hdecode'⟩ := ht.published p hp
          rw [hdecode] at hdecode'
          cases hdecode'
          refine ⟨p.observed, hroster, fun hlive => absurd (hmode.symm.trans hlive) (by decide), fun _ p' hp' => ?_⟩
          cases hp.symm.trans hp'
          exact hle
  · rename_i hmode
    split at h
    · cases h
    · cases h
    · rename_i detail' hdetail
      cases h
      refine ⟨t.now, ?_, fun _ => rfl, fun hsnapshot => absurd hsnapshot hmode⟩
      rw [t.getElem?_rosters_now]
      simp only [Timeline.reads] at hdetail
      cases hchosen : chosen.detail with
      | error err =>
        rw [hchosen] at hdetail
        cases hdetail
      | ok read =>
        rw [hchosen] at hdetail
        cases read with
        | none => cases hdetail
        | some _ =>
          cases hdetail
          rfl

/-- What a read tells: the state on the roster at the read itself or at the fetch of the snapshot. -/
theorem handle_read (hs : s.timeline.Faithful service.decodeSession) {courseID sessionID : String}
    (h : s.handle service.decodeSession hashtext i (.readState attempt courseID sessionID) =
      some (s', reads)) (hread : service.currentCheckinState reads req = .ok current) :
    ∃ m roster, s'.timeline.rosters[m]? = some roster ∧
      stateIn req (TeacherService.profilesRead reads) roster = some current.checkedIn ∧
      (service.snapshotMode = false → s.timeline.now ≤ m) ∧
      (service.snapshotMode = true → ∀ p, s.timeline.current = some p → p.started ≤ m) := by
  obtain ⟨t, chosen, hbefore, ht, hafter, hhandle, -, -⟩ := handle_effect hs h
  have hreads : t.reads chosen.reads = reads := (Prod.mk.inj (Option.some.inj hhandle)).2
  subst hreads
  obtain ⟨detail, version, hsession, hstate⟩ := currentCheckinState_ok hread
  obtain ⟨m, hm, hlive, hsnapshot⟩ := sessionRead_observed ht hsession
  refine ⟨m, detail, hafter.getElem? hm, hstate, fun hmode => ?_, fun hmode p hp => ?_⟩
  · rw [hlive hmode]
    exact hbefore.now_le
  · obtain ⟨p', hp', hle⟩ := hbefore.current p hp
    exact hle.trans (hsnapshot hmode p' hp')

theorem handle_answered (hs : s.timeline.Faithful decode) {courseID sessionID : String}
    (h : s.handle decode hashtext i (.readState attempt courseID sessionID) = some (s', reads)) :
    s'.answered = s.answered ++ [reads] := by
  obtain ⟨t, chosen, -, -, -, hhandle, hanswered, -⟩ := handle_effect hs h
  have hreads : t.reads chosen.reads = reads := (Prod.mk.inj (Option.some.inj hhandle)).2
  rw [hanswered, ← hreads]
  rfl

end Handle

/-! ## The call -/

section Call
variable {hashtext : String → BitVec 32} {i : Nat} {s₀ s s' : Scene} {req : CheckinRequest} {service : TeacherService}

variable {outcome : CheckinOutcome}

abbrev Scene.answering (service : TeacherService) (hashtext : String → BitVec 32) (i : Nat) (s : Scene)
    (e : CheckinCall) : Option (Scene × e.Answer) := s.handle service.decodeSession hashtext i e

theorem Scene.Later.refl {decode : RawMessage → Option SessionDetail} (hs : s.timeline.Faithful decode) :
    Scene.Later decode s s :=
  ⟨Timeline.Later.refl _, List.prefix_refl _, hs⟩

/-- **A verification that succeeds saw the roster in the desired state**, after the scene the call began with. -/
theorem verify_ensures (h : Scene.Later service.decodeSession s₀ s) (attempts : List Nat) :
    (service.verify req attempts).Ensures (Scene.answering service hashtext i)
      (fun s' verified => Scene.Later service.decodeSession s₀ s' ∧ (verified.isSome = true → Shown req s₀ s')) s := by
  induction attempts generalizing s with
  | nil => exact ensures_done ⟨h, (fun h => by cases h)⟩
  | cons attempt attempts ih =>
    -- the read of an attempt, after the refresh of snapshot mode
    have hread : ∀ s₁, Scene.Later service.decodeSession s₀ s₁ →
        (service.snapshotMode = true → ∃ p, s₁.timeline.current = some p ∧ s₀.timeline.now ≤ p.started) →
        (issue (.readState (attempt + 1) req.courseID req.sessionID) >>= service.judged req attempts).Ensures
          (Scene.answering service hashtext i) (fun s' verified => Scene.Later service.decodeSession s₀ s' ∧
            (verified.isSome = true → Shown req s₀ s')) s₁ := by
      intro s₁ h₁ hfresh
      refine ensures_perform fun s₂ reads hhandle => ?_
      have h₂ := h₁.step hhandle
      unfold TeacherService.judged
      split
      · rename_i verified hverified
        split
        · rename_i hdesired
          refine ensures_done ⟨h₂, fun _ => ?_⟩
          obtain ⟨m, roster, hroster, hstate, hlive, hsnapshot⟩ := handle_read h₁.faithful hhandle hverified
          refine ⟨reads, ?_, m, roster, ?_, hroster, hstate.trans (congrArg some hdesired)⟩
          · rw [handle_answered h₁.faithful hhandle]
            exact List.mem_append_right _ List.mem_cons_self
          · cases hmode : service.snapshotMode with
            | false => exact h₁.timeline.now_le.trans (hlive hmode)
            | true =>
              obtain ⟨p, hp, hstarted⟩ := hfresh hmode
              exact hstarted.trans (hsnapshot hmode p hp)
        · exact ih h₂
      · exact ih h₂
    rw [TeacherService.verify_cons]
    split
    · refine ensures_perform fun s₁ refreshed hhandle => ?_
      cases refreshed with
      | true =>
        obtain ⟨p, hp, hstarted⟩ := handle_refreshed h.faithful hhandle
        exact hread s₁ (h.step hhandle) fun _ => ⟨p, hp, h.timeline.now_le.trans hstarted⟩
      | false => exact ih (h.step hhandle)
    · rename_i hmode
      exact hread s h fun h => absurd h hmode

/-- A result that reports the desired state was shown by the roster between the two scenes. -/
def Honest (req : CheckinRequest) (s s' : Scene) (outcome : CheckinOutcome) : Prop :=
  ∀ result, outcome = .ok result → result.status = .confirmed ∨ result.status = .alreadySatisfied → Shown req s s'

def SatisfiedBySnapshot (service : TeacherService) (req : CheckinRequest) (reads : StateReads) : Prop :=
  service.snapshotMode = true ∧
    ∃ current, service.currentCheckinState reads req = .ok current ∧ current.checkedIn = req.desiredCheckedIn

theorem honest_error (err : CheckinError) : Honest req s s' (.error err) := by
  intro result h
  cases h

theorem honest_pending {result : CheckinResult} (h : result.status = .pendingVerification) :
    Honest req s s' (.ok result) := by
  intro result' hresult hstatus
  cases hresult
  rw [h] at hstatus
  rcases hstatus with h | h <;> cases h

section
variable (h : Scene.Later service.decodeSession s₀ s)
include h

theorem conclude_ensures (current : CurrentCheckinState) :
    (service.conclude req current).Ensures (Scene.answering service hashtext i)
      (fun s' outcome => Scene.Later service.decodeSession s₀ s' ∧ Honest req s₀ s' outcome) s := by
  refine Ensures.bind (verify_ensures h [0, 1]) fun s₁ verified h₁ => ?_
  cases verified with
  | some verified =>
    refine ensures_perform fun s₂ _ hhandle => ensures_done ?_
    exact ⟨h₁.1.step hhandle, fun _ _ _ => (h₁.2 rfl).later (handle_later h₁.1.faithful hhandle)⟩
  | none =>
    refine ensures_perform fun s₂ _ hhandle => ?_
    have h₂ := h₁.1.step hhandle
    split
    · exact ensures_perform fun s₃ _ hhandle' => ensures_done ⟨h₂.step hhandle', honest_pending rfl⟩
    · exact ensures_done ⟨h₂, honest_pending rfl⟩

theorem mutate_satisfied (hdesired : current.checkedIn = req.desiredCheckedIn) :
    (service.mutate req current).Ensures (Scene.answering service hashtext i) (fun s' outcome =>
      Scene.Later service.decodeSession s₀ s' ∧ ∃ result, outcome = .ok result ∧ result.status = .alreadySatisfied) s := by
  have hfresh : service.staleVersion req current = false := by
    simp [TeacherService.staleVersion, hdesired]
  rw [TeacherService.mutate, hfresh, if_neg Bool.false_ne_true, if_pos hdesired]
  exact ensures_perform fun s₁ _ hhandle => ensures_done ⟨h.step hhandle, _, rfl, rfl⟩

theorem mutate_verified (hdesired : current.checkedIn ≠ req.desiredCheckedIn) :
    (service.mutate req current).Ensures (Scene.answering service hashtext i)
      (fun s' outcome => Scene.Later service.decodeSession s₀ s' ∧ Honest req s₀ s' outcome) s := by
  rw [TeacherService.mutate, if_neg hdesired]
  split
  · exact ensures_done ⟨h, honest_error _⟩
  · refine ensures_perform fun s₁ written hhandle => ?_
    have h₁ := h.step hhandle
    cases written with
    | error err => exact ensures_perform fun s₂ _ hhandle' => ensures_done ⟨h₁.step hhandle', honest_error _⟩
    | ok u => exact conclude_ensures h₁ current

end

/-- What a call that reserved its key returns, in terms of its first read. -/
def ReservedPost (service : TeacherService) (req : CheckinRequest) (s s' : Scene) (outcome : CheckinOutcome) : Prop :=
  ∃ reads rest, s'.answered = s.answered ++ reads :: rest ∧
    (SatisfiedBySnapshot service req reads → ∃ result, outcome = .ok result ∧ result.status = .alreadySatisfied) ∧
    (¬ SatisfiedBySnapshot service req reads → Honest req s s' outcome)

theorem checkinReserved_ensures (h : Scene.Later service.decodeSession s₀ s) (hanswered : s.answered = s₀.answered) :
    (service.checkinReserved req).Ensures (Scene.answering service hashtext i) (fun s' outcome =>
      Scene.Later service.decodeSession s₀ s' ∧ ReservedPost service req s₀ s' outcome) s := by
  refine ensures_perform fun s₁ reads hhandle => ?_
  have h₁ := h.step hhandle
  have hlogged : s₁.answered = s₀.answered ++ [reads] := by rw [handle_answered h.faithful hhandle, hanswered]
  have hfirst : ∀ s', Scene.Later service.decodeSession s₁ s' → ∃ rest, s'.answered = s₀.answered ++ reads :: rest := by
    intro s' h'
    obtain ⟨rest, hrest⟩ := h'.answered
    exact ⟨rest, by rw [← hrest, hlogged, List.append_assoc, List.singleton_append]⟩
  cases hread : service.currentCheckinState reads req with
  | error err =>
    refine ensures_perform fun s₂ _ hhandle' => ensures_done ?_
    obtain ⟨rest, hrest⟩ := hfirst s₂ (handle_later h₁.faithful hhandle')
    refine ⟨h₁.step hhandle', reads, rest, hrest, fun hsatisfied => ?_, fun _ => honest_error _⟩
    obtain ⟨-, current, hcurrent, -⟩ := hsatisfied
    cases hread.symm.trans hcurrent
  | ok current =>
    by_cases hdesired : current.checkedIn = req.desiredCheckedIn
    · refine Ensures.mono (mutate_satisfied (.refl h₁.faithful) hdesired) fun s' outcome h' => ?_
      obtain ⟨rest, hrest⟩ := hfirst s' h'.1
      refine ⟨h₁.trans h'.1, reads, rest, hrest, fun _ => h'.2, fun hsnapshot result hresult hstatus => ?_⟩
      -- the state was read from the roster itself
      have hlive : service.snapshotMode = false := by
        rw [← Bool.not_eq_true]
        exact fun hmode => hsnapshot ⟨hmode, current, hread, hdesired⟩
      obtain ⟨m, roster, hroster, hstate, hm, -⟩ := handle_read h.faithful hhandle hread
      refine Shown.later ⟨reads, ?_, m, roster, h.timeline.now_le.trans (hm hlive), hroster,
        hstate.trans (congrArg some hdesired)⟩ h'.1
      rw [hlogged]
      exact List.mem_append_right _ List.mem_cons_self
    · refine fun s' outcome hrun => ?_
      obtain ⟨rest, hrest⟩ := hfirst s' (mutate_verified (.refl h₁.faithful) hdesired s' outcome hrun).1
      obtain ⟨h', hhonest⟩ := mutate_verified h₁ hdesired s' outcome hrun
      refine ⟨h', reads, rest, hrest, fun hsatisfied => ?_, fun _ => hhonest⟩
      obtain ⟨-, current', hcurrent, hdesired'⟩ := hsatisfied
      cases hread.symm.trans hcurrent
      exact absurd hdesired' hdesired

theorem Honest.later (h : Honest req s₀ s outcome)
    (hafter : Scene.Later service.decodeSession s s') : Honest req s₀ s' outcome :=
  fun result hresult hstatus => (h result hresult hstatus).later hafter

theorem ReservedPost.later (h : ReservedPost service req s₀ s outcome)
    (hafter : Scene.Later service.decodeSession s s') : ReservedPost service req s₀ s' outcome := by
  obtain ⟨reads, rest, hreads, hsatisfied, hhonest⟩ := h
  obtain ⟨rest', hrest⟩ := hafter.answered
  refine ⟨reads, rest ++ rest', ?_, hsatisfied, fun hother => (hhonest hother).later hafter⟩
  rw [← hrest, hreads, List.append_assoc, List.cons_append]

theorem handle_unlogged (hs : s.timeline.Faithful service.decodeSession) {e : CheckinCall} {r : e.Answer}
    (h : Scene.answering service hashtext i s e = some (s', r)) (he : ∀ reads, e.logged reads = []) :
    s'.answered = s.answered := by
  obtain ⟨t, chosen, -, -, -, -, hanswered, -⟩ := handle_effect hs h
  rw [hanswered, he, List.append_nil]

theorem handle_insert_failed {table table' : Mutations} {choice : Choice} {row : MutationRow}
    (hnew : table.find req.idempotencyKey = none)
    (h : table.handle hashtext i choice (.insertIdempotencyKey req) = some (table', false))
    (hrow : table'.find req.idempotencyKey = some row) : row.response = none := by
  simp only [Mutations.handle] at h
  split at h
  · obtain ⟨rfl, -⟩ := Prod.mk.inj (Option.some.inj h)
    have hnone : lookup MutationRow.idempotencyKey table.requests req.idempotencyKey = none := hnew
    simp only [Mutations.find, lookup_append, hnone, Option.none_or] at hrow
    simp only [lookup, MutationRow.reserve, List.find?_cons, decide_true, Option.some.injEq] at hrow
    rw [← hrow]
  · cases h
    rw [hnew] at hrow
    cases hrow

section
variable (h : Scene.Later service.decodeSession s₀ s) (hanswered : s.answered = s₀.answered)
  (hnew : s.table.find req.idempotencyKey = none)
include h hanswered hnew

theorem reserve_ensures : (reserveIdempotencyKey req).Ensures (Scene.answering service hashtext i) (fun s' reserved =>
      Scene.Later service.decodeSession s₀ s' ∧ s'.answered = s₀.answered ∧
        ∀ stored, reserved = .ok stored → stored.response = none) s := by
  refine ensures_perform fun s₁ inserted hinsert => ?_
  have h₁ := h.step hinsert
  have hanswered₁ := (handle_unlogged h.faithful hinsert fun _ => rfl).trans hanswered
  cases inserted with
  | true =>
    refine ensures_done ⟨h₁, hanswered₁, fun stored hstored => ?_⟩
    cases hstored
    rfl
  | false =>
    refine ensures_perform fun s₂ existing hread => ?_
    have h₂ := h₁.step hread
    have hanswered₂ := (handle_unlogged h₁.faithful hread fun _ => rfl).trans hanswered₁
    cases existing with
    | error err =>
      refine ensures_done ⟨h₂, hanswered₂, fun stored hstored => ?_⟩
      cases hstored
    | ok row =>
      refine ensures_done ⟨h₂, hanswered₂, fun stored hstored => ?_⟩
      cases hstored
      obtain ⟨_, _, -, -, -, hinsert', -, -⟩ := handle_effect h.faithful hinsert
      obtain ⟨_, _, -, -, -, hread', -, -⟩ := handle_effect h₁.faithful hread
      exact handle_insert_failed hnew hinsert' (handle_readBack hread').2

theorem checkinLocked_ensures :
    (service.checkinLocked req).Ensures (Scene.answering service hashtext i) (fun s' outcome =>
      Scene.Later service.decodeSession s₀ s' ∧ (s'.answered = s₀.answered ∧ Honest req s₀ s' outcome ∨
        ReservedPost service req s₀ s' outcome)) s := by
  refine Ensures.bind (reserve_ensures h hanswered hnew) fun s₁ reserved h => ?_
  obtain ⟨h₁, hanswered₁, hstored⟩ := h
  cases reserved with
  | error err => exact ensures_done ⟨h₁, .inl ⟨hanswered₁, honest_error _⟩⟩
  | ok stored =>
    show Prog.Ensures _ _ (if _ then _ else if _ then _ else _) _
    split
    · exact ensures_done ⟨h₁, .inl ⟨hanswered₁, honest_error _⟩⟩
    · split
      · refine ensures_done ⟨h₁, .inl ⟨hanswered₁, ?_⟩⟩
        unfold storedCheckinResult
        rw [hstored stored rfl]
        split
        · exact honest_error _
        · exact honest_pending rfl
      · exact Ensures.mono (checkinReserved_ensures h₁ hanswered₁) fun s' outcome h => ⟨h.1, .inr h.2⟩

end

theorem checkin_ensures (hs : s.timeline.Faithful service.decodeSession) (hnew : s.table.find req.idempotencyKey = none) :
    (service.checkin req).Ensures (Scene.answering service hashtext i) (fun s' outcome =>
      s'.answered = s.answered ∧ Honest req s s' outcome ∨ ReservedPost service req s s' outcome) s := by
  rw [TeacherService.checkin]
  split
  · exact ensures_done (.inl ⟨rfl, honest_error _⟩)
  refine ensures_perform fun s₁ lock hlock => ?_
  have hanswered := handle_unlogged hs hlock fun _ => rfl
  cases lock with
  | error err => exact ensures_done (.inl ⟨hanswered, honest_error _⟩)
  | ok u =>
    have hnew₁ : s₁.table.find req.idempotencyKey = none := by
      obtain ⟨_, _, -, -, -, hhandle, -, -⟩ := handle_effect hs hlock
      simp only [Mutations.handle] at hhandle
      split at hhandle
      · cases (Prod.mk.inj (Option.some.inj hhandle)).2
      · split at hhandle
        · cases hhandle
        · rw [← (Prod.mk.inj (Option.some.inj hhandle)).1]
          exact hnew
    refine Ensures.bind (checkinLocked_ensures (handle_later hs hlock) hanswered hnew₁) fun s₂ outcome h => ?_
    refine ensures_perform fun s₃ _ hrelease => ensures_done ?_
    have h₃ := handle_later h.1.faithful hrelease
    rcases h.2 with ⟨hsame, hhonest⟩ | hreserved
    · exact .inl ⟨(handle_unlogged h.1.faithful hrelease fun _ => rfl).trans hsame, hhonest.later h₃⟩
    · exact .inr (hreserved.later h₃)

end Call

/-- The scene of a call that starts after `history`. -/
def Scene.opening (service : TeacherService) (roster : SessionDetail) (history : List TimelineEvent) (table : Mutations)
    (occasions : List Occasion) : Scene where
  timeline := Timeline.replay service.decodeSession { roster } history
  table := table
  occasions := occasions

/-- **A call with a new key is honest exactly when the roster confirms a snapshot that satisfied its first read.** -/
theorem observed_iff (hashtext : String → BitVec 32) (i : Nat) (service : TeacherService) (req : CheckinRequest)
    (roster : SessionDetail) (history : List TimelineEvent) (table : Mutations) (occasions : List Occasion) (s' : Scene)
    (outcome : CheckinOutcome) (hnew : table.find req.idempotencyKey = none)
    (hrun : (service.checkin req).run (Scene.answering service hashtext i)
      (Scene.opening service roster history table occasions) = some (s', outcome)) :
    Honest req (Scene.opening service roster history table occasions) s' outcome ↔
      ∀ reads, s'.answered.head? = some reads → SatisfiedBySnapshot service req reads →
        Shown req (Scene.opening service roster history table occasions) s' := by
  have hs : (Scene.opening service roster history table occasions).timeline.Faithful service.decodeSession :=
    (Timeline.replay_step (Timeline.faithful_initial roster) history).1
  rcases checkin_ensures hs hnew s' outcome hrun with ⟨hnone, hhonest⟩ | ⟨first, rest, hfirst, hsatisfied, hhonest⟩
  · refine ⟨fun _ reads hreads => ?_, fun _ => hhonest⟩
    rw [hnone] at hreads
    cases hreads
  · have hhead : s'.answered.head? = some first := by
      rw [hfirst]
      rfl
    constructor
    · intro h reads hreads hsnapshot
      cases hhead.symm.trans hreads
      obtain ⟨result, hresult, hstatus⟩ := hsatisfied hsnapshot
      exact h result hresult (.inr hstatus)
    · intro h
      by_cases hsnapshot : SatisfiedBySnapshot service req first
      · exact fun _ _ _ => h first hhead hsnapshot
      · exact hhonest hsnapshot

/-! ### A student who left after the last fetch -/

def oneStudentRoster (checkedIn : Bool) : SessionDetail :=
  { sessionID := "session", students := [{ studentID := "guid-a", checkedIn }] }

def departureService : TeacherService where
  snapshotMode := true
  host := "humanix"
  decodeSession := fun _ => some (oneStudentRoster true)

def departureRequest : CheckinRequest where
  courseID := "course"
  sessionID := "session"
  studentID := "guid-a"
  desiredCheckedIn := true
  idempotencyKey := "key"

def departureSnapshot : Snapshot where
  id := 1
  targetID := 1
  ref := departureService.sessionRef "course" "session"
  version := 1
  validationSeq := 1
  contentHash := 1
  payload := .empty
  contentFetchedAt := 0
  validatedAt := 0
  verifiedAt := 0
  nextRunAt := 0
  maxServeAge := 0
  parserVersion := ""
  schemaVersion := ""
  rawBodyHash := ""
  complete := true
  manifest := {}
  validationReport := {}

/-- The student is fetched as checked in, and the check-in is withdrawn upstream. -/
def departure : List TimelineEvent :=
  [.fetch, .observe, .commit departureSnapshot, .change (oneStudentRoster false)]

/-- Nothing happens, and every statement succeeds. -/
def quietOccasion : Occasion where
  choice := { reads := ⟨.ok departureSnapshot, .ok none, .ok []⟩, write := .ok (), refreshed := true }

def departureScene : Scene :=
  Scene.opening departureService (oneStudentRoster true) departure {} (List.replicate 5 quietOccasion)

/-- The call reports the state as satisfied; the roster shows the student as absent all along. -/
theorem departureScene_run :
    ((departureService.checkin departureRequest).run (Scene.answering departureService (fun _ => 0) 0)
      departureScene).map (fun r => (r.2, r.1.timeline.rosters, r.1.answered.map TeacherService.profilesRead)) =
      some (.ok { status := .alreadySatisfied, checkedIn := true, snapshotVersion := 1 },
        [oneStudentRoster true, oneStudentRoster false], [[]]) := by
  decide +kernel

theorem observed_iff_departure :
    ∃ s' outcome, (departureService.checkin departureRequest).run (Scene.answering departureService (fun _ => 0) 0)
      departureScene = some (s', outcome) ∧ (Honest departureRequest departureScene s' outcome ↔
        ∀ reads, s'.answered.head? = some reads → SatisfiedBySnapshot departureService departureRequest reads →
          Shown departureRequest departureScene s') := by
  obtain ⟨⟨s', outcome⟩, hrun, -⟩ := Option.map_eq_some_iff.mp departureScene_run
  exact ⟨s', outcome, hrun, observed_iff (fun _ => 0) 0 departureService departureRequest (oneStudentRoster true)
    departure {} (List.replicate 5 quietOccasion) s' outcome rfl hrun⟩

theorem departure_not_honest :
    ¬ ∀ (hashtext : String → BitVec 32) (i : Nat) (service : TeacherService) (req : CheckinRequest)
      (roster : SessionDetail) (history : List TimelineEvent) (table : Mutations) (occasions : List Occasion)
      (s' : Scene) (outcome : CheckinOutcome), table.find req.idempotencyKey = none →
      (service.checkin req).run (Scene.answering service hashtext i)
        (Scene.opening service roster history table occasions) = some (s', outcome) →
      Honest req (Scene.opening service roster history table occasions) s' outcome := by
  intro h
  obtain ⟨⟨s', outcome⟩, hrun, hfacts⟩ := Option.map_eq_some_iff.mp departureScene_run
  simp only [Prod.mk.injEq] at hfacts
  obtain ⟨houtcome, hrosters, hprofiles⟩ := hfacts
  obtain ⟨reads, hreads, m, roster, hm, hroster, hstate⟩ := h (fun _ => 0) 0 departureService departureRequest
    (oneStudentRoster true) departure {} (List.replicate 5 quietOccasion) s' outcome rfl hrun _ houtcome (.inr rfl)
  have hnow : 1 ≤ m := hm
  have hnames : TeacherService.profilesRead reads = [] := by
    have hmem := List.mem_map_of_mem (f := TeacherService.profilesRead) hreads
    rw [hprofiles] at hmem
    exact List.mem_singleton.mp hmem
  rw [hrosters] at hroster
  obtain _ | _ | m := m
  · omega
  · cases hroster
    rw [hnames] at hstate
    revert hstate
    decide +kernel
  · cases hroster

end QrCommandCenter.Service
