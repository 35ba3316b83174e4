import QrCommandCenter.Warwick.LiveReads

/-!
# The snapshot source and the live readers on one body

Both parse the same three collections, the snapshot source with `json.Unmarshal` and `FormatFloat`, the live readers with a
decoder over the first megabyte and `%v`.

* `LiveLibrary.Lawful` : what both halves of the standard library have to do with one another;
* `FitsLimit`, `IdentifierAgrees`, `EnrolledAgrees` : the conditions;
* `requestJSON_accepted`, `readTable_accepted` : the live reader takes an accepted response if it fits;
* `mapIdx_eq_collectRows` : two parsers of rows agree when they agree on every row;
* `readers_agree_iff` : the readers agree exactly under the conditions.
-/

namespace QrCommandCenter.Warwick
open Domain Scraper

variable {ρ α : Type} {response : HttpResponse} {live : LiveLibrary} {body endpoint field id : String}

/-! ## The library -/

def isJsonSpace (c : Char) : Bool := c ∈ [' ', '\t', '\n', '\r']

/-- What a body has beyond the first `maxBodySize` bytes. -/
def beyondLimit (body : String) : List Char := body.toList.drop (takeBytes maxBodySize body.toList).length

/-- Only white space is cut off. -/
def FitsLimit (body : String) : Prop := (beyondLimit body).all isJsonSpace = true

instance decidableFitsLimit (body : String) : Decidable (FitsLimit body) := inferInstanceAs (Decidable (_ = _))

/-- The decoder reads the value that `json.Unmarshal` accepts from every part that holds it, and fails on a cut one. -/
structure DecodesParts {ρ : Type} (unmarshal decode : String → Except String (DataTable ρ)) : Prop where
  whole : ∀ part rest table, unmarshal (part ++ rest) = .ok table → rest.toList.all isJsonSpace = true →
    decode part = .ok table
  cut : ∀ part rest table, unmarshal (part ++ rest) = .ok table → rest.toList.all isJsonSpace = false →
    ∃ message, decode part = .error message

/-- Go's standard library: `%v` prints a float in the shortest form, which has an exponent from a million on. -/
structure LiveLibrary.Lawful (live : LiveLibrary) : Prop where
  catalog : DecodesParts live.unmarshalCatalog live.decodeCatalog
  detail : DecodesParts live.unmarshalDetail live.decodeDetail
  checkIn : DecodesParts live.unmarshalCheckIn live.decodeCheckIn
  formatText : ∀ text, live.formatValue (.text text) = text
  formatSmall : ∀ n : Int, |n| < 1000000 → live.formatValue (.number n) = live.formatFloat n
  formatLarge : ∀ n : Int, 1000000 ≤ |n| → live.formatValue (.number n) ≠ live.formatFloat n
  toLower_append : ∀ text rest, live.toLower (text ++ rest) = live.toLower text ++ live.toLower rest

def LiveLibrary.source (live : LiveLibrary) (responseBodyLimit maxBodyBytes : Int) : SourceConfig where
  library := live.toLibrary
  responseBodyLimit := responseBodyLimit
  maxBodyBytes := maxBodyBytes

/-! ## The conditions -/

/-- An identifier that both formats print alike: a text without surrounding space, or a number below a million. -/
def IdentifierAgrees : Json → Prop
  | .text text => trimSpace text = text
  | .number value => |value| < 1000000
  | _ => True

/-- An enrolled text that `fmt.Sscanf` and `strconv.Atoi` read alike. -/
def EnrolledAgrees : Json → Prop
  | .text text => sscanfD text = atoi text
  | _ => True

/-! ## An accepted response -/

theorem takeBytes_isPrefixOf (n : Nat) (text : List Char) : takeBytes n text <+: text := by
  induction text generalizing n with
  | nil => exact List.prefix_rfl
  | cons c rest ih =>
    unfold takeBytes
    split
    · exact (List.prefix_cons_inj c).mpr (ih _)
    · exact List.nil_prefix

theorem limited_append (body : String) : limited body ++ String.ofList (beyondLimit body) = body := by
  apply String.toList_injective
  unfold limited beyondLimit
  rw [String.toList_append, String.toList_ofList, String.toList_ofList]
  exact (List.prefix_append_drop (takeBytes_isPrefixOf _ _)).symm

/-- **What `requestJSON` has checked when it returns a table.** -/
theorem requestJSON_accepted {config : SourceConfig} {unmarshal : String → Except String (DataTable ρ)}
    {table : DataTable ρ} (h : (requestJSON config unmarshal (.ok response)).2.2 = .ok table) :
    response.Success ∧ ¬ LooksLikeLogin config.library response.body ∧ unmarshal response.body = .ok table := by
  unfold requestJSON at h
  simp only at h
  -- only the last branch returns a table
  repeat' split at h
  all_goals first | cases h; done | skip
  rename_i hstatus _ _ _ _ _ _ hvalid _ _ hunmarshal
  cases h
  refine ⟨⟨?_, ?_⟩, fun hlogin => ?_, hunmarshal⟩
  · omega
  · omega
  · unfold validateBody at hvalid
    rw [if_pos ((threshold_le_score_iff _ _).mpr hlogin)] at hvalid
    split at hvalid
    · cases hvalid
    · cases hvalid

theorem contains_limited (hlawful : live.Lawful) {part : String}
    (h : contains (live.toLower (limited body)) part = true) : contains (live.toLower body) part = true := by
  have hinfix : part.toList <:+: (live.toLower (limited body)).toList := of_decide_eq_true h
  refine decide_eq_true ?_
  rw [← limited_append body, hlawful.toLower_append, String.toList_append]
  exact hinfix.trans (List.prefix_append _ _).isInfix

theorem looksLikeLogin_of_detected (hlawful : live.Lawful)
    (h : authSignalsDetected live.toLibrary (limited body) = true) : LooksLikeLogin live.toLibrary body := by
  have hpoints : ∀ (points : Nat) {signal signal' : Bool}, (signal = true → signal' = true) →
      (if signal then points else 0) ≤ (if signal' then points else 0) := by
    intro points signal signal' hsignal
    cases signal with
    | false => exact Nat.zero_le _
    | true => rw [hsignal rfl]
  have hor : ∀ part part' : String,
      (contains (live.toLower (limited body)) part || contains (live.toLower (limited body)) part') = true →
        (contains (live.toLower body) part || contains (live.toLower body) part') = true := by
    intro part part' hpart
    rw [Bool.or_eq_true] at hpart ⊢
    exact hpart.imp (contains_limited hlawful) (contains_limited hlawful)
  refine (threshold_le_score_iff _ _).mp ((of_decide_eq_true h).trans ?_)
  unfold authSignalScore
  refine Nat.le_add_right_of_le ?_
  refine Nat.add_le_add (Nat.add_le_add (Nat.add_le_add (Nat.add_le_add ?_ ?_) ?_) ?_) ?_
  · exact hpoints 1 (contains_limited hlawful)
  · exact hpoints 1 (hor _ _)
  · exact hpoints 1 (contains_limited hlawful)
  · exact hpoints 1 (hor _ _)
  · exact hpoints 2 (hor _ _)

/-- **The live reader takes a response that the snapshot source accepted exactly when it fits the limit.** -/
theorem readTable_accepted (hlawful : live.Lawful) {limit maxBytes : Int}
    {unmarshal decode : String → Except String (DataTable ρ)} (hparts : DecodesParts unmarshal decode)
    {table : DataTable ρ} (h : (requestJSON (live.source limit maxBytes) unmarshal (.ok response)).2.2 = .ok table) :
    (FitsLimit response.body → readTable live.toLibrary decode (.ok response) = .ok table) ∧
      (¬ FitsLimit response.body → ∀ table', readTable live.toLibrary decode (.ok response) ≠ .ok table') := by
  obtain ⟨⟨hlow, hhigh⟩, hlogin, hunmarshal⟩ := requestJSON_accepted h
  have hnot : response.NotRefused live.toLibrary := by
    refine ⟨?_, fun hhtml => hlogin (looksLikeLogin_of_detected hlawful hhtml.2)⟩
    simp only [List.mem_cons, List.not_mem_nil, or_false, not_or]
    omega
  rw [← limited_append response.body] at hunmarshal
  constructor
  · intro hfits
    refine readTable_eq_ok.mpr ⟨response, rfl, hnot, hparts.whole _ _ table hunmarshal ?_⟩
    rw [String.toList_ofList]
    exact hfits
  · intro hfits table' hread
    obtain ⟨response', hreply, -, hdecode⟩ := readTable_eq_ok.mp hread
    cases hreply
    obtain ⟨message, hmessage⟩ := hparts.cut _ _ table hunmarshal (by
      rw [String.toList_ofList]
      exact Bool.eq_false_iff.mpr hfits)
    rw [hmessage] at hdecode
    cases hdecode

/-! ## Rows -/

/-- **Two parsers of rows agree when they agree on every row**, one with identifiers of its own, one with `identifier`. -/
theorem mapIdx_eq_collectRows {identifier : ρ → Except String String} {build : Nat → String → ρ → α}
    (read : Nat → ρ → α) {agrees : ρ → Prop}
    (hrow : ∀ i id row, identifier row = .ok id → (read i row = build i id row ↔ agrees row)) {i : Nat}
    {seen : List String} {rows : List ρ} {records : List α}
    (h : collectRows endpoint field identifier build i seen rows = .ok records) :
    rows.mapIdx (fun k => read (i + k)) = records ↔ ∀ row ∈ rows, agrees row := by
  induction rows generalizing i seen records with
  | nil =>
    cases h
    simp
  | cons row rest ih =>
    obtain ⟨id, more, hid, -, hmore, rfl⟩ := collectRows_cons.mp h
    have hshift : (fun k => read (i + (k + 1))) = fun k => read (i + 1 + k) := by
      funext k
      rw [Nat.add_right_comm, Nat.add_assoc]
    rw [List.mapIdx_cons, List.cons.injEq, hshift, ih hmore, List.forall_mem_cons]
    exact and_congr_left' (hrow i id row hid)

theorem mapIdx_const {β : Type} (f : α → β) (l : List α) : l.mapIdx (fun _ => f) = l.map f := by
  induction l with
  | nil => rfl
  | cons a l ih => rw [List.mapIdx_cons, ih, List.map_cons]

theorem formatValue_eq_iff (hlawful : live.Lawful) {value : Json}
    (h : requiredDataTableIdentifier live.toLibrary endpoint field value = .ok id) :
    live.formatValue value = id ↔ IdentifierAgrees value := by
  unfold requiredDataTableIdentifier at h
  cases value with
  | text text =>
    simp only [Table.ite_error_eq_ok, Except.ok.injEq] at h
    obtain ⟨-, rfl⟩ := h
    rw [hlawful.formatText]
    exact eq_comm
  | number value =>
    simp only [Table.ite_error_eq_ok, Except.ok.injEq, not_not] at h
    obtain ⟨hden, -, rfl⟩ := h
    have hvalue : ((value.num : Int) : ℚ) = value := Rat.coe_int_num_of_den_eq_one hden
    have habs : |value| < 1000000 ↔ |value.num| < 1000000 := by
      constructor
      · intro h
        rw [← hvalue] at h
        exact_mod_cast h
      · intro h
        rw [← hvalue]
        exact_mod_cast h
    show live.formatValue (.number value) = live.formatFloat value ↔ |value| < 1000000
    rw [habs, ← hvalue, Rat.num_intCast]
    constructor
    · intro heq
      by_contra hlarge
      exact hlawful.formatLarge value.num (not_lt.mp hlarge) heq
    · exact hlawful.formatSmall value.num
  | null | bool | composite => cases h

theorem liveDate_eq (value : Json) : liveDate value = normalizeWarwickDate value := by
  cases value with
  | text text =>
    show (if text = "" then "" else ((parseDateTime text).map formatDate).getD "") =
      ((parseDateTime text).map formatDate).getD ""
    by_cases hempty : text = ""
    · rw [if_pos hempty, hempty]
      rfl
    · rw [if_neg hempty]
  | _ => rfl

theorem liveEnrolled_eq_iff (value : Json) : liveEnrolled value = parseIntValue value ↔ EnrolledAgrees value := by
  cases value with
  | text text =>
    show (if text = "" then 0 else sscanfD text) = atoi text ↔ sscanfD text = atoi text
    by_cases hempty : text = ""
    · rw [if_pos hempty, hempty]
      exact iff_of_true rfl rfl
    · rw [if_neg hempty]
  | _ => exact iff_of_true rfl trivial

theorem liveCourse_eq_iff (hlawful : live.Lawful) (now : Nat → Time) (i : Nat) (row : ClassAttendanceRow)
    (h : requiredDataTableIdentifier live.toLibrary endpoint field row.id = .ok id) :
    liveCourse live (now i) row = courseSummary now i id row ↔ IdentifierAgrees row.id ∧ EnrolledAgrees row.enrolled := by
  rw [← formatValue_eq_iff hlawful h, ← liveEnrolled_eq_iff]
  unfold liveCourse courseSummary courseStatus
  rw [liveDate_eq, liveDate_eq, CourseSummary.mk.injEq]
  constructor
  · rintro ⟨hid, -, -, -, henrolled, -⟩
    exact ⟨hid, henrolled⟩
  · rintro ⟨hid, henrolled⟩
    exact ⟨hid, rfl, rfl, rfl, henrolled, rfl, rfl, rfl, rfl⟩

theorem liveSession_eq_iff (hlawful : live.Lawful) (i : Nat) (row : ClassAttendanceDetailRow)
    (h : requiredDataTableIdentifier live.toLibrary endpoint field row.dID = .ok id) :
    liveSession live i row = sessionSummary live.toLibrary i id row ↔ IdentifierAgrees row.dID := by
  rw [← formatValue_eq_iff hlawful h]
  unfold liveSession sessionSummary
  rw [SessionSummary.mk.injEq]
  constructor
  · rintro ⟨hid, -⟩
    exact hid
  · intro hid
    exact ⟨hid, rfl, rfl, rfl, rfl, rfl, rfl⟩

theorem studentCheckin_eq_iff (row : StudentCheckInRow)
    (h : (.ok (trimSpace row.studentID) : Except String String) = .ok id) :
    studentCheckin row.studentID row = studentCheckin id row ↔ trimSpace row.studentID = row.studentID := by
  cases h
  unfold studentCheckin
  rw [StudentCheckin.mk.injEq]
  constructor
  · rintro ⟨hid, -⟩
    exact hid.symm
  · intro hid
    exact ⟨hid.symm, rfl, rfl, rfl, rfl, rfl, rfl, rfl⟩

/-! ## Both readers -/

theorem fetchTable_accepted {config : SourceConfig} {unmarshal : String → Except String (DataTable ρ)}
    {parse : DataTable ρ → Except String Value}
    (h : (fetchTable config unmarshal parse (.ok response)).failure = none) :
    ∃ table, (requestJSON config unmarshal (.ok response)).2.2 = .ok table ∧
      parse table = .ok (fetchTable config unmarshal parse (.ok response)).result.value := by
  unfold fetchTable at h ⊢
  dsimp only at h ⊢
  cases hanswer : (requestJSON config unmarshal (.ok response)).2.2 with
  | error failure =>
    rw [hanswer] at h
    cases h
  | ok table =>
    rw [hanswer] at h
    dsimp only at h ⊢
    cases hparse : parse table with
    | error message =>
      rw [hparse] at h
      cases h
    | ok value => exact ⟨table, rfl, hparse⟩

theorem map_bind_ok {ε β γ : Type} (x : Except ε α) (f : α → β) (g : β → γ) :
    (x >>= fun a => (.ok (f a) : Except ε β)).map g = x >>= fun a => .ok (g (f a)) := by
  cases x with
  | error | ok => rfl

theorem table_agree_iff (hlawful : live.Lawful) {limit maxBytes : Int} {unmarshal decode : String → Except String (DataTable ρ)}
    (hparts : DecodesParts unmarshal decode) {identifier : ρ → Except String String} {build : Nat → String → ρ → α}
    (read : Nat → ρ → α) {agrees : ρ → Prop}
    (hrow : ∀ i id row, identifier row = .ok id → (read i row = build i id row ↔ agrees row)) {wrap : List α → Value}
    {parse : DataTable ρ → Except String Value}
    (hparse : ∀ table, parse table = collectTable endpoint field identifier build table >>= fun records => .ok (wrap records))
    (h : (fetchTable (live.source limit maxBytes) unmarshal parse (.ok response)).failure = none) :
    ∃ records table, (fetchTable (live.source limit maxBytes) unmarshal parse (.ok response)).result.value = wrap records ∧
      unmarshal response.body = .ok table ∧
        ((readTable live.toLibrary decode (.ok response) >>= fun table => .ok (table.data.mapIdx read)) = .ok records ↔
          FitsLimit response.body ∧ ∀ row ∈ table.data, agrees row) := by
  obtain ⟨table, hanswer, hvalue⟩ := fetchTable_accepted h
  obtain ⟨-, -, hunmarshal⟩ := requestJSON_accepted hanswer
  rw [hparse] at hvalue
  obtain ⟨records, hrecords, hvalue⟩ := Table.bind_eq_ok.mp hvalue
  obtain ⟨_, -, hrows⟩ := Table.bind_eq_ok.mp hrecords
  have hagree := mapIdx_eq_collectRows read hrow hrows
  simp only [Nat.zero_add] at hagree
  obtain ⟨hfits, hcut⟩ := readTable_accepted hlawful hparts hanswer
  refine ⟨records, table, (Except.ok.inj hvalue).symm, hunmarshal, ?_⟩
  rw [Table.bind_eq_ok, ← hagree]
  constructor
  · rintro ⟨table', hread, hrecords⟩
    have hfit : FitsLimit response.body := by
      by_contra hlong
      exact hcut hlong table' hread
    rw [hfits hfit] at hread
    cases hread
    exact ⟨hfit, Except.ok.inj hrecords⟩
  · rintro ⟨hfit, rfl⟩
    exact ⟨table, hfits hfit, rfl⟩

theorem catalog_agree_iff {live : LiveLibrary} (hlawful : live.Lawful) {limit maxBytes : Int} {now : Nat → Time}
    {response : HttpResponse}
    (h : (fetchCatalog (live.source limit maxBytes) now (.ok response)).failure = none) :
    ∃ courses table, (fetchCatalog (live.source limit maxBytes) now (.ok response)).result.value = .courses courses ∧
      live.unmarshalCatalog response.body = .ok table ∧
        (fetchCourses live now (.ok response) = .ok courses ↔
          FitsLimit response.body ∧ ∀ row ∈ table.data, IdentifierAgrees row.id ∧ EnrolledAgrees row.enrolled) :=
  table_agree_iff hlawful hlawful.catalog (fun i row => liveCourse live (now i) row)
    (fun i _ row hid => liveCourse_eq_iff hlawful now i row hid) (fun _ => rfl) h

/-- **The live readers return the records of the snapshot source exactly when the body fits the live limit and every row
has identifiers and counts that both libraries read alike**, at the same instants. -/
theorem readers_agree_iff (live : LiveLibrary) (hlawful : live.Lawful) (limit maxBytes : Int) (now : Nat → Time)
    (response : HttpResponse) :
    ((fetchCatalog (live.source limit maxBytes) now (.ok response)).failure = none →
      ∃ courses table, (fetchCatalog (live.source limit maxBytes) now (.ok response)).result.value = .courses courses ∧
        live.unmarshalCatalog response.body = .ok table ∧
          (fetchCourses live now (.ok response) = .ok courses ↔
            FitsLimit response.body ∧ ∀ row ∈ table.data, IdentifierAgrees row.id ∧ EnrolledAgrees row.enrolled)) ∧
    (∀ (target : ScrapeTarget) (courseID : String),
      (fetchCourse (live.source limit maxBytes) target (.ok response)).failure = none →
      ∃ detail table, (fetchCourse (live.source limit maxBytes) target (.ok response)).result.value =
          .coursePointer (some detail) ∧
        live.unmarshalDetail response.body = .ok table ∧
          ((fetchCourseDetail live courseID (.ok response)).map CourseDetail.sessions = .ok detail.sessions ↔
            FitsLimit response.body ∧ ∀ row ∈ table.data, IdentifierAgrees row.dID)) ∧
    (∀ (target : ScrapeTarget) (sessionID : String),
      (fetchSession (live.source limit maxBytes) target (.ok response)).failure = none →
      ∃ detail table, (fetchSession (live.source limit maxBytes) target (.ok response)).result.value =
          .sessionPointer (some detail) ∧
        live.unmarshalCheckIn response.body = .ok table ∧
          ((fetchSessionDetail live sessionID (.ok response)).map SessionDetail.students = .ok detail.students ↔
            FitsLimit response.body ∧ ∀ row ∈ table.data, trimSpace row.studentID = row.studentID)) := by
  refine ⟨catalog_agree_iff hlawful, fun target courseID h => ?_, fun target sessionID h => ?_⟩
  · obtain ⟨sessions, table, hvalue, hunmarshal, hagree⟩ := table_agree_iff hlawful hlawful.detail (liveSession live)
      (fun i _ row hid => liveSession_eq_iff hlawful i row hid) (fun _ => rfl) h
    refine ⟨courseDetail target sessions, table, hvalue, hunmarshal, ?_⟩
    rw [fetchCourseDetail, map_bind_ok]
    exact hagree
  · obtain ⟨students, table, hvalue, hunmarshal, hagree⟩ := table_agree_iff hlawful hlawful.checkIn
      (fun _ row => studentCheckin row.studentID row) (fun _ _ row hid => studentCheckin_eq_iff row hid) (fun _ => rfl) h
    refine ⟨sessionDetail target students, table, hvalue, hunmarshal, ?_⟩
    simp only [mapIdx_const] at hagree
    rw [fetchSessionDetail, map_bind_ok]
    exact hagree

/-! ## A course numbered 1234567 -/

def decimalText (n : Int) : List Char := (if n < 0 then ['-'] else []) ++ Nat.toDigits 10 n.natAbs

/-- The same in exponent form, as `%v` prints it from a million on. -/
def exponentText (n : Int) : List Char :=
  let shown := Nat.toDigits 10 n.natAbs
  let fraction := (shown.drop 1).rdropWhile (· = '0')
  (if n < 0 then ['-'] else []) ++ shown.take 1 ++ (if fraction = [] then [] else '.' :: fraction) ++ ['e', '+'] ++
    padded 2 (shown.length - 1)

theorem exponentText_ne (n : Int) : exponentText n ≠ decimalText n := by
  intro h
  have hmem : 'e' ∈ exponentText n := by simp [exponentText]
  rw [h, decimalText, List.mem_append] at hmem
  rcases hmem with hsign | hdigit
  · split at hsign
    · simp at hsign
    · cases hsign
  · have := Nat.isDigit_of_mem_toDigits (by decide) (by decide) hdigit
    revert this
    decide

example : String.ofList (exponentText 1234567) = "1.234567e+06" := by decide +kernel

/-- A catalog with one course, whose identifier is a number. -/
def numberedBody (id : Int) : String :=
  "\x7b\"recordsTotal\":1,\"recordsFiltered\":1,\"data\":[\x7b\"ID\":" ++ String.ofList (decimalText id) ++ "\x7d]" ++
    "\x7d"

def numberedTable (id : Int) : DataTable ClassAttendanceRow where
  recordsTotal := 1
  recordsFiltered := 1
  data := [{ id := .number id, courseName := "" }]

/-- A library that decodes the catalog of the given identifier. -/
def numberedLive (id : Int) : LiveLibrary where
  rawBodyHash := fun _ => ""
  toLower := fun text => String.ofList (text.toList.map Char.toLower)
  formatFloat := fun value => String.ofList (decimalText value.num)
  parseMediaType := some
  unmarshalCatalog := fun body => if body = numberedBody id then .ok (numberedTable id) else .error "invalid character"
  unmarshalDetail := fun _ => .error "invalid character"
  unmarshalCheckIn := fun _ => .error "invalid character"
  decodeCatalog := fun body => if body = numberedBody id then .ok (numberedTable id) else .error "unexpected EOF"
  decodeDetail := fun _ => .error "unexpected EOF"
  decodeCheckIn := fun _ => .error "unexpected EOF"
  decodeProfiles := fun _ => .error "unexpected EOF"
  formatValue := fun value =>
    match value with
    | .text text => text
    | .number value =>
      String.ofList (if |value.num| < 1000000 then decimalText value.num else exponentText value.num)
    | .bool value => if value then "true" else "false"
    | .null => "<nil>"
    | .composite => "map[]"

theorem decodesParts_single (start : String) (last : Char) {table : DataTable ρ} {message message' : String}
    (hbody : body = start ++ String.ofList [last]) (hlast : isJsonSpace last = false) :
    DecodesParts (fun text => if text = body then .ok table else .error message)
      (fun text => if text = body then .ok table else .error message') := by
  have hwhole : ∀ {text : String} {t : DataTable ρ},
      (if text = body then .ok table else .error message : Except String (DataTable ρ)) = .ok t → text = body ∧ table = t := by
    intro text t h
    split at h
    · rename_i htext
      exact ⟨htext, Except.ok.inj h⟩
    · cases h
  constructor
  · intro part rest t h hspace
    obtain ⟨hparts, rfl⟩ := hwhole h
    -- the last character of the body is no space, so nothing is left for `rest`
    have hrest : rest.toList = [] := by
      by_contra hne
      have hlists := congrArg String.toList (hparts.trans hbody)
      rw [String.toList_append, String.toList_append, String.toList_ofList] at hlists
      have hgetLast : rest.toList.getLast? = some last := by
        rw [← List.getLast?_append_of_ne_nil part.toList hne, hlists, List.getLast?_concat]
      have hmem : last ∈ rest.toList := List.mem_of_getLast? hgetLast
      rw [List.all_eq_true.mp hspace last hmem] at hlast
      cases hlast
    have hpart : part = body := by
      rw [← hparts]
      apply String.toList_injective
      rw [String.toList_append, hrest, List.append_nil]
    exact if_pos hpart
  · intro part rest t h hspace
    obtain ⟨hparts, -⟩ := hwhole h
    have hpart : part ≠ body := by
      intro hpart
      have hlength := congrArg (fun text => text.toList.length) (hparts.trans hpart.symm)
      simp only [String.toList_append, List.length_append] at hlength
      have hnil : rest.toList = [] := List.length_eq_zero_iff.mp (by omega)
      rw [hnil] at hspace
      cases hspace
    exact ⟨message', if_neg hpart⟩

theorem numberedLive_lawful (id : Int) : (numberedLive id).Lawful where
  catalog := decodesParts_single _ '\x7d' rfl (by decide)
  detail := ⟨(fun _ _ _ h => by cases h), (fun _ _ _ h => by cases h)⟩
  checkIn := ⟨(fun _ _ _ h => by cases h), (fun _ _ _ h => by cases h)⟩
  formatText := fun _ => rfl
  formatSmall := by
    intro n hn
    show String.ofList (if |(n : ℚ).num| < 1000000 then _ else _) = _
    rw [Rat.num_intCast, if_pos hn]
    rfl
  formatLarge := by
    intro n hn heq
    have htext : String.ofList (if |(n : ℚ).num| < 1000000 then decimalText (n : ℚ).num else exponentText (n : ℚ).num) =
        String.ofList (decimalText (n : ℚ).num) := heq
    rw [Rat.num_intCast, if_neg (not_lt.mpr hn)] at htext
    exact exponentText_ne n (String.ofList_injective htext)
  toLower_append := by
    intro text rest
    apply String.toList_injective
    show (String.ofList _).toList = (String.ofList _ ++ String.ofList _).toList
    simp only [String.toList_append, String.toList_ofList, List.map_append]

def numberedResponse (id : Int) : HttpResponse where
  statusCode := 200
  contentType := "application/json"
  body := numberedBody id

theorem readers_agree_small :
    ∃ courses, (fetchCatalog ((numberedLive 4711).source 2000000 2000000) (fun _ => 0)
        (.ok (numberedResponse 4711))).result.value = .courses courses ∧
      fetchCourses (numberedLive 4711) (fun _ => 0) (.ok (numberedResponse 4711)) = .ok courses := by
  have haccepted : (fetchCatalog ((numberedLive 4711).source 2000000 2000000) (fun _ => 0)
      (.ok (numberedResponse 4711))).failure = none := by decide +kernel
  obtain ⟨hcatalog, -⟩ := readers_agree_iff (numberedLive 4711) (numberedLive_lawful 4711) 2000000 2000000 (fun _ => 0)
    (numberedResponse 4711)
  obtain ⟨courses, table, hvalue, hdecoded, hiff⟩ := hcatalog haccepted
  have htable : table = numberedTable 4711 := (Except.ok.inj hdecoded).symm
  refine ⟨courses, hvalue, hiff.mpr ⟨by decide +kernel, ?_⟩⟩
  rw [htable]
  intro row hrow
  cases List.mem_singleton.mp hrow
  refine ⟨?_, trivial⟩
  show |((4711 : Int) : ℚ)| < 1000000
  norm_num

theorem readers_disagree_large :
    ¬ ∀ (live : LiveLibrary), live.Lawful → ∀ (limit maxBytes : Int) (now : Nat → Time) (response : HttpResponse)
      (courses : List CourseSummary), (fetchCatalog (live.source limit maxBytes) now (.ok response)).failure = none →
        (fetchCatalog (live.source limit maxBytes) now (.ok response)).result.value = .courses courses →
          fetchCourses live now (.ok response) = .ok courses := by
  intro h
  have haccepted : (fetchCatalog ((numberedLive 1234567).source 2000000 2000000) (fun _ => 0)
      (.ok (numberedResponse 1234567))).failure = none := by decide +kernel
  obtain ⟨courses, table, hvalue, hdecoded, hiff⟩ := catalog_agree_iff (numberedLive_lawful 1234567) haccepted
  have htable : table = numberedTable 1234567 := (Except.ok.inj hdecoded).symm
  obtain ⟨-, hrows⟩ := hiff.mp (h _ (numberedLive_lawful 1234567) _ _ _ _ courses haccepted hvalue)
  rw [htable] at hrows
  obtain ⟨hid, -⟩ := hrows _ List.mem_cons_self
  have hsmall : |((1234567 : Int) : ℚ)| < 1000000 := hid
  norm_num at hsmall

end QrCommandCenter.Warwick
