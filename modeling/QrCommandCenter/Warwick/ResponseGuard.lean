import QrCommandCenter.Warwick.Source

/-!
# Names and the response guard

`ValidateBody` looks for the signs of a login page in the raw bytes of a response, names of courses and students included.

* `Collection` : the four collections, their rows, and `Collection.nameless` : a row without its free texts;
* `Readable` : a response that has nothing wrong but perhaps such signs;
* `LooksLikeLogin` : the signs, and `requestJSON_readable` : what they do to a readable response;
* `treatedAlike_iff` : when two responses that differ in names are treated alike.
-/

namespace QrCommandCenter.Warwick
open Domain Scraper

/-! ## Collections up to names -/

inductive Collection
  | catalog
  | course
  | session
  | profiles
  deriving DecidableEq, Repr

namespace Collection

def Row : Collection → Type
  | .catalog => ClassAttendanceRow
  | .course => ClassAttendanceDetailRow
  | .session => StudentCheckInRow
  | .profiles => UserGroupRow

/-- The row with its free texts blanked. -/
def nameless : (c : Collection) → c.Row → c.Row
  | .catalog => fun (row : ClassAttendanceRow) => { row with courseName := "" }
  | .course => fun (row : ClassAttendanceDetailRow) => { row with dName := "" }
  | .session => fun (row : StudentCheckInRow) =>
    { row with studentName := "", studentNickName := "", studentSchool := "" }
  | .profiles => fun (row : UserGroupRow) => { row with fullName := "", school := "" }

/-- `json.Unmarshal` into the response of the collection; `profiles` is the one of `UserGroupSearch`. -/
def unmarshal (library : Library) (profiles : String → Except String (DataTable UserGroupRow)) :
    (c : Collection) → String → Except String (DataTable c.Row)
  | .catalog => library.unmarshalCatalog
  | .course => library.unmarshalDetail
  | .session => library.unmarshalCheckIn
  | .profiles => profiles

structure SameUpToNames (c : Collection) (table table' : DataTable c.Row) : Prop where
  recordsTotal : table.recordsTotal = table'.recordsTotal
  recordsFiltered : table.recordsFiltered = table'.recordsFiltered
  data : table.data.map c.nameless = table'.data.map c.nameless

end Collection

/-! ## The signs of a login page -/

def loginSigns (library : Library) (body : String) : List Bool :=
  let text := library.toLower body
  [contains text "<form",
    contains text "type=\"password\"" || contains text "name=\"password\"",
    contains text "__viewstate",
    contains text "login" || contains text "sign in",
    match (trimSpace body).toList with
    | [] => true
    | c :: _ => c ≠ '\x7b' && c ≠ '[']

/-- A body with a class of the login form, or with two other signs. -/
def LooksLikeLogin (library : Library) (body : String) : Prop :=
  (contains (library.toLower body) "idg-box-login-primary" || contains (library.toLower body) "idg-btn-sumbit") = true ∨
    2 ≤ (loginSigns library body).count true

instance decidableLooksLikeLogin (library : Library) (body : String) : Decidable (LooksLikeLogin library body) :=
  inferInstanceAs (Decidable (_ ∨ _))

theorem threshold_le_score_iff (library : Library) (body : String) :
    authSignalThreshold ≤ authSignalScore library body ↔ LooksLikeLogin library body := by
  have hsum : ∀ form password viewstate login classes start : Bool,
      2 ≤ (if form then 1 else 0) + (if password then 1 else 0) + (if viewstate then 1 else 0) + (if login then 1 else 0) +
          (if classes then 2 else 0) + (if start then 1 else 0) ↔
        classes = true ∨ 2 ≤ [form, password, viewstate, login, start].count true := by decide
  unfold authSignalScore LooksLikeLogin loginSigns authSignalThreshold
  dsimp only
  cases (trimSpace body).toList with
  | nil | cons => exact hsum _ _ _ _ _ _

/-! ## Readable responses -/

/-- A 2xx response of JSON within the limits, which decodes to `table`. -/
structure Readable {ρ : Type} (config : SourceConfig) (unmarshal : String → Except String (DataTable ρ))
    (response : HttpResponse) (table : DataTable ρ) : Prop where
  status : 200 ≤ response.statusCode ∧ response.statusCode < 300
  contentType : config.library.parseMediaType response.contentType = some "application/json"
  read : response.readFailure = none
  sourceLimit : (response.body.utf8ByteSize : Int) ≤ config.responseBodyLimit
  guardLimit : (response.body.utf8ByteSize : Int) ≤ config.maxBodyBytes
  decoded : unmarshal response.body = .ok table

section
variable {ρ : Type} {config : SourceConfig} {unmarshal : String → Except String (DataTable ρ)} {response : HttpResponse}
  {table : DataTable ρ} (h : Readable config unmarshal response table)
include h

/-- **What `requestJSON` makes of a readable response.** -/
theorem requestJSON_readable : (requestJSON config unmarshal (.ok response)).2.2 =
      if LooksLikeLogin config.library response.body then .error (.fetchError .authExpired) else .ok table := by
  obtain ⟨⟨hlow, hhigh⟩, htype, hread, hsource, hguard, hdecoded⟩ := h
  have hnot304 : response.statusCode ≠ 304 := by omega
  have hauth : response.statusCode ∉ [302, 301, 401, 403] := by
    simp only [List.mem_cons, List.not_mem_nil, or_false, not_or]
    omega
  have hstatus : ¬ (response.statusCode < 200 ∨ 300 ≤ response.statusCode) := by omega
  have hmedia : jsonMediaType config.library response.contentType = some "application/json" := by
    unfold jsonMediaType
    rw [htype]
    rfl
  have hvalidate : validateBody config response.body =
      if LooksLikeLogin config.library response.body then some (.fetchError .authExpired) else none := by
    unfold validateBody
    rw [if_neg (not_lt.mpr hguard)]
    by_cases hlogin : LooksLikeLogin config.library response.body
    · rw [if_pos hlogin, if_pos ((threshold_le_score_iff _ _).mpr hlogin)]
    · rw [if_neg hlogin, if_neg (fun hscore => hlogin ((threshold_le_score_iff _ _).mp hscore))]
  unfold requestJSON
  simp only [if_neg hnot304, if_neg hauth, if_neg hstatus, hmedia, hread, if_neg (not_lt.mpr hsource), hvalidate]
  by_cases hlogin : LooksLikeLogin config.library response.body
  · simp only [if_pos hlogin]
  · simp only [if_neg hlogin, hdecoded]

theorem requestJSON_login (hlogin : LooksLikeLogin config.library response.body) :
    (requestJSON config unmarshal (.ok response)).2.2 = .error (.fetchError .authExpired) := by
  rw [requestJSON_readable h, if_pos hlogin]

end

/-! ## Two responses -/

/-- Both responses are accepted or neither is, and no caller takes one for an authentication failure. -/
structure TreatedAlike {ρ : Type} (config : SourceConfig) (unmarshal : String → Except String (DataTable ρ))
    (response response' : HttpResponse) : Prop where
  accepted : (requestJSON config unmarshal (.ok response)).2.2.isOk =
    (requestJSON config unmarshal (.ok response')).2.2.isOk
  first : (requestJSON config unmarshal (.ok response)).2.2 ≠ .error (.fetchError .authExpired)
  second : (requestJSON config unmarshal (.ok response')).2.2 ≠ .error (.fetchError .authExpired)

/-- **Two readable responses that differ in names are treated alike exactly when neither looks like a login page.** -/
theorem treatedAlike_iff (config : SourceConfig) (profiles : String → Except String (DataTable UserGroupRow))
    (c : Collection) {response response' : HttpResponse} {table table' : DataTable c.Row}
    (h : Readable config (c.unmarshal config.library profiles) response table)
    (h' : Readable config (c.unmarshal config.library profiles) response' table') (_hsame : c.SameUpToNames table table') :
    TreatedAlike config (c.unmarshal config.library profiles) response response' ↔
      ¬ LooksLikeLogin config.library response.body ∧ ¬ LooksLikeLogin config.library response'.body := by
  constructor
  · intro hboth
    exact ⟨fun hlogin => hboth.first (requestJSON_login h hlogin), fun hlogin => hboth.second (requestJSON_login h' hlogin)⟩
  · rintro ⟨hlogin, hlogin'⟩
    have hfirst := requestJSON_readable h
    have hsecond := requestJSON_readable h'
    rw [if_neg hlogin] at hfirst
    rw [if_neg hlogin'] at hsecond
    refine ⟨?_, ?_, ?_⟩
    · rw [hfirst, hsecond]
      rfl
    · rw [hfirst]
      intro herr
      cases herr
    · rw [hsecond]
      intro herr
      cases herr

/-! ## A course with a telling name -/

def oneCourseBody (name : String) : String :=
  "\x7b\"recordsTotal\":1,\"recordsFiltered\":1,\"data\":[\x7b\"ID\":\"C1\",\"CourseName\":\"" ++ name ++ "\"\x7d]\x7d"

def oneCourseTable (name : String) : DataTable ClassAttendanceRow where
  recordsTotal := 1
  recordsFiltered := 1
  data := [{ id := .text "C1", courseName := name }]

def oneCourseLibrary (names : List String) : Library where
  rawBodyHash := fun _ => ""
  toLower := fun text => String.ofList (text.toList.map Char.toLower)
  formatFloat := fun _ => ""
  parseMediaType := some
  unmarshalCatalog := fun body =>
    ((names.find? fun name => body = oneCourseBody name).map oneCourseTable).elim (.error "invalid character") .ok
  unmarshalDetail := fun _ => .error "invalid character"
  unmarshalCheckIn := fun _ => .error "invalid character"

def oneCourseConfig (names : List String) : SourceConfig where
  library := oneCourseLibrary names
  responseBodyLimit := 2000000
  maxBodyBytes := 2000000

def oneCourseResponse (name : String) : HttpResponse where
  statusCode := 200
  contentType := "application/json"
  body := oneCourseBody name

theorem oneCourse_same (name name' : String) : Collection.catalog.SameUpToNames (oneCourseTable name) (oneCourseTable name') :=
  ⟨rfl, rfl, rfl⟩

theorem treatedAlike_ordinary :
    TreatedAlike (oneCourseConfig ["Maths", "Physics"])
      (Collection.catalog.unmarshal (oneCourseLibrary ["Maths", "Physics"]) fun _ => .error "")
      (oneCourseResponse "Maths") (oneCourseResponse "Physics") := by
  refine (treatedAlike_iff (oneCourseConfig ["Maths", "Physics"]) (fun _ => .error "") .catalog
    ⟨by decide, rfl, rfl, by decide +kernel, by decide +kernel, ?_⟩
    ⟨by decide, rfl, rfl, by decide +kernel, by decide +kernel, ?_⟩ (oneCourse_same "Maths" "Physics")).mpr
    ⟨by decide +kernel, by decide +kernel⟩
  · rfl
  · rfl

/-- A course name with two words of a login page turns a valid catalog into an authentication failure. -/
theorem telling_name_refused :
    ¬ ∀ (config : SourceConfig) (profiles : String → Except String (DataTable UserGroupRow)) (c : Collection)
      (response response' : HttpResponse) (table table' : DataTable c.Row),
      Readable config (c.unmarshal config.library profiles) response table →
        Readable config (c.unmarshal config.library profiles) response' table' → c.SameUpToNames table table' →
          TreatedAlike config (c.unmarshal config.library profiles) response response' := by
  intro h
  have hreadable : Readable (oneCourseConfig ["Maths", "__viewstate login"])
      (Collection.catalog.unmarshal (oneCourseLibrary ["Maths", "__viewstate login"]) fun _ => .error "")
      (oneCourseResponse "__viewstate login") (oneCourseTable "__viewstate login") :=
    ⟨by decide, rfl, rfl, by decide +kernel, by decide +kernel, rfl⟩
  have halike := h (oneCourseConfig ["Maths", "__viewstate login"]) (fun _ => .error "") .catalog (oneCourseResponse "Maths")
    (oneCourseResponse "__viewstate login") (oneCourseTable "Maths") (oneCourseTable "__viewstate login")
    ⟨by decide, rfl, rfl, by decide +kernel, by decide +kernel, rfl⟩ hreadable (oneCourse_same _ _)
  have hlogin : LooksLikeLogin (oneCourseConfig ["Maths", "__viewstate login"]).library
      (oneCourseResponse "__viewstate login").body := .inr (by decide +kernel)
  exact halike.second (requestJSON_login hreadable hlogin)

end QrCommandCenter.Warwick
