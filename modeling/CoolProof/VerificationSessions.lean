import CoolProof.Library.Sessions
import CoolProof.VerificationRuns

/-! Verification requests as interleaved sessions. The look for a stored run, the insert and
the key of the report are separate steps, between which any other session may act. Rows are
only added, and a session updates one column, so what a session has seen of a run stays. -/

namespace CoolProof.VerificationRuns
open JsonDocument Uuid Models Tables Documents Projects PortfolioRuns Runs Sessions

/-! ## Keys -/

theorem same_float (x y : FloatLiteral) : Same (.float x) (.float y) ↔ x = y := by
  simp [Same, Json.canon]

theorem same_optionalUuid (a b : Option UUID) :
    Same (optionalUuid a) (optionalUuid b) ↔ a = b := by
  cases a with
  | none =>
    cases b with
    | none => exact ⟨fun _ => rfl, fun _ => .refl _⟩
    | some v => simp [Same, Json.canon, optionalUuid]
  | some u =>
    cases b with
    | none => simp [Same, Json.canon, optionalUuid]
    | some v => simp [optionalUuid, Uuid.toString_injective.eq_iff]

/-- The canonical form tells any two bodies apart; 0.0 and -0.0 are two. -/
theorem dump_injective {r r' : VerificationRequest} (same : Same (.obj r.dump) (.obj r'.dump)) :
    r = r' := by
  have member : ∀ {key : String} {x y : Json}, r.dump.get key = some x →
      r'.dump.get key = some y → Same x y := by
    intro key x y left right
    have field := same.get key
    rwa [left, right, sameField_some] at field
  have float : ∀ (key : String) {x y : FloatLiteral}, r.dump.get key = some (.float x) →
      r'.dump.get key = some (.float y) → x = y := fun _ _ _ left right =>
    (same_float _ _).mp (member left right)
  have uuid : ∀ (key : String) {x y : Option UUID}, r.dump.get key = some (optionalUuid x) →
      r'.dump.get key = some (optionalUuid y) → x = y := fun _ _ _ left right =>
    (same_optionalUuid _ _).mp (member left right)
  have size : r.sampleSize = r'.sampleSize := by
    have number : Same (.int r.sampleSize) (.int r'.sampleSize) :=
      @member "sample_size" _ _ rfl rfl
    simpa using number
  have input : r.toVerificationInput = r'.toVerificationInput := by
    rw [VerificationInput.mk.injEq]
    exact ⟨float "treated_baseline" rfl rfl, float "treated_observed" rfl rfl,
      float "control_baseline" rfl rfl, float "control_observed" rfl rfl,
      float "treated_weather_delta" rfl rfl, float "control_weather_delta" rfl rfl,
      float "expected_cooling" rfl rfl, float "treated_threshold_hours_baseline" rfl rfl,
      float "treated_threshold_hours_observed" rfl rfl,
      float "control_threshold_hours_baseline" rfl rfl,
      float "control_threshold_hours_observed" rfl rfl, float "total_cost" rfl rfl, size⟩
  rw [VerificationRequest.mk.injEq]
  exact ⟨input, uuid "project_id" rfl rfl, uuid "portfolio_run_id" rfl rfl⟩

theorem idempotencyKey_injective {sha256 : String → String}
    (noCollision : Function.Injective sha256) :
    Function.Injective (idempotencyKey sha256) := fun _ _ same =>
  dump_injective ((JsonText.dumps_eq_iff _ _).mp (noCollision same))

/-! ## Sessions -/

/-- Where a request is between two steps. -/
inductive VerificationSession where
  | idle
  /-- Checked, and no run of the body was found. -/
  | absent (tenant : TenantContext) (request : VerificationRequest)
  | inserted (request : VerificationRequest) (run : VerificationRun)
  | reported (request : VerificationRequest) (run : VerificationRun) (key : Option String)
  /-- About to answer with a run. -/
  | found (request : VerificationRequest) (run : VerificationRun)
  | responded (organizationId : UUID) (request : VerificationRequest) (out : VerificationOut)
  /-- A run that is to have its report written again. -/
  | loaded (run : VerificationRun)
  | rewritten (run : VerificationRun) (key : String)
  /-- Answered with the key of a report that was written again. -/
  | ready (run : VerificationRun) (key : String)

inductive VerificationStep where
  | select (projects : List Project) (runs : List PortfolioRun) (tenant : TenantContext)
      (request : VerificationRequest)
  | insert (newId : UUID)
  | report (storage : ReportStorage)
  | commit
  | respond (storage : ReportStorage)
  | load (tenant : TenantContext) (id : UUID)
  | abandon

/-- The checks of `create_verification` before it looks for a run of the body. -/
def admitted (svc : VerificationService) (projects : List Project) (runs : List PortfolioRun)
    (tenant : TenantContext) (request : VerificationRequest) : Bool :=
  mayWrite tenant && request.validBody svc.floats &&
    projectFound projects tenant.organizationId request.projectId &&
    (portfolioRefused runs tenant.organizationId request).isNone

/-- One step of a session. A request that is refused or fails leaves its session idle. -/
def act (svc : VerificationService) (_ : Nat) (s : VerificationStore) :
    VerificationSession → VerificationStep → Option (VerificationStore × VerificationSession)
  | .idle, .select projects runs tenant request =>
      if admitted svc projects runs tenant request then
        match find bodyKey (tenant.organizationId, idempotencyKey svc.sha256 request)
            s.verifications with
        | some existing => some (s, .found request existing)
        | none => some (s, .absent tenant request)
      else some (s, .idle)
  | .absent tenant request, .insert newId =>
      match svc.calculate request.toVerificationInput with
      | .error _ => some (s, .idle)
      | .ok result =>
          let run := newVerification svc tenant request result newId
          match VerificationStore.commit (s.insert run) with
          | some t => some (t, .inserted request run)
          | none => some (s, .idle)
  | .inserted request run, .report storage =>
      match writeReport storage run.organizationId run.id with
      | .ok key => some (s, .reported request run key)
      | .error e => some (s, if e.caught then .found request run else .idle)
  | .reported request run key, .commit =>
      some (s.setReport run.id run.reportS3Key key,
        .found request { run with reportS3Key := key })
  | .found request run, .respond storage =>
      match response storage run with
      | .ok out => some (s, .responded run.organizationId request out)
      | .error _ => some (s, .idle)
  -- `create_report` and `create_report_alias`, which refuse alike
  | .idle, .load tenant id =>
      match s.verifications.find? fun v => v.id = id && v.organizationId = tenant.organizationId with
      | some run => some (s, if mayWrite tenant then .loaded run else .idle)
      | none => some (s, .idle)
  | .loaded run, .report storage =>
      match writeReport storage run.organizationId run.id with
      | .ok (some key) => some (s, .rewritten run key)
      | _ => some (s, .idle)
  | .rewritten run key, .commit =>
      some (s.setReport run.id run.reportS3Key (some key), .ready run key)
  | _, .abandon => some (s, .idle)
  | _, _ => none

def initial : System VerificationStore VerificationSession := ⟨.empty, fun _ => .idle⟩

/-! ## What a step keeps -/

/-- Every run is the calculation of a body of its key. -/
def Calculated (svc : VerificationService) (s : VerificationStore) : Prop :=
  ∀ c ∈ columns s.toVerificationTables, ∃ request : VerificationRequest,
    c.2.2.1 = idempotencyKey svc.sha256 request ∧
      svc.calculate request.toVerificationInput = .ok c.2.2.2

/-- The columns of a run of a body. -/
def columnsOf (svc : VerificationService) (organizationId : UUID) (request : VerificationRequest)
    (id : UUID) (result : Dict) : UUID × UUID × String × Dict :=
  (id, organizationId, idempotencyKey svc.sha256 request, result)

/-- What a session holds of a run is stored. -/
def Backed (svc : VerificationService) (s : VerificationStore) : VerificationSession → Prop
  | .inserted request run | .reported request run _ | .found request run =>
      columnsOf svc run.organizationId request run.id run.resultJson ∈
        columns s.toVerificationTables
  | .responded organizationId request out =>
      columnsOf svc organizationId request out.verificationId out.result ∈
        columns s.toVerificationTables
  | .idle | .absent .. | .loaded .. | .rewritten .. | .ready .. => True

theorem Backed.kept {svc : VerificationService} {s t : VerificationStore}
    {l : VerificationSession} (backed : Backed svc s l)
    (grown : columns s.toVerificationTables <+: columns t.toVerificationTables) :
    Backed svc t l := by
  cases l with
  | inserted | reported | found | responded => exact grown.subset backed
  | idle | absent | loaded | rewritten | ready => trivial

/-- A run is answered with its own columns, or what presigning raises is not caught. -/
theorem response_cases (storage : ReportStorage) (run : VerificationRun) :
    (∃ url, response storage run =
        .ok ⟨run.id, "completed", run.resultJson, run.reportS3Key, url⟩) ∨
      response storage run = .error .unhandled := by
  unfold response
  split
  · exact .inl ⟨none, rfl⟩
  · split
    · exact .inl ⟨_, rfl⟩
    · split
      · exact .inl ⟨none, rfl⟩
      · exact .inr rfl

theorem response_ok {storage : ReportStorage} {run : VerificationRun} {out : VerificationOut}
    (answered : response storage run = .ok out) :
    out.verificationId = run.id ∧ out.result = run.resultJson ∧
      out.reportKey = run.reportS3Key := by
  rcases response_cases storage run with ⟨url, same⟩ | stopped
  · cases answered.symm.trans same
    exact ⟨rfl, rfl, rfl⟩
  · cases answered.symm.trans stopped

/-- A run that is found under the key of a body is stored with it. -/
theorem found_backed {svc : VerificationService} {s : VerificationStore} {tenant : TenantContext}
    {request : VerificationRequest} {existing : VerificationRun}
    (stored : find bodyKey (tenant.organizationId, idempotencyKey svc.sha256 request)
      s.verifications = some existing) : Backed svc s (.found request existing) := by
  obtain ⟨member, key⟩ := find_some stored
  have listed : fixedColumns existing ∈ columns s.toVerificationTables :=
    List.mem_map_of_mem member
  have keys : existing.idempotencyKey = idempotencyKey svc.sha256 request :=
    congrArg Prod.snd key
  change (existing.id, existing.organizationId, idempotencyKey svc.sha256 request,
    existing.resultJson) ∈ _
  rw [← keys]
  exact listed

/-- An insert that commits adds the columns of its run, which are calculated. -/
theorem insert_keeps {svc : VerificationService} {s t : VerificationStore}
    {tenant : TenantContext} {request : VerificationRequest} {result : Dict} {newId : UUID}
    (calculated : Calculated svc s) (done : svc.calculate request.toVerificationInput = .ok result)
    (inserted : VerificationStore.commit
      (s.insert (newVerification svc tenant request result newId)) = some t) :
    columns s.toVerificationTables <+: columns t.toVerificationTables ∧ Calculated svc t ∧
      Backed svc t (.inserted request (newVerification svc tenant request result newId)) := by
  have rows : columns t.toVerificationTables = columns s.toVerificationTables ++
      [fixedColumns (newVerification svc tenant request result newId)] := by
    rw [columns, VerificationStore.commit_some inserted, VerificationTables.insert,
      List.map_append]
    rfl
  refine ⟨rows ▸ List.prefix_append _ _, ?_, ?_⟩
  · intro c member
    rw [rows] at member
    rcases List.mem_append.mp member with old | new
    · exact calculated c old
    · rw [List.mem_singleton.mp new]
      exact ⟨request, rfl, done⟩
  · change _ ∈ columns t.toVerificationTables
    rw [rows]
    exact List.mem_append_right _ (List.mem_singleton.mpr rfl)

/-- A step adds a calculated run or none, and leaves its session with what is stored. -/
theorem act_keeps {svc : VerificationService} {i : Nat} {s t : VerificationStore}
    {l l' : VerificationSession} {input : VerificationStep}
    (acts : act svc i s l input = some (t, l')) (calculated : Calculated svc s)
    (backed : Backed svc s l) :
    columns s.toVerificationTables <+: columns t.toVerificationTables ∧ Calculated svc t ∧
      Backed svc t l' := by
  have still : ∀ {m}, Backed svc s m → some (s, m) = some (t, l') →
      columns s.toVerificationTables <+: columns t.toVerificationTables ∧ Calculated svc t ∧
        Backed svc t l' := by
    rintro m kept ⟨⟩
    exact ⟨List.prefix_rfl, calculated, kept⟩
  have same : ∀ {id loaded key m}, Backed svc s m →
      some (s.setReport id loaded key, m) = some (t, l') →
      columns s.toVerificationTables <+: columns t.toVerificationTables ∧ Calculated svc t ∧
        Backed svc t l' := by
    rintro id loaded key m kept ⟨⟩
    have grown : columns s.toVerificationTables <+:
        columns (s.setReport id loaded key).toVerificationTables := by simp
    refine ⟨grown, ?_, kept.kept grown⟩
    intro c member
    exact calculated c (by simpa using member)
  unfold act at acts
  split at acts
  -- `.idle`, `.select`
  · rename_i projects runs tenant request
    split at acts
    · split at acts
      · rename_i existing stored
        exact still (found_backed stored) acts
      · exact still (m := .absent tenant request) trivial acts
    · exact still (m := .idle) trivial acts
  -- `.absent`, `.insert`
  · rename_i tenant request newId
    split at acts
    · exact still (m := .idle) trivial acts
    · rename_i result done
      dsimp only at acts
      split at acts
      · rename_i inserted
        cases acts
        exact insert_keeps calculated done inserted
      · exact still (m := .idle) trivial acts
  -- `.inserted`, `.report`
  · rename_i request run storage
    split at acts
    · rename_i key written
      exact still (m := .reported request run key) backed acts
    · rename_i e failed
      refine still ?_ acts
      split
      · exact backed
      · trivial
  -- `.reported`, `.commit`
  · exact same (by exact backed) acts
  -- `.found`, `.respond`
  · rename_i request run storage
    split at acts
    · rename_i out answered
      obtain ⟨id, result, -⟩ := response_ok answered
      refine still (m := .responded run.organizationId request out) ?_ acts
      change columnsOf svc run.organizationId request out.verificationId out.result ∈ _
      rw [id, result]
      exact backed
    · exact still (m := .idle) trivial acts
  -- `.idle`, `.load`
  · split at acts
    · refine still ?_ acts
      split <;> trivial
    · exact still (m := .idle) trivial acts
  -- `.loaded`, `.report`
  · split at acts
    · exact still (by trivial) acts
    · exact still (m := .idle) trivial acts
  -- `.rewritten`, `.commit`
  · exact same (m := .ready _ _) trivial acts
  -- `.abandon`
  · exact still (m := .idle) trivial acts
  · cases acts

/-! ## A request on its own -/

/-- With nobody in between, the commit stores the run that the session has in memory. -/
theorem setReport_fresh (s : VerificationStore) {run : VerificationRun}
    (stored : run ∈ s.verifications) (key : Option String) :
    (s.setReport run.id run.reportS3Key key).toVerificationTables =
      s.put { run with reportS3Key := key } := by
  refine congrArg VerificationTables.mk (List.map_congr_left fun v member => ?_)
  unfold withReport
  by_cases same : v.id = run.id
  · obtain rfl := List.inj_on_of_nodup_map s.wf.verificationId member stored same
    simp
  · rw [if_neg same, if_neg same]

/-- A session that is in `l` can, with nobody in between, do what the outcome says. -/
def Reaches (svc : VerificationService) (i : Nat) (s : VerificationStore)
    (l : VerificationSession) (organizationId : UUID) (request : VerificationRequest)
    (outcome : VerificationStore × Except Stopped VerificationOut) : Prop :=
  ∃ inputs s' m, alone (act svc) i s l inputs = some (s', m) ∧
    s'.toVerificationTables = outcome.1.toVerificationTables ∧
    ∀ out, outcome.2 = .ok out → m = .responded organizationId request out

section Alone

variable {svc : VerificationService} {i : Nat} {s : VerificationStore} {l : VerificationSession}
  {organizationId : UUID} {request : VerificationRequest}

theorem Reaches.step {t : VerificationStore} {m : VerificationSession}
    {outcome : VerificationStore × Except Stopped VerificationOut} (input : VerificationStep)
    (taken : act svc i s l input = some (t, m))
    (later : Reaches svc i t m organizationId request outcome) :
    Reaches svc i s l organizationId request outcome := by
  obtain ⟨inputs, s', final, rest, same, answers⟩ := later
  refine ⟨input :: inputs, s', final, ?_, same, answers⟩
  rw [alone, taken]
  exact rest

/-- A session that stops answers nothing. -/
theorem Reaches.stopped (input : VerificationStep) (taken : act svc i s l input = some (s, .idle))
    (e : Stopped) : Reaches svc i s l organizationId request (s, .error e) := by
  refine ⟨[input], s, .idle, ?_, rfl, ?_⟩
  · rw [alone, taken]
    rfl
  · rintro out ⟨⟩

theorem respond_alone (svc : VerificationService) (i : Nat) (s : VerificationStore)
    (storage : ReportStorage) (request : VerificationRequest) (run : VerificationRun) :
    Reaches svc i s (.found request run) run.organizationId request
      (s, response storage run) := by
  cases answered : response storage run with
  | ok out =>
    refine ⟨[.respond storage], s, .responded run.organizationId request out, ?_, rfl, ?_⟩
    · simp [alone, act, answered]
    · rintro _ ⟨⟩
      rfl
  | error e =>
    have taken : act svc i s (.found request run) (.respond storage) = some (s, .idle) := by
      simp [act, answered]
    exact .stopped _ taken e

theorem report_alone (storage : ReportStorage) (tenant : TenantContext) {run : VerificationRun}
    (owner : run.organizationId = tenant.organizationId) (stored : run ∈ s.verifications) :
    Reaches svc i s (.inserted request run) tenant.organizationId request
      (storeReport storage s tenant run) := by
  unfold storeReport
  rw [← owner]
  cases written : writeReport storage run.organizationId run.id with
  | error e =>
    have taken : act svc i s (.inserted request run) (.report storage) =
        some (s, if e.caught then .found request run else .idle) := by rw [act, written]
    dsimp only
    by_cases caught : e.caught = true
    · rw [if_pos caught] at taken ⊢
      exact .step _ taken (respond_alone svc i s storage request run)
    · rw [if_neg caught] at taken ⊢
      exact .stopped _ taken _
  | ok key =>
    have rows := setReport_fresh s stored key
    have valid : (s.put { run with reportS3Key := key }).Constraints :=
      rows ▸ (s.setReport run.id run.reportS3Key key).wf
    have reported : act svc i s (.inserted request run) (.report storage) =
        some (s, .reported request run key) := by rw [act, written]
    have committed : act svc i s (.reported request run key) .commit =
        some (s.setReport run.id run.reportS3Key key,
          .found request { run with reportS3Key := key }) := rfl
    obtain ⟨inputs, s', l, taken, same, answers⟩ := respond_alone svc i
      (s.setReport run.id run.reportS3Key key) storage request { run with reportS3Key := key }
    refine .step _ reported (.step _ committed ⟨inputs, s', l, taken, ?_, ?_⟩)
    · simp [VerificationStore.commit, valid, same, rows]
    · simpa [VerificationStore.commit, valid] using answers

theorem insert_alone (storage : ReportStorage) (tenant : TenantContext) {result : Dict}
    (newId : UUID) (done : svc.calculate request.toVerificationInput = .ok result) :
    Reaches svc i s (.absent tenant request) tenant.organizationId request
      (insertVerification storage s tenant (newVerification svc tenant request result newId)) := by
  unfold insertVerification
  cases inserted : VerificationStore.commit
      (s.insert (newVerification svc tenant request result newId)) with
  | none =>
    have taken : act svc i s (.absent tenant request) (.insert newId) = some (s, .idle) := by
      simp [act, done, inserted]
    exact .stopped _ taken _
  | some t =>
    have taken : act svc i s (.absent tenant request) (.insert newId) =
        some (t, .inserted request (newVerification svc tenant request result newId)) := by
      simp [act, done, inserted]
    have stored : newVerification svc tenant request result newId ∈ t.verifications := by
      rw [VerificationStore.commit_some inserted]
      simp [VerificationTables.insert]
    exact .step _ taken (report_alone storage tenant rfl stored)

end Alone

/-- Every sequential request is the run of one session. -/
theorem create_alone (svc : VerificationService) (i : Nat) (projects : List Project)
    (runs : List PortfolioRun) (s : VerificationStore) (tenant : TenantContext)
    (request : VerificationRequest) (newId : UUID) (storage : ReportStorage) :
    Reaches svc i s .idle tenant.organizationId request
      (createVerification svc projects runs s tenant request newId storage) := by
  have refused : admitted svc projects runs tenant request = false →
      ∀ e : Stopped, Reaches svc i s .idle tenant.organizationId request (s, .error e) := by
    intro outside e
    have taken : act svc i s .idle (.select projects runs tenant request) = some (s, .idle) := by
      simp [act, outside]
    exact .stopped _ taken e
  unfold createVerification
  split
  · rename_i role
    exact refused (by simp_all [admitted]) _
  rename_i role
  split
  · rename_i body
    exact refused (by simp_all [admitted]) _
  rename_i body
  split
  · rename_i project
    exact refused (by simp_all [admitted]) _
  rename_i project
  split
  · rename_i refusal portfolio
    exact refused (by simp [admitted, portfolio]) _
  rename_i portfolio
  have passed : admitted svc projects runs tenant request = true := by
    simp_all [admitted]
  split
  · rename_i existing found
    have owner : existing.organizationId = tenant.organizationId :=
      congrArg Prod.fst (find_some found).2
    have taken : act svc i s .idle (.select projects runs tenant request) =
        some (s, .found request existing) := by rw [act, if_pos passed, found]
    exact .step _ taken (owner ▸ respond_alone svc i s storage request existing)
  rename_i absent
  have selected : act svc i s .idle (.select projects runs tenant request) =
      some (s, .absent tenant request) := by rw [act, if_pos passed, absent]
  split
  · rename_i text failed
    have taken : act svc i s (.absent tenant request) (.insert newId) = some (s, .idle) := by
      rw [act, failed]
    exact .step _ selected (.stopped _ taken _)
  · rename_i failed
    have taken : act svc i s (.absent tenant request) (.insert newId) = some (s, .idle) := by
      rw [act, failed]
    exact .step _ selected (.stopped _ taken _)
  · rename_i result done
    exact .step _ selected (insert_alone storage tenant newId done)

theorem create_uninterrupted (svc : VerificationService) (i : Nat)
    (c : System VerificationStore VerificationSession) (projects : List Project)
    (runs : List PortfolioRun) (tenant : TenantContext) (request : VerificationRequest)
    (newId : UUID) (storage : ReportStorage) (idle : c.locals i = .idle) :
    ∃ transitions d, Run (Step (act svc)) c transitions d ∧
      (∀ x ∈ transitions, x.label.session = i) ∧
      d.shared.toVerificationTables = (createVerification svc projects runs c.shared tenant request
        newId storage).1.toVerificationTables := by
  obtain ⟨inputs, s', l, taken, same, -⟩ :=
    create_alone svc i projects runs c.shared tenant request newId storage
  rw [← idle] at taken
  obtain ⟨transitions, d, run, shared, mine⟩ := run_alone taken
  exact ⟨transitions, d, run, mine, shared ▸ same⟩

/-! ## Runs -/

/-- What any step of a run relies on. -/
def Sound (svc : VerificationService) : System VerificationStore VerificationSession → Prop :=
  Holds (Calculated svc) fun _ => Backed svc

/-- The fixed columns of one state are the first of another. -/
def Grows (c d : System VerificationStore VerificationSession) : Prop :=
  columns c.shared.toVerificationTables <+: columns d.shared.toVerificationTables

theorem Grows.refl (c : System VerificationStore VerificationSession) : Grows c c :=
  List.prefix_rfl

theorem Grows.trans {c d e : System VerificationStore VerificationSession} (first : Grows c d)
    (second : Grows d e) : Grows c e := List.IsPrefix.trans first second

theorem sound_step {svc : VerificationService} {c d : System VerificationStore VerificationSession}
    {e : Event VerificationStep} (sound : Sound svc c) (step : Step (act svc) c e d) :
    Sound svc d := by
  refine step.holds sound (fun s l acts => ?_) fun s l acts j other backed => ?_
  · exact (act_keeps acts sound.1 (sound.2 _)).2
  · exact Backed.kept backed (act_keeps acts sound.1 (sound.2 _)).1

theorem initial_sound (svc : VerificationService) : Sound svc initial := by
  refine ⟨?_, fun _ => trivial⟩
  rintro c ⟨⟩

section
variable {svc : VerificationService}
  {transitions : List (Transition (System VerificationStore VerificationSession)
    (Event VerificationStep))} {final : System VerificationStore VerificationSession}

theorem visited_sound (run : Run (Step (act svc)) initial transitions final) :
    ∀ c ∈ visited initial transitions, Sound svc c := by
  have holds := (run.always (Sound svc) (fun _ _ _ sound step => sound_step sound step)
    (initial_sound svc)).1
  intro c member
  rcases List.mem_cons.mp member with rfl | later
  · exact initial_sound svc
  · obtain ⟨x, inRun, rfl⟩ := List.mem_map.mp later
    exact (holds x inRun).2

/-- What a run has stored at any time it has stored at its end. -/
theorem visited_grows (run : Run (Step (act svc)) initial transitions final) :
    ∀ c ∈ visited initial transitions, Grows c final := by
  have holds := (run.always (Sound svc) (fun _ _ _ sound step => sound_step sound step)
    (initial_sound svc)).1
  refine run.leads Grows.refl Grows.trans fun x member => ?_
  obtain ⟨l, acts, -⟩ := (run.steps x member).acts
  have sound := (holds x member).1
  exact (act_keeps acts sound.1 (sound.2 _)).1

/-- Two runs of one organization and key are one. -/
theorem columns_unique (s : VerificationStore) {c d : UUID × UUID × String × Dict}
    (first : c ∈ columns s.toVerificationTables) (second : d ∈ columns s.toVerificationTables)
    (owner : c.2.1 = d.2.1) (key : c.2.2.1 = d.2.2.1) : c = d := by
  obtain ⟨v, left, rfl⟩ := List.mem_map.mp first
  obtain ⟨w, right, rfl⟩ := List.mem_map.mp second
  rw [List.inj_on_of_nodup_map s.wf.idempotency left right (Prod.ext owner key)]

theorem runs_of_body_le_one (s : VerificationStore) (key : UUID × String) :
    (s.verifications.filter fun v => bodyKey v = key).length ≤ 1 := by
  have keys : (s.verifications.filter fun v => bodyKey v = key).map bodyKey =
      List.replicate (s.verifications.filter fun v => bodyKey v = key).length key := by
    rw [List.eq_replicate_iff, List.length_map]
    refine ⟨rfl, fun k member => ?_⟩
    obtain ⟨v, kept, rfl⟩ := List.mem_map.mp member
    simpa using (List.mem_filter.mp kept).2
  rw [← List.nodup_replicate (a := key), ← keys]
  exact (List.filter_sublist.map bodyKey).nodup s.wf.idempotency

/-- An organization has at most one run of a body, and it is the calculation of that body. -/
structure OneRun (svc : VerificationService) (s : VerificationStore) (organizationId : UUID)
    (request : VerificationRequest) : Prop where
  one : (s.verifications.filter fun v =>
    bodyKey v = (organizationId, idempotencyKey svc.sha256 request)).length ≤ 1
  calculated : ∀ v ∈ s.verifications,
    bodyKey v = (organizationId, idempotencyKey svc.sha256 request) →
      svc.calculate request.toVerificationInput = .ok v.resultJson

/-- However requests and their retries interleave, an organization has at most one run of a
body, with the result that is calculated from it; a result stored once is never changed; and
all answers to requests with this body name the same run and the same result. -/
theorem verification_idempotent (noCollision : Function.Injective svc.sha256)
    (run : Run (Step (act svc)) initial transitions final) (organizationId : UUID)
    (request : VerificationRequest) :
    OneRun svc final.shared organizationId request ∧
    (∀ c ∈ visited initial transitions, ∀ v ∈ c.shared.verifications,
      ∃ w ∈ final.shared.verifications, w.id = v.id ∧ w.resultJson = v.resultJson) ∧
    ∀ c ∈ visited initial transitions, ∀ d ∈ visited initial transitions, ∀ i j out out',
      c.locals i = .responded organizationId request out →
      d.locals j = .responded organizationId request out' →
        out.verificationId = out'.verificationId ∧ out.result = out'.result := by
  have grows := visited_grows run
  have sound := visited_sound run
  have last := (run.always (Sound svc) (fun _ _ _ sound step => sound_step sound step)
    (initial_sound svc)).2
  refine ⟨⟨runs_of_body_le_one _ _, fun v stored key => ?_⟩, fun c seen v stored => ?_,
    fun c first d second i j out out' left right => ?_⟩
  · obtain ⟨other, same, done⟩ := last.1 (fixedColumns v) (List.mem_map_of_mem stored)
    have body : request = other :=
      idempotencyKey_injective noCollision ((congrArg Prod.snd key).symm.trans same)
    rwa [body]
  · obtain ⟨w, kept, same⟩ := List.mem_map.mp
      ((grows c seen).subset (List.mem_map_of_mem stored))
    simp only [fixedColumns, Prod.mk.injEq] at same
    exact ⟨w, kept, same.1, same.2.2.2⟩
  · have one : Backed svc c.shared (.responded organizationId request out) :=
      left ▸ (sound c first).2 i
    have two : Backed svc d.shared (.responded organizationId request out') :=
      right ▸ (sound d second).2 j
    have same := columns_unique final.shared ((grows c first).subset one)
      ((grows d second).subset two) rfl rfl
    simp only [columnsOf, Prod.mk.injEq] at same
    exact ⟨same.1, same.2.2.2⟩

end

def degree : FloatLiteral := .one

def sampleBody : VerificationRequest where
  treatedBaseline := degree
  treatedObserved := degree
  controlBaseline := degree
  controlObserved := degree
  treatedWeatherDelta := degree
  controlWeatherDelta := degree
  expectedCooling := degree
  treatedThresholdHoursBaseline := degree
  treatedThresholdHoursObserved := degree
  controlThresholdHoursBaseline := degree
  controlThresholdHoursObserved := degree
  totalCost := degree
  sampleSize := 1
  projectId := none
  portfolioRunId := none

def sampleVerification : VerificationService where
  floats := ⟨fun _ => 1, fun _ => degree⟩
  sha256 := id
  calculate _ := .ok [("cooling_effect", .float degree)]

def sampleTenant : TenantContext := ⟨1, 2, .analyst⟩

def withoutBucket : ReportStorage := ⟨false, .ok (), .ok ""⟩

/-- Two requests with one body look for a run before either inserts one; the second insert is
refused, and its retry is answered with the run of the first. -/
def retriedRequests : List (Event VerificationStep) :=
  [⟨0, .select [] [] sampleTenant sampleBody⟩, ⟨1, .select [] [] sampleTenant sampleBody⟩,
   ⟨0, .insert 7⟩, ⟨1, .insert 8⟩, ⟨0, .report withoutBucket⟩, ⟨0, .commit⟩,
   ⟨0, .respond withoutBucket⟩, ⟨1, .select [] [] sampleTenant sampleBody⟩,
   ⟨1, .respond withoutBucket⟩]

theorem verification_idempotent_retried : ∃ final,
    Run (Step (act sampleVerification)) initial
      (script (act sampleVerification) initial retriedRequests) final ∧
    OneRun sampleVerification final.shared 1 sampleBody := by
  obtain ⟨final, run⟩ := run_script (act sampleVerification) initial retriedRequests
  have noCollision : Function.Injective sampleVerification.sha256 := Function.injective_id
  exact ⟨final, run, (verification_idempotent noCollision run 1 sampleBody).1⟩

end CoolProof.VerificationRuns
