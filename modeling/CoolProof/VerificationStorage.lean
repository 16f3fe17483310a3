import CoolProof.VerificationCalculation
import CoolProof.VerificationSessions

/-! Storage failures of a verification request. The calculation is committed before its report
is written, and two of the places where something may be raised catch three classes each: an
integer that is no float, a figure that the database does not take, and an object store that
raises a class of its own go past them. -/

namespace CoolProof.VerificationRuns
open JsonDocument Uuid Models Tables Documents Projects PortfolioRuns Runs Sessions Loops

/-! ## What the calculation needs -/

section Arithmetic

variable {F : Type} {fp : Arithmetic F} {data : VerificationInput}

/-- Every measurement is a finite float. -/
def VerificationInput.Measured (fp : Arithmetic F) (data : VerificationInput) : Prop :=
  ∀ field ∈ data.measurements, fp.isFinite (fp.parse field.2) = true

theorem finite_cases (fp : Arithmetic F) (name : String) (x : F) :
    (finite fp name x = .ok x ∧ fp.isFinite x = true) ∨
      (finite fp name x = .error (.valueError (name ++ " must be finite")) ∧
        fp.isFinite x = false) := by
  unfold finite
  cases fp.isFinite x <;> simp

/-- The measurements are refused, or all of them are finite. -/
theorem measured_cases (fp : Arithmetic F) (fields : List (String × FloatLiteral)) :
    (∃ text, (fields.mapM fun field => finite fp field.1 (fp.parse field.2)) =
        .error (.valueError text) ∧ ¬∀ field ∈ fields, fp.isFinite (fp.parse field.2) = true) ∨
      (∃ checked, (fields.mapM fun field => finite fp field.1 (fp.parse field.2)) = .ok checked) ∧
        ∀ field ∈ fields, fp.isFinite (fp.parse field.2) = true := by
  induction fields with
  | nil => exact .inr ⟨⟨[], rfl⟩, by simp⟩
  | cons field fields ih =>
    rw [List.mapM_cons]
    rcases finite_cases fp field.1 (fp.parse field.2) with ⟨done, good⟩ | ⟨refused, bad⟩
    · rw [done]
      rcases ih with ⟨text, failed, not_all⟩ | ⟨⟨checked, passed⟩, all⟩
      · refine .inl ⟨text, ?_, fun every => not_all fun f member => ?_⟩
        · simp only [bind, Except.bind, failed]
        · exact every f (List.mem_cons_of_mem _ member)
      · refine .inr ⟨⟨fp.parse field.2 :: checked, ?_⟩, List.forall_mem_cons.mpr ⟨good, all⟩⟩
        simp only [bind, Except.bind, passed]
        rfl
    · refine .inl ⟨_, by rw [refused]; rfl, fun every => ?_⟩
      rw [every field List.mem_cons_self] at bad
      cases bad

/-- How a calculation ends: refused for a measurement, stopped by a sample size that is no
float, or with a result. -/
theorem calculateVerification_cases (whole : fp.ConvertsIntegers) (data : VerificationInput) :
    (∃ text, calculateVerification fp data = .error (.valueError text) ∧ ¬data.Measured fp) ∨
      (calculateVerification fp data = .error .other ∧ data.Measured fp ∧
        fp.ofInt data.sampleSize = none) ∨
      ∃ figures, calculateVerification fp data = .ok figures ∧ data.Measured fp ∧
        (fp.ofInt data.sampleSize).isSome := by
  unfold calculateVerification values VerificationInput.Measured
  rcases measured_cases fp data.measurements with ⟨text, failed, bad⟩ | ⟨⟨checked, passed⟩, good⟩
  · exact .inl ⟨text, by rw [failed]; rfl, bad⟩
  · rw [passed]
    right
    cases converted : fp.ofInt data.sampleSize with
    | none => exact .inl ⟨rfl, good, rfl⟩
    | some size =>
      right
      have bounded := whole.finite converted
      have checkedSize : finite fp "sample_size" size = .ok size := if_pos bounded
      obtain ⟨n, integer⟩ := Option.isSome_iff_exists.mp (whole.integerPart bounded)
      simp only [bind, Except.bind, checkedSize, standardError, sampleCount, integer]
      split_ifs
      · exact ⟨_, rfl, good, rfl⟩
      · exact ⟨_, rfl, good, rfl⟩

end Arithmetic

/-! ## What the database takes -/

section Column

variable {F : Type}

/-- The JSON column of a result: what it holds for a float, or nothing if the database does not
take the text of that float. -/
abbrev Column (F : Type) := F → Option Json

def figureJson (column : Column F) : Figure F → Option Json
  | .method text => some (.str text)
  | .number x => column x
  | .flag b => some (.bool b)
  | .count n => some (.int n)
  | .missing => some .null

/-- The result as it is stored. -/
def resultJson (column : Column F) (figures : List (String × Figure F)) : Option Dict :=
  figures.mapM fun entry => (figureJson column entry.2).map fun value => (entry.1, value)

/-- The calculation with the commit of its result; what either raises is not a `ValueError`. -/
def calculateStored (fp : Arithmetic F) (column : Column F) (data : VerificationInput) :
    Except CalculationError Dict := do
  let figures ← calculateVerification fp data
  match resultJson column figures with
  | some stored => .ok stored
  | none => .error .other

/-- The service over the calculation of the source. -/
def verificationService (floats : Floats) (sha256 : String → String) (fp : Arithmetic F)
    (column : Column F) : VerificationService := ⟨floats, sha256, calculateStored fp column⟩

/-- A request goes to the calculation without an exception that is not caught. -/
structure Calculable (fp : Arithmetic F) (column : Column F) (data : VerificationInput) :
    Prop where
  converts : data.Measured fp → (fp.ofInt data.sampleSize).isSome
  taken : ∀ figures, calculateVerification fp data = .ok figures →
    (resultJson column figures).isSome

/-- How it ends: refused for a measurement, stopped by what is not caught, or with a result. -/
theorem calculateStored_cases {fp : Arithmetic F} (whole : fp.ConvertsIntegers)
    (column : Column F) (data : VerificationInput) :
    (∃ text, calculateStored fp column data = .error (.valueError text) ∧ ¬data.Measured fp ∧
        Calculable fp column data) ∨
      (calculateStored fp column data = .error .other ∧ ¬Calculable fp column data) ∨
      ∃ stored, calculateStored fp column data = .ok stored ∧ data.Measured fp ∧
        Calculable fp column data := by
  unfold calculateStored
  rcases calculateVerification_cases whole data with
    ⟨text, refused, bad⟩ | ⟨stopped, good, large⟩ | ⟨figures, done, good, small⟩
  · refine .inl ⟨text, by rw [refused]; rfl, bad, fun good => absurd good bad, ?_⟩
    intro figures again
    rw [refused] at again
    cases again
  · refine .inr (.inl ⟨by rw [stopped]; rfl, fun calculable => ?_⟩)
    have converts := calculable.converts good
    rw [large] at converts
    cases converts
  · rw [done]
    simp only [bind, Except.bind]
    cases taken : resultJson column figures with
    | some stored =>
      refine .inr (.inr ⟨stored, rfl, good, fun _ => small, fun again same => ?_⟩)
      rw [done] at same
      cases same
      rw [taken]
      rfl
    | none =>
      refine .inr (.inl ⟨rfl, fun calculable => ?_⟩)
      have takes := calculable.taken figures done
      rw [taken] at takes
      cases takes

end Column

/-! ## What the object store raises -/

theorem StorageError.caught_iff (e : StorageError) : e.caught = true ↔ e ≠ .other := by
  simp [StorageError.caught]

/-- The key of a report can be presigned, or what presigning raises is caught. -/
def Signs (storage : ReportStorage) (key : Option String) : Prop :=
  ∀ k, key.filter (fun text => text ≠ "") = some k →
    reportDownloadUrl storage k ≠ .error .other

/-- A run is answered exactly when its key can be presigned. -/
theorem response_ok_iff (storage : ReportStorage) (run : VerificationRun) :
    (∃ out, response storage run = .ok out) ↔ Signs storage run.reportS3Key := by
  unfold response Signs
  cases run.reportS3Key.filter (fun text => text ≠ "") with
  | none => exact iff_of_true ⟨_, rfl⟩ fun k absent => nomatch absent
  | some key =>
    dsimp only
    cases signed : reportDownloadUrl storage key with
    | ok url =>
      refine iff_of_true ⟨_, rfl⟩ ?_
      rintro k ⟨⟩
      rw [signed]
      simp
    | error e =>
      dsimp only
      by_cases other : e = .other
      · subst other
        refine iff_of_false ?_ fun signs => signs key rfl signed
        rintro ⟨out, answered⟩
        cases answered
      · rw [if_pos (e.caught_iff.mpr other)]
        refine iff_of_true ⟨_, rfl⟩ ?_
        rintro k ⟨⟩ raised
        exact other (Except.error.inj (signed.symm.trans raised))

/-- What the store does with the report of a new run is caught, whatever goes wrong. -/
structure Kept (storage : ReportStorage) (organizationId id : UUID) : Prop where
  written : writeReport storage organizationId id ≠ .error .other
  signed : ∀ key, writeReport storage organizationId id = .ok key → Signs storage key

/-! ## What a request should leave -/

/-- The runs that an organization has of a body. -/
def runsOf (svc : VerificationService) (s : VerificationTables) (organizationId : UUID)
    (request : VerificationRequest) : List VerificationRun :=
  s.verifications.filter fun v => bodyKey v = (organizationId, idempotencyKey svc.sha256 request)

/-- All other runs. -/
def otherRuns (svc : VerificationService) (s : VerificationTables) (organizationId : UUID)
    (request : VerificationRequest) : List VerificationRun :=
  s.verifications.filter fun v => bodyKey v ≠ (organizationId, idempotencyKey svc.sha256 request)

/-- A request is refused for its observations with nothing stored, or there is exactly one run of
its body, with the calculated result, and the request is answered with it. A run that is new has
no key when its report was not written. -/
inductive Survives (svc : VerificationService) (s : VerificationStore) (tenant : TenantContext)
    (request : VerificationRequest) (storage : ReportStorage) :
    VerificationStore × Except Stopped VerificationOut → Prop where
  | refused (text : String) : Survives svc s tenant request storage
      (s, .error (.refused (.apiError 422 "invalid_observation" text)))
  | answered {t : VerificationStore} {run : VerificationRun} {out : VerificationOut} :
      runsOf svc t.toVerificationTables tenant.organizationId request = [run] →
      (runsOf svc s.toVerificationTables tenant.organizationId request = [] ∨
        runsOf svc s.toVerificationTables tenant.organizationId request = [run]) →
      otherRuns svc t.toVerificationTables tenant.organizationId request =
        otherRuns svc s.toVerificationTables tenant.organizationId request →
      svc.calculate request.toVerificationInput = .ok run.resultJson →
      response storage run = .ok out →
      (runsOf svc s.toVerificationTables tenant.organizationId request = [] →
        ∀ e, writeReport storage tenant.organizationId run.id = .error e → out.reportKey = none) →
      Survives svc s tenant request storage (t, .ok out)

/-- Nothing goes wrong that is not caught: on the way to the calculation and behind it for a body
that is new, and in presigning for one that is stored. -/
structure Handled {F : Type} (fp : Arithmetic F) (column : Column F) (svc : VerificationService)
    (s : VerificationStore) (tenant : TenantContext) (request : VerificationRequest)
    (storage : ReportStorage) (newId : UUID) : Prop where
  stored : ∀ existing, find bodyKey (tenant.organizationId, idempotencyKey svc.sha256 request)
    s.verifications = some existing → Signs storage existing.reportS3Key
  calculable : find bodyKey (tenant.organizationId, idempotencyKey svc.sha256 request)
    s.verifications = none → Calculable fp column request.toVerificationInput
  kept : find bodyKey (tenant.organizationId, idempotencyKey svc.sha256 request)
    s.verifications = none → request.toVerificationInput.Measured fp →
      Kept storage tenant.organizationId newId

/-! ## What it leaves -/

section Requests

variable {svc : VerificationService} {s t : VerificationStore} {tenant : TenantContext}
  {request : VerificationRequest} {storage : ReportStorage}

theorem not_survives_unhandled :
    ¬Survives svc s tenant request storage (t, .error .unhandled) := by
  intro survives
  cases survives

/-- A request that is to be answered with the one run of its body. -/
theorem survives_response_iff {run : VerificationRun}
    (one : runsOf svc t.toVerificationTables tenant.organizationId request = [run])
    (before : runsOf svc s.toVerificationTables tenant.organizationId request = [] ∨
      runsOf svc s.toVerificationTables tenant.organizationId request = [run])
    (others : otherRuns svc t.toVerificationTables tenant.organizationId request =
      otherRuns svc s.toVerificationTables tenant.organizationId request)
    (done : svc.calculate request.toVerificationInput = .ok run.resultJson)
    (unwritten : runsOf svc s.toVerificationTables tenant.organizationId request = [] →
      ∀ e, writeReport storage tenant.organizationId run.id = .error e →
        run.reportS3Key = none) :
    Survives svc s tenant request storage (t, response storage run) ↔
      Signs storage run.reportS3Key := by
  rw [← response_ok_iff]
  constructor
  · intro survives
    rcases response_cases storage run with ⟨url, answered⟩ | stopped
    · exact ⟨_, answered⟩
    · rw [stopped] at survives
      exact absurd survives not_survives_unhandled
  · rintro ⟨out, answered⟩
    rw [answered]
    refine .answered one before others done answered fun new e failed => ?_
    rw [(response_ok answered).2.2]
    exact unwritten new e failed

theorem runsOf_eq_nil (absent : find bodyKey
    (tenant.organizationId, idempotencyKey svc.sha256 request) s.verifications = none) :
    runsOf svc s.toVerificationTables tenant.organizationId request = [] :=
  List.filter_eq_nil_iff.mpr fun v member same =>
    find_eq_none.mp absent v member (of_decide_eq_true same)

/-- A body that is stored is answered with its run. -/
theorem survives_stored_iff {existing : VerificationRun}
    (found : find bodyKey (tenant.organizationId, idempotencyKey svc.sha256 request)
      s.verifications = some existing) (calculated : Calculated svc s)
    (noCollision : Function.Injective svc.sha256) :
    Survives svc s tenant request storage (s, response storage existing) ↔
      Signs storage existing.reportS3Key := by
  obtain ⟨member, key⟩ := find_some found
  have listed : existing ∈ runsOf svc s.toVerificationTables tenant.organizationId request :=
    List.mem_filter.mpr ⟨member, decide_eq_true key⟩
  have one : runsOf svc s.toVerificationTables tenant.organizationId request = [existing] := by
    have short := runs_of_body_le_one s (tenant.organizationId, idempotencyKey svc.sha256 request)
    obtain ⟨only, same⟩ := List.length_eq_one_iff.mp
      (Nat.le_antisymm short (List.length_pos_of_mem listed))
    rw [runsOf, same] at listed ⊢
    rw [List.mem_singleton.mp listed]
  obtain ⟨other, same, done⟩ := calculated (fixedColumns existing) (List.mem_map_of_mem member)
  have body : request = other :=
    idempotencyKey_injective noCollision ((congrArg Prod.snd key).symm.trans same)
  refine survives_response_iff one (.inr one) rfl (body ▸ done) fun none_stored => ?_
  rw [one] at none_stored
  cases none_stored

/-- The rows after a run of the body was added to those without one. -/
theorem runsOf_added {u : VerificationTables} {run : VerificationRun}
    (absent : find bodyKey (tenant.organizationId, idempotencyKey svc.sha256 request)
      s.verifications = none)
    (key : bodyKey run = (tenant.organizationId, idempotencyKey svc.sha256 request))
    (rows : u = s.insert run) :
    runsOf svc u tenant.organizationId request = [run] ∧
      otherRuns svc u tenant.organizationId request =
        otherRuns svc s.toVerificationTables tenant.organizationId request := by
  have before := runsOf_eq_nil absent
  unfold runsOf at before
  unfold runsOf otherRuns
  rw [rows, VerificationTables.insert, List.filter_append, List.filter_append, before]
  simp [key]

theorem commit_of_constraints {u : VerificationTables} (wf : u.Constraints) :
    VerificationStore.commit u = some ⟨u, wf⟩ := dif_pos wf

section New

variable {run : VerificationRun}
  (absent : find bodyKey (tenant.organizationId, idempotencyKey svc.sha256 request)
    s.verifications = none)
  (fresh : ∀ v ∈ s.verifications, v.id ≠ run.id)
  (key : bodyKey run = (tenant.organizationId, idempotencyKey svc.sha256 request))
include absent fresh key

/-- A run of a new body, under an identifier that is not taken, is within the constraints. -/
theorem constraints_insert : (s.insert run).Constraints := by
  have apart : ∀ {β : Type} (column : VerificationRun → β)
      (unlike : ∀ v ∈ s.verifications, column v ≠ column run)
      (nodup : (s.verifications.map column).Nodup),
      ((s.verifications ++ [run]).map column).Nodup := by
    intro β column unlike nodup
    rw [List.map_append, List.map_singleton, List.nodup_append]
    refine ⟨nodup, List.nodup_singleton _, ?_⟩
    rintro a member b last rfl
    obtain ⟨v, stored, same⟩ := List.mem_map.mp member
    exact unlike v stored (same.trans (List.mem_singleton.mp last))
  refine ⟨apart VerificationRun.id fresh s.wf.verificationId, apart bodyKey ?_ s.wf.idempotency⟩
  rw [key]
  exact find_eq_none.mp absent

/-- A body that is new gets a run, and the request survives exactly when what the object store
raises is caught. -/
theorem survives_new_iff (unreported : run.reportS3Key = none)
    (done : svc.calculate request.toVerificationInput = .ok run.resultJson) :
    Survives svc s tenant request storage (insertVerification storage s tenant run) ↔
      Kept storage tenant.organizationId run.id := by
  have none_before := runsOf_eq_nil absent
  unfold insertVerification
  rw [commit_of_constraints (constraints_insert absent fresh key)]
  dsimp only
  unfold storeReport
  cases written : writeReport storage tenant.organizationId run.id with
  | error e =>
    dsimp only
    by_cases other : e = .other
    · subst other
      exact iff_of_false not_survives_unhandled fun kept => kept.written written
    · obtain ⟨one, others⟩ := runsOf_added absent key rfl
      rw [if_pos (e.caught_iff.mpr other)]
      refine (survives_response_iff one (.inl none_before) others done
        fun _ _ _ => unreported).trans ?_
      rw [unreported]
      refine iff_of_true (fun k absent => nomatch absent) ⟨fun raised => ?_, fun k wrote => ?_⟩
      · exact other (Except.error.inj (written.symm.trans raised))
      · cases written.symm.trans wrote
  | ok report =>
    have rows : (s.insert run).put { run with reportS3Key := report } =
        s.insert { run with reportS3Key := report } :=
      congrArg VerificationTables.mk (update_added fresh rfl)
    have reported : ((s.insert run).put { run with reportS3Key := report }).Constraints := by
      rw [rows]
      exact constraints_insert absent fresh key
    obtain ⟨one, others⟩ := @runsOf_added svc s tenant request _
      { run with reportS3Key := report } absent key rows
    have unwritten : ∀ e, writeReport storage tenant.organizationId run.id = .error e →
        report = none := by
      intro e failed
      cases written.symm.trans failed
    dsimp only
    rw [commit_of_constraints reported]
    dsimp only
    refine (@survives_response_iff svc s ⟨_, reported⟩ tenant request storage _ one
      (.inl none_before) others done fun _ => unwritten).trans ?_
    constructor
    · intro signs
      refine ⟨fun raised => ?_, fun k wrote => ?_⟩
      · cases written.symm.trans raised
      · cases written.symm.trans wrote
        exact signs
    · intro kept
      exact kept.signed report written

end New

end Requests

/-- A valid request comes to the look for a run of its body. -/
theorem createVerification_valid (svc : VerificationService) {projects : List Project}
    {runs : List PortfolioRun} (s : VerificationStore) {tenant : TenantContext}
    {request : VerificationRequest} (role : mayWrite tenant = true)
    (valid : request.validBody svc.floats = true)
    (project : projectFound projects tenant.organizationId request.projectId = true)
    (portfolio : portfolioRefused runs tenant.organizationId request = none) (newId : UUID)
    (storage : ReportStorage) :
    createVerification svc projects runs s tenant request newId storage =
      match find bodyKey (tenant.organizationId, idempotencyKey svc.sha256 request)
          s.verifications with
      | some existing => (s, response storage existing)
      | none =>
          match svc.calculate request.toVerificationInput with
          | .error (.valueError text) =>
              (s, .error (.refused (.apiError 422 "invalid_observation" text)))
          | .error .other => (s, .error .unhandled)
          | .ok result =>
              insertVerification storage s tenant
                (newVerification svc tenant request result newId) := by
  unfold createVerification
  rewrite [if_neg (by simp [role]), if_neg (by simp [valid]), if_neg (by simp [project]), portfolio]
  rfl

/-- From any store that requests have left, a valid request survives whatever the store of reports
does exactly when its sample size is a float, the database takes its figures, and the object store
raises nothing of a class of its own; for a body that is stored, only presigning counts. -/
theorem verification_survives_iff {F : Type} {fp : Arithmetic F} (whole : fp.ConvertsIntegers)
    (column : Column F) (floats : Floats) {sha256 : String → String}
    (noCollision : Function.Injective sha256)
    {transitions : List (Transition (System VerificationStore VerificationSession)
      (Event VerificationStep))} {final : System VerificationStore VerificationSession}
    (run : Run (Step (act (verificationService floats sha256 fp column))) initial transitions final)
    {projects : List Project} {runs : List PortfolioRun} {tenant : TenantContext}
    {request : VerificationRequest} (role : mayWrite tenant = true)
    (valid : request.validBody floats = true)
    (project : projectFound projects tenant.organizationId request.projectId = true)
    (portfolio : portfolioRefused runs tenant.organizationId request = none)
    (storage : ReportStorage) {newId : UUID}
    (fresh : ∀ v ∈ final.shared.verifications, v.id ≠ newId) :
    Survives (verificationService floats sha256 fp column) final.shared tenant request storage
        (createVerification (verificationService floats sha256 fp column) projects runs
          final.shared tenant request newId storage) ↔
      Handled fp column (verificationService floats sha256 fp column) final.shared tenant request
        storage newId := by
  have sound := (run.always (Sound _) (fun _ _ _ sound step => sound_step sound step)
    (initial_sound _)).2
  rw [createVerification_valid (verificationService floats sha256 fp column) final.shared role
    valid project portfolio]
  cases found : find bodyKey (tenant.organizationId,
      idempotencyKey (verificationService floats sha256 fp column).sha256 request)
      final.shared.verifications with
  | some existing =>
    refine (survives_stored_iff found sound.1 noCollision).trans ?_
    constructor
    · intro signs
      refine ⟨fun again same => ?_, fun absent => ?_, fun absent => ?_⟩
      · cases found.symm.trans same
        exact signs
      · cases found.symm.trans absent
      · cases found.symm.trans absent
    · intro handled
      exact handled.stored existing found
  | none =>
    have unstored : ∀ {existing : VerificationRun}, find bodyKey (tenant.organizationId,
        idempotencyKey (verificationService floats sha256 fp column).sha256 request)
        final.shared.verifications ≠ some existing := by simp [found]
    dsimp only
    rcases calculateStored_cases whole column request.toVerificationInput with
      ⟨text, refused, bad, calculable⟩ | ⟨stopped, bad⟩ | ⟨result, done, good, calculable⟩
    · rw [show (verificationService floats sha256 fp column).calculate _ = _ from refused]
      exact iff_of_true (.refused text) ⟨fun _ same => absurd same unstored,
        fun _ => calculable, fun _ good => absurd good bad⟩
    · rw [show (verificationService floats sha256 fp column).calculate _ = _ from stopped]
      exact iff_of_false not_survives_unhandled fun handled => bad (handled.calculable found)
    · rw [show (verificationService floats sha256 fp column).calculate _ = _ from done]
      refine (@survives_new_iff _ final.shared tenant request storage
        (newVerification _ tenant request result newId) found fresh rfl rfl done).trans ?_
      constructor
      · intro kept
        exact ⟨fun _ same => absurd same unstored, fun _ => calculable, fun _ _ => kept⟩
      · intro handled
        exact handled.kept found good

/-! ## A denied write -/

/-- `int(x)` -/
def integerPart (x : ℚ) : Int := x.num.tdiv x.den

/-- Exact arithmetic, with the range of a double. -/
def exactArithmetic : Arithmetic ℚ where
  parse x := if x = degree then 1 else if x = normalQuantile then 49 / 25 else 0
  ofInt n := if n.natAbs.log2 < 1024 then some n else none
  toInt x := integerPart x
  isFinite x := (integerPart x).natAbs.log2 < 1024
  eq x y := x = y
  lt x y := x < y
  le x y := x ≤ y
  add := (· + ·)
  sub := (· - ·)
  mul := (· * ·)
  div := (· / ·)
  neg := (- ·)
  abs x := |x|
  sqrt x := x

theorem exactArithmetic_convertsIntegers : exactArithmetic.ConvertsIntegers where
  finite {n x} converted := by
    have inRange : n.natAbs.log2 < 1024 ∧ (n : ℚ) = x := by
      simpa [exactArithmetic] using converted
    obtain ⟨small, rfl⟩ := inRange
    have whole : integerPart (n : ℚ) = n := Int.tdiv_one n
    exact decide_eq_true (whole.symm ▸ small)
  integerPart {x} bounded := by
    have small : (integerPart x).natAbs.log2 < 1024 := of_decide_eq_true bounded
    have kept : (max 1 (integerPart x)).natAbs.log2 < 1024 := by
      rcases max_choice 1 (integerPart x) with one | same
      · rw [one]
        decide
      · rw [same]
        exact small
    exact Option.isSome_iff_exists.mpr ⟨_, if_pos kept⟩

def exactColumn : Column ℚ := fun x =>
  some (.float (if x = 0 then zeroLiteral else if x = 1 then degree else ⟨['-', '1', '.', '0'], by decide +kernel⟩))

def exactService : VerificationService :=
  verificationService sampleVerification.floats id exactArithmetic exactColumn

/-- A bucket to which access is denied; the client's exception is of none of the three classes. -/
def deniedStorage : ReportStorage := ⟨true, .error .other, .error .other⟩

/-- The run is committed, and the exception goes through. -/
theorem verification_not_surviving : ¬∀ (storage : ReportStorage) (request : VerificationRequest),
    request.validBody exactService.floats = true → request.projectId = none →
    request.portfolioRunId = none →
    Survives exactService initial.shared sampleTenant request storage
      (createVerification exactService [] [] initial.shared sampleTenant request 7 storage) := by
  intro survives
  obtain ⟨result, done⟩ : ∃ result, exactService.calculate sampleBody.toVerificationInput =
      .ok result := ⟨_, by with_unfolding_all rfl⟩
  have claimed := survives deniedStorage sampleBody (by decide) rfl rfl
  have absent : find bodyKey (sampleTenant.organizationId,
      idempotencyKey exactService.sha256 sampleBody) initial.shared.verifications = none := rfl
  rw [createVerification_valid exactService initial.shared (by decide) (by decide) rfl rfl,
    absent, done] at claimed
  have kept := (survives_new_iff absent (by simp [initial, VerificationStore.empty]) rfl rfl
    done).mp claimed
  exact kept.written rfl

/-- A bucket that cannot be reached. -/
def unreachablePut : ReportStorage := ⟨true, .error .osError, .error .osError⟩

def largerBody : VerificationRequest := { sampleBody with sampleSize := 2 }

/-- A request is stored and answered although its report is not written. -/
def storedRequest : List (Event VerificationStep) :=
  [⟨0, .select [] [] sampleTenant sampleBody⟩, ⟨0, .insert 7⟩, ⟨0, .report unreachablePut⟩,
   ⟨0, .respond unreachablePut⟩]

theorem storedRequest_acts : script (act exactService) initial storedRequest ≠ [] :=
  List.length_pos_iff.mp (by decide +kernel)

/-- Then comes a request with another body, whose report is not written either. -/
theorem verification_survives_sample : ∃ final,
    Run (Step (act exactService)) initial (script (act exactService) initial storedRequest) final ∧
    (Survives exactService final.shared sampleTenant largerBody unreachablePut
        (createVerification exactService [] [] final.shared sampleTenant largerBody 8
          unreachablePut) ↔
      Handled exactArithmetic exactColumn exactService final.shared sampleTenant largerBody
        unreachablePut 8) := by
  obtain ⟨final, run⟩ := run_script (act exactService) initial storedRequest
  have fresh : ∀ v ∈ final.shared.verifications, v.id ≠ 8 := by
    rw [run.ends storedRequest_acts]
    decide +kernel
  exact ⟨final, run, verification_survives_iff exactArithmetic_convertsIntegers exactColumn
    sampleVerification.floats Function.injective_id run (by decide) (by decide) rfl rfl
    unreachablePut fresh⟩

end CoolProof.VerificationRuns
