import CoolProof.Library.JsonReader
import CoolProof.Library.Loops
import CoolProof.ObjectKeys
import CoolProof.VerificationSessions

/-! The objects that reports are written to. An object is put before its key is committed, and a
put whose answer is lost has been made all the same, so the bucket may hold a report that no row
names. A row or an answer never names an object that is missing or that is of another run. -/

namespace CoolProof.VerificationRuns
open JsonDocument Uuid Models Tables Documents PortfolioRuns Runs Sessions

/-! ## Payloads -/

/-- The document of a report, with the time that the clock gives. -/
def reportDocument (organizationId verificationId : UUID) (generatedAt : String) (result : Dict) :
    Dict :=
  [("report_version", .str "1"), ("verification_id", .str (Uuid.toString verificationId)),
   ("organization_id", .str (Uuid.toString organizationId)), ("generated_at", .str generatedAt),
   ("result", .obj result)]

/-- `report_payload` -/
def reportPayload (organizationId verificationId : UUID) (generatedAt : String) (result : Dict) :
    String :=
  JsonText.dumps (.obj (reportDocument organizationId verificationId generatedAt result))

/-- What a reader finds in the body of a report. -/
structure ReadsAs (organizationId verificationId : UUID) (result fields : Dict) : Prop where
  version : fields.get "report_version" = some (.str "1")
  verification : fields.get "verification_id" = some (.str (Uuid.toString verificationId))
  organization : fields.get "organization_id" = some (.str (Uuid.toString organizationId))
  result : fields.get "result" = some (Json.obj result).canon

/-- The body of a report is a document that says whose result it is, and the result. -/
def ReportOf (body : String) (organizationId verificationId : UUID) (result : Dict) : Prop :=
  ∃ fields, JsonReader.loads body.toList = some (.obj fields) ∧
    ReadsAs organizationId verificationId result fields

theorem reportOf_payload (organizationId verificationId : UUID) (generatedAt : String)
    (result : Dict) :
    ReportOf (reportPayload organizationId verificationId generatedAt result) organizationId
      verificationId result := by
  let fields := reportDocument organizationId verificationId generatedAt result
  refine ⟨(canonFields fields).insertionSort keyLe, ?_, ?_⟩
  · rw [reportPayload, JsonText.dumps, String.toList_ofList, JsonReader.loads_text, Json.canon]
  · constructor <;> rw [get_insertionSort, get_canonFields] <;> rfl

/-! ## Keys -/

theorem toList_reportKey (organizationId verificationId : UUID) :
    (reportKey organizationId verificationId).toList =
      "organizations/".toList ++ (canonical organizationId ++
        '/' :: ("verification-reports/".toList ++
          (canonical verificationId ++ ".json".toList))) := by
  have text : ∀ u : UUID, (Uuid.toString u).toList = canonical u := fun u => String.toList_ofList
  have reports : "/verification-reports/".toList = '/' :: "verification-reports/".toList := by
    decide
  simp only [reportKey, String.toList_append, text, reports, List.append_assoc,
    List.cons_append]

/-- A key names its run. -/
theorem reportKey_inj {o v o' v' : UUID} (same : reportKey o v = reportKey o' v') :
    o = o' ∧ v = v' := by
  have texts := congrArg String.toList same
  rw [toList_reportKey, toList_reportKey] at texts
  have below := List.append_cancel_left texts
  have length : (canonical o).length = (canonical o').length := by simp [length_canonical]
  obtain ⟨organization, rest⟩ := List.append_inj below length
  have name := List.append_cancel_left (List.cons.inj rest).2
  exact ⟨canonical_injective organization, canonical_injective (List.append_cancel_right name)⟩

/-- No document is uploaded to the key of a report. -/
theorem reportKey_ne_s3ObjectKey (o v organizationId documentId : UUID) (filename : String) :
    reportKey o v ≠ s3ObjectKey organizationId documentId filename := by
  intro same
  have texts := congrArg String.toList same
  have document : (s3ObjectKey organizationId documentId filename).toList =
      "organizations/".toList ++ (canonical organizationId ++ '/' :: ("documents/".toList ++
        (canonical documentId ++ '/' :: safeCharacters filename))) := by
    rw [toList_s3ObjectKey]
    simp [documentPrefix, prefixOf, List.intercalate]
  rw [toList_reportKey, document] at texts
  have below := List.append_cancel_left texts
  have length : (canonical o).length = (canonical organizationId).length := by
    simp [length_canonical]
  obtain ⟨-, rest⟩ := List.append_inj below length
  have first := congrArg List.head? (List.cons.inj rest).2
  exact absurd first (by simp)

/-! ## Requests -/

/-- A writer's session loads a run of its organization. -/
theorem act_load (svc : VerificationService) (i : Nat) {s : VerificationStore}
    {tenant : TenantContext} {id : UUID} {run : VerificationRun} (role : mayWrite tenant = true)
    (found : getRun s.toVerificationTables tenant id = .ok run) :
    act svc i s .idle (.load tenant id) = some (s, .loaded run) := by
  have selected := (getTenantVerification_ok_iff s tenant id run).mpr
    ((getRun_ok_iff s tenant id run).mp found)
  unfold getTenantVerification at selected
  split at selected
  · cases selected
  · rename_i stored
    cases selected
    simp only [act, stored]
    rw [if_pos role]

/-- From a loaded run on, a session writes the report as the request does. -/
theorem materializeReport_alone (svc : VerificationService) (i : Nat) (storage : ReportStorage)
    (s : VerificationStore) {tenant : TenantContext} {run : VerificationRun}
    (owner : run.organizationId = tenant.organizationId) :
    ∃ inputs l, alone (act svc) i s (.loaded run) inputs =
        some ((materializeReport storage s tenant run).1, l) ∧
      ∀ answer, (materializeReport storage s tenant run).2 = .ok answer →
        ∃ run, l = .ready run answer.2 ∧ run.id = answer.1 := by
  unfold materializeReport
  rw [← owner]
  cases outcome : writeReport storage run.organizationId run.id with
  | error failed =>
    have reports : act svc i s (.loaded run) (.report storage) = some (s, .idle) := by
      simp [act, outcome]
    exact ⟨[.report storage], .idle, by simp [alone, reports], by simp⟩
  | ok key =>
    cases key with
    | none =>
      have reports : act svc i s (.loaded run) (.report storage) = some (s, .idle) := by
        simp [act, outcome]
      exact ⟨[.report storage], .idle, by simp [alone, reports], by simp⟩
    | some key =>
      have reports : act svc i s (.loaded run) (.report storage) =
          some (s, .rewritten run key) := by
        simp [act, outcome]
      have commits : act svc i s (.rewritten run key) .commit =
          some (s.setReport run.id run.reportS3Key (some key), .ready run key) := rfl
      refine ⟨[.report storage, .commit], .ready run key,
        by simp [alone, reports, commits], fun answer answered => ?_⟩
      cases answered
      exact ⟨run, rfl, rfl⟩

/-- A report that is asked for is written by one session with nobody in between, and if it is
answered then with what that session shows. -/
theorem createReport_alone (svc : VerificationService) (i : Nat) (storage : ReportStorage)
    (s : VerificationStore) (tenant : TenantContext) (id : UUID) :
    ∃ inputs l, alone (act svc) i s .idle inputs =
        some ((createReport storage s tenant id).1, l) ∧
      ∀ answer, (createReport storage s tenant id).2 = .ok answer →
        ∃ run, l = .ready run answer.2 ∧ run.id = answer.1 := by
  unfold createReport
  cases role : mayWrite tenant with
  | false => exact ⟨[], .idle, rfl, by simp⟩
  | true =>
    cases found : getRun s.toVerificationTables tenant id with
    | error e => exact ⟨[], .idle, rfl, by simp⟩
    | ok run =>
      obtain ⟨inputs, l, moved, answers⟩ := materializeReport_alone svc i storage s
        ((getRun_ok_iff s tenant id run).mp found).owner
      have loads := act_load svc i role found
      exact ⟨.load tenant id :: inputs, l, by simp [alone, loads, moved], answers⟩

/-! ## Archives -/

/-- What the bucket holds under each key. -/
abbrev Objects := String → Option String

/-- The rows and the bucket, of which no transaction covers both. -/
structure Archive where
  store : VerificationStore
  objects : Objects

/-- What a write of a report does to the bucket. A put whose answer is lost raises too. -/
def putReport (storage : ReportStorage) (lost : Bool) (generatedAt : String)
    (run : VerificationRun) (objects : Objects) : Objects :=
  if storage.bucket && (storage.put.isOk || lost) then
    Function.update objects (reportKey run.organizationId run.id)
      (some (reportPayload run.organizationId run.id generatedAt run.resultJson))
  else objects

/-- The bucket after a step of a session. Two of them write a report. -/
def objectsAfter (lost : Bool) (generatedAt : String) (objects : Objects) :
    VerificationSession → VerificationStep → Objects
  | .inserted _ run, .report storage => putReport storage lost generatedAt run objects
  | .loaded run, .report storage => putReport storage lost generatedAt run objects
  | _, _ => objects

inductive ArchiveStep where
  | request (input : VerificationStep) (lost : Bool) (generatedAt : String)
  /-- A document that is uploaded to the same bucket. -/
  | upload (organizationId documentId : UUID) (filename content : String)

def actArchive (svc : VerificationService) (i : Nat) (a : Archive) (l : VerificationSession) :
    ArchiveStep → Option (Archive × VerificationSession)
  | .request input lost generatedAt =>
      (act svc i a.store l input).map fun r =>
        (⟨r.1, objectsAfter lost generatedAt a.objects l input⟩, r.2)
  | .upload organizationId documentId filename content =>
      some (⟨a.store, Function.update a.objects (s3ObjectKey organizationId documentId filename)
        (some content)⟩, l)

def emptyArchive : System Archive VerificationSession :=
  ⟨⟨.empty, fun _ => none⟩, fun _ => .idle⟩

/-! ## What the bucket says of a run -/

/-- The report of a run with these columns is in the bucket. -/
def Filed (objects : Objects) (c : UUID × UUID × String × Dict) : Prop :=
  ∃ generatedAt, objects (reportKey c.2.1 c.1) =
    some (reportPayload c.2.1 c.1 generatedAt c.2.2.2)

/-- Reports that are written replace each other. -/
theorem filed_update_self (objects : Objects) (c : UUID × UUID × String × Dict)
    (generatedAt : String) :
    Filed (Function.update objects (reportKey c.2.1 c.1)
      (some (reportPayload c.2.1 c.1 generatedAt c.2.2.2))) c := by
  refine ⟨generatedAt, ?_⟩
  rw [Function.update_self]

theorem Filed.update {objects : Objects} {c : UUID × UUID × String × Dict}
    (filed : Filed objects c) {key : String} (other : reportKey c.2.1 c.1 ≠ key)
    (content : Option String) : Filed (Function.update objects key content) c := by
  obtain ⟨generatedAt, there⟩ := filed
  refine ⟨generatedAt, ?_⟩
  rw [Function.update_of_ne other, there]

/-- A run with these columns is stored, and a key that is known of its report leads to it. -/
structure Known (a : Archive) (c : UUID × UUID × String × Dict) (key : Option String) :
    Prop where
  stored : c ∈ columns a.store.toVerificationTables
  filed : ∀ k ∈ key, k = reportKey c.2.1 c.1 ∧ Filed a.objects c

/-- Every row names its own report, and every report in the bucket is that of a stored run. -/
structure Consistent (a : Archive) : Prop where
  named : ∀ v ∈ a.store.verifications, Known a (fixedColumns v) v.reportS3Key
  owned : ∀ o v body, a.objects (reportKey o v) = some body →
    ∃ c ∈ columns a.store.toVerificationTables, c.2.1 = o ∧ c.1 = v ∧
      ∃ generatedAt, body = reportPayload o v generatedAt c.2.2.2

/-- What a session relies on. -/
def Attested (a : Archive) : VerificationSession → Prop
  | .inserted _ run | .found _ run | .loaded run => Known a (fixedColumns run) run.reportS3Key
  | .reported _ run key =>
      Known a (fixedColumns run) run.reportS3Key ∧ Known a (fixedColumns run) key
  | .rewritten run key =>
      Known a (fixedColumns run) run.reportS3Key ∧ Known a (fixedColumns run) (some key)
  | .ready run key => Known a (fixedColumns run) (some key)
  | .responded organizationId _ out => ∃ idempotencyKey,
      Known a (out.verificationId, organizationId, idempotencyKey, out.result) out.reportKey
  | .idle | .absent .. => True

/-- Rows stay, and so do their reports. -/
structure Extends (a b : Archive) : Prop where
  rows : columns a.store.toVerificationTables <+: columns b.store.toVerificationTables
  filed : ∀ c ∈ columns a.store.toVerificationTables, Filed a.objects c → Filed b.objects c

theorem Extends.refl (a : Archive) : Extends a a := ⟨List.prefix_rfl, fun _ _ filed => filed⟩

theorem Known.extended {a b : Archive} {c : UUID × UUID × String × Dict} {key : Option String}
    (known : Known a c key) (extended : Extends a b) : Known b c key where
  stored := extended.rows.subset known.stored
  filed k named :=
    ⟨(known.filed k named).1, extended.filed c known.stored (known.filed k named).2⟩

theorem Known.unnamed {a : Archive} {c : UUID × UUID × String × Dict}
    (stored : c ∈ columns a.store.toVerificationTables) : Known a c none where
  stored := stored
  filed := by
    rintro k ⟨⟩

theorem Attested.extended {a b : Archive} {l : VerificationSession} (attested : Attested a l)
    (extended : Extends a b) : Attested b l := by
  cases l with
  | inserted | found | loaded | ready => exact Known.extended attested extended
  | reported | rewritten =>
    exact ⟨Known.extended attested.1 extended, Known.extended attested.2 extended⟩
  | responded =>
    obtain ⟨idempotencyKey, known⟩ := attested
    exact ⟨idempotencyKey, known.extended extended⟩
  | idle | absent => trivial

/-- Two runs with one id are one. -/
theorem columns_unique_id (s : VerificationStore) {c d : UUID × UUID × String × Dict}
    (first : c ∈ columns s.toVerificationTables) (second : d ∈ columns s.toVerificationTables)
    (id : c.1 = d.1) : c = d := by
  obtain ⟨v, left, rfl⟩ := List.mem_map.mp first
  obtain ⟨w, right, rfl⟩ := List.mem_map.mp second
  rw [List.inj_on_of_nodup_map s.wf.verificationId left right id]

/-! ## Steps -/

section
variable {a : Archive}

/-- The report of a stored run replaces one of the same run, or none. -/
theorem putReport_keeps (consistent : Consistent a) {run : VerificationRun}
    (stored : fixedColumns run ∈ columns a.store.toVerificationTables) (storage : ReportStorage)
    (lost : Bool) (generatedAt : String) :
    Extends a ⟨a.store, putReport storage lost generatedAt run a.objects⟩ ∧
      Consistent ⟨a.store, putReport storage lost generatedAt run a.objects⟩ := by
  unfold putReport
  split
  · have extended : Extends a ⟨a.store, Function.update a.objects
        (reportKey run.organizationId run.id)
        (some (reportPayload run.organizationId run.id generatedAt run.resultJson))⟩ := by
      refine ⟨List.prefix_rfl, fun c member filed => ?_⟩
      by_cases same : reportKey c.2.1 c.1 = reportKey run.organizationId run.id
      · obtain rfl := columns_unique_id a.store member stored (reportKey_inj same).2
        exact filed_update_self a.objects (fixedColumns run) generatedAt
      · exact filed.update same _
    refine ⟨extended, fun v member => (consistent.named v member).extended extended,
      fun o v body there => ?_⟩
    dsimp only at there
    by_cases same : reportKey o v = reportKey run.organizationId run.id
    · rw [same, Function.update_self] at there
      obtain ⟨rfl, rfl⟩ := reportKey_inj same
      exact ⟨fixedColumns run, stored, rfl, rfl, generatedAt, (Option.some.inj there).symm⟩
    · rw [Function.update_of_ne same] at there
      exact consistent.owned o v body there
  · exact ⟨.refl a, consistent⟩

/-- A write that returns a key has put the report under it. -/
theorem filed_of_writeReport {storage : ReportStorage} {run : VerificationRun}
    {key : Option String} (written : writeReport storage run.organizationId run.id = .ok key)
    (lost : Bool) (generatedAt : String) :
    ∀ k ∈ key, k = reportKey run.organizationId run.id ∧
      Filed (putReport storage lost generatedAt run a.objects) (fixedColumns run) := by
  rintro k named
  unfold writeReport at written
  split at written
  · cases written
    cases named
  · rename_i bucket
    cases put : storage.put with
    | error e =>
      rw [put] at written
      cases written
    | ok =>
      rw [put] at written
      cases written
      cases named
      have made : (storage.bucket && (storage.put.isOk || lost)) = true := by
        simpa [put, Except.isOk, Except.toBool] using bucket
      rw [putReport, if_pos made]
      exact ⟨rfl, filed_update_self a.objects (fixedColumns run) generatedAt⟩

/-- A new run names no report. -/
theorem insert_extends (consistent : Consistent a) {t : VerificationStore} {run : VerificationRun}
    (inserted : VerificationStore.commit (a.store.insert run) = some t)
    (unnamed : run.reportS3Key = none) :
    Extends a ⟨t, a.objects⟩ ∧ Consistent ⟨t, a.objects⟩ ∧
      Known ⟨t, a.objects⟩ (fixedColumns run) run.reportS3Key := by
  have rows : t.verifications = a.store.verifications ++ [run] := by
    rw [VerificationStore.commit_some inserted, VerificationTables.insert]
  have listed : columns t.toVerificationTables =
      columns a.store.toVerificationTables ++ [fixedColumns run] := by
    rw [columns, rows, List.map_append]
    rfl
  have extended : Extends a ⟨t, a.objects⟩ :=
    ⟨listed ▸ List.prefix_append _ _, fun _ _ filed => filed⟩
  have known : Known ⟨t, a.objects⟩ (fixedColumns run) run.reportS3Key := by
    rw [unnamed]
    refine .unnamed ?_
    change _ ∈ columns t.toVerificationTables
    rw [listed]
    exact List.mem_append_right _ (List.mem_singleton.mpr rfl)
  refine ⟨extended, ⟨fun v member => ?_, fun o v body there => ?_⟩, known⟩
  · change v ∈ t.verifications at member
    rw [rows] at member
    rcases List.mem_append.mp member with old | new
    · exact (consistent.named v old).extended extended
    · rw [List.mem_singleton.mp new]
      exact known
  · obtain ⟨c, member, same⟩ := consistent.owned o v body there
    exact ⟨c, extended.rows.subset member, same⟩

/-- A commit writes the key of a report that is there, or leaves the row as another session
wrote it. -/
theorem setReport_extends (consistent : Consistent a) {run : VerificationRun}
    {key : Option String} (known : Known a (fixedColumns run) key) :
    Extends a ⟨a.store.setReport run.id run.reportS3Key key, a.objects⟩ ∧
      Consistent ⟨a.store.setReport run.id run.reportS3Key key, a.objects⟩ := by
  have extended : Extends a ⟨a.store.setReport run.id run.reportS3Key key, a.objects⟩ := by
    refine ⟨?_, fun _ _ filed => filed⟩
    rw [columns_setReport]
  refine ⟨extended, fun v member => ?_, fun o v body there => ?_⟩
  · obtain ⟨w, stored, rfl⟩ := List.mem_map.mp member
    rw [withReport_fixed]
    have before := (consistent.named w stored).extended extended
    unfold withReport
    split
    · rename_i same
      rcases flush_eq_or run.reportS3Key key w.reportS3Key with kept | changed
      · rw [kept]
        exact before
      · rw [changed]
        have one : fixedColumns w = fixedColumns run := columns_unique_id a.store
          (List.mem_map_of_mem stored) known.stored same
        rw [one]
        exact known.extended extended
    · exact before
  · obtain ⟨c, member, same⟩ := consistent.owned o v body there
    exact ⟨c, extended.rows.subset member, same⟩

/-- What a step leaves: more rows, no report lost, and a session that relies on what is there. -/
def Keeps (a b : Archive) (l : VerificationSession) : Prop :=
  Extends a b ∧ Consistent b ∧ Attested b l

theorem keeps_still (consistent : Consistent a) {l : VerificationSession}
    (attested : Attested a l) : Keeps a a l := ⟨.refl a, consistent, attested⟩

/-- A run that is selected is stored as it is read. -/
theorem known_of_stored (consistent : Consistent a) {run : VerificationRun}
    (stored : run ∈ a.store.verifications) : Known a (fixedColumns run) run.reportS3Key :=
  consistent.named run stored

/-- A session that writes a report goes on with its run, and with a key if it got one. -/
theorem report_keeps (consistent : Consistent a) {run : VerificationRun}
    (known : Known a (fixedColumns run) run.reportS3Key) {storage : ReportStorage}
    {m : VerificationSession} (lost : Bool) (generatedAt : String)
    (goes : ∀ b : Archive, Known b (fixedColumns run) run.reportS3Key →
      (∀ key, writeReport storage run.organizationId run.id = .ok key →
        Known b (fixedColumns run) key) → Attested b m) :
    Keeps a ⟨a.store, putReport storage lost generatedAt run a.objects⟩ m := by
  obtain ⟨extended, after⟩ := putReport_keeps consistent known.stored storage lost generatedAt
  refine ⟨extended, after, goes _ (known.extended extended) fun key written => ?_⟩
  exact ⟨(known.extended extended).stored, filed_of_writeReport written lost generatedAt⟩

theorem act_attests {svc : VerificationService} {i : Nat} {t : VerificationStore}
    {l m : VerificationSession} {input : VerificationStep} (consistent : Consistent a)
    (attested : Attested a l) (acts : act svc i a.store l input = some (t, m)) (lost : Bool)
    (generatedAt : String) :
    Keeps a ⟨t, objectsAfter lost generatedAt a.objects l input⟩ m := by
  have still : ∀ {k}, Attested a k → some (a.store, k) = some (t, m) →
      Keeps a ⟨t, a.objects⟩ m := by
    rintro k kept ⟨⟩
    exact keeps_still consistent kept
  unfold act at acts
  split at acts
  -- `.idle`, `.select`
  · split at acts
    · split at acts
      · rename_i existing found
        exact still (k := .found _ existing)
          (known_of_stored consistent (find_some found).1) acts
      · exact still (k := .absent _ _) trivial acts
    · exact still (k := .idle) trivial acts
  -- `.absent`, `.insert`
  · split at acts
    · exact still (k := .idle) trivial acts
    · dsimp only at acts
      split at acts
      · rename_i inserted
        cases acts
        exact insert_extends consistent inserted rfl
      · exact still (k := .idle) trivial acts
  -- `.inserted`, `.report`
  · rename_i request run storage
    split at acts
    · rename_i key written
      cases acts
      exact report_keeps consistent attested lost generatedAt fun b known filed =>
        ⟨known, filed key written⟩
    · rename_i e failed
      cases acts
      refine report_keeps consistent attested lost generatedAt fun b known _ => ?_
      split
      · exact known
      · trivial
  -- `.reported`, `.commit`
  · rename_i request run key
    cases acts
    obtain ⟨extended, after⟩ := setReport_extends consistent attested.2
    exact ⟨extended, after, attested.2.extended extended⟩
  -- `.found`, `.respond`
  · rename_i request run storage
    split at acts
    · rename_i out answered
      obtain ⟨id, result, key⟩ := response_ok answered
      refine still (k := .responded _ request out) ⟨run.idempotencyKey, ?_⟩ acts
      rw [id, result, key]
      exact attested
    · exact still (k := .idle) trivial acts
  -- `.idle`, `.load`
  · split at acts
    · rename_i run found
      refine still ?_ acts
      split
      · exact known_of_stored consistent (List.mem_of_find?_eq_some found)
      · trivial
    · exact still (k := .idle) trivial acts
  -- `.loaded`, `.report`
  · rename_i run storage
    split at acts
    · rename_i key written
      cases acts
      exact report_keeps consistent attested lost generatedAt fun b known filed =>
        ⟨known, filed (some key) written⟩
    · cases acts
      exact report_keeps consistent attested lost generatedAt fun _ _ _ => trivial
  -- `.rewritten`, `.commit`
  · cases acts
    obtain ⟨extended, after⟩ := setReport_extends consistent attested.2
    exact ⟨extended, after, attested.2.extended extended⟩
  -- `.abandon`
  · have quiet : objectsAfter lost generatedAt a.objects l .abandon = a.objects := by
      cases l <;> rfl
    rw [quiet]
    exact still (k := .idle) trivial acts
  · cases acts

end

/-- An upload touches no report. -/
theorem upload_extends {a : Archive} (consistent : Consistent a)
    (organizationId documentId : UUID) (filename content : String) :
    Extends a ⟨a.store, Function.update a.objects
        (s3ObjectKey organizationId documentId filename) (some content)⟩ ∧
      Consistent ⟨a.store, Function.update a.objects
        (s3ObjectKey organizationId documentId filename) (some content)⟩ := by
  have other : ∀ o v, reportKey o v ≠ s3ObjectKey organizationId documentId filename :=
    fun o v => reportKey_ne_s3ObjectKey o v organizationId documentId filename
  have extended : Extends a ⟨a.store, Function.update a.objects
      (s3ObjectKey organizationId documentId filename) (some content)⟩ :=
    ⟨List.prefix_rfl, fun c _ filed => filed.update (other _ _) _⟩
  refine ⟨extended, fun v member => (consistent.named v member).extended extended,
    fun o v body there => ?_⟩
  dsimp only at there
  rw [Function.update_of_ne (other o v)] at there
  exact consistent.owned o v body there

theorem actArchive_keeps {svc : VerificationService} {i : Nat} {a b : Archive}
    {l m : VerificationSession} {input : ArchiveStep} (consistent : Consistent a)
    (attested : Attested a l) (acts : actArchive svc i a l input = some (b, m)) :
    Keeps a b m := by
  cases input with
  | request input lost generatedAt =>
    obtain ⟨⟨t, m'⟩, taken, same⟩ := Option.map_eq_some_iff.mp acts
    cases same
    exact act_attests consistent attested taken lost generatedAt
  | upload organizationId documentId filename content =>
    cases acts
    obtain ⟨extended, after⟩ :=
      upload_extends consistent organizationId documentId filename content
    exact ⟨extended, after, attested.extended extended⟩

/-! ## Runs -/

/-- What any step of a run relies on. -/
def Filing : System Archive VerificationSession → Prop := Holds Consistent fun _ => Attested

theorem filing_step {svc : VerificationService} {c d : System Archive VerificationSession}
    {e : Event ArchiveStep} (filing : Filing c) (step : Step (actArchive svc) c e d) :
    Filing d := by
  refine step.holds filing (fun s l acts => ?_) fun s l acts j other attested => ?_
  · exact (actArchive_keeps filing.1 (filing.2 _) acts).2
  · exact Attested.extended attested (actArchive_keeps filing.1 (filing.2 _) acts).1

theorem emptyArchive_filing : Filing emptyArchive := by
  refine ⟨⟨?_, ?_⟩, fun _ => trivial⟩
  · rintro v ⟨⟩
  · rintro o v body ⟨⟩

/-- What the bucket holds under a key is the report of this run with this result. -/
def Retrieves (objects : Objects) (key : String) (organizationId verificationId : UUID)
    (result : Dict) : Prop :=
  ∃ body, objects key = some body ∧ ReportOf body organizationId verificationId result

theorem Known.retrieves {a : Archive} {c : UUID × UUID × String × Dict} {key : Option String}
    (known : Known a c key) : ∀ k ∈ key, Retrieves a.objects k c.2.1 c.1 c.2.2.2 := by
  rintro k named
  obtain ⟨rfl, generatedAt, there⟩ := known.filed k named
  exact ⟨_, there, reportOf_payload _ _ generatedAt _⟩

/-- A key that is held or shown, with the run that it is to be the report of. -/
structure HeldReport where
  organizationId : UUID
  verificationId : UUID
  result : Dict
  key : Option String

def heldReport (run : VerificationRun) (key : Option String) : HeldReport :=
  ⟨run.organizationId, run.id, run.resultJson, key⟩

/-- The keys that a session holds, and those of its answer. -/
def VerificationSession.reports : VerificationSession → List HeldReport
  | .inserted _ run | .found _ run | .loaded run => [heldReport run run.reportS3Key]
  | .reported _ run key => [heldReport run run.reportS3Key, heldReport run key]
  | .rewritten run key => [heldReport run run.reportS3Key, heldReport run (some key)]
  | .responded organizationId _ out =>
      [⟨organizationId, out.verificationId, out.result, out.reportKey⟩]
  | .ready run key => [heldReport run (some key)]
  | .idle | .absent .. => []

/-- Every key that a session holds or shows leads to the report of its run. -/
theorem Attested.retrieves {a : Archive} {l : VerificationSession} (attested : Attested a l) :
    ∀ h ∈ l.reports, ∀ key ∈ h.key,
      Retrieves a.objects key h.organizationId h.verificationId h.result := by
  intro h member
  cases l with
  | idle | absent => cases member
  | inserted _ run | found _ run | loaded run =>
    rw [List.mem_singleton.mp member]
    exact Known.retrieves attested
  | ready run key =>
    rw [List.mem_singleton.mp member]
    exact Known.retrieves attested
  | reported _ run key | rewritten run key =>
    rcases List.mem_pair.mp member with rfl | rfl
    · exact Known.retrieves attested.1
    · exact Known.retrieves attested.2
  | responded organizationId request out =>
    rw [List.mem_singleton.mp member]
    obtain ⟨idempotencyKey, known⟩ := attested
    exact known.retrieves

/-- The answer to a read names the report of what it answers. -/
theorem getVerification_retrieves {a : Archive} (consistent : Consistent a)
    {storage : ReportStorage} {tenant : TenantContext} {id : UUID} {out : VerificationOut}
    (answered : getVerification storage a.store.toVerificationTables tenant id = .ok out) :
    out.verificationId = id ∧
      ∀ key ∈ out.reportKey, Retrieves a.objects key tenant.organizationId id out.result := by
  obtain ⟨run, found, done⟩ := Loops.bind_ok_iff.mp answered
  obtain ⟨stored, rfl, owner⟩ := (getRun_ok_iff a.store tenant id run).mp found
  obtain ⟨name, result, key⟩ := response_ok done
  refine ⟨name, ?_⟩
  rw [result, key, ← owner]
  exact (consistent.named run stored).retrieves

/-- However requests, retries, lost puts and uploads interleave, at any time: a key in a row, in a
session or in an answer leads to the report of the run and the result that it stands by, and
every object under the key of a report is the report of a stored run. -/
theorem reports_retrievable {svc : VerificationService}
    {transitions : List (Transition (System Archive VerificationSession) (Event ArchiveStep))}
    {final : System Archive VerificationSession}
    (run : Run (Step (actArchive svc)) emptyArchive transitions final) :
    ∀ c ∈ visited emptyArchive transitions,
      (∀ v ∈ c.shared.store.verifications, ∀ key ∈ v.reportS3Key,
        Retrieves c.shared.objects key v.organizationId v.id v.resultJson) ∧
      (∀ i, ∀ h ∈ (c.locals i).reports, ∀ key ∈ h.key,
        Retrieves c.shared.objects key h.organizationId h.verificationId h.result) ∧
      (∀ storage tenant id out,
        getVerification storage c.shared.store.toVerificationTables tenant id = .ok out ∨
          getReportAlias storage c.shared.store.toVerificationTables tenant id = .ok out →
        out.verificationId = id ∧ ∀ key ∈ out.reportKey,
          Retrieves c.shared.objects key tenant.organizationId id out.result) ∧
      ∀ organizationId verificationId body,
        c.shared.objects (reportKey organizationId verificationId) = some body →
          ∃ v ∈ c.shared.store.verifications, v.id = verificationId ∧
            v.organizationId = organizationId ∧
            ReportOf body organizationId verificationId v.resultJson := by
  have holds := (run.always Filing (fun _ _ _ filing step => filing_step filing step)
    emptyArchive_filing).1
  have filed : ∀ c ∈ visited emptyArchive transitions, Filing c := by
    intro c member
    rcases List.mem_cons.mp member with rfl | later
    · exact emptyArchive_filing
    · obtain ⟨x, inRun, rfl⟩ := List.mem_map.mp later
      exact (holds x inRun).2
  intro c seen
  obtain ⟨consistent, attested⟩ := filed c seen
  refine ⟨fun v stored => (consistent.named v stored).retrieves,
    fun i => (attested i).retrieves, fun storage tenant id out read => ?_,
    fun o id body there => ?_⟩
  · have answered : getVerification storage c.shared.store.toVerificationTables tenant id =
        .ok out :=
      read.elim (fun direct => direct) (getReportAlias_ok_iff storage _ tenant id out).mp
    exact getVerification_retrieves consistent answered
  · obtain ⟨_, listed, owner, name, generatedAt, rfl⟩ := consistent.owned o id body there
    obtain ⟨v, stored, rfl⟩ := List.mem_map.mp listed
    exact ⟨v, stored, name, owner, reportOf_payload o id generatedAt v.resultJson⟩

def failingPut : ReportStorage := ⟨true, .error .osError, .ok ""⟩

def workingPut : ReportStorage := ⟨true, .ok (), .ok "https://reports"⟩

/-- The put of a first report is made and its answer lost, so its key is not stored; the report
is then asked for again, and its object replaced, while a document is uploaded. -/
def rewrittenReport : List (Event ArchiveStep) :=
  [⟨0, .request (.select [] [] sampleTenant sampleBody) false ""⟩,
   ⟨0, .request (.insert 7) false ""⟩,
   ⟨0, .request (.report failingPut) true "2026-01-01T00:00:00+00:00"⟩,
   ⟨1, .request (.load sampleTenant 7) false ""⟩, ⟨2, .upload 1 7 "report.json" "text"⟩,
   ⟨1, .request (.report workingPut) false "2026-01-02T00:00:00+00:00"⟩,
   ⟨1, .request .commit false ""⟩, ⟨0, .request (.respond workingPut) false ""⟩]

theorem reports_retrievable_rewritten : ∃ final,
    Run (Step (actArchive sampleVerification)) emptyArchive
      (script (actArchive sampleVerification) emptyArchive rewrittenReport) final ∧
    ∀ c ∈ visited emptyArchive (script (actArchive sampleVerification) emptyArchive
        rewrittenReport),
      (∀ v ∈ c.shared.store.verifications, ∀ key ∈ v.reportS3Key,
        Retrieves c.shared.objects key v.organizationId v.id v.resultJson) ∧
      ∀ i, ∀ h ∈ (c.locals i).reports, ∀ key ∈ h.key,
        Retrieves c.shared.objects key h.organizationId h.verificationId h.result := by
  obtain ⟨final, run⟩ := run_script (actArchive sampleVerification) emptyArchive rewrittenReport
  exact ⟨final, run, fun c seen =>
    ⟨(reports_retrievable run c seen).1, (reports_retrievable run c seen).2.1⟩⟩

end CoolProof.VerificationRuns
