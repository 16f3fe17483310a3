import CoolProof.HeatSessions

/-! What holds across interleavings of submissions, worker ticks and recovery scans:
what a commit does to the rows of others, and how many provider activities can be
outstanding for one key. -/

namespace CoolProof.Heat
open Calendar JsonDocument Uuid Models ProviderQuery Tables Runs Sessions

/-! ## What a commit does to the rows -/

@[simp] theorem HeatTables.analysis_mergeAnalysis (t : HeatTables)
    (loaded changed : HeatAnalysis) (k : UUID) : (t.mergeAnalysis loaded changed).analysis k =
      if k = loaded.id then (t.analysis k).map (flushAnalysis loaded changed)
      else t.analysis k := by
  unfold HeatTables.mergeAnalysis
  cases stored : t.analysis loaded.id with
  | none =>
    by_cases same : k = loaded.id
    · simp [same, stored]
    · simp [same]
  | some row =>
    have owner : (flushAnalysis loaded changed row).id = loaded.id :=
      (HeatTables.analysis_mem stored).2
    by_cases same : k = loaded.id
    · simp [same, stored, owner]
    · simp [same, owner]

theorem mergeAnalysis_ids (t : HeatTables) (loaded changed : HeatAnalysis) :
    (t.mergeAnalysis loaded changed).analyses.map HeatAnalysis.id =
      t.analyses.map HeatAnalysis.id := by
  unfold HeatTables.mergeAnalysis
  split
  · exact map_update ..
  · rfl

/-- The columns by which other sessions find an analysis. -/
def rowKey (a : HeatAnalysis) : UUID × UUID × String :=
  (a.id, a.organizationId, a.idempotencyKey)

/-- A merged row is found as before. -/
theorem mergeAnalysis_rowKeys {t : HeatTables} (loaded changed : HeatAnalysis)
    (ids : (t.analyses.map HeatAnalysis.id).Nodup) :
    (t.mergeAnalysis loaded changed).analyses.map rowKey = t.analyses.map rowKey := by
  unfold HeatTables.mergeAnalysis
  cases stored : t.analysis loaded.id with
  | none => rfl
  | some row =>
    refine map_update_of_eq fun r member hit => ?_
    have found : t.analysis r.id = some r := find_of_mem ids member
    have same : r.id = loaded.id := hit.trans (HeatTables.analysis_mem stored).2
    rw [same, stored] at found
    cases found
    rfl

theorem mem_mergeAnalysis {t : HeatTables} {loaded changed b : HeatAnalysis}
    (member : b ∈ (t.mergeAnalysis loaded changed).analyses) :
    b ∈ t.analyses ∨ ∃ stored ∈ t.analyses, stored.id = loaded.id ∧
      b = flushAnalysis loaded changed stored := by
  unfold HeatTables.mergeAnalysis at member
  cases stored : t.analysis loaded.id with
  | none =>
    rw [stored] at member
    exact .inl member
  | some row =>
    rw [stored] at member
    have source := HeatTables.analysis_mem stored
    rcases mem_update member with rfl | ⟨old, _⟩
    · exact .inr ⟨row, source.1, source.2, rfl⟩
    · exact .inl old

theorem mergeActivity_analyses (t : HeatTables) (loaded : Option FortyGuardActivity)
    (changed : FortyGuardActivity) : (t.mergeActivity loaded changed).analyses = t.analyses := by
  unfold HeatTables.mergeActivity
  split
  · rfl
  · split <;> rfl

theorem submitTables_analyses (t : HeatTables) (req : SubmitRequest) (existing : Bool)
    (a : HeatAnalysis) (answer : Except FortyGuardError String) (dueAt : Instant)
    (activity : Option FortyGuardActivity) :
    (submitTables t req existing a answer dueAt activity).analyses =
      ((if existing then t else t.insertAnalysis a).mergeAnalysis a
        (submitRow req existing a answer)).analyses := by
  unfold submitTables
  cases answer with
  | error => rfl
  | ok => exact mergeActivity_analyses ..

theorem pollTables_analyses {svc : HeatService} {t new : HeatTables} {m : PollMemory}
    {clock : PollClock} {seen : Except FortyGuardError Dict}
    (h : pollTables svc t m clock seen = some new) :
    new.analyses = (t.mergeAnalysis m.analysis (pollBody svc clock m seen).1.analysis).analyses := by
  obtain ⟨circuit, _, rfl⟩ := Option.map_eq_some_iff.mp h
  dsimp only
  split
  · exact mergeActivity_analyses ..
  · rfl

/-! ## What a provider answer says -/

/-- The status a failed request leaves: another attempt, or the end. -/
def failureStatus (svc : HeatService) (activity : Option FortyGuardActivity)
    (exc : FortyGuardError) : HeatAnalysisStatus :=
  if (retries svc activity exc).isSome then .running else .failed

def answerStatus (svc : HeatService) (activity : Option FortyGuardActivity) :
    Except FortyGuardError Dict → HeatAnalysisStatus
  | .error exc => failureStatus svc activity exc
  | .ok raw =>
      match normalizeActivity raw with
      | .error exc => failureStatus svc activity exc
      | .ok (status, _) => status

/-- The result an answer reports; an error reports none and leaves what was held. -/
def answerResult (held : Option Dict) : Except FortyGuardError Dict → Option Dict
  | .error _ => held
  | .ok raw =>
      match normalizeActivity raw with
      | .error _ => held
      | .ok (_, result) => result

theorem pollFailed_analysis (svc : HeatService) (clock : PollClock) (m : PollMemory)
    (exc : FortyGuardError) : (pollFailed svc clock m exc).1.analysis =
      { withError m.analysis exc with status := failureStatus svc m.activity exc } := by
  unfold pollFailed failureStatus
  cases retries svc m.activity exc <;> rfl

theorem pollBody_analysis (svc : HeatService) (clock : PollClock) (m : PollMemory)
    (seen : Except FortyGuardError Dict) :
    (pollBody svc clock m seen).1.analysis.status = answerStatus svc m.activity seen ∧
      (pollBody svc clock m seen).1.analysis.result = answerResult m.analysis.result seen ∧
      analysisKeys (pollBody svc clock m seen).1.analysis = analysisKeys m.analysis := by
  have failed : ∀ exc, (pollFailed svc clock m exc).1.analysis.status =
        failureStatus svc m.activity exc ∧
      (pollFailed svc clock m exc).1.analysis.result = m.analysis.result ∧
      analysisKeys (pollFailed svc clock m exc).1.analysis = analysisKeys m.analysis := by
    intro exc
    rw [pollFailed_analysis]
    exact ⟨rfl, rfl, rfl⟩
  cases seen with
  | error exc => exact failed exc
  | ok raw =>
    simp only [pollBody, answerStatus, answerResult]
    cases normalizeActivity raw with
    | error exc => exact failed exc
    | ok answer =>
      exact ⟨answeredAnalysis_status .., answeredAnalysis_result .., answeredAnalysis_keys ..⟩

/-! ## One provider activity at a time -/

/-- An activity is outstanding: in progress at the provider under a known id. -/
def InFlight (a : HeatAnalysis) : Prop :=
  a.status.terminal = false ∧ a.providerActivityId.isSome

instance (a : HeatAnalysis) : Decidable (InFlight a) := inferInstanceAs (Decidable (_ ∧ _))

/-- The commit of this session puts the analysis in flight: a submission with an activity
id, or a poll that reports a status in progress which it had not loaded. -/
def Launches (svc : HeatService) (id : UUID) : HeatSession → HeatInput → Prop
  | .answered _ _ a (.ok _) _ _, .commit => id = a.id
  | .polled m _ seen, .commitPoll => id = m.analysis.id ∧
      (answerStatus svc m.activity seen).terminal = false ∧
      answerStatus svc m.activity seen ≠ m.analysis.status
  | _, _ => False

def Matches (svc : HeatService) (req : SubmitRequest) (a : HeatAnalysis) : Prop :=
  a.organizationId = req.organizationId ∧ a.idempotencyKey = svc.key req

/-- The commit of this session inserts a row under a key that nobody has committed. -/
def Inserts (s : HeatShared) (b : HeatAnalysis) : HeatSession → HeatInput → Prop
  | .answered _ false a _ _ _, .commit =>
      b.organizationId = a.organizationId ∧ b.idempotencyKey = a.idempotencyKey ∧
        ∀ old ∈ s.store.analyses,
          ¬(old.organizationId = b.organizationId ∧ old.idempotencyKey = b.idempotencyKey)
  | _, _ => False

/-- A column write that neither reports progress nor names an activity puts nothing in
flight. -/
theorem inFlight_flushAnalysis {loaded changed stored : HeatAnalysis}
    (provider : changed.providerActivityId = loaded.providerActivityId)
    (status : changed.status.terminal = true ∨ changed.status = loaded.status)
    (h : InFlight (flushAnalysis loaded changed stored)) : InFlight stored := by
  obtain ⟨running, known⟩ := h
  simp only [flushAnalysis, provider, flush_unchanged] at running known
  refine ⟨?_, known⟩
  rcases status with done | same
  · rcases flush_eq_or loaded.status changed.status stored.status with kept | written
    · rwa [kept] at running
    · rw [written, done] at running
      cases running
  · rwa [same, flush_unchanged] at running

theorem submitRow_error (req : SubmitRequest) (existing : Bool) (a : HeatAnalysis)
    (exc : FortyGuardError) :
    (submitRow req existing a (.error exc)).providerActivityId = a.providerActivityId ∧
      ((submitRow req existing a (.error exc)).status.terminal = true ∨
        (submitRow req existing a (.error exc)).status = a.status) := by
  unfold submitRow
  dsimp only
  split
  · exact ⟨rfl, .inr rfl⟩
  · exact ⟨rfl, .inl rfl⟩

theorem inFlight_submitRow {svc : HeatService} {req : SubmitRequest} {existing : Bool}
    {a stored : HeatAnalysis} {answer : Except FortyGuardError String} {dueAt : Instant}
    {activity : Option FortyGuardActivity} (owner : stored.id = a.id)
    (h : InFlight (flushAnalysis a (submitRow req existing a answer) stored)) :
    InFlight stored ∨
      Launches svc stored.id (.answered req existing a answer dueAt activity) .commit := by
  cases answer with
  | error exc =>
    obtain ⟨provider, status⟩ := submitRow_error req existing a exc
    exact .inl (inFlight_flushAnalysis provider status h)
  | ok activityId => exact .inr owner

theorem inFlight_polled {svc : HeatService} {m : PollMemory} {clock : PollClock}
    {seen : Except FortyGuardError Dict} {stored : HeatAnalysis}
    (owner : stored.id = m.analysis.id)
    (h : InFlight (flushAnalysis m.analysis (pollBody svc clock m seen).1.analysis stored)) :
    InFlight stored ∨ Launches svc stored.id (.polled m clock seen) .commitPoll := by
  obtain ⟨status, _, keys⟩ := pollBody_analysis svc clock m seen
  have provider : (pollBody svc clock m seen).1.analysis.providerActivityId =
      m.analysis.providerActivityId := congrArg (·.2.2.2) keys
  by_cases quiet : (answerStatus svc m.activity seen).terminal = true ∨
      answerStatus svc m.activity seen = m.analysis.status
  · exact .inl (inFlight_flushAnalysis provider (by rwa [status]) h)
  · rw [not_or] at quiet
    exact .inr ⟨owner, by simpa using quiet.1, quiet.2⟩

theorem submitted_ids {s store : HeatStore} {req : SubmitRequest} {existing : Bool}
    {a : HeatAnalysis} {answer : Except FortyGuardError String} {dueAt : Instant}
    {activity : Option FortyGuardActivity} (committed : store.toHeatTables =
      submitTables s.toHeatTables req existing a answer dueAt activity) :
    ((if existing then s.toHeatTables else s.insertAnalysis a).analyses.map
      HeatAnalysis.id).Nodup := by
  have ids := store.wf.analysisId
  rwa [committed, submitTables_analyses, mergeAnalysis_ids] at ids

theorem submitted_rowKeys {s store : HeatStore} {req : SubmitRequest} {existing : Bool}
    {a : HeatAnalysis} {answer : Except FortyGuardError String} {dueAt : Instant}
    {activity : Option FortyGuardActivity} (committed : store.toHeatTables =
      submitTables s.toHeatTables req existing a answer dueAt activity) :
    store.analyses.map rowKey =
      s.analyses.map rowKey ++ (if existing then [] else [rowKey a]) := by
  have keys := mergeAnalysis_rowKeys a (submitRow req existing a answer) (submitted_ids committed)
  rw [committed, submitTables_analyses, keys]
  cases existing <;> simp [HeatTables.insertAnalysis]

/-- The unique key: an insert that commits has met no row under its key. -/
theorem inserts_new {store : HeatStore} {req : SubmitRequest} {a b : HeatAnalysis}
    {answer : Except FortyGuardError String} {dueAt : Instant}
    {activity : Option FortyGuardActivity} {shared : HeatShared}
    (committed : store.toHeatTables =
      submitTables shared.store.toHeatTables req false a answer dueAt activity)
    (same : rowKey b = rowKey a) :
    Inserts shared b (.answered req false a answer dueAt activity) .commit := by
  have columns : store.analyses.map (fun a => (a.organizationId, a.idempotencyKey)) =
      shared.store.analyses.map (fun a => (a.organizationId, a.idempotencyKey)) ++
        [(a.organizationId, a.idempotencyKey)] := by
    simpa [Function.comp_def, rowKey] using
      congrArg (List.map (·.2)) (submitted_rowKeys committed)
  have taken := store.wf.idempotency
  rw [columns, List.nodup_append] at taken
  have sameKey : (b.organizationId, b.idempotencyKey) =
      (a.organizationId, a.idempotencyKey) := congrArg (·.2) same
  obtain ⟨sameOrganization, sameText⟩ := Prod.mk.inj sameKey
  refine ⟨sameOrganization, sameText, fun old member ⟨organization, key⟩ => ?_⟩
  exact taken.2.2 _ (List.mem_map_of_mem member) _ (List.mem_singleton.mpr rfl)
    (by rw [organization, key, sameKey])

/-- What a step may do to the rows: keep them, write columns of one, or insert one. -/
theorem Acts.rows {svc : HeatService} {i : Nat} {s s' : HeatShared} {l l' : HeatSession}
    {e : HeatInput} (acts : Acts svc i s l e s' l') :
    (∀ b ∈ s'.store.analyses,
      (∃ old ∈ s.store.analyses, rowKey old = rowKey b ∧
        (InFlight b → InFlight old ∨ Launches svc b.id l e)) ∨ Inserts s b l e) ∧
      ∃ extra, s'.store.analyses.map rowKey = s.store.analyses.map rowKey ++ extra := by
  have unchanged : (∀ b ∈ s.store.analyses,
      (∃ old ∈ s.store.analyses, rowKey old = rowKey b ∧
        (InFlight b → InFlight old ∨ Launches svc b.id l e)) ∨ Inserts s b l e) ∧
      ∃ extra, s.store.analyses.map rowKey = s.store.analyses.map rowKey ++ extra :=
    ⟨fun b member => .inl ⟨b, member, rfl, .inl⟩, [], by simp⟩
  cases acts with
  | @submitted req existing a answer dueAt activity store committed =>
    refine ⟨fun b member => ?_, _, submitted_rowKeys committed⟩
    dsimp only at member
    rw [committed, submitTables_analyses] at member
    cases existing with
    | true =>
      rcases mem_mergeAnalysis member with old | ⟨stored, old, owner, rfl⟩
      · exact .inl ⟨b, old, rfl, .inl⟩
      · exact .inl ⟨stored, old, rfl, inFlight_submitRow owner⟩
    | false =>
      rcases mem_mergeAnalysis member with old | ⟨stored, old, owner, rfl⟩
      · rcases List.mem_append.mp old with old | new
        · exact .inl ⟨b, old, rfl, .inl⟩
        · rw [List.mem_singleton] at new
          exact .inr (inserts_new committed (by rw [new]))
      · rcases List.mem_append.mp old with old | new
        · exact .inl ⟨stored, old, rfl, inFlight_submitRow owner⟩
        · rw [List.mem_singleton] at new
          exact .inr (inserts_new committed (by rw [new]; rfl))
  | @polled m clock seen store merged =>
    have rows := pollTables_analyses merged
    refine ⟨fun b member => ?_, [], ?_⟩
    · dsimp only at member
      rw [rows] at member
      rcases mem_mergeAnalysis member with old | ⟨stored, old, owner, rfl⟩
      · exact .inl ⟨b, old, rfl, .inl⟩
      · exact .inl ⟨stored, old, rfl, inFlight_polled owner⟩
    · dsimp only
      rw [rows, mergeAnalysis_rowKeys _ _ s.store.wf.analysisId, List.append_nil]
  | _ => exact unchanged

/-! ## The key index while inserts are open -/

/-- A key whose insert is not committed is held by one session. -/
def KeysExclusive (s : HeatShared) : Prop := (s.pending.map Prod.snd).Nodup

def HoldsKey (svc : HeatService) (i : Nat) (s : HeatShared) (req : SubmitRequest)
    (a : HeatAnalysis) : Prop :=
  (i, req.organizationId, svc.key req) ∈ s.pending ∧ Matches svc req a

/-- What a submission relies on until it has called the provider, and an insert until it
commits. -/
def Relies (svc : HeatService) (i : Nat) (s : HeatShared) : HeatSession → Prop
  | .opened req true a => (∃ b ∈ s.store.analyses, Matches svc req b) ∧
      ∀ b ∈ s.store.analyses, Matches svc req b → b.id = a.id ∧ ¬InFlight b
  | .opened req false a => HoldsKey svc i s req a ∧
      ∀ b ∈ s.store.analyses, ¬Matches svc req b
  | .called req false a => HoldsKey svc i s req a
  | .answered req false a _ _ _ => HoldsKey svc i s req a
  | _ => True

theorem mem_release {s : HeatShared} {i : Nat} {entry : Nat × UUID × String} :
    entry ∈ (s.release i).pending ↔ entry ∈ s.pending ∧ entry.1 ≠ i := by
  simp [HeatShared.release]

theorem keysExclusive_release {s : HeatShared} (h : KeysExclusive s) (i : Nat) :
    KeysExclusive (s.release i) :=
  h.sublist (List.filter_sublist.map Prod.snd)

theorem holder_unique {s : HeatShared} (h : KeysExclusive s) {i j : Nat}
    {key : UUID × String} (left : (i, key) ∈ s.pending) (right : (j, key) ∈ s.pending) :
    i = j := by
  have same := List.inj_on_of_nodup_map h left right rfl
  exact congrArg Prod.fst same

/-- Other sessions' entries stay where they are. -/
theorem Acts.pending {svc : HeatService} {i j : Nat} {s s' : HeatShared} {l l' : HeatSession}
    {e : HeatInput} (acts : Acts svc i s l e s' l') (other : j ≠ i) {key : UUID × String}
    (held : (j, key) ∈ s.pending) : (j, key) ∈ s'.pending := by
  cases acts with
  | inserted => exact List.mem_cons_of_mem _ held
  | submitted | submitRefused | abandon => exact mem_release.mpr ⟨held, other⟩
  | _ => exact held

/-- No submission reads an analysis in flight as expired, and no commit puts an analysis
in flight while a submission that read it as expired has yet to call the provider. -/
def Quiet (svc : HeatService) (x : Transition (System HeatShared HeatSession) (Event HeatInput)) :
    Prop :=
  (∀ req now a, x.label.input = .read req now →
    x.source.shared.store.byKey req.organizationId (svc.key req) = some a →
    isFresh a now = false → ¬InFlight a) ∧
  ∀ id, Launches svc id (x.source.locals x.label.session) x.label.input →
    ∀ j, j ≠ x.label.session → ∀ req a, x.source.locals j = .opened req true a → a.id ≠ id

theorem matches_of_rowKey {svc : HeatService} {req : SubmitRequest} {a b : HeatAnalysis}
    (same : rowKey a = rowKey b) (h : Matches svc req b) : Matches svc req a := by
  have key : (a.organizationId, a.idempotencyKey) = (b.organizationId, b.idempotencyKey) :=
    congrArg (·.2) same
  obtain ⟨organization, text⟩ := Prod.mk.inj key
  exact ⟨organization.trans h.1, text.trans h.2⟩

theorem byKey_matches {svc : HeatService} {req : SubmitRequest} {t : HeatTables}
    {a : HeatAnalysis} (h : t.byKey req.organizationId (svc.key req) = some a) :
    a ∈ t.analyses ∧ Matches svc req a := by
  obtain ⟨member, organization, key⟩ := byKey_some h
  exact ⟨member, organization, key⟩

theorem matches_unique {svc : HeatService} {req : SubmitRequest} (s : HeatStore)
    {a b : HeatAnalysis} (inA : a ∈ s.analyses) (inB : b ∈ s.analyses)
    (matchA : Matches svc req a) (matchB : Matches svc req b) : a = b :=
  List.inj_on_of_nodup_map s.wf.idempotency inA inB
    (by rw [matchA.1, matchA.2, matchB.1, matchB.2])

/-- What a step of one session leaves of what another relies on. -/
theorem relies_stable {svc : HeatService} {i j : Nat} {s s' : HeatShared} {l l' m : HeatSession}
    {e : HeatInput} (acts : Acts svc i s l e s' l') (other : j ≠ i) (exclusive : KeysExclusive s)
    (own : Relies svc i s l) (relies : Relies svc j s m)
    (quiet : ∀ id, Launches svc id l e → ∀ req a, m = .opened req true a → a.id ≠ id) :
    Relies svc j s' m := by
  obtain ⟨rows, extra, kept⟩ := acts.rows
  cases m with
  | opened req existing a =>
    cases existing with
    | true =>
      obtain ⟨⟨stored, member, found⟩, calm⟩ := relies
      refine ⟨?_, fun b inAfter matched => ?_⟩
      · have key : rowKey stored ∈ s'.store.analyses.map rowKey := by
          rw [kept]
          exact List.mem_append_left _ (List.mem_map_of_mem member)
        obtain ⟨b, inAfter, same⟩ := List.mem_map.mp key
        exact ⟨b, inAfter, matches_of_rowKey same found⟩
      · rcases rows b inAfter with ⟨old, before, same, flight⟩ | inserts
        · obtain ⟨sameId, idle⟩ := calm old before (matches_of_rowKey same matched)
          have owner : b.id = a.id := (congrArg Prod.fst same).symm.trans sameId
          refine ⟨owner, fun launched => ?_⟩
          rcases flight launched with was | launches
          · exact idle was
          · exact quiet b.id launches req a rfl owner.symm
        · unfold Inserts at inserts
          split at inserts
          · exact absurd ⟨found.1.trans matched.1.symm, found.2.trans matched.2.symm⟩
              (inserts.2.2 stored member)
          · exact inserts.elim
    | false =>
      obtain ⟨⟨held, own'⟩, absent⟩ := relies
      refine ⟨⟨acts.pending other held, own'⟩, fun b inAfter matched => ?_⟩
      rcases rows b inAfter with ⟨old, before, same, _⟩ | inserts
      · exact absent old before (matches_of_rowKey same matched)
      · unfold Inserts at inserts
        split at inserts
        · obtain ⟨holding, matches_⟩ := own
          obtain ⟨organization, key, _⟩ := inserts
          rw [← matches_.1, ← matches_.2, ← organization, ← key, matched.1, matched.2] at holding
          exact other (holder_unique exclusive held holding)
        · exact inserts.elim
  | called req existing a =>
    cases existing with
    | true => trivial
    | false => exact ⟨acts.pending other relies.1, relies.2⟩
  | answered req existing a answer dueAt activity =>
    cases existing with
    | true => trivial
    | false => exact ⟨acts.pending other relies.1, relies.2⟩
  | _ => trivial

/-- What a step gives the acting session itself. -/
theorem relies_acting {svc : HeatService} {i : Nat} {s s' : HeatShared} {l l' : HeatSession}
    {e : HeatInput} (acts : Acts svc i s l e s' l') (exclusive : KeysExclusive s)
    (own : Relies svc i s l)
    (quiet : ∀ req now a, e = .read req now →
      s.store.byKey req.organizationId (svc.key req) = some a → isFresh a now = false →
      ¬InFlight a) :
    KeysExclusive s' ∧ Relies svc i s' l' := by
  cases acts with
  | @expired req now a found stale =>
    obtain ⟨member, matched⟩ := byKey_matches found
    refine ⟨exclusive, ⟨a, member, matched⟩, fun b inTable also => ?_⟩
    rw [matches_unique s.store inTable member also matched]
    exact ⟨rfl, quiet req now a rfl found stale⟩
  | @inserted req newId createdAt free valid =>
    refine ⟨?_, ⟨List.mem_cons_self, rfl, rfl⟩, fun b member matched => ?_⟩
    · refine List.nodup_cons.mpr ⟨fun taken => ?_, exclusive⟩
      obtain ⟨entry, held, same⟩ := List.mem_map.mp taken
      have busy : holdsKey s req.organizationId (svc.key req) = true :=
        List.any_eq_true.mpr ⟨entry, held, by simpa using same⟩
      rw [busy] at free
      cases free
    · have keys := valid.idempotency
      simp only [HeatTables.insertAnalysis, List.map_append, List.map_cons, List.map_nil,
        List.nodup_append, List.mem_singleton] at keys
      exact keys.2.2 _ (List.mem_map_of_mem member) _ rfl
        (Prod.ext matched.1 matched.2)
  | @call req existing a =>
    cases existing with
    | true => exact ⟨exclusive, trivial⟩
    | false => exact ⟨exclusive, own.1⟩
  | @answer req existing a =>
    cases existing with
    | true => exact ⟨exclusive, trivial⟩
    | false => exact ⟨exclusive, own⟩
  | @submitted req existing a answer =>
    refine ⟨keysExclusive_release exclusive i, ?_⟩
    cases answer <;> trivial
  | submitRefused | abandon => exact ⟨keysExclusive_release exclusive i, trivial⟩
  | _ => exact ⟨exclusive, trivial⟩

theorem relies_step {svc : HeatService} {c d : System HeatShared HeatSession}
    {e : Event HeatInput} (inv : Holds KeysExclusive (Relies svc) c)
    (step : Step (act svc) c e d) (quiet : Quiet svc ⟨c, e, d⟩) :
    Holds KeysExclusive (Relies svc) d := by
  refine step.holds inv (fun s l done => ?_) (fun s l done j other relies => ?_)
  · exact relies_acting (act_acts done) inv.1 (inv.2 _) quiet.1
  · exact relies_stable (act_acts done) other inv.1 (inv.2 _) relies
      fun id launches req a here => quiet.2 id launches j other req a here

/-- `create_analysis` is called only while the stored analysis of the key has no activity
outstanding. -/
def CallsWhenIdle (svc : HeatService)
    (x : Transition (System HeatShared HeatSession) (Event HeatInput)) : Prop :=
  x.label.input = .call → ∀ req existing a,
    x.source.locals x.label.session = .opened req existing a →
    ∀ b, x.source.shared.store.byKey req.organizationId (svc.key req) = some b → ¬InFlight b

/-- In a quiet run no submission calls the provider while an activity of its key is
outstanding. Two first submissions of a key need no such condition: the unique key
lets only one of them get that far. -/
theorem one_activity_at_a_time (svc : HeatService)
    {transitions : List (Transition (System HeatShared HeatSession) (Event HeatInput))}
    {final : System HeatShared HeatSession} (run : HeatRun svc transitions final)
    (quiet : ∀ x ∈ transitions, Quiet svc x) : ∀ x ∈ transitions, CallsWhenIdle svc x := by
  have start : Holds KeysExclusive (Relies svc) initial := ⟨List.nodup_nil, fun _ => trivial⟩
  have holds := (run.invariant (Quiet svc) (Holds KeysExclusive (Relies svc))
    (fun c e d inv step calm => relies_step inv step calm) start quiet).1
  intro x member _ req existing a opened b stored
  have relies := (holds x member).1.2 x.label.session
  rw [opened] at relies
  obtain ⟨inTable, matched⟩ := byKey_matches stored
  cases existing with
  | true => exact (relies.2 b inTable matched).2
  | false => exact absurd matched (relies.2 b inTable)

/-- The session has read an analysis as expired and has yet to call the provider. -/
def HeatSession.refreshing : HeatSession → Bool
  | .opened _ true _ => true
  | _ => false

/-- What is read as expired is not in flight, and no other of these sessions is refreshing. -/
def unhurried (svc : HeatService) (sessions : List Nat)
    (x : Transition (System HeatShared HeatSession) (Event HeatInput)) : Bool :=
  (match x.label.input with
    | .read req now => (x.source.shared.store.byKey req.organizationId (svc.key req)).all
        fun a => isFresh a now || !decide (InFlight a)
    | _ => true) &&
  sessions.all fun j => j == x.label.session || !(x.source.locals j).refreshing

theorem quiet_of_unhurried {svc : HeatService} {sessions : List Nat}
    {x : Transition (System HeatShared HeatSession) (Event HeatInput)}
    (calm : unhurried svc sessions x = true)
    (others : ∀ j, j ∉ sessions → x.source.locals j = .idle) : Quiet svc x := by
  obtain ⟨reads, waits⟩ := Bool.and_eq_true_iff.mp calm
  refine ⟨fun req now a read found stale => ?_, fun id _ j other req a opened => ?_⟩
  · rw [read] at reads
    dsimp only at reads
    rw [found] at reads
    simpa [stale] using reads
  · by_cases listed : j ∈ sessions
    · have waiting := List.all_eq_true.mp waits j listed
      rw [opened] at waiting
      simp [other, HeatSession.refreshing] at waiting
    · rw [others j listed] at opened
      cases opened

/-- Sessions 0 and 2 race for the first submission, worker 1 finds the result, and after the
expiry session 0 refreshes. -/
def refreshOnce : List (Event HeatInput) :=
  [⟨0, .read sampleRequest 0⟩, ⟨2, .read sampleRequest 0⟩, ⟨0, .insert 7 0⟩, ⟨0, .call⟩,
   ⟨0, .answer (.ok "first") 0⟩, ⟨0, .commit⟩, ⟨2, .insert 8 0⟩, ⟨0, .push⟩, ⟨0, .push⟩,
   ⟨1, .dequeue⟩, ⟨1, .load⟩, ⟨1, .circuit (tickClock 1)⟩, ⟨1, .reply (.ok completedActivity)⟩,
   ⟨1, .commitPoll⟩,
   ⟨2, .read sampleRequest (seconds 30)⟩, ⟨0, .read sampleRequest (seconds 3600)⟩, ⟨0, .call⟩]

/-- Both calls are made while nothing is outstanding; the second meets the expired analysis. -/
theorem one_activity_at_a_time_refresh :
    (∀ x ∈ script (act sampleService) initial refreshOnce, CallsWhenIdle sampleService x) ∧
    (script (act sampleService) initial refreshOnce).length = 17 ∧
    ((script (act sampleService) initial refreshOnce).filterMap fun x =>
      if x.label.input matches .call then
        some (x.source.shared.store.analyses.map HeatAnalysis.status) else none) =
      [[], [.succeeded]] := by
  obtain ⟨final, run⟩ := run_script (act sampleService) initial refreshOnce
  have calm : (script (act sampleService) initial refreshOnce).all
      (unhurried sampleService [0, 1, 2]) = true := by decide +kernel
  refine ⟨one_activity_at_a_time sampleService run fun x member => ?_, by decide +kernel,
    by decide +kernel⟩
  refine quiet_of_unhurried (List.all_eq_true.mp calm x member) fun j other => ?_
  refine script_locals member fun e listed same => other ?_
  have acting : ∀ e ∈ refreshOnce, e.session ∈ [0, 1, 2] := by decide
  exact same ▸ acting e listed

/-- Session 0 submits, worker 1 finds the result, and after the expiry session 0 refreshes;
session 2 asks for the same data while that refresh is queued. -/
def refreshTwice : List (Event HeatInput) :=
  [⟨0, .read sampleRequest 0⟩, ⟨0, .insert 7 0⟩, ⟨0, .call⟩, ⟨0, .answer (.ok "first") 0⟩,
   ⟨0, .commit⟩, ⟨0, .push⟩, ⟨0, .push⟩,
   ⟨1, .dequeue⟩, ⟨1, .load⟩, ⟨1, .circuit (tickClock 1)⟩, ⟨1, .reply (.ok completedActivity)⟩,
   ⟨1, .commitPoll⟩,
   ⟨0, .read sampleRequest (seconds 3600)⟩, ⟨0, .call⟩,
   ⟨0, .answer (.ok "second") (seconds 3600)⟩, ⟨0, .commit⟩,
   ⟨2, .read sampleRequest (seconds 3601)⟩, ⟨2, .call⟩]

/-- The second refresh pays for another activity while the first is outstanding. -/
theorem refresh_pays_twice : ¬∀ (svc : HeatService)
    (transitions : List (Transition (System HeatShared HeatSession) (Event HeatInput)))
    (final : System HeatShared HeatSession), HeatRun svc transitions final →
      ∀ x ∈ transitions, CallsWhenIdle svc x := by
  intro idle
  obtain ⟨final, run⟩ := run_script (act sampleService) initial refreshTwice
  have last := idle sampleService _ final run _
    (List.get_mem (script (act sampleService) initial refreshTwice) ⟨17, by decide⟩)
  exact last rfl _ _ _ rfl _ rfl ⟨rfl, rfl⟩

end CoolProof.Heat
