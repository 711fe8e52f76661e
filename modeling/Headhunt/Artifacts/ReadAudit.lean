import Headhunt.Artifacts.Repository

/-! Reads of contents: whom the store gives the content of an artifact to, and the row it
leaves in the audit. -/
namespace Headhunt.Artifacts
open Headhunt.Storage Py
open Headhunt.Memory (PiiLevel piiOrder)

/-- An unknown level on either side leaves only `none` to be read. -/
def WithinPii (actual maxPiiLevel : String) : Prop :=
  (actual ∈ piiOrder ∧ maxPiiLevel ∈ piiOrder ∧
    piiOrder.idxOf actual ≤ piiOrder.idxOf maxPiiLevel) ∨
  ((actual ∉ piiOrder ∨ maxPiiLevel ∉ piiOrder) ∧ actual = "none")

/-- The policy gives the content of the artifact free. -/
structure Readable (artifact : AgentArtifactRecord) (policy : Policy) : Prop where
  permitted : (policy.getOr "can_read_artifact_content" (.bool false)).truthy = true
  kind : policy.get "allowed_artifact_types_read" ≠ .none →
    ∃ types, (policy.get "allowed_artifact_types_read").members = some types ∧
      PolicyItem.json (.str artifact.kind) ∈ types
  pii : WithinPii artifact.piiLevel (policy.getOr "pii_access_level" (.str "none")).text

/-- The audit row of one read: who read what for which purpose, and the decision with the
policy it was made under, the secrets of the policy masked. -/
structure AuditsRead (contentRef : String) (artifact : AgentArtifactRecord) (policy : Policy)
    (purpose : String) (allowed : Bool) (audit : ContentAccessAudit) : Prop where
  content : audit.contentRef = contentRef ∧ audit.contentKind = "artifact"
  actor : audit.actorType = (policy.getOr "actor_type" (.str "agent")).text ∧
    audit.actorId = (policy.get "actor_id").optionalStr ∧
    audit.agentName = (policy.get "agent_name").optionalStr
  artifact : audit.threadId = some artifact.threadId ∧ audit.piiLevel = artifact.piiLevel
  purpose : audit.purpose = purpose
  allowed : audit.policyDecision.get "allowed" = .bool allowed
  masked : ∀ item ∈ policy, secretKey item.1 = true →
    audit.policyDecision.get item.1 = .str "<redacted>"

/-- What a read of the blob gives: its JSON, else its text. -/
def readableContent (blob : ArtifactBlob) : Json :=
  if blob.contentJson ≠ .null then blob.contentJson else .str blob.contentText

/-- What a read may do to the store. -/
structure ReadAudited (db : ArtifactDatabase) (contentRef : String) (policy : Policy)
    (purpose : String) : Prop where
  returned : ∀ content view,
    Session.ReturnsAt (readContent contentRef policy purpose) db content view →
    ∃ artifact blob audit, db.record? contentRef = some artifact ∧ Readable artifact policy ∧
      db.blob? contentRef = some blob ∧ content = readableContent blob ∧
      AuditsRead contentRef artifact policy purpose true audit ∧
      view = { db with contentAccessAudits := db.contentAccessAudits ++ [audit] }
  denied : ∀ reason view,
    Session.RaisesAt (readContent contentRef policy purpose) db (.accessDenied reason) view →
    ∃ artifact audit, db.record? contentRef = some artifact ∧ ¬Readable artifact policy ∧
      AuditsRead contentRef artifact policy purpose false audit ∧
      audit.policyDecision.get "denied_reason" = .str reason ∧
      view = { db with contentAccessAudits := db.contentAccessAudits ++ [audit] }
  unchanged : ∀ exc view,
    Session.RaisesAt (readContent contentRef policy purpose) db exc view →
    view.agentArtifacts = db.agentArtifacts ∧ view.artifactBlobs = db.artifactBlobs

theorem piiAllowed_iff {actual maxPiiLevel : String} :
    piiAllowed actual maxPiiLevel = true ↔ WithinPii actual maxPiiLevel := by
  unfold piiAllowed WithinPii
  by_cases h : actual ∉ piiOrder ∨ maxPiiLevel ∉ piiOrder
  · have hknown : ¬(actual ∈ piiOrder ∧ maxPiiLevel ∈ piiOrder ∧
        piiOrder.idxOf actual ≤ piiOrder.idxOf maxPiiLevel) := by
      rintro ⟨hactual, hmax, _⟩
      rcases h with h | h
      · exact h hactual
      · exact h hmax
    rw [if_pos h]
    simp only [decide_eq_true_eq, hknown, h, true_and, false_or]
  · rw [if_neg h]
    simp only [not_or, not_not] at h
    simp only [decide_eq_true_eq, h.1, h.2, true_and, not_true_eq_false, or_self, false_and,
      or_false]

theorem typeAllowed_eq_true {kind : String} {allowed : PolicyValue}
    (h : typeAllowed kind allowed = .ok true) (hgiven : allowed ≠ .none) :
    ∃ types, allowed.members = some types ∧ PolicyItem.json (.str kind) ∈ types := by
  unfold typeAllowed at h
  rw [if_neg hgiven] at h
  cases hmembers : allowed.members with
  | none => simp [hmembers] at h
  | some types =>
    simp only [hmembers, Except.ok.injEq, decide_eq_true_eq] at h
    exact ⟨types, rfl, h⟩

/-- A kind is left out only by a list that is given. -/
theorem typeAllowed_eq_false {kind : String} {allowed : PolicyValue}
    (h : typeAllowed kind allowed = .ok false) :
    allowed ≠ .none ∧ ∀ types, allowed.members = some types → PolicyItem.json (.str kind) ∉ types := by
  unfold typeAllowed at h
  by_cases hnone : allowed = .none
  · simp [hnone] at h
  · refine ⟨hnone, ?_⟩
    intro types htypes
    rw [if_neg hnone, htypes] at h
    exact of_decide_eq_false (Except.ok.inj h)

/-- There is no reason to deny exactly where the policy gives the content free. -/
theorem denialReason_eq_none {artifact : AgentArtifactRecord} {policy : Policy}
    {reason : Option String} (h : artifactAccessDenialReason artifact policy = .ok reason) :
    reason = none ↔ Readable artifact policy := by
  unfold artifactAccessDenialReason at h
  by_cases hpermitted : (policy.getOr "can_read_artifact_content" (.bool false)).truthy = true
  · cases htype : typeAllowed artifact.kind (policy.get "allowed_artifact_types_read") with
    | error exc => simp [hpermitted, htype, bind, Except.bind] at h
    | ok allowed =>
      cases allowed with
      | false =>
        obtain rfl : some s!"policy cannot read artifact type {artifact.kind}" = reason := by
          simpa [hpermitted, htype, bind, Except.bind, pure, Except.pure] using h
        obtain ⟨hgiven, hleft⟩ := typeAllowed_eq_false htype
        refine iff_of_false (by simp) fun hreadable => ?_
        obtain ⟨types, htypes, hmem⟩ := hreadable.kind hgiven
        exact hleft types htypes hmem
      | true =>
        by_cases hpii : piiAllowed artifact.piiLevel
            (policy.getOr "pii_access_level" (.str "none")).text = true
        · obtain rfl : none = reason := by
            simpa [hpermitted, htype, hpii, bind, Except.bind, pure, Except.pure] using h
          exact iff_of_true rfl ⟨hpermitted, typeAllowed_eq_true htype, piiAllowed_iff.mp hpii⟩
        · obtain rfl : some s!"policy cannot read artifact pii_level {artifact.piiLevel}" =
              reason := by
            simpa [hpermitted, htype, hpii, bind, Except.bind, pure, Except.pure] using h
          exact iff_of_false (by simp) fun hreadable => hpii (piiAllowed_iff.mpr hreadable.pii)
  · obtain rfl : some "policy does not allow artifact content reads" = reason := by
      simpa [hpermitted, bind, Except.bind, pure, Except.pure] using h
    exact iff_of_false (by simp) fun hreadable => hpermitted hreadable.permitted

/-- A decision that raises has not denied. -/
theorem denialReason_ne_accessDenied {artifact : AgentArtifactRecord} {policy : Policy}
    {reason : String} (h : artifactAccessDenialReason artifact policy =
      .error (.accessDenied reason)) : False := by
  have htype : ∀ {kind : String} {allowed : PolicyValue},
      typeAllowed kind allowed ≠ .error (.accessDenied reason) := by
    intro kind allowed hraises
    unfold typeAllowed at hraises
    split_ifs at hraises
    split at hraises <;> cases hraises
  unfold artifactAccessDenialReason at h
  by_cases hpermitted : (policy.getOr "can_read_artifact_content" (.bool false)).truthy = true
  · cases hallowed : typeAllowed artifact.kind (policy.get "allowed_artifact_types_read") with
    | error exc =>
      simp only [hpermitted, hallowed, bind, Except.bind] at h
      exact htype (hallowed.trans (by simpa using h))
    | ok allowed =>
      cases allowed with
      | false => simp [hpermitted, hallowed, bind, Except.bind, pure, Except.pure] at h
      | true =>
        simp only [hpermitted, hallowed, bind, Except.bind, pure, Except.pure, Bool.not_true,
          Bool.false_eq_true, if_false] at h
        split_ifs at h
  · simp [hpermitted, pure, Except.pure] at h

/-- A masked key stays masked whatever follows it in the policy. -/
theorem get_jsonSafe_foldl {key : String} (hsecret : secretKey key = true) (policy : Policy)
    (safe : Dict) (h : safe.get key = .str "<redacted>" ∨ ∃ item ∈ policy, item.1 = key) :
    (policy.foldl (fun safe item =>
      safe.set item.1 (if secretKey item.1 then .str "<redacted>" else item.2.jsonSafe))
      safe).get key = .str "<redacted>" := by
  induction policy generalizing safe with
  | nil =>
    rcases h with hsafe | ⟨item, hitem, _⟩
    · exact hsafe
    · cases hitem
  | cons item policy ih =>
    apply ih
    dsimp only
    by_cases hkey : item.1 = key
    · left
      rw [hkey, if_pos hsecret, Dict.get_set_self]
    · rw [Dict.get_set_ne _ _ (Ne.symm hkey)]
      rcases h with hsafe | ⟨item', hitem', hkey'⟩
      · exact Or.inl hsafe
      · rcases List.mem_cons.mp hitem' with rfl | hmem
        · exact absurd hkey' hkey
        · exact Or.inr ⟨item', hmem, hkey'⟩

theorem get_jsonSafePolicy_of_secret {policy : Policy} {key : String}
    (hsecret : secretKey key = true) (h : ∃ item ∈ policy, item.1 = key) :
    (jsonSafePolicy policy).get key = .str "<redacted>" :=
  get_jsonSafe_foldl hsecret policy [] (Or.inr h)

theorem get_auditDecision_allowed (policy : Policy) (allowed : Bool)
    (deniedReason : Option String) :
    (auditDecision policy allowed deniedReason).get "allowed" = .bool allowed := by
  cases deniedReason with
  | none => exact Dict.get_set_self _ _ _
  | some reason =>
    unfold auditDecision
    rw [Dict.get_set_ne _ _ (by decide), Dict.get_set_self]

theorem get_auditDecision_secret {policy : Policy} {item : String × PolicyValue} (allowed : Bool)
    (deniedReason : Option String) (hitem : item ∈ policy) (hsecret : secretKey item.1 = true) :
    (auditDecision policy allowed deniedReason).get item.1 = .str "<redacted>" := by
  have hallowed : item.1 ≠ "allowed" := by
    intro h
    rw [h] at hsecret
    revert hsecret
    decide
  have hreason : item.1 ≠ "denied_reason" := by
    intro h
    rw [h] at hsecret
    revert hsecret
    decide
  have hsafe := get_jsonSafePolicy_of_secret hsecret ⟨item, hitem, rfl⟩
  cases deniedReason with
  | none =>
    unfold auditDecision
    rw [Dict.get_set_ne _ _ hallowed, hsafe]
  | some reason =>
    unfold auditDecision
    rw [Dict.get_set_ne _ _ hreason, Dict.get_set_ne _ _ hallowed, hsafe]

section Audit

variable {artifact : AgentArtifactRecord} {contentRef : String} {policy : Policy}
  {purpose : String} {allowed : Bool} {deniedReason : Option String} {db view : ArtifactDatabase}

/-- One row is added and nothing else is written. -/
theorem recordContentAccessAudit_returns
    (h : Session.ReturnsAt
      (recordContentAccessAudit artifact contentRef policy purpose allowed deniedReason) db ()
      view) :
    ∃ audit, AuditsRead contentRef artifact policy purpose allowed audit ∧
      audit.policyDecision = auditDecision policy allowed deniedReason ∧
      view = { db with contentAccessAudits := db.contentAccessAudits ++ [audit] } := by
  unfold recordContentAccessAudit at h
  cases hrun : auditRunId artifact policy with
  | error exc => simp [hrun] at h
  | ok runId =>
    simp only [hrun, statement, Session.returnsAt_statement, ArtifactDatabase.insertAudit,
      Except.ite_error_eq_ok, Except.ok.injEq] at h
    refine ⟨_, ⟨⟨rfl, rfl⟩, ⟨rfl, rfl, rfl⟩, ⟨rfl, rfl⟩, rfl, ?_, ?_⟩, rfl, h.2.symm⟩
    · exact get_auditDecision_allowed policy allowed deniedReason
    · intro item hitem hsecret
      exact get_auditDecision_secret allowed deniedReason hitem hsecret

/-- An audit that cannot be written raises, with nothing changed and nothing denied. -/
theorem recordContentAccessAudit_raises {exc : ArtifactError}
    (h : Session.RaisesAt
      (recordContentAccessAudit artifact contentRef policy purpose allowed deniedReason) db exc
      view) : view = db ∧ ∀ reason, exc ≠ .accessDenied reason := by
  unfold recordContentAccessAudit at h
  cases hrun : auditRunId artifact policy with
  | error exc' =>
    simp only [hrun, Session.raisesAt_throw] at h
    obtain ⟨rfl, rfl⟩ := h
    refine ⟨rfl, ?_⟩
    rintro reason rfl
    unfold auditRunId at hrun
    split at hrun
    · cases hrun
    · split at hrun
      · cases hrun
      · cases hrun
      · split at hrun <;> cases hrun
      · cases hrun
  | ok runId =>
    simp only [hrun, Session.RaisesAt, statement, Session.statement, EStateM.run] at h
    split at h
    · cases h
    · obtain ⟨rfl, rfl⟩ := EStateM.Result.error.inj h
      exact ⟨rfl, fun reason hreason => by cases hreason⟩

end Audit

section Read

variable {contentRef : String} {policy : Policy} {purpose : String}
  {db view : ArtifactDatabase}

theorem readContent_returns {content : Json}
    (h : Session.ReturnsAt (readContent contentRef policy purpose) db content view) :
    ∃ artifact blob audit, db.record? contentRef = some artifact ∧ Readable artifact policy ∧
      db.blob? contentRef = some blob ∧ content = readableContent blob ∧
      AuditsRead contentRef artifact policy purpose true audit ∧
      view = { db with contentAccessAudits := db.contentAccessAudits ++ [audit] } := by
  simp only [readContent, Session.returnsAt_bind, Session.returnsAt_get] at h
  obtain ⟨_, _, ⟨rfl, rfl⟩, h⟩ := h
  cases hrecord : db.record? contentRef with
  | none => simp [hrecord] at h
  | some artifact =>
    cases hreason : artifactAccessDenialReason artifact policy with
    | error exc => simp [hrecord, hreason] at h
    | ok reason =>
      cases reason with
      | some reason => simp [hrecord, hreason, Session.returnsAt_bind] at h
      | none =>
        simp only [hrecord, hreason, Session.returnsAt_bind, Session.returnsAt_get] at h
        obtain ⟨_, _, ⟨rfl, rfl⟩, h⟩ := h
        cases hblob : db.blob? contentRef with
        | none => simp [hblob] at h
        | some blob =>
          simp only [hblob, Session.returnsAt_bind, Session.returnsAt_pure] at h
          obtain ⟨_, _, haudit, hcontent, rfl⟩ := h
          obtain ⟨audit, haudits, _, hview⟩ := recordContentAccessAudit_returns haudit
          exact ⟨artifact, blob, audit, rfl, (denialReason_eq_none hreason).mp rfl, rfl,
            hcontent.symm, haudits, hview⟩

/-- A read that raises has changed nothing, but for the row of a denial. -/
theorem readContent_raises {exc : ArtifactError}
    (h : Session.RaisesAt (readContent contentRef policy purpose) db exc view) :
    (view = db ∧ ∀ reason, exc ≠ .accessDenied reason) ∨
      ∃ artifact reason audit, exc = .accessDenied reason ∧ db.record? contentRef = some artifact ∧
        ¬Readable artifact policy ∧ AuditsRead contentRef artifact policy purpose false audit ∧
        audit.policyDecision.get "denied_reason" = .str reason ∧
        view = { db with contentAccessAudits := db.contentAccessAudits ++ [audit] } := by
  simp only [readContent, Session.raisesAt_bind, Session.returnsAt_get] at h
  rcases h with h | ⟨_, _, ⟨rfl, rfl⟩, h⟩
  · cases h
  cases hrecord : db.record? contentRef with
  | none =>
    simp only [hrecord, Session.raisesAt_throw] at h
    obtain ⟨rfl, rfl⟩ := h
    exact Or.inl ⟨rfl, fun reason hreason => by cases hreason⟩
  | some artifact =>
    cases hreason : artifactAccessDenialReason artifact policy with
    | error exc' =>
      simp only [hrecord, hreason, Session.raisesAt_throw] at h
      obtain ⟨rfl, rfl⟩ := h
      refine Or.inl ⟨rfl, ?_⟩
      rintro reason rfl
      exact denialReason_ne_accessDenied hreason
    | ok reason =>
      cases reason with
      | some reason =>
        simp only [hrecord, hreason, Session.raisesAt_bind, Session.raisesAt_throw] at h
        rcases h with h | ⟨_, _, haudit, rfl, rfl⟩
        · exact Or.inl (recordContentAccessAudit_raises h)
        · obtain ⟨audit, haudits, hdecision, hview⟩ := recordContentAccessAudit_returns haudit
          refine Or.inr ⟨artifact, reason, audit, rfl, rfl, ?_, haudits, ?_, hview⟩
          · intro hreadable
            cases (denialReason_eq_none hreason).mpr hreadable
          · rw [hdecision]
            exact Dict.get_set_self _ _ _
      | none =>
        simp only [hrecord, hreason, Session.raisesAt_bind, Session.returnsAt_get] at h
        rcases h with h | ⟨_, _, ⟨rfl, rfl⟩, h⟩
        · cases h
        cases hblob : db.blob? contentRef with
        | none =>
          simp only [hblob, Session.raisesAt_throw] at h
          obtain ⟨rfl, rfl⟩ := h
          exact Or.inl ⟨rfl, fun reason hreason => by cases hreason⟩
        | some blob =>
          simp only [hblob, Session.raisesAt_bind] at h
          rcases h with h | ⟨_, _, _, h⟩
          · exact Or.inl (recordContentAccessAudit_raises h)
          · cases h

/-- Content is given free only where the policy allows it, every answer leaves one row in the
audit, and nothing else is ever written. -/
theorem readContent_audited (db : ArtifactDatabase) (contentRef : String) (policy : Policy)
    (purpose : String) : ReadAudited db contentRef policy purpose where
  returned _ _ h := readContent_returns h
  denied reason view h := by
    rcases readContent_raises h with ⟨_, hne⟩ | ⟨artifact, reason', audit, hexc, hrow⟩
    · exact absurd rfl (hne reason)
    · cases hexc
      exact ⟨artifact, audit, hrow⟩
  unchanged exc view h := by
    rcases readContent_raises h with ⟨rfl, _⟩ | ⟨_, _, _, _, _, _, _, _, rfl⟩
    · exact ⟨rfl, rfl⟩
    · exact ⟨rfl, rfl⟩

end Read

def opinionStore : ArtifactDatabase where
  graphThreads := [⟨.ofNat 1, "runtime", "", "", none, none, .running, []⟩]
  artifactBlobs :=
    [⟨"artifact://full/1", .obj (Dict.ofList [("result", .str "full")]), "", "digest"⟩]
  agentArtifacts := [⟨.ofNat 2, .ofNat 1, none, "CouncilOpinion", "opinion", "artifact://full/1", [],
    [], "low", 1, 10⟩]

def readerPolicy (maxPiiLevel : String) : Policy :=
  [("can_read_artifact_content", .bool true), ("pii_access_level", .str maxPiiLevel),
    ("api_key", .str "secret-value")]

/-- A reader of low personal data is given the opinion, and one of none is not; either leaves its
row in the audit. -/
theorem readContent_audited_opinionStore :
    (∃ view audit, Session.ReturnsAt (readContent "artifact://full/1" (readerPolicy "low") "debug")
        opinionStore (.obj (Dict.ofList [("result", .str "full")])) view ∧
      view.contentAccessAudits = [audit] ∧ audit.policyDecision.get "allowed" = .bool true ∧
      audit.policyDecision.get "api_key" = .str "<redacted>") ∧
    ∃ view audit, Session.RaisesAt (readContent "artifact://full/1" (readerPolicy "none") "debug")
        opinionStore (.accessDenied "policy cannot read artifact pii_level low") view ∧
      view.contentAccessAudits = [audit] ∧ audit.policyDecision.get "allowed" = .bool false := by
  constructor
  · have hreads : ∃ view, Session.ReturnsAt
        (readContent "artifact://full/1" (readerPolicy "low") "debug") opinionStore
        (.obj (Dict.ofList [("result", .str "full")])) view := ⟨_, rfl⟩
    obtain ⟨view, hreads⟩ := hreads
    obtain ⟨_, _, audit, _, _, _, _, haudits, rfl⟩ :=
      (readContent_audited opinionStore _ _ _).returned _ _ hreads
    exact ⟨_, audit, hreads, rfl, haudits.allowed,
      haudits.masked ("api_key", .str "secret-value") (by simp [readerPolicy]) (by decide)⟩
  · have hraises : ∃ view, Session.RaisesAt
        (readContent "artifact://full/1" (readerPolicy "none") "debug") opinionStore
        (.accessDenied "policy cannot read artifact pii_level low") view := ⟨_, rfl⟩
    obtain ⟨view, hraises⟩ := hraises
    obtain ⟨_, audit, _, _, haudits, _, rfl⟩ :=
      (readContent_audited opinionStore _ _ _).denied _ _ hraises
    exact ⟨_, audit, hraises, rfl, haudits.allowed⟩

end Headhunt.Artifacts
