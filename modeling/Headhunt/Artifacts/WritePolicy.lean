import Headhunt.Artifacts.Repository

/-! What the write policy protects. It is checked against the artifact that comes in, while
the content reference decides which record and which blob are replaced. -/
namespace Headhunt.Artifacts
open Headhunt.Storage Py
open Headhunt.Memory (PiiLevel)

def Policy.Writes (policy : Policy) (W : List String) : Prop :=
  ∃ text, policy.get "allowed_artifact_types_write" =
    .list (W.map fun kind => .json (.str kind)) text

structure Free (db : ArtifactDatabase) (contentRef : String) : Prop where
  record : db.record? contentRef = none
  blob : db.blob? contentRef = none

/-- The database takes no new row for the artifact: its id is taken, or a row it names is missing. -/
structure Refused (db : ArtifactDatabase) (artifact : AgentArtifact) : Prop where
  new : db.record? artifact.contentRef = none
  violated : (Table.find AgentArtifactRecord.id artifact.artifactId db.agentArtifacts).isSome ∨
    db.references (some artifact.threadId) artifact.runId = false

/-- Beyond what is stored under the reference nothing has changed. -/
structure SameElsewhere (contentRef : String) (db view : ArtifactDatabase) : Prop where
  records : view.agentArtifacts.filter (fun r => r.contentRef ≠ contentRef) =
    db.agentArtifacts.filter fun r => r.contentRef ≠ contentRef
  blobs : view.artifactBlobs.filter (fun r => r.contentRef ≠ contentRef) =
    db.artifactBlobs.filter fun r => r.contentRef ≠ contentRef
  others : view = { db with
    agentArtifacts := view.agentArtifacts
    artifactBlobs := view.artifactBlobs }

structure KeepsTo (W : List String) (artifact : AgentArtifact) (db view : ArtifactDatabase) :
    Prop where
  elsewhere : SameElsewhere artifact.contentRef db view
  replaced : Free db artifact.contentRef ∨
    ∃ record, db.record? artifact.contentRef = some record ∧ record.kind ∈ W
  kind : ∃ record, view.record? artifact.contentRef = some record ∧
    record.kind = artifact.artifactType

section Write

variable (crypto : Crypto) (artifact : AgentArtifact) (policy : Policy) (payload : Option Payload)
  (db : ArtifactDatabase)

/-- The write is denied with nothing changed, or raises what the database raises, or returns
and keeps to the types `W`. -/
def WriteProtected (W : List String) : Prop :=
  (∃ reason, Session.RaisesAt (write crypto artifact policy payload) db
    (.accessDenied reason) db) ∨
  (∃ exc view, Session.RaisesAt (write crypto artifact policy payload) db (.storage exc) view) ∨
  ∃ view, Session.ReturnsAt (write crypto artifact policy payload) db artifact.contentRef view ∧
    KeepsTo W artifact db view

def withBlob : ArtifactDatabase :=
  match payload with
  | none => db
  | some payload =>
    db.upsertBlob ⟨artifact.contentRef, payload.contentJson, payload.contentText,
      sha256Hex crypto payload.contentText⟩ fun old => { old with
        contentJson := payload.contentJson
        contentText := payload.contentText
        sha256 := sha256Hex crypto payload.contentText }

def written : ArtifactDatabase :=
  { withBlob crypto artifact payload db with
    agentArtifacts := Table.upsert AgentArtifactRecord.contentRef artifact.row artifact.updated
      db.agentArtifacts }

variable {crypto artifact policy payload db} {W : List String}

theorem typeAllowed_list (kind text : String) (W : List String) :
    typeAllowed kind (.list (W.map fun kind => .json (.str kind)) text) =
      .ok (decide (kind ∈ W)) := by
  have hhashable : (W.map fun kind => PolicyItem.json (.str kind)).all PolicyItem.hashable =
      true := by
    simp [PolicyItem.hashable]
  simp [typeAllowed, PolicyValue.members, hhashable]

theorem withBlob_eq : withBlob crypto artifact payload db =
    { db with artifactBlobs := (withBlob crypto artifact payload db).artifactBlobs } := by
  cases payload <;> rfl

@[simp] theorem agentArtifacts_withBlob :
    (withBlob crypto artifact payload db).agentArtifacts = db.agentArtifacts := by
  rw [withBlob_eq]

@[simp] theorem record?_withBlob (contentRef : String) :
    (withBlob crypto artifact payload db).record? contentRef = db.record? contentRef := by
  rw [withBlob_eq]
  rfl

@[simp] theorem references_withBlob (threadId runId : Option UUID) :
    (withBlob crypto artifact payload db).references threadId runId =
      db.references threadId runId := by
  rw [withBlob_eq]
  rfl

theorem ensureArtifactWriteAllowed_eq (hW : policy.Writes W) :
    ensureArtifactWriteAllowed artifact policy =
      if artifact.artifactType ∈ W then .ok ()
      else .error (.accessDenied s!"policy cannot write artifact type {artifact.artifactType}") := by
  obtain ⟨text, hget⟩ := hW
  unfold ensureArtifactWriteAllowed
  rw [hget, typeAllowed_list]
  by_cases h : artifact.artifactType ∈ W
  · simp [h, bind, Except.bind, pure, Except.pure]
  · simp [h, bind, Except.bind, throw, throwThe, MonadExceptOf.throw]

theorem write_denied (hW : policy.Writes W) (h : artifact.artifactType ∉ W) :
    Session.RaisesAt (write crypto artifact policy payload) db
      (.accessDenied s!"policy cannot write artifact type {artifact.artifactType}") db := by
  simp [write, ensureArtifactWriteAllowed_eq hW, h, Session.raisesAt_bind]

theorem upsertArtifact_withBlob :
    (withBlob crypto artifact payload db).upsertArtifact artifact.row artifact.updated =
      if db.record? artifact.contentRef = none ∧
          (Table.find AgentArtifactRecord.id artifact.artifactId db.agentArtifacts).isSome then
        .error (.integrity true)
      else if db.record? artifact.contentRef = none ∧
          db.references (some artifact.threadId) artifact.runId = false then
        .error (.integrity false)
      else .ok (written crypto artifact payload db) := by
  simp [ArtifactDatabase.upsertArtifact, AgentArtifact.row, written]

theorem write_of_upsert_error (hW : policy.Writes W) (h : artifact.artifactType ∈ W)
    {exc : StorageError}
    (hupsert : (withBlob crypto artifact payload db).upsertArtifact artifact.row artifact.updated =
      .error exc) :
    Session.RaisesAt (write crypto artifact policy payload) db (.storage exc)
      (withBlob crypto artifact payload db) := by
  have hstatement : Session.RaisesAt (statement fun db =>
      db.upsertArtifact artifact.row artifact.updated) (withBlob crypto artifact payload db)
      (.storage exc) (withBlob crypto artifact payload db) := by
    simp [Session.RaisesAt, statement, Session.statement, EStateM.run, hupsert]
  cases payload with
  | none =>
    simp only [write, ensureArtifactWriteAllowed_eq hW, if_pos h, Session.raisesAt_bind]
    exact Or.inl hstatement
  | some payload =>
    simp only [write, ensureArtifactWriteAllowed_eq hW, if_pos h, Session.raisesAt_bind]
    refine Or.inr ⟨(), withBlob crypto artifact (some payload) db, ?_, Or.inl hstatement⟩
    exact Session.returnsAt_modify.mpr rfl

theorem write_of_upsert_ok (hW : policy.Writes W) (h : artifact.artifactType ∈ W)
    {view : ArtifactDatabase}
    (hupsert : (withBlob crypto artifact payload db).upsertArtifact artifact.row artifact.updated =
      .ok view) :
    Session.ReturnsAt (write crypto artifact policy payload) db artifact.contentRef view := by
  have hstatement : Session.ReturnsAt (statement fun db =>
      db.upsertArtifact artifact.row artifact.updated) (withBlob crypto artifact payload db)
      () view := Session.returnsAt_statement.mpr hupsert
  cases payload with
  | none =>
    simp only [write, ensureArtifactWriteAllowed_eq hW, if_pos h, Session.returnsAt_bind]
    exact ⟨(), view, hstatement, Session.returnsAt_pure.mpr ⟨rfl, rfl⟩⟩
  | some payload =>
    simp only [write, ensureArtifactWriteAllowed_eq hW, if_pos h, Session.returnsAt_bind]
    refine ⟨(), withBlob crypto artifact (some payload) db, ?_, (), view, hstatement,
      Session.returnsAt_pure.mpr ⟨rfl, rfl⟩⟩
    exact Session.returnsAt_modify.mpr rfl

theorem write_refused (hW : policy.Writes W) (h : artifact.artifactType ∈ W)
    (hrefused : Refused db artifact) :
    ∃ exc view, Session.RaisesAt (write crypto artifact policy payload) db (.storage exc) view := by
  have hupsert : ∃ exc, (withBlob crypto artifact payload db).upsertArtifact artifact.row
      artifact.updated = .error exc := by
    rw [upsertArtifact_withBlob]
    by_cases hid : (Table.find AgentArtifactRecord.id artifact.artifactId
        db.agentArtifacts).isSome
    · exact ⟨_, if_pos ⟨hrefused.new, hid⟩⟩
    · rw [if_neg (fun hc => hid hc.2)]
      exact ⟨_, if_pos ⟨hrefused.new, hrefused.violated.resolve_left hid⟩⟩
  obtain ⟨exc, hupsert⟩ := hupsert
  exact ⟨exc, _, write_of_upsert_error hW h hupsert⟩

theorem write_returns (hW : policy.Writes W) (h : artifact.artifactType ∈ W)
    (hrefused : ¬Refused db artifact) :
    Session.ReturnsAt (write crypto artifact policy payload) db artifact.contentRef
      (written crypto artifact payload db) := by
  apply write_of_upsert_ok hW h
  rw [upsertArtifact_withBlob, if_neg, if_neg]
  · exact fun hc => hrefused ⟨hc.1, Or.inr hc.2⟩
  · exact fun hc => hrefused ⟨hc.1, Or.inl hc.2⟩

/-- The record keeps its kind, a new one has the kind of the artifact. -/
theorem record?_written :
    (written crypto artifact payload db).record? artifact.contentRef =
      some (((db.record? artifact.contentRef).map artifact.updated).getD artifact.row) :=
  @Table.find_upsert_self _ _ _ AgentArtifactRecord.contentRef artifact.row artifact.updated
    (fun _ => rfl) db.agentArtifacts

theorem sameElsewhere_written :
    SameElsewhere artifact.contentRef db (written crypto artifact payload db) where
  records := @Table.filter_ne_upsert _ _ _ AgentArtifactRecord.contentRef artifact.row
    artifact.updated (fun _ => rfl) db.agentArtifacts
  blobs := by
    cases payload with
    | none => rfl
    | some payload =>
      exact @Table.filter_ne_upsert _ _ _ ArtifactBlob.contentRef
        ⟨artifact.contentRef, payload.contentJson, payload.contentText,
          sha256Hex crypto payload.contentText⟩
        (fun old => { old with
          contentJson := payload.contentJson
          contentText := payload.contentText
          sha256 := sha256Hex crypto payload.contentText }) (fun _ => rfl) db.artifactBlobs
  others := by
    unfold written
    rw [withBlob_eq]

/-- What was stored before decides whether the write has kept to the types. -/
theorem keepsTo_written (h : artifact.artifactType ∈ W) :
    KeepsTo W artifact db (written crypto artifact payload db) ↔
      Free db artifact.contentRef ∨
        ∃ record, db.record? artifact.contentRef = some record ∧
          record.kind = artifact.artifactType := by
  constructor
  · rintro ⟨_, hreplaced, kept, hkept, hkind⟩
    rw [record?_written] at hkept
    rcases hreplaced with hfree | ⟨record, hrecord, _⟩
    · exact Or.inl hfree
    · rw [hrecord] at hkept
      obtain rfl := Option.some.inj hkept
      exact Or.inr ⟨record, hrecord, hkind⟩
  · rintro (hfree | ⟨record, hrecord, hkind⟩)
    · refine ⟨sameElsewhere_written, Or.inl hfree, artifact.row, ?_, rfl⟩
      rw [record?_written, hfree.record]
      rfl
    · refine ⟨sameElsewhere_written, Or.inr ⟨record, hrecord, hkind ▸ h⟩,
        artifact.updated record, ?_, hkind⟩
      rw [record?_written, hrecord]
      rfl

/-- For a write that returns, protection is what it has changed. -/
theorem writeProtected_of_returns
    (h : Session.ReturnsAt (write crypto artifact policy payload) db artifact.contentRef
      (written crypto artifact payload db)) :
    WriteProtected crypto artifact policy payload db W ↔
      KeepsTo W artifact db (written crypto artifact payload db) := by
  constructor
  · rintro (⟨reason, hraises⟩ | ⟨exc, view, hraises⟩ | ⟨view, hview, hkeeps⟩)
    · exact absurd (h.symm.trans hraises) (by simp)
    · exact absurd (h.symm.trans hraises) (by simp)
    · obtain ⟨-, rfl⟩ := EStateM.Result.ok.inj (h.symm.trans hview)
      exact hkeeps
  · intro hkeeps
    exact Or.inr (Or.inr ⟨_, h, hkeeps⟩)

/-- A write protects what is stored exactly when the policy or the database refuses it, or the
reference is free, or the record under it has the kind of the artifact. -/
theorem writeProtected_iff (hW : policy.Writes W) :
    WriteProtected crypto artifact policy payload db W ↔
      artifact.artifactType ∉ W ∨ Refused db artifact ∨ Free db artifact.contentRef ∨
        ∃ record, db.record? artifact.contentRef = some record ∧
          record.kind = artifact.artifactType := by
  by_cases htype : artifact.artifactType ∈ W
  · by_cases hrefused : Refused db artifact
    · apply iff_of_true
      · exact Or.inr (Or.inl (write_refused hW htype hrefused))
      · exact Or.inr (Or.inl hrefused)
    · rw [writeProtected_of_returns (write_returns hW htype hrefused), keepsTo_written htype]
      constructor
      · exact fun hkept => Or.inr (Or.inr hkept)
      · rintro (hnot | hrefused' | hkept)
        · exact absurd htype hnot
        · exact absurd hrefused' hrefused
        · exact hkept
  · apply iff_of_true
    · exact Or.inl ⟨_, write_denied hW htype⟩
    · exact Or.inl htype

end Write

def salesPolicy : Policy :=
  [("allowed_artifact_types_write", .list [.json (.str "SalesBrief")] "['SalesBrief']")]

def salesBrief : AgentArtifact where
  artifactId := Py.UUID.ofNat 2
  runId := none
  threadId := Py.UUID.ofNat 1
  artifactType := "SalesBrief"
  summary := "pitch"
  contentRef := "artifact://graph/1/v1"
  evidenceRefs := []
  sourceRefs := []
  piiLevel := .none
  version := 1
  sizeTokensEstimate := 0

def councilRecord : AgentArtifactRecord :=
  { salesBrief.row with
    id := Py.UUID.ofNat 3
    kind := "CouncilDecision"
    summary := "decision" }

def councilStore : ArtifactDatabase := { agentArtifacts := [councilRecord] }

theorem salesPolicy_writes : salesPolicy.Writes ["SalesBrief"] := ⟨_, rfl⟩

theorem record?_councilStore :
    councilStore.record? salesBrief.contentRef = some councilRecord := by
  decide

theorem writeProtected_iff_councilStore :
    WriteProtected Crypto.plain salesBrief salesPolicy none councilStore ["SalesBrief"] ↔
      salesBrief.artifactType ∉ ["SalesBrief"] ∨ Refused councilStore salesBrief ∨
        Free councilStore salesBrief.contentRef ∨
        ∃ record, councilStore.record? salesBrief.contentRef = some record ∧
          record.kind = salesBrief.artifactType :=
  writeProtected_iff salesPolicy_writes

/-- The decision keeps its kind and gets the summary of the brief. -/
theorem not_writeProtected :
    salesPolicy.Writes ["SalesBrief"] ∧
      ¬WriteProtected Crypto.plain salesBrief salesPolicy none councilStore ["SalesBrief"] := by
  refine ⟨salesPolicy_writes, ?_⟩
  have htype : salesBrief.artifactType ∈ ["SalesBrief"] := by decide
  have hnew : ¬Refused councilStore salesBrief := by
    intro hrefused
    have hnone := hrefused.new
    rw [record?_councilStore] at hnone
    cases hnone
  rw [writeProtected_of_returns (write_returns salesPolicy_writes htype hnew),
    keepsTo_written htype]
  rintro (hfree | ⟨record, hrecord, hkind⟩)
  · have hnone := hfree.record
    rw [record?_councilStore] at hnone
    cases hnone
  · rw [record?_councilStore] at hrecord
    obtain rfl := Option.some.inj hrecord
    revert hkind
    decide

end Headhunt.Artifacts
