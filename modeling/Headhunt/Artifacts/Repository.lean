import Headhunt.Lib.Session
import Headhunt.Memory.VectorStore
import Headhunt.Storage.Repositories
import Headhunt.Storage.WorkerDatabase

/-! `PostgresArtifactStore`: the records of the artifacts, the blobs with their contents,
and the audit of the reads. -/
namespace Headhunt.Artifacts
open Headhunt.Storage Py
open Headhunt.Memory (PiiLevel piiOrder)

inductive PolicyItem
  | json (v : Json)
  | uuid (id : UUID)
deriving DecidableEq

/-- A value of a policy dict. A container other than a list is known by its truth, by what
`set` makes of it and by its `str`. -/
inductive PolicyValue
  | none
  | bool (b : Bool)
  | int (n : Int)
  | float (x : Double)
  | str (s : String)
  | uuid (id : UUID)
  | list (items : List PolicyItem) (text : String)
  | other (truthy : Bool) (members : Option (List PolicyItem)) (text : String)
deriving DecidableEq

namespace PolicyItem

/-- `str(item) if isinstance(item, UUID) else item`. -/
def jsonSafe : PolicyItem → Json
  | .json v => v
  | .uuid id => .str id.str

/-- A list or a dict cannot be in a set. -/
def hashable : PolicyItem → Bool
  | .json (.arr _) | .json (.obj _) => false
  | _ => true

end PolicyItem

namespace PolicyValue

def truthy : PolicyValue → Bool
  | .none => false
  | .bool b => b
  | .int n => n != 0
  | .float x => x.truthy
  | .str s => s != ""
  | .uuid _ => true
  | .list items _ => !items.isEmpty
  | .other truthy _ _ => truthy

def text : PolicyValue → String
  | .none => "None"
  | .bool b => if b then "True" else "False"
  | .int n => toString n
  | .float x => x.repr
  | .str s => s
  | .uuid id => id.str
  | .list _ text => text
  | .other _ _ text => text

/-- `set(value)`; `none` is a `TypeError`. -/
def members : PolicyValue → Option (List PolicyItem)
  | .str s => some (s.toList.map fun c => .json (.str (String.singleton c)))
  | .list items _ => if items.all PolicyItem.hashable then some items else Option.none
  | .other _ members _ => members
  | _ => Option.none

def optionalStr : PolicyValue → Option String
  | .none => Option.none
  | value => some value.text

def jsonSafe : PolicyValue → Json
  | .none => .null
  | .bool b => .bool b
  | .int n => .int n
  | .float x => .float x
  | .str s => .str s
  | .uuid id => .str id.str
  | .list items _ => .arr (items.map PolicyItem.jsonSafe)
  | .other _ _ text => .str text

end PolicyValue

abbrev Policy := List (String × PolicyValue)

def Policy.get (policy : Policy) (key : String) : PolicyValue :=
  ((policy.find? fun item => item.1 = key).map (·.2)).getD .none

def Policy.getOr (policy : Policy) (key : String) (default : PolicyValue) : PolicyValue :=
  ((policy.find? fun item => item.1 = key).map (·.2)).getD default

def secretKey (key : String) : Bool :=
  ["secret", "token", "key"].any fun ending => ending.toList.isSuffixOf (lower key).toList

def jsonSafePolicy (policy : Policy) : Dict :=
  policy.foldl (fun safe item =>
    safe.set item.1 (if secretKey item.1 then .str "<redacted>" else item.2.jsonSafe)) []

structure AgentArtifactRecord where
  id : UUID
  threadId : UUID
  runId : Option UUID
  kind : String
  summary : String
  contentRef : String
  evidenceRefs : List String
  sourceRefs : List String
  piiLevel : String
  version : Int
  sizeTokensEstimate : Int
deriving DecidableEq

structure ContentAccessAudit where
  contentRef : String
  contentKind : String
  actorType : String
  actorId : Option String
  agentName : Option String
  threadId : Option UUID
  runId : Option UUID
  piiLevel : String
  purpose : String
  policyDecision : Dict
deriving DecidableEq

structure ArtifactDatabase extends WorkerDatabase where
  agentArtifacts : List AgentArtifactRecord := []
  contentAccessAudits : List ContentAccessAudit := []
deriving DecidableEq

namespace ArtifactDatabase

variable (db : ArtifactDatabase)

def record? (contentRef : String) : Option AgentArtifactRecord :=
  Table.find AgentArtifactRecord.contentRef contentRef db.agentArtifacts

/-- The rows the foreign keys of a new row name are there. -/
def references (threadId runId : Option UUID) : Bool :=
  threadId.all db.hasThread && runId.all fun id => (db.agentRun? id).isSome

def upsertBlob (row : ArtifactBlob) (values : ArtifactBlob → ArtifactBlob) : ArtifactDatabase :=
  { db with artifactBlobs := Table.upsert ArtifactBlob.contentRef row values db.artifactBlobs }

/-- `ON CONFLICT (content_ref) DO UPDATE`: only a new row can violate the other constraints. -/
def upsertArtifact (row : AgentArtifactRecord)
    (values : AgentArtifactRecord → AgentArtifactRecord) :
    Except StorageError ArtifactDatabase :=
  if (db.record? row.contentRef).isNone ∧
      (Table.find AgentArtifactRecord.id row.id db.agentArtifacts).isSome then
    .error (.integrity true)
  else if (db.record? row.contentRef).isNone ∧
      db.references (some row.threadId) row.runId = false then .error (.integrity false)
  else .ok { db with
    agentArtifacts :=
      Table.upsert AgentArtifactRecord.contentRef row values db.agentArtifacts }

def insertAudit (row : ContentAccessAudit) : Except StorageError ArtifactDatabase :=
  if db.references row.threadId row.runId = false then .error (.integrity false)
  else .ok { db with contentAccessAudits := db.contentAccessAudits ++ [row] }

end ArtifactDatabase

/-- An artifact as an agent hands it over; the store keeps nothing of its producer. -/
structure AgentArtifact where
  artifactId : UUID
  runId : Option UUID
  threadId : UUID
  artifactType : String
  summary : String
  contentRef : String
  evidenceRefs : List String
  sourceRefs : List String
  piiLevel : PiiLevel
  version : Int
  sizeTokensEstimate : Int

inductive Payload
  | object (content : Dict)
  | text (content : String)

inductive ArtifactError
  | accessDenied (reason : String)
  | keyError (contentRef : String)
  | typeError
  | dataError
  | storage (exc : StorageError)
deriving DecidableEq

abbrev ArtifactWork := EStateM ArtifactError ArtifactDatabase

def statement (write : ArtifactDatabase → Except StorageError ArtifactDatabase) :
    ArtifactWork Unit :=
  Session.statement .storage write

/-- `allowed is None or kind in set(allowed)`. -/
def typeAllowed (kind : String) (allowed : PolicyValue) : Except ArtifactError Bool :=
  if allowed = .none then .ok true
  else match allowed.members with
    | none => .error .typeError
    | some items => .ok (decide (PolicyItem.json (.str kind) ∈ items))

def ensureArtifactWriteAllowed (artifact : AgentArtifact) (policy : Policy) :
    Except ArtifactError Unit := do
  if ← typeAllowed artifact.artifactType (policy.get "allowed_artifact_types_write") then
    return ()
  else throw (.accessDenied s!"policy cannot write artifact type {artifact.artifactType}")

def Payload.contentJson : Payload → Json
  | .object content => .obj content
  | .text _ => .null

def Payload.contentText : Payload → String
  | .object content => dumps .compact (.obj content)
  | .text content => content

def writeBlob (crypto : Crypto) (contentRef : String) (payload : Payload) : ArtifactWork Unit :=
  let sha256 := sha256Hex crypto payload.contentText
  modify fun db => db.upsertBlob ⟨contentRef, payload.contentJson, payload.contentText, sha256⟩
    fun old => { old with
      contentJson := payload.contentJson
      contentText := payload.contentText
      sha256 := sha256 }

def AgentArtifact.row (artifact : AgentArtifact) : AgentArtifactRecord where
  id := artifact.artifactId
  threadId := artifact.threadId
  runId := artifact.runId
  kind := artifact.artifactType
  summary := artifact.summary
  contentRef := artifact.contentRef
  evidenceRefs := artifact.evidenceRefs
  sourceRefs := artifact.sourceRefs
  piiLevel := artifact.piiLevel.value
  version := artifact.version
  sizeTokensEstimate := artifact.sizeTokensEstimate

/-- The columns an upsert sets; id, thread, run and kind keep their values. -/
def AgentArtifact.updated (artifact : AgentArtifact) (old : AgentArtifactRecord) :
    AgentArtifactRecord :=
  { old with
    summary := artifact.summary
    evidenceRefs := artifact.evidenceRefs
    sourceRefs := artifact.sourceRefs
    piiLevel := artifact.piiLevel.value
    version := artifact.version
    sizeTokensEstimate := artifact.sizeTokensEstimate }

def write (crypto : Crypto) (artifact : AgentArtifact) (policy : Policy)
    (payload : Option Payload) : ArtifactWork String := do
  match ensureArtifactWriteAllowed artifact policy with
  | .error exc => throw exc
  | .ok () => pure ()
  match payload with
  | none => pure ()
  | some payload => writeBlob crypto artifact.contentRef payload
  statement fun db => db.upsertArtifact artifact.row artifact.updated
  return artifact.contentRef

def piiAllowed (actual maxPiiLevel : String) : Bool :=
  if actual ∉ piiOrder ∨ maxPiiLevel ∉ piiOrder then actual = "none"
  else piiOrder.idxOf actual ≤ piiOrder.idxOf maxPiiLevel

def artifactAccessDenialReason (artifact : AgentArtifactRecord) (policy : Policy) :
    Except ArtifactError (Option String) := do
  if !(policy.getOr "can_read_artifact_content" (.bool false)).truthy then
    return some "policy does not allow artifact content reads"
  if !(← typeAllowed artifact.kind (policy.get "allowed_artifact_types_read")) then
    return some s!"policy cannot read artifact type {artifact.kind}"
  let maxPiiLevel := (policy.getOr "pii_access_level" (.str "none")).text
  if !piiAllowed artifact.piiLevel maxPiiLevel then
    return some s!"policy cannot read artifact pii_level {artifact.piiLevel}"
  return none

/-- `artifact.run_id or policy.get("run_id")` as a column. -/
def auditRunId (artifact : AgentArtifactRecord) (policy : Policy) :
    Except ArtifactError (Option UUID) :=
  match artifact.runId with
  | some id => .ok (some id)
  | none =>
    match policy.get "run_id" with
    | .none => .ok none
    | .uuid id => .ok (some id)
    | .str s =>
      match UUID.parse s with
      | some id => .ok (some id)
      | none => .error .dataError
    | _ => .error .dataError

def auditDecision (policy : Policy) (allowed : Bool) (deniedReason : Option String) : Dict :=
  let decision := (jsonSafePolicy policy).set "allowed" (.bool allowed)
  match deniedReason with
  | none => decision
  | some reason => decision.set "denied_reason" (.str reason)

def recordContentAccessAudit (artifact : AgentArtifactRecord) (contentRef : String)
    (policy : Policy) (purpose : String) (allowed : Bool) (deniedReason : Option String) :
    ArtifactWork Unit := do
  match auditRunId artifact policy with
  | .error exc => throw exc
  | .ok runId =>
    statement fun db => db.insertAudit
      { contentRef := contentRef
        contentKind := "artifact"
        actorType := (policy.getOr "actor_type" (.str "agent")).text
        actorId := (policy.get "actor_id").optionalStr
        agentName := (policy.get "agent_name").optionalStr
        threadId := some artifact.threadId
        runId := runId
        piiLevel := artifact.piiLevel
        purpose := purpose
        policyDecision := auditDecision policy allowed deniedReason }

def readContent (contentRef : String) (policy : Policy) (purpose : String) :
    ArtifactWork Json := do
  match (← get).record? contentRef with
  | none => throw (.keyError contentRef)
  | some artifact =>
    match artifactAccessDenialReason artifact policy with
    | .error exc => throw exc
    | .ok (some reason) =>
      recordContentAccessAudit artifact contentRef policy purpose false (some reason)
      throw (.accessDenied reason)
    | .ok none =>
      match (← get).blob? contentRef with
      | none => throw (.keyError contentRef)
      | some blob =>
        recordContentAccessAudit artifact contentRef policy purpose true none
        return if blob.contentJson ≠ .null then blob.contentJson else .str blob.contentText

end Headhunt.Artifacts
