import Headhunt.Lib.PyBytes
import Headhunt.Lib.PyJson
import Headhunt.Policy.Engine
import Headhunt.Storage.Transactions

/-! `TaskAuthorizationService`: a task that is started through the API, without a card. -/
namespace Headhunt.Runtime
open Headhunt.Policy Headhunt.Storage Py

structure TaskAuthorizeRequest where
  requestText : String
  source : String := "api"
  sourceRef : Option String := none
  threadId : Option UUID := none
  modelProfileId : Option UUID := none
  modelOwnerUserId : Option String := none
  modelGuildId : Option String := none
  modelTenantId : Option String := none
  embeddingProfileId : Option UUID := none
  approved : Bool := false
  approver : Dict := []
  requestText_ne : requestText ≠ ""
  source_ne : source ≠ ""

inductive AuthorizeStatus
  | queued
  | rejected
deriving DecidableEq, Repr

structure TaskAuthorizeResponse where
  status : AuthorizeStatus
  plan : TaskPlan
  sourceRef : String
  idempotencyKey : Option String
  outboxPayloadRef : Option String

inductive TaskAuthorizationError
  | conflict (message : String)
  | storage (exc : StorageError)
deriving DecidableEq

/-- `" ".join(text.split())`. -/
def joinWords (text : String) : String :=
  " ".intercalate (((text.toList.splitOnP isSpace).filter (· ≠ [])).map String.ofList)

section Authorize

variable (crypto : Crypto) (fresh : FreshPlan) (row : RowDefaults) (authorizedAt : String)
  (request : TaskAuthorizeRequest)

def resolveSourceRef : String :=
  match request.sourceRef.filter (· ≠ "") with
  | some sourceRef => sourceRef
  | none =>
    let seed := Dict.ofList
      [("request_text", .str (joinWords request.requestText)), ("source", .str request.source),
        ("thread_id", optionalText (request.threadId.map UUID.str))]
    let digest := String.ofList ((stableHash crypto seed).toList.take 24)
    s!"request:{digest}"

def authorizationThreadId (sourceRef : String) : UUID :=
  request.threadId.getD
    (uuid5 crypto s!"lietou:task-authorization:thread:{request.source}:{sourceRef}")

def authorizationPlan : TaskPlan :=
  let sourceRef := resolveSourceRef crypto request
  { createTaskPlan fresh
      { requestText := request.requestText
        source := request.source
        threadId := some (authorizationThreadId crypto request sourceRef)
        nonempty := request.requestText_ne } with
    taskId := uuid5 crypto s!"lietou:task-authorization:task:{request.source}:{sourceRef}" }

def taskAuthorizeKey (source sourceRef : String) : String := s!"task_authorize:{source}:{sourceRef}"

def taskAuthorizationRef (threadId taskId : UUID) : String :=
  s!"artifact://task-authorization/{threadId.str}/{taskId.str}/v1"

/-- `_build_graph_dispatch_payload` of the service. -/
def authorizationPayload (plan : TaskPlan) (sourceRef : String) : Dict := Dict.ofList
  [("thread_id", .str plan.threadId.str), ("task_id", .str plan.taskId.str),
    ("source", .str request.source), ("source_ref", .str sourceRef),
    ("user_input", .str plan.requestText), ("task_type", .str plan.taskType),
    ("council_mode", .str plan.councilMode.value), ("mode_reason", .str plan.modeReason),
    ("required_agents", .arr (plan.requiredAgents.map .str)),
    ("optional_agents", .arr (plan.optionalAgents.map .str)),
    ("user_forced_full_council", .bool plan.userForcedFullCouncil),
    ("model_profile_id", optionalText (request.modelProfileId.map UUID.str)),
    ("model_owner_user_id", optionalText request.modelOwnerUserId),
    ("model_guild_id", optionalText request.modelGuildId),
    ("model_tenant_id", optionalText request.modelTenantId),
    ("embedding_profile_id", optionalText (request.embeddingProfileId.map UUID.str)),
    ("authorization", .obj (Dict.ofList
      [("status", .str "authorized"), ("approver", .obj request.approver),
        ("authorized_at", .str authorizedAt)]))]

def ensureThreadCanBeUsed (plan : TaskPlan) (sourceRef : String) (db : Database) :
    Except TaskAuthorizationError Unit :=
  match Table.find GraphThread.id plan.threadId db.graphThreads with
  | none => .ok ()
  | some existing =>
    if existing.source ≠ request.source ∨ existing.sourceRef ≠ sourceRef then
      .error (.conflict "thread_id already belongs to a different source/source_ref")
    else .ok ()

def authorizationThread (plan : TaskPlan) (sourceRef : String) : GraphThread where
  id := plan.threadId
  source := request.source
  sourceRef := sourceRef
  taskType := plan.taskType
  councilMode := some plan.councilMode.value
  modeReason := some plan.modeReason
  status := .queued
  stateSummary := Dict.ofList
    [("authorization_status", .str "authorized"), ("task_id", .str plan.taskId.str),
      ("request_summary", .str (String.ofList (plan.requestText.toList.take 240))),
      ("council_mode", .str plan.councilMode.value), ("mode_reason", .str plan.modeReason),
      ("approver", .obj request.approver)]

def insertThreadOrIgnore (thread : GraphThread) (db : Database) : Database :=
  { db with graphThreads := Table.insertOrIgnore GraphThread.id thread db.graphThreads }

def enqueueAuthorized (plan : TaskPlan) (sourceRef : String) (db : Database) :
    Except StorageError (String × Database) :=
  enqueueJson crypto row .graphDispatch (taskAuthorizeKey request.source sourceRef)
    (authorizationPayload authorizedAt request plan sourceRef) (some plan.threadId)
    (some (taskAuthorizationRef plan.threadId plan.taskId)) db

def authorizationError : StorageError → TaskAuthorizationError
  | .outboxPayloadConflict message => .conflict message
  | exc => .storage exc

def authorize (db : Database) :
    Except TaskAuthorizationError (TaskAuthorizeResponse × Database) :=
  let sourceRef := resolveSourceRef crypto request
  let plan := authorizationPlan crypto fresh request
  if request.approved = false then .ok (⟨.rejected, plan, sourceRef, none, none⟩, db)
  else do
    ensureThreadCanBeUsed request plan sourceRef db
    let (ref, db) ← (enqueueAuthorized crypto row authorizedAt request plan sourceRef
      (insertThreadOrIgnore (authorizationThread request plan sourceRef) db)).mapError
        authorizationError
    .ok (⟨.queued, plan, sourceRef, some (taskAuthorizeKey request.source sourceRef), some ref⟩, db)

end Authorize

section Committed

variable {crypto : Crypto} {fresh : FreshPlan} {row : RowDefaults} {authorizedAt : String}
  {request : TaskAuthorizeRequest} {db db' : Database} {response : TaskAuthorizeResponse}

/-- A request is rejected, or its row is there afterwards. -/
theorem authorize_eq_ok
    (h : authorize crypto fresh row authorizedAt request db = .ok (response, db')) :
    db' = db ∨ ∃ ref, enqueueAuthorized crypto row authorizedAt request
      (authorizationPlan crypto fresh request) (resolveSourceRef crypto request)
      (insertThreadOrIgnore (authorizationThread request (authorizationPlan crypto fresh request)
        (resolveSourceRef crypto request)) db) = .ok (ref, db') := by
  unfold authorize at h
  dsimp only at h
  split_ifs at h
  · exact .inl (Prod.mk.inj (Except.ok.inj h)).2.symm
  · simp only [Except.bind_eq_ok, Except.mapError_eq_ok, Except.ok.injEq, Prod.mk.injEq] at h
    obtain ⟨_, _, ⟨ref, db₁⟩, henqueue, _, rfl⟩ := h
    exact .inr ⟨ref, henqueue⟩

theorem insertThreadOrIgnore_grows (thread : GraphThread) :
    db.Grows (insertThreadOrIgnore thread db) where
  blobs h := h
  threads := by
    intro id h
    obtain ⟨old, hold⟩ := Option.isSome_iff_exists.mp h
    unfold Database.hasThread insertThreadOrIgnore
    rw [Table.find_insertOrIgnore, hold]
    rfl
  proposals {_ p} h := ⟨p.status, h, fun _ => rfl⟩
  approvals h := h
  outbox {_ r} h := ⟨r, h, SameItem.refl r⟩

end Committed
end Headhunt.Runtime
