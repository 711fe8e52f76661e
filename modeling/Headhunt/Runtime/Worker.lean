import Headhunt.Feishu.OutboxHandlers
import Headhunt.Harness.AgentHarness
import Headhunt.Storage.BitableSync

/-! The dispatcher as `build_feishu_outbox_dispatcher` wires it: the handler, its
repositories and the dispatcher work on one session. -/
namespace Headhunt.Runtime
open Headhunt.Feishu Headhunt.Harness Headhunt.Storage Py

abbrev HandlerWork := EStateM HandlerError WorkerDatabase

/-- What a graph does in one invocation, in order. -/
inductive NodeCall
  | runAgent (env : Collaborators) (fresh : RunFresh) (task : AgentTask)
  | other (work : AgentWork Unit)

/-- What the handler reaches outside its session. A `FeishuGatewayError` is given as the
dispatch error `handle` turns it into. -/
structure HandlerEnv where
  sendCard : String → Dict → String → Except HandlerError Unit
  updateCard : String → Dict → String → Except HandlerError Unit
  batchCreate : BatchCreate → Except HandlerError (List String)
  prepareTaskConfirmation : Dict → String → HandlerWork Unit
  /-- The checks before a graph is invoked, and what it does with the payload. -/
  dispatchGraph : Dict → Except HandlerError (List NodeCall)
  resumeGraph : Dict → Except HandlerError (List NodeCall)

def syncHandlerError : BitableSyncError → HandlerError
  | .valueError message => .uncaught message
  | .attributeError typeName => .uncaught ("'" ++ typeName ++ "' object has no attribute 'get'")
  | .clientTokenConflict message => .uncaught message
  | .storage _ => .uncaught "IntegrityError"

def requiredDict (payload : Dict) (key : String) : Except HandlerError Dict :=
  match dictOrNone (payload.get key) with
  | some value => .ok value
  | none => .error (dispatchError s!"outbox payload missing {key}")

/-- `value if isinstance(value, int) else 0`. -/
def optionalInt : Json → Int
  | .int n => n
  | .bool b => if b then 1 else 0
  | _ => 0

/-- `value if isinstance(value, list) else []`. -/
def listOrEmpty : Json → List Json
  | .arr elems => elems
  | _ => []

/-- The arguments `_write_bitable` gives to `record_chunk_success`. -/
def chunkWrite (item : FeishuOutbox) (payload : Dict) (call : BatchCreate) : ChunkWrite where
  clientToken := call.clientToken
  appToken := call.appToken
  tableId := call.tableId
  records := call.records
  outboxId := some item.id
  actionId := (optionalUuid (payload.get "action_id")).toOption.join
  chunkIndex := optionalInt (payload.get "chunk_index")
  payloadHash := (payload.get "payload_hash").asStr

section Worker

variable (crypto : Crypto) (env : HandlerEnv)

def external {α : Type} : Except HandlerError α → HandlerWork α
  | .ok a => pure a
  | .error exc => throw exc

def NodeCall.run : NodeCall → AgentWork Unit
  | .runAgent env fresh task => do
    let _ ← Harness.runAgent crypto env fresh task
  | .other work => work

def runNodes : List NodeCall → AgentWork Unit
  | [] => pure ()
  | call :: rest => do
    call.run crypto
    runNodes rest

/-- A graph invocation; what its nodes raise the handler does not catch. -/
def invokeGraph (calls : List NodeCall) : HandlerWork Unit :=
  EStateM.adaptExcept (fun exc => .uncaught exc.message) (runNodes crypto calls)

def handle (item : FeishuOutbox) : HandlerWork Unit := do
  let db ← get
  match getJsonPayload item.payloadRef db.toDatabase with
  | .error _ => throw (.uncaught (reprText item.payloadRef))
  | .ok payload =>
    match item.kind with
    | .cardSend => external do
      let chatId ← requiredPayloadStr payload "chat_id"
      let card ← requiredDict payload "card"
      env.sendCard chatId card item.idempotencyKey
    | .cardUpdate => external do
      let openMessageId ← requiredPayloadStr payload "open_message_id"
      let card ← requiredDict payload "card"
      env.updateCard openMessageId card item.idempotencyKey
    | .bitableWrite => do
      let call ← external (writeBitable payload db.toDatabase)
      let recordIds ← external (env.batchCreate call)
      EStateM.adaptExcept syncHandlerError (recordChunkSuccess crypto (chunkWrite item payload call)
        recordIds (listOrEmpty (payload.get "entity_refs")))
    | .taskConfirmationPrepare => env.prepareTaskConfirmation payload item.idempotencyKey
    | .graphDispatch => do
      let calls ← external (env.dispatchGraph payload)
      invokeGraph crypto calls
    | .resume => do
      let calls ← external (env.resumeGraph payload)
      invokeGraph crypto calls

inductive DispatchStatus
  | idle
  | succeeded
  | retrying
  | deadLetter
deriving DecidableEq, Repr

/-- How a failed dispatch ends, as `_handle_failure` reads it from the row. -/
def failureStatus (d : FeishuOutboxDispatcher) (item : FeishuOutbox) : DispatchStatus :=
  if d.maxAttempts ≤ (if item.attemptCount = 0 then 1 else item.attemptCount) then .deadLetter
  else .retrying

/-- `dispatch_once`. The claim is committed first. An exception of the handler rolls back
the session before the row is released in a transaction of its own. -/
def dispatchOnce (d : FeishuOutboxDispatcher) (currentTime : Time) (locked : UUID → Bool)
    (db : WorkerDatabase) : DispatchStatus × WorkerDatabase :=
  match d.claim currentTime locked db.outbox with
  | none => (.idle, db)
  | some (item, table) =>
    match Session.transaction (handle crypto env item) { db with outbox := table } with
    | (.ok (), db) =>
      (.succeeded, { db with outbox := d.finish item currentTime (.ok ()) db.outbox })
    | (.error exc, db) =>
      (failureStatus d item, { db with
        outbox := d.finish item currentTime (.error (handlerDispatchError exc)) db.outbox })

end Worker

/-- A chunk marked `conflict` with its reason, or an AgentRun marked `failed` with its error. -/
inductive FailureRecord
  | conflict (clientToken reason : String)
  | failedRun (runId : UUID) (error : String)

def FailureRecord.In (db : WorkerDatabase) : FailureRecord → Prop
  | .conflict clientToken reason =>
    ∃ c ∈ db.chunk? clientToken, c.status = .conflict ∧ c.lastError = some reason
  | .failedRun runId error =>
    ∃ run ∈ db.agentRun? runId, run.status = .failed ∧ run.error = some error

instance (db : WorkerDatabase) (record : FailureRecord) : Decidable (record.In db) := by
  cases record <;> unfold FailureRecord.In <;> infer_instance

section Failure

variable {crypto : Crypto} {env : HandlerEnv} {item : FeishuOutbox} {claimed : WorkerDatabase}
  {record : FailureRecord}

/-- The handler of the item raises and its session holds the record then. -/
def LeavesFailure (crypto : Crypto) (env : HandlerEnv) (item : FeishuOutbox)
    (claimed : WorkerDatabase) (record : FailureRecord) : Prop :=
  ∃ exc view, Session.RaisesAt (handle crypto env item) claimed exc view ∧ record.In view

theorem returnsAt_external {α : Type} {x : Except HandlerError α} {a : α}
    {db db' : WorkerDatabase} :
    Session.ReturnsAt (external x) db a db' ↔ x = .ok a ∧ db = db' := by
  cases x <;> simp [external]

/-- A Bitable write whose client token is in conflict leaves its chunk marked. -/
theorem leavesFailure_of_conflict {payload : Dict} {call : BatchCreate} {recordIds : List String}
    {reason : String} (hkind : item.kind = .bitableWrite)
    (hpayload : getJsonPayload item.payloadRef claimed.toDatabase = .ok payload)
    (hcall : writeBitable payload claimed.toDatabase = .ok call)
    (hcreated : env.batchCreate call = .ok recordIds)
    (hlengths : validateBitableResultLengths call.records recordIds
      (listOrEmpty (payload.get "entity_refs")) = .ok ())
    (hreason : clientTokenConflictReason call.clientToken
      ((chunkWrite item payload call).resolvedPayloadHash crypto) recordIds claimed = some reason) :
    LeavesFailure crypto env item claimed (.conflict call.clientToken reason) := by
  have hraise : Session.RaisesAt (recordChunkSuccess crypto (chunkWrite item payload call) recordIds
      (listOrEmpty (payload.get "entity_refs"))) claimed (.clientTokenConflict reason)
      (markConflict crypto (chunkWrite item payload call) reason claimed) :=
    recordChunkSuccess_conflict hlengths hreason
  refine ⟨.uncaught reason, markConflict crypto (chunkWrite item payload call) reason claimed, ?_, ?_⟩
  · unfold handle
    refine Session.raisesAt_bind.mpr (.inr ⟨claimed, claimed, by simp, ?_⟩)
    simp only [hpayload, hkind]
    refine Session.raisesAt_bind.mpr
      (.inr ⟨call, claimed, returnsAt_external.mpr ⟨hcall, rfl⟩, ?_⟩)
    refine Session.raisesAt_bind.mpr
      (.inr ⟨recordIds, claimed, returnsAt_external.mpr ⟨hcreated, rfl⟩, ?_⟩)
    exact Session.raisesAt_adaptExcept.mpr ⟨_, hraise, rfl⟩
  · exact chunk?_markConflict hreason

/-- A run that fails inside a graph leaves its row marked. -/
theorem raisesAt_runNodes {before after : List NodeCall} {agents : Collaborators}
    {fresh : RunFresh} {task : AgentTask} {pack : ContextPack} {message : String}
    {db₀ db₁ db₂ view : WorkerDatabase}
    (hbefore : Session.ReturnsAt (runNodes crypto before) db₀ () db₁)
    (hbegin : Session.ReturnsAt (beginRun crypto agents fresh task) db₁ pack db₂)
    (hraise : Session.RaisesAt (completeRun agents fresh task pack) db₂ (.exception message) view) :
    Session.RaisesAt (runNodes crypto (before ++ .runAgent agents fresh task :: after)) db₀
      (.exception message) (view.updateAgentRun fresh.runId (failRun fresh (.exception message))) := by
  induction before generalizing db₀ with
  | nil =>
    obtain ⟨_, rfl⟩ := Session.returnsAt_pure.mp hbefore
    refine Session.raisesAt_bind.mpr (.inl ?_)
    exact Session.raisesAt_bind.mpr (.inl (runAgent_raises hbegin hraise))
  | cons call before ih =>
    obtain ⟨_, db, hcall, hrest⟩ := Session.returnsAt_bind.mp hbefore
    exact Session.raisesAt_bind.mpr (.inr ⟨(), db, hcall, ih hrest⟩)

theorem leavesFailure_of_failedRun {payload : Dict} {before after : List NodeCall}
    {agents : Collaborators} {fresh : RunFresh} {task : AgentTask} {pack : ContextPack}
    {message : String} {db₁ db₂ view : WorkerDatabase} {run : AgentRun}
    (hpayload : getJsonPayload item.payloadRef claimed.toDatabase = .ok payload)
    (hcalls : item.kind = .graphDispatch ∧
        env.dispatchGraph payload = .ok (before ++ .runAgent agents fresh task :: after) ∨
      item.kind = .resume ∧
        env.resumeGraph payload = .ok (before ++ .runAgent agents fresh task :: after))
    (hbefore : Session.ReturnsAt (runNodes crypto before) claimed () db₁)
    (hbegin : Session.ReturnsAt (beginRun crypto agents fresh task) db₁ pack db₂)
    (hraise : Session.RaisesAt (completeRun agents fresh task pack) db₂ (.exception message) view)
    (hrun : view.agentRun? fresh.runId = some run) :
    LeavesFailure crypto env item claimed (.failedRun fresh.runId message) := by
  have hnodes : Session.RaisesAt (runNodes crypto (before ++ .runAgent agents fresh task :: after))
      claimed (.exception message)
      (view.updateAgentRun fresh.runId (failRun fresh (.exception message))) :=
    raisesAt_runNodes hbefore hbegin hraise
  refine ⟨.uncaught message,
    view.updateAgentRun fresh.runId (failRun fresh (.exception message)), ?_, ?_⟩
  · unfold handle
    refine Session.raisesAt_bind.mpr (.inr ⟨claimed, claimed, by simp, ?_⟩)
    rcases hcalls with ⟨hkind, hcalls⟩ | ⟨hkind, hcalls⟩
    all_goals
      simp only [hpayload, hkind]
      refine Session.raisesAt_bind.mpr
        (.inr ⟨_, claimed, returnsAt_external.mpr ⟨hcalls, rfl⟩, ?_⟩)
      exact Session.raisesAt_adaptExcept.mpr ⟨_, hnodes, rfl⟩
  · refine ⟨failRun fresh (.exception message) run, ?_, rfl, rfl⟩
    have hfind : (view.updateAgentRun fresh.runId (failRun fresh (.exception message))).agentRun?
        fresh.runId = (view.agentRun? fresh.runId).map (failRun fresh (.exception message)) :=
      WorkerDatabase.agentRun?_updateAgentRun fun _ => rfl
    simp [hfind, hrun]

/-- The dispatcher writes to the outbox only. -/
theorem FailureRecord.in_outbox (db : WorkerDatabase) (outbox : OutboxTable) :
    record.In { db with outbox := outbox } ↔ record.In db := by
  cases record <;> rfl

end Failure

def syncThread : GraphThread where
  id := UUID.ofNat 1
  source := "feishu"
  sourceRef := "message"
  taskType := "requisition_calibration"
  councilMode := none
  modeReason := none
  status := .running
  stateSummary := []

def syncProposal : ActionProposal where
  id := UUID.ofNat 2
  threadId := syncThread.id
  interruptId := UUID.ofNat 3
  actionType := "bitable_write"
  payloadSummary := "RequisitionCalibrationDraft"
  payloadRef := "artifact://action/2"
  idempotencyKey := "action:1"
  status := .approved
  createdAt := 0

def syncPayload : Dict := Dict.ofList
  [("action_id", .str syncProposal.id.str), ("app_token", .str "app"), ("table_id", .str "table"),
    ("client_token", .str "token"), ("records", .arr [.obj []]), ("payload_hash", .str "edited")]

def syncItem (kind : OutboxKind) : FeishuOutbox :=
  pendingOutbox ⟨UUID.ofNat 4, 0⟩ kind "item:1" (some syncThread.id) "artifact://item/1"

def syncDatabase (kind : OutboxKind) : WorkerDatabase where
  artifactBlobs := [⟨"artifact://item/1", .obj syncPayload, "", ""⟩]
  graphThreads := [syncThread]
  outbox := [syncItem kind]
  actionProposals := [syncProposal]
  bitableChunks :=
    [⟨some syncProposal.id, none, "app", "table", 0, "first", "token", .succeeded, ["record"], none⟩]

def silentTask : AgentTask where
  threadId := syncThread.id
  nodeName := "collect_council_opinions"
  agentName := "CandidateJudgementAgent"
  taskBrief := "CTO"
  councilMode := "full_council"
  modeReason := ""
  outputArtifactType := "CouncilOpinion"
  source := "feishu"
  sourceRef := "message"
  taskType := "requisition_calibration"
  feishuChatId := none
  sourceRefs := []
  modelProfileId := none
  modelOwnerUserId := none
  modelGuildId := none
  modelTenantId := none
  policyModelProfileId := none

def silentModel : Collaborators where
  buildContextPack _ := pure ⟨[], [], 0⟩
  modelInfo _ _ := .ok ⟨none, "openai", "gpt", none⟩
  generateStructured _ _ _ := .error (.exception "timeout")
  writeAgentArtifact _ _ _ := pure .null
  writeRunMemory _ _ _ := pure none
  enqueueWarRoomCard _ _ _ _ _ := pure ()

def silentRun : RunFresh := ⟨UUID.ofNat 5, 0, 0⟩

def syncEnv : HandlerEnv where
  sendCard _ _ _ := .ok ()
  updateCard _ _ _ := .ok ()
  batchCreate _ := .ok ["record"]
  prepareTaskConfirmation _ _ := pure ()
  dispatchGraph _ := .ok [.runAgent silentModel silentRun silentTask]
  resumeGraph _ := .ok []

def syncDispatcher : FeishuOutboxDispatcher := ⟨"worker", 5, 30, 300⟩

def conflictReason : String := "Bitable client_token already exists with a different payload_hash"

def claimedItem (kind : OutboxKind) : FeishuOutbox :=
  { syncItem kind with
    status := .claimed
    claimedBy := some "worker"
    claimedAt := some 0
    claimExpiresAt := some (seconds 300)
    attemptCount := 1 }

theorem claim_syncDatabase (kind : OutboxKind) :
    syncDispatcher.claim 0 (fun _ => false) (syncDatabase kind).outbox =
      some (claimedItem kind, [claimedItem kind]) := by
  cases kind <;> decide +kernel

end Headhunt.Runtime
