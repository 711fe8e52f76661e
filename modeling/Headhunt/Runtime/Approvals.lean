import Headhunt.Schemas.Approval
import Headhunt.Storage.Transactions

/-! `ApprovalService`: a decision that comes in over the internal API. -/
namespace Headhunt.Runtime
open Headhunt.Schemas Headhunt.Storage Py

inductive ApprovalError
  | notFound (message : String)
  | conflict (message : String)
  /-- An exception of Python's own that no handler of the code names. -/
  | uncaught (name : String)
deriving DecidableEq

/-- `ORDER BY created_at DESC LIMIT 1`. -/
def proposalForInterrupt (interruptId : UUID) (db : Database) : Option ActionProposal :=
  Table.first? (fun p => [-p.createdAt])
    (db.actionProposals.filter fun p => p.interruptId = interruptId)

def buildResumePayload (proposal : ActionProposal) (request : ApprovalDecisionRequest) : Dict :=
  let approver := request.approver.setdefault "source" (.str "internal")
  let humanApproval := Dict.ofList
    [("thread_id", .str proposal.threadId.str), ("action_id", .str proposal.id.str),
      ("interrupt_id", .str proposal.interruptId.str),
      ("idempotency_key", .str proposal.idempotencyKey),
      ("decision", .str request.decision.value), ("approver", .obj approver),
      ("payload_ref", .str proposal.payloadRef)]
  let humanApproval := match request.editedPayload with
    | some edited =>
      if edited ≠ [] then humanApproval.set "edited_payload" (.obj edited) else humanApproval
    | none => humanApproval
  Dict.ofList [("human_approval", .obj humanApproval)]

/-- `_coerce_action_value` of this module: text that is no JSON object is the empty object. -/
def coerceStoredActionValue : Json → Except ApprovalError Dict
  | .obj value => .ok value
  | .str text =>
    match loads text with
    | .ok (.obj parsed) => .ok parsed
    | .error .value => .error (.uncaught "ValueError")
    | _ => .ok []
  | _ => .ok []

def editedPayloadOfEvent (payload : Dict) : Except ApprovalError (Option Dict) :=
  match payload.get "event" with
  | .obj event =>
    match Dict.get event "action" with
    | .obj action => do
      let value ← coerceStoredActionValue (Dict.get action "value")
      .ok (dictOrNone ((value.get "edited_payload").orElse (value.get "form_value")))
    | _ => .ok none
  | _ => .ok none

def extractEditedPayload (payload : Dict) : Except ApprovalError (Option Dict) :=
  match dictOrNone (payload.get "edited_payload") with
  | some direct => .ok (some direct)
  | none =>
    match dictOrNone (((payload.get "human_approval").asDict).get "edited_payload") with
    | some edited => .ok (some edited)
    | none => editedPayloadOfEvent payload

def existingEditPayload (existing : HumanApproval) (db : Database) :
    Except ApprovalError (Option Dict) :=
  match existing.editedPayloadRef.filter (· ≠ "") with
  | none => .ok none
  | some ref =>
    match getJsonPayload ref db with
    | .ok payload => extractEditedPayload payload
    | .error _ =>
      .error (.conflict "Existing edit HumanApproval payload is unavailable for comparison")

/-- `a == b` of two optional dicts. -/
def samePayload (a b : Option Dict) : Bool :=
  match a, b with
  | some a, some b => Json.pyEq (.obj a) (.obj b)
  | none, none => true
  | _, _ => false

def ensureExistingEditPayloadMatches (existing : HumanApproval) (requested : Option Dict)
    (db : Database) : Except ApprovalError Unit := do
  let payload ← existingEditPayload existing db
  if samePayload payload requested then .ok ()
  else .error (.conflict
    "ActionProposal already has an edit HumanApproval with a different edited_payload")

def alreadyHandledStatus : ProposalStatus → ApprovalResponseStatus
  | .approved => .alreadyApproved
  | .rejected => .alreadyRejected
  | _ => .alreadyExecuted

def alreadyHandledResponse (proposal : ActionProposal) (requested : Decision) :
    ApprovalDecisionResponse where
  status := alreadyHandledStatus proposal.status
  actionId := proposal.id
  interruptId := proposal.interruptId
  threadId := proposal.threadId
  decision := requested
  idempotencyKey := proposal.idempotencyKey
  nextActions :=
    [s!"ActionProposal 当前状态为 {proposal.status.value}，未重复写入 resume outbox。"]

def duplicateResponse (proposal : ActionProposal) (requested : Decision) :
    ApprovalDecisionResponse where
  status := .duplicate
  actionId := proposal.id
  interruptId := proposal.interruptId
  threadId := proposal.threadId
  decision := requested
  idempotencyKey := proposal.idempotencyKey
  nextActions := ["该 ActionProposal 已收到相同 HumanApproval，未重复写入。"]

def queuedResponse (proposal : ActionProposal) (requested : Decision) (outboxPayloadRef : String) :
    ApprovalDecisionResponse where
  status := .queued
  actionId := proposal.id
  interruptId := proposal.interruptId
  threadId := proposal.threadId
  decision := requested
  idempotencyKey := proposal.idempotencyKey
  outboxPayloadRef := some outboxPayloadRef
  nextActions :=
    ["已写入 durable resume outbox。",
      "启动 lietou-outbox-worker 后会用 Command(resume=HumanApproval) 继续 graph。",
      "本接口不会直接执行业务副作用；业务写入仍由 ActionExecutor 二次校验后排队。"]

/-- The approver column: `approval_payload["human_approval"]["approver"]`. -/
def storedApprover (payload : Dict) : Dict :=
  (((payload.get "human_approval").asDict).get "approver").asDict

def approvalOfRequest (proposal : ActionProposal) (request : ApprovalDecisionRequest)
    (outboxPayloadRef : String) : HumanApproval where
  interruptId := proposal.interruptId
  actionId := proposal.id
  threadId := proposal.threadId
  approver := storedApprover (buildResumePayload proposal request)
  decision := request.decision
  editedPayloadRef := if request.decision = .edit then some outboxPayloadRef else none
  idempotencyKey := proposal.idempotencyKey

def recordDecision (crypto : Crypto) (row : RowDefaults) (proposal : ActionProposal)
    (request : ApprovalDecisionRequest) (db : Database) :
    Except StorageError (String × Database) := do
  let (outboxPayloadRef, db) ← enqueueJson crypto row .resume (resumeKey proposal.idempotencyKey)
    (buildResumePayload proposal request) proposal.threadId none db
  let db ← db.insertApproval (approvalOfRequest proposal request outboxPayloadRef)
  .ok (outboxPayloadRef, db)

def approvalConflict : StorageError → ApprovalError
  | .outboxPayloadConflict message => .conflict message
  | .integrity _ => .conflict "ActionProposal approval was submitted concurrently"
  | .keyError _ => .uncaught "KeyError"
  | _ => .uncaught "RuntimeError"

def repeatedDecision (existing : HumanApproval) (proposal : ActionProposal)
    (request : ApprovalDecisionRequest) (db : Database) :
    Except ApprovalError ApprovalDecisionResponse :=
  if existing.decision ≠ request.decision then
    .error (.conflict "ActionProposal already has a different HumanApproval decision")
  else do
    if request.decision = .edit then
      ensureExistingEditPayloadMatches existing request.editedPayload db
    .ok (duplicateResponse proposal request.decision)

def decisionResult (proposal : ActionProposal) (request : ApprovalDecisionRequest) :
    Except StorageError (String × Database) →
      Except ApprovalError (ApprovalDecisionResponse × Database)
  | .ok (outboxPayloadRef, db) =>
    .ok (queuedResponse proposal request.decision outboxPayloadRef, db)
  | .error exc => .error (approvalConflict exc)

def submitDecision (crypto : Crypto) (row : RowDefaults) (interruptId : UUID)
    (request : ApprovalDecisionRequest) (db : Database) :
    Except ApprovalError (ApprovalDecisionResponse × Database) :=
  match proposalForInterrupt interruptId db with
  | none => .error (.notFound s!"approval interrupt {interruptId.str} not found")
  | some proposal =>
    if proposal.status ≠ .pending then
      .ok (alreadyHandledResponse proposal request.decision, db)
    else
      match db.approvalForKey? proposal.idempotencyKey with
      | some existing =>
        (repeatedDecision existing proposal request db).map fun response => (response, db)
      | none => decisionResult proposal request (recordDecision crypto row proposal request db)

section Decide

variable {crypto : Crypto} {row : RowDefaults} {proposal : ActionProposal}
  {request : ApprovalDecisionRequest} {db db' : Database} {ref : String}

theorem proposalForInterrupt_mem {interruptId : UUID}
    (h : proposalForInterrupt interruptId db = some proposal) :
    proposal ∈ db.actionProposals ∧ proposal.interruptId = interruptId := by
  simpa [List.mem_filter] using Table.first?_mem h

/-- What a recorded decision writes. -/
theorem recordDecision_eq_ok (hkey : db.outboxForKey? (resumeKey proposal.idempotencyKey) = none)
    (h : recordDecision crypto row proposal request db = .ok (ref, db')) :
    ∃ db₁, storeJsonPayload ref (buildResumePayload proposal request)
        (dumps .compact (.obj (buildResumePayload proposal request)))
        (stableHash crypto (buildResumePayload proposal request)) db = .ok db₁ ∧
      Table.find FeishuOutbox.id row.id db.outbox = none ∧
      db.approvalForKey? proposal.idempotencyKey = none ∧
      ref = resolvedContentRef crypto (buildResumePayload proposal request) none ∧
      db' = { db₁ with
        outbox := db₁.outbox ++ [pendingOutbox row .resume (resumeKey proposal.idempotencyKey)
          proposal.threadId ref]
        humanApprovals := db₁.humanApprovals ++ [approvalOfRequest proposal request ref] } := by
  simp only [recordDecision, Except.bind_eq_ok, Except.ok.injEq, Prod.mk.injEq, Prod.exists] at h
  obtain ⟨ref, db₂, henqueue, db₃, happroval, rfl, rfl⟩ := h
  rcases enqueueJson_cases henqueue with ⟨r, hr, _⟩ | ⟨_, rfl, db₁, hstore, houtbox⟩
  · rw [hkey] at hr
    cases hr
  · have hframe := storeJsonPayload_frame hstore
    obtain ⟨_, hid, _, rfl⟩ := Database.insertOutbox_eq_ok.mp houtbox
    obtain ⟨hfresh, _, _, rfl⟩ := Database.insertApproval_eq_ok.mp happroval
    rw [hframe] at hid hfresh
    exact ⟨db₁, hstore, hid, hfresh, rfl, rfl⟩

theorem recordDecision_statements {scope : Scope}
    (h : recordDecision crypto row proposal request db = .ok (ref, db'))
    (hblob : scope.blob (outboxBlob crypto (buildResumePayload proposal request) none))
    (houtbox : ∀ ref, scope.outbox
      (pendingOutbox row .resume (resumeKey proposal.idempotencyKey) proposal.threadId ref))
    (happroval : ∀ approval, scope.approval approval) : Statements scope db db' := by
  simp only [recordDecision, Except.bind_eq_ok, Except.ok.injEq, Prod.mk.injEq, Prod.exists] at h
  obtain ⟨ref, db₁, henqueue, db₂, hinsert, rfl, rfl⟩ := h
  exact (enqueueJson_statements henqueue hblob houtbox).tail
    (.approval hinsert (happroval _))

/-- A decision on a proposal that cannot be recorded raises a conflict. -/
theorem recordDecision_error {exc : StorageError}
    (h : recordDecision crypto row proposal request db = .error exc) :
    ∃ message, approvalConflict exc = .conflict message := by
  simp only [recordDecision, Except.bind_eq_error, Prod.exists, reduceCtorEq, and_false,
    exists_false, or_false] at h
  rcases h with h | ⟨_, _, _, h⟩
  · rcases enqueueJson_error h with ⟨message, rfl⟩ | ⟨unique, rfl⟩
    · exact ⟨message, rfl⟩
    · exact ⟨_, rfl⟩
  · obtain ⟨unique, rfl⟩ := Database.insertApproval_error h
    exact ⟨_, rfl⟩

end Decide
end Headhunt.Runtime
