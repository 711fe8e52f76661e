import Headhunt.Core.Settings
import Headhunt.Storage.Transactions

/-! `ActionExecutor`: an approved proposal becomes a Bitable outbox row. -/
namespace Headhunt.Runtime
open Headhunt.Core Headhunt.Storage Py

/-- An `ActionExecutionError`, or what the graph node does not catch. -/
inductive ExecutionError
  | actionExecution (message : String)
  | uncaught (message : String)
  | storage (exc : StorageError)
deriving DecidableEq

inductive ExecutionStatus
  | already (status : ProposalStatus)
  | rejected
  | queued
deriving DecidableEq, Repr

structure ActionExecutionResult where
  status : ExecutionStatus
  actionId : String
  decision : String
  outboxPayloadRef : Option String := none
  message : String
deriving DecidableEq

def requiredApprovalUuid (approval : Dict) (key : String) : Except ExecutionError UUID :=
  match firstStr [approval.get key] with
  | none => .error (.actionExecution s!"HumanApproval missing {key}")
  | some text =>
    match UUID.parse text with
    | some id => .ok id
    | none => .error (.uncaught (UUID.errorText text))

def requiredApprovalStr (payload : Dict) (key : String) : Except ExecutionError String :=
  match firstStr [payload.get key] with
  | some value => .ok value
  | none => .error (.actionExecution s!"HumanApproval missing {key}")

def tableIdForBusinessKind (settings : Settings) (businessKind : String) : Option String :=
  match [("RequisitionCalibrationDraft", settings.feishuBitableRequisitionTableId),
      ("TalentMapDraft", settings.feishuBitableTalentMapTableId),
      ("CandidateMatchDraft", settings.feishuBitableCandidateTableId),
      ("ReportDraft", settings.feishuBitableReportTableId),
      ("FollowupReviewDraft", settings.feishuBitableReportTableId),
      ("CaseDataDraft", settings.feishuBitableRequisitionTableId)].lookup businessKind with
  | some tableId => tableId
  | none => none

def humanEditField : String := "人工编辑"

def editedRecordFields (recordFields approval : Dict) : Dict :=
  match approval.get "decision", approval.get "edited_payload" with
  | .str "edit", .obj edited => recordFields.set humanEditField (.str (dumps {} (.obj edited)))
  | _, _ => recordFields

def bitablePayload (crypto : Crypto) (appToken tableId clientToken : String) (records : List Json)
    (entityRefs : List Json) (actionId : UUID) : Dict := Dict.ofList
  [("app_token", .str appToken), ("table_id", .str tableId), ("client_token", .str clientToken),
    ("records", .arr records), ("entity_refs", .arr entityRefs),
    ("action_id", .str actionId.str), ("chunk_index", .int 0),
    ("payload_hash", .str (sha256Hex crypto (dumps .compact (.arr records))))]

/-- `clientToken` is the `uuid4` for a payload without one. -/
def buildBitableOutboxPayload (settings : Settings) (crypto : Crypto) (clientToken : UUID)
    (proposal : ActionProposal) (proposalPayload approval : Dict) : Except ExecutionError Dict :=
  match proposalPayload.get "payload" with
  | .obj payload => do
    let businessKind ← requiredApprovalStr payload "business_kind"
    match settings.feishuBitableAppToken.filter (· ≠ ""),
        (tableIdForBusinessKind settings businessKind).filter (· ≠ "") with
    | some appToken, some tableId =>
      match Dict.get payload "record_fields" with
      | .obj recordFields =>
        let records := [Json.obj
          (Dict.ofList [("fields", .obj (editedRecordFields recordFields approval))])]
        let clientToken := (firstStr [Dict.get payload "client_token"]).getD clientToken.str
        let entityRefs := match Dict.get payload "entity_refs" with
          | .arr refs => refs
          | _ => []
        .ok (bitablePayload crypto appToken tableId clientToken records entityRefs proposal.id)
      | _ =>
        .error (.actionExecution "ActionProposal payload.record_fields must be an object")
    | _, _ =>
      .error (.actionExecution
        s!"Feishu Bitable app_token/table_id is not configured for {businessKind}")
  | _ => .error (.actionExecution "ActionProposal payload is missing payload object")

def markProposal (proposal : ActionProposal) (status : ProposalStatus) (db : Database) : Database :=
  let summary := Dict.ofList
    [("last_action_id", .str proposal.id.str), ("last_action_status", .str status.value),
      ("last_action_type", .str proposal.actionType)]
  (db.updateProposal proposal.id fun row => { row with status := status }).updateThread
    proposal.threadId fun row => { row with status := .completed, stateSummary := summary }

def bitableKey (proposal : ActionProposal) : String :=
  s!"bitable:{proposal.idempotencyKey}:{proposal.id.str}"

/-- `str(interrupt_id)` of a value that is no text is never the text of a UUID. -/
def interruptMismatch (proposal : ActionProposal) (interruptId : Json) : Bool :=
  interruptId.truthy && decide (interruptId ≠ .str proposal.interruptId.str)

/-- The proposal the approval names, once its four ids are checked. -/
def proposalOfApproval (approval : Dict) (db : Database) :
    Except ExecutionError (ActionProposal × String) := do
  let actionId ← requiredApprovalUuid approval "action_id"
  let threadId ← requiredApprovalUuid approval "thread_id"
  let decision ← requiredApprovalStr approval "decision"
  match db.proposal? actionId with
  | none => .error (.actionExecution s!"ActionProposal not found: {actionId.str}")
  | some proposal =>
    if proposal.threadId ≠ threadId then
      .error (.actionExecution "HumanApproval thread_id does not match ActionProposal")
    else if interruptMismatch proposal (approval.get "interrupt_id") then
      .error (.actionExecution "HumanApproval interrupt_id does not match ActionProposal")
    else do
      let idempotencyKey ← requiredApprovalStr approval "idempotency_key"
      if proposal.idempotencyKey ≠ idempotencyKey then
        .error (.actionExecution "HumanApproval idempotency_key does not match ActionProposal")
      else .ok (proposal, decision)

/-- `execute` from the approve or edit of a pending proposal on. -/
def queueBitableWrite (settings : Settings) (crypto : Crypto) (clientToken : UUID)
    (row : RowDefaults) (proposal : ActionProposal) (approval : Dict) (db : Database) :
    Except ExecutionError (String × Database) := do
  let proposalPayload ← (getJsonPayload proposal.payloadRef db).mapError .storage
  let outboxPayload ← buildBitableOutboxPayload settings crypto clientToken proposal
    proposalPayload approval
  let (outboxPayloadRef, db) ← (enqueueJson crypto row .bitableWrite (bitableKey proposal)
    outboxPayload proposal.threadId none db).mapError .storage
  .ok (outboxPayloadRef, markProposal proposal .approved db)

def execute (settings : Settings) (crypto : Crypto) (clientToken : UUID) (row : RowDefaults)
    (approval : Dict) (db : Database) : Except ExecutionError (ActionExecutionResult × Database) := do
  let (proposal, decision) ← proposalOfApproval approval db
  if proposal.status ≠ .pending then
    .ok ({ status := .already proposal.status, actionId := proposal.id.str, decision := decision
           message := "ActionProposal was already handled." }, db)
  else if decision = "reject" then
    .ok ({ status := .rejected, actionId := proposal.id.str, decision := decision
           message := "Business side effect was rejected by human approver." },
      markProposal proposal .rejected db)
  else if decision ≠ "approve" ∧ decision ≠ "edit" then
    .error (.actionExecution s!"Unsupported approval decision: {decision}")
  else if decision = "edit" ∧ nonemptyDict (dictOrNone (approval.get "edited_payload")) = false then
    .error (.actionExecution "HumanApproval edit requires edited_payload")
  else do
    let (outboxPayloadRef, db) ←
      queueBitableWrite settings crypto clientToken row proposal approval db
    .ok ({ status := .queued, actionId := proposal.id.str, decision := decision
           outboxPayloadRef := some outboxPayloadRef
           message := "Approved business side effect was queued to durable Feishu outbox." }, db)

theorem bitableKey_toList (p : ActionProposal) : (bitableKey p).toList =
    "bitable:".toList ++ (p.idempotencyKey.toList ++ ':' :: p.id.str.toList) := by
  simp [bitableKey, ToString.toString]

theorem bitableKey_ne_resumeKey (p : ActionProposal) (key : String) :
    bitableKey p ≠ resumeKey key := by
  intro h
  have h' := congrArg String.toList h
  rw [resumeKey_toList, bitableKey_toList] at h'
  simp at h'

/-- The text of a UUID has a fixed length, so the key names its proposal. -/
theorem bitableKey_injective {p q : ActionProposal} (h : bitableKey p = bitableKey q) :
    p.idempotencyKey = q.idempotencyKey ∧ p.id = q.id := by
  have h' := congrArg String.toList h
  rw [bitableKey_toList, bitableKey_toList] at h'
  have h' := List.append_cancel_left h'
  have hlen : (':' :: p.id.str.toList).length = (':' :: q.id.str.toList).length := by
    simp only [List.length_cons, String.length_toList, UUID.length_str]
  obtain ⟨hkey, hid⟩ := List.append_inj' h' hlen
  have hid := (List.cons.inj hid).2
  exact ⟨String.toList_inj.mp hkey, UUID.str_injective (String.toList_inj.mp hid)⟩

section Execute

variable {settings : Settings} {crypto : Crypto} {clientToken : UUID} {row : RowDefaults}
  {approval : Dict} {proposal : ActionProposal} {decision : String} {db db' : Database}

theorem requiredApprovalStr_eq_ok {key s : String} :
    requiredApprovalStr approval key = .ok s ↔ approval.get key = .str s ∧ s ≠ "" := by
  rw [← firstStr_singleton_eq_some]
  unfold requiredApprovalStr
  cases firstStr [approval.get key] <;> simp

theorem requiredApprovalUuid_eq_ok {key : String} {id : UUID} :
    requiredApprovalUuid approval key = .ok id ↔
      ∃ text, approval.get key = .str text ∧ text ≠ "" ∧ UUID.parse text = some id := by
  unfold requiredApprovalUuid
  cases h : firstStr [approval.get key] with
  | none =>
    simp only [reduceCtorEq, false_iff, not_exists, not_and]
    intro text ht hne
    have hs := firstStr_singleton_eq_some.mpr ⟨ht, hne⟩
    rw [h] at hs
    cases hs
  | some text =>
    obtain ⟨ht, hne⟩ := firstStr_singleton_eq_some.mp h
    cases hp : UUID.parse text <;> simp [ht, hne, hp]

structure ApprovalNames (approval : Dict) (proposal : ActionProposal) (decision : String) :
    Prop where
  actionId : ∃ text, approval.get "action_id" = .str text ∧ text ≠ "" ∧
    UUID.parse text = some proposal.id
  threadId : ∃ text, approval.get "thread_id" = .str text ∧ text ≠ "" ∧
    UUID.parse text = some proposal.threadId
  decision : approval.get "decision" = .str decision ∧ decision ≠ ""
  interruptId : interruptMismatch proposal (approval.get "interrupt_id") = false
  idempotencyKey : approval.get "idempotency_key" = .str proposal.idempotencyKey ∧
    proposal.idempotencyKey ≠ ""

theorem proposalOfApproval_eq_ok :
    proposalOfApproval approval db = .ok (proposal, decision) ↔
      db.proposal? proposal.id = some proposal ∧ ApprovalNames approval proposal decision := by
  unfold proposalOfApproval
  simp only [Except.bind_eq_ok, requiredApprovalUuid_eq_ok, requiredApprovalStr_eq_ok]
  constructor
  · rintro ⟨actionId, haction, threadId, hthread, dec, hdec, h⟩
    cases hp : db.proposal? actionId with
    | none => simp [hp] at h
    | some p =>
      have hid : p.id = actionId := Table.find_key hp
      simp only [hp, Except.ite_error_eq_ok, not_not, Except.bind_eq_ok, Except.ok.injEq,
        Prod.mk.injEq, requiredApprovalStr_eq_ok] at h
      obtain ⟨hthreadId, hinterrupt, key, hkey, hkeyeq, rfl, rfl⟩ := h
      subst hid hthreadId hkeyeq
      exact ⟨hp, haction, hthread, hdec, by simpa using hinterrupt, hkey⟩
  · rintro ⟨hp, hnames⟩
    refine ⟨proposal.id, hnames.actionId, proposal.threadId, hnames.threadId, decision,
      hnames.decision, ?_⟩
    simp only [hp, ne_eq, not_true_eq_false, if_false, hnames.interruptId, Bool.false_eq_true,
      Except.bind_eq_ok, requiredApprovalStr_eq_ok]
    exact ⟨_, hnames.idempotencyKey, by simp⟩

inductive Executed (settings : Settings) (crypto : Crypto) (clientToken : UUID) (row : RowDefaults)
    (approval : Dict) (db : Database) : ActionExecutionResult → Database → Prop
  | already {proposal : ActionProposal} {decision : String} {result : ActionExecutionResult}
    (hp : db.proposal? proposal.id = some proposal)
    (hnames : ApprovalNames approval proposal decision) (hstatus : proposal.status ≠ .pending)
    (hresult : result.status = .already proposal.status) :
    Executed settings crypto clientToken row approval db result db
  | rejected {proposal : ActionProposal} {decision : String} {result : ActionExecutionResult}
    (hp : db.proposal? proposal.id = some proposal)
    (hnames : ApprovalNames approval proposal decision) (hstatus : proposal.status = .pending)
    (hdecision : decision = "reject") (hresult : result.status = .rejected) :
    Executed settings crypto clientToken row approval db result (markProposal proposal .rejected db)
  | queued {proposal : ActionProposal} {decision ref : String} {result : ActionExecutionResult}
    {db' : Database} (hp : db.proposal? proposal.id = some proposal)
    (hnames : ApprovalNames approval proposal decision) (hstatus : proposal.status = .pending)
    (hdecision : decision = "approve" ∨ decision = "edit" ∧
      nonemptyDict (dictOrNone (approval.get "edited_payload")) = true)
    (hqueue : queueBitableWrite settings crypto clientToken row proposal approval db =
      .ok (ref, db'))
    (hresult : result.status = .queued ∧ result.actionId = proposal.id.str ∧
      result.decision = decision ∧ result.outboxPayloadRef = some ref) :
    Executed settings crypto clientToken row approval db result db'

theorem executed_of_ok {result : ActionExecutionResult}
    (h : execute settings crypto clientToken row approval db = .ok (result, db')) :
    Executed settings crypto clientToken row approval db result db' := by
  simp only [execute, Except.bind_eq_ok, Prod.exists, proposalOfApproval_eq_ok] at h
  obtain ⟨proposal, decision, ⟨hp, hnames⟩, h⟩ := h
  by_cases hstatus : proposal.status = .pending
  · rw [if_neg (not_not.mpr hstatus)] at h
    by_cases hreject : decision = "reject"
    · simp only [hreject, if_true, Except.ok.injEq, Prod.mk.injEq] at h
      obtain ⟨rfl, rfl⟩ := h
      exact .rejected hp hnames hstatus hreject rfl
    · rw [if_neg hreject] at h
      simp only [Except.ite_error_eq_ok, Except.bind_eq_ok, Except.ok.injEq, Prod.mk.injEq,
        Prod.exists] at h
      obtain ⟨hsupported, hedit, ref, db₁, hqueue, rfl, rfl⟩ := h
      refine .queued hp hnames hstatus ?_ hqueue ⟨rfl, rfl, rfl, rfl⟩
      by_cases happrove : decision = "approve"
      · exact .inl happrove
      · have he : decision = "edit" := by
          by_contra hne
          exact hsupported ⟨happrove, hne⟩
        refine .inr ⟨he, ?_⟩
        by_contra hempty
        exact hedit ⟨he, by simpa using hempty⟩
  · rw [if_pos hstatus] at h
    simp only [Except.ok.injEq, Prod.mk.injEq] at h
    obtain ⟨rfl, rfl⟩ := h
    exact .already hp hnames hstatus rfl

theorem queueBitableWrite_eq_ok {ref : String}
    (h : queueBitableWrite settings crypto clientToken row proposal approval db =
      .ok (ref, db')) :
    ∃ proposalPayload payload db₁,
      getJsonPayload proposal.payloadRef db = .ok proposalPayload ∧
      buildBitableOutboxPayload settings crypto clientToken proposal proposalPayload approval =
        .ok payload ∧
      enqueueJson crypto row .bitableWrite (bitableKey proposal) payload proposal.threadId none db =
        .ok (ref, db₁) ∧
      db' = markProposal proposal .approved db₁ := by
  simp only [queueBitableWrite, Except.bind_eq_ok, Except.mapError_eq_ok, Except.ok.injEq,
    Prod.exists, Prod.mk.injEq] at h
  obtain ⟨proposalPayload, hget, payload, hbuild, ref, db₁, henqueue, rfl, rfl⟩ := h
  exact ⟨proposalPayload, payload, db₁, hget, hbuild, henqueue, rfl⟩

theorem markProposal_statements {scope : Scope} {status : ProposalStatus}
    (hp : db.proposal? proposal.id = some proposal) (hpending : proposal.status = .pending)
    (hscope : scope.handle proposal.id status) :
    Statements scope db (markProposal proposal status db) := by
  refine (Relation.ReflTransGen.single (.handle hp hpending hscope)).tail (.updateThread _ ?_)
  exact fun _ => rfl

theorem proposal?_markProposal {status : ProposalStatus}
    (hp : db.proposal? proposal.id = some proposal) :
    (markProposal proposal status db).proposal? proposal.id =
      some { proposal with status := status } := by
  have hkey : ∀ row : ActionProposal,
      ({ row with status := status } : ActionProposal).id = row.id := fun _ => rfl
  change Table.find _ _ (Table.modify _ _ _ _) = _
  rw [Table.find_modify_self hkey]
  change Option.map _ (db.proposal? proposal.id) = _
  rw [hp]
  rfl

/-- The payload an execution hands to the blob store. -/
def ExecutionStores (settings : Settings) (crypto : Crypto) (clientToken : UUID) (approval : Dict)
    (db : Database) (b : ArtifactBlob) : Prop :=
  ∃ proposal decision proposalPayload payload,
    db.proposal? proposal.id = some proposal ∧ ApprovalNames approval proposal decision ∧
    getJsonPayload proposal.payloadRef db = .ok proposalPayload ∧
    buildBitableOutboxPayload settings crypto clientToken proposal proposalPayload approval =
      .ok payload ∧
    b = outboxBlob crypto payload none

theorem Executed.statements {result : ActionExecutionResult} {scope : Scope}
    (h : Executed settings crypto clientToken row approval db result db')
    (hblob : ∀ b, ExecutionStores settings crypto clientToken approval db b → scope.blob b)
    (houtbox : ∀ proposal ref, scope.outbox
      (pendingOutbox row .bitableWrite (bitableKey proposal) (some proposal.threadId) ref))
    (hhandle : ∀ id status, scope.handle id status) : Statements scope db db' := by
  cases h with
  | already => exact .refl
  | rejected hp _ hstatus => exact markProposal_statements hp hstatus (hhandle _ _)
  | queued hp hnames hstatus _ hqueue =>
    obtain ⟨proposalPayload, payload, db₁, hget, hbuild, henqueue, rfl⟩ :=
      queueBitableWrite_eq_ok hqueue
    have hstored := hblob _ ⟨_, _, _, _, hp, hnames, hget, hbuild, rfl⟩
    refine (enqueueJson_statements henqueue hstored (houtbox _)).trans
      (markProposal_statements ?_ hstatus (hhandle _ _))
    rw [enqueueJson_frame henqueue]
    exact hp

end Execute
end Headhunt.Runtime
