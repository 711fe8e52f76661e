import Headhunt.Feishu.CardActions
import Headhunt.Storage.Transactions

/-! `FeishuCallbackService`: the transactions behind the callback endpoints. -/
namespace Headhunt.Feishu
open Headhunt.Storage Py

inductive EnqueueStatus
  | queued
  | duplicate
deriving DecidableEq, Repr

structure FeishuEnqueueResult where
  status : EnqueueStatus
  idempotencyKey : String
  payloadRef : String
deriving DecidableEq

/-- What leaves the service: a callback error, or a storage error no clause names. -/
inductive ServiceError
  | callback (exc : FeishuCallbackError)
  | storage (exc : StorageError)
deriving DecidableEq

def buildPayloadRef (callback : VerifiedFeishuCallback) : String :=
  s!"artifact://feishu-callback/{callback.payloadHash}"

def buildApprover (payload : Dict) : Dict :=
  match payload.get "event" with
  | .obj event =>
    match Dict.get event "operator" with
    | .obj operator => Dict.ofList
        [("source", .str "feishu"), ("open_id", Dict.get operator "open_id"),
          ("union_id", Dict.get operator "union_id"), ("user_id", Dict.get operator "user_id")]
    | _ => Dict.ofList [("source", .str "feishu")]
  | _ => Dict.ofList [("source", .str "feishu")]

/-- Where `enqueue_card_action` sends a click. -/
inductive CardRoute
  | taskConfirmation
  | modelProfileSetup
  | approval
deriving DecidableEq, Repr

def cardRoute (payload : Dict) : Except FeishuCallbackError CardRoute := do
  if ← isTaskConfirmationCallback payload then .ok .taskConfirmation
  else if ← isModelProfileSetupCallback payload then .ok .modelProfileSetup
  else .ok .approval

/-- The row of the click as `enqueue_card_action` hands it to the repository. -/
def cardActionRow (command : FeishuCardActionCommand) (payloadRef : String) :
    FeishuCardAction where
  eventId := command.eventId
  threadId := command.threadId
  actionId := command.actionId
  interruptId := some command.interruptId
  idempotencyKey := command.idempotencyKey
  openMessageId := command.openMessageId
  openChatId := command.openChatId
  cardUpdateTokenRef := command.cardUpdateTokenRef
  operatorOpenId := command.operatorOpenId
  decision := command.decision
  editedPayloadRef := if nonemptyDict command.editedPayload then some payloadRef else none
  status := .queued

def recordClick (row : RowDefaults) (callback : VerifiedFeishuCallback) (rawText : String)
    (command : FeishuCardActionCommand) (db : Database) : Except StorageError Database := do
  let payloadRef := buildPayloadRef callback
  let db ← storeJsonPayload payloadRef callback.payload rawText callback.payloadHash db
  recordActionAndEnqueueResume row (cardActionRow command payloadRef) command.interruptId
    payloadRef (buildApprover callback.payload) db

def clickResult (idempotencyKey payloadRef : String) (db : Database) :
    Except StorageError Database → Except ServiceError (FeishuEnqueueResult × Database)
  | .ok db => .ok (⟨.queued, idempotencyKey, payloadRef⟩, db)
  | .error .duplicateCardAction => .ok (⟨.duplicate, idempotencyKey, payloadRef⟩, db)
  | .error (.invalidHumanApproval message) => .error (.callback (.payload message))
  | .error exc => .error (.storage exc)

/-- `enqueue_card_action` after its two routing tests. -/
def enqueueApprovalClick (row : RowDefaults) (callback : VerifiedFeishuCallback) (db : Database) :
    Except ServiceError (FeishuEnqueueResult × Database) :=
  match parseCardActionCommand callback (buildPayloadRef callback) with
  | .error exc => .error (.callback exc)
  | .ok command =>
    match String.fromUTF8? callback.rawBody with
    | none => .error (.callback (.uncaught "UnicodeDecodeError"))
    | some rawText =>
      clickResult command.idempotencyKey (buildPayloadRef callback) db
        (recordClick row callback rawText command db)

section Click

variable {row : RowDefaults} {callback : VerifiedFeishuCallback} {rawText : String}
  {command : FeishuCardActionCommand} {proposal : ActionProposal} {db db' : Database}

def ClickNames (command : FeishuCardActionCommand) (payloadRef : String)
    (proposal : ActionProposal) : Prop :=
  NamesProposal (cardActionRow command payloadRef) command.interruptId proposal

/-- What a recorded click writes, and that it names a pending proposal. -/
theorem recordClick_eq_ok (h : recordClick row callback rawText command db = .ok db') :
    ∃ proposal db₁, db.proposal? command.actionId = some proposal ∧
      ClickNames command (buildPayloadRef callback) proposal ∧ proposal.status = .pending ∧
      storeJsonPayload (buildPayloadRef callback) callback.payload rawText callback.payloadHash db =
        .ok db₁ ∧
      insertActionAndResume row (cardActionRow command (buildPayloadRef callback))
        command.interruptId (buildPayloadRef callback) (buildApprover callback.payload) db₁ =
        .ok db' := by
  simp only [recordClick, Except.bind_eq_ok, recordActionAndEnqueueResume_eq_ok] at h
  obtain ⟨db₁, hstore, proposal, hp, hnames, hstatus, h⟩ := h
  have hp : db.proposal? command.actionId = some proposal := by
    rw [storeJsonPayload_frame hstore] at hp
    exact hp
  exact ⟨proposal, db₁, hp, hnames, hstatus, hstore, h⟩

/-- A click on an existing proposal that is not recorded is a duplicate or a conflict. -/
theorem recordClick_error {exc : StorageError} (hc : db.Constrained)
    (hp : db.proposal? proposal.id = some proposal)
    (hnames : ClickNames command (buildPayloadRef callback) proposal)
    (h : recordClick row callback rawText command db = .error exc) :
    exc = .duplicateCardAction ∨ ∃ message, exc = .outboxPayloadConflict message := by
  simp only [recordClick, Except.bind_eq_error] at h
  rcases h with h | ⟨db₁, hstore, h⟩
  · exact .inr (storeJsonPayload_error h)
  · have hframe := storeJsonPayload_frame hstore
    refine .inl (recordActionAndEnqueueResume_error ?_ hnames ?_ h)
    · rw [hframe, ← hnames.actionId]
      exact hp
    · rw [hframe]
      exact hc.proposalThreads proposal (Table.find_mem hp)

end Click
end Headhunt.Feishu
