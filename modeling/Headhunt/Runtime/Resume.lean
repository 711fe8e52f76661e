import Mathlib.Logic.Function.Basic
import Headhunt.Feishu.Dispatcher
import Headhunt.Graphs.HumanApproval
import Headhunt.Runtime.ActionExecutor
import Headhunt.Runtime.ActionGate
import Headhunt.Runtime.Outbox

/-! `LangGraphOutboxHandler.resume_graph`: the resume value reaches the interrupted
node, and the executor runs on what that node keeps. -/
namespace Headhunt.Runtime
open Headhunt.Core Headhunt.Feishu Headhunt.Graphs Headhunt.Storage Py

/-- Where the checkpointed graph of a thread stands. -/
inductive Checkpoint
  /-- Not at the gate: not started, still on its way, or at its end. -/
  | elsewhere
  /-- Stopped in `interrupt_human_approval`, which proposes again when it is run again. -/
  | interrupted (stateThreadId : String) (request : ProposeRequest)
  /-- `interrupt_human_approval` is done and `execute_approved_action` comes next. -/
  | approved (humanApproval : Dict)

/-- What one delivery draws: the values of a proposal made again and of an outbox row. -/
structure ResumeFresh where
  action : FreshAction
  proposalToken : UUID
  clientToken : UUID
  row : RowDefaults

/-- A call of the executor with what the graph node makes of it. -/
structure Execution where
  approval : Dict
  result : Except String ActionExecutionResult

/-- The payload of a proposal carries a `client_token` drawn each time the node runs. -/
def ProposeRequest.withToken (request : ProposeRequest) (token : UUID) : ProposeRequest :=
  { request with payload := request.payload.set "client_token" (.str token.str) }

def storageDispatchError : StorageError → OutboxDispatchError
  | .outboxPayloadConflict message => ⟨message, none⟩
  | .invalidHumanApproval message => ⟨message, none⟩
  | .bitableActionNotApproved message => ⟨message, none⟩
  | .duplicateCardAction => ⟨"DuplicateCardActionError", none⟩
  | .keyError contentRef => ⟨reprText contentRef, none⟩
  | .integrity _ => ⟨"IntegrityError", none⟩

section Resume

variable (settings : Settings) (crypto : Crypto) (fresh : ResumeFresh)

/-- `execute_approved_action`: an `ActionExecutionError` ends up in the graph state. -/
def executeApprovedAction (humanApproval : Dict) (db : Database) :
    Except OutboxDispatchError (Execution × Database) :=
  match execute settings crypto fresh.clientToken fresh.row humanApproval db with
  | .ok (result, db) => .ok (⟨humanApproval, .ok result⟩, db)
  | .error (.actionExecution message) => .ok (⟨humanApproval, .error message⟩, db)
  | .error (.uncaught message) => .error ⟨message, none⟩
  | .error (.storage exc) => .error (storageDispatchError exc)

def runToEnd (humanApproval : Dict) (db : Database) :
    Checkpoint × Except OutboxDispatchError (Option Execution × Database) :=
  match executeApprovedAction settings crypto fresh humanApproval db with
  | .ok (execution, db) => (.elsewhere, .ok (some execution, db))
  | .error exc => (.approved humanApproval, .error exc)

/-- Deliver a resume value to a thread. `other` is how the invocation of a graph that
is not at the gate ends. -/
def resumeThread (other : Except OutboxDispatchError Unit) (approval : Dict)
    (checkpoint : Checkpoint) (db : Database) :
    Checkpoint × Except OutboxDispatchError (Option Execution × Database) :=
  match checkpoint with
  | .elsewhere => (.elsewhere, other.map fun _ => (none, db))
  | .approved humanApproval => runToEnd settings crypto fresh humanApproval db
  | .interrupted stateThreadId request =>
    match proposeAction crypto fresh.action (request.withToken fresh.proposalToken) db with
    | .error exc => (.interrupted stateThreadId request, .error (storageDispatchError exc))
    | .ok (proposal, db) =>
      match normalizeHumanApproval (.obj approval) stateThreadId proposal.actionId.str
          proposal.interruptId.str proposal.idempotencyKey with
      | .error message => (.interrupted stateThreadId request, .error ⟨message, none⟩)
      | .ok normalized => runToEnd settings crypto fresh normalized db

def resumeThreadId (approval : Dict) : Option UUID :=
  (approval.get "thread_id").asStr.bind UUID.parse

def resumeGraph (other : Except OutboxDispatchError Unit) (payload : Dict)
    (checkpoints : UUID → Checkpoint) (db : Database) :
    (UUID → Checkpoint) × Except OutboxDispatchError (Option Execution × Database) :=
  match feishuCardPayloadToHumanApproval payload with
  | .error message => (checkpoints, .error ⟨message, none⟩)
  | .ok approval =>
    match resumeThreadId approval with
    | none =>
      (checkpoints, .error ⟨UUID.errorText ((approval.get "thread_id").asStr.getD ""), none⟩)
    | some threadId =>
      let run := resumeThread settings crypto fresh other approval (checkpoints threadId) db
      (Function.update checkpoints threadId run.1, run.2)

/-- The approval the executor is called with, and the tables the session has then. -/
inductive Delivers (approval : Dict) (db : Database) : Checkpoint → Dict → Database → Prop
  | approved (humanApproval : Dict) : Delivers approval db (.approved humanApproval) humanApproval db
  | interrupted {stateThreadId : String} {request : ProposeRequest} {proposal : ProposedAction}
    {db₁ : Database} {normalized : Dict}
    (hpropose : proposeAction crypto fresh.action (request.withToken fresh.proposalToken) db =
      .ok (proposal, db₁))
    (hnormalize : normalizeHumanApproval (.obj approval) stateThreadId proposal.actionId.str
      proposal.interruptId.str proposal.idempotencyKey = .ok normalized) :
    Delivers approval db (.interrupted stateThreadId request) normalized db₁

variable {settings crypto fresh} {approval payload : Dict} {checkpoint : Checkpoint}
  {checkpoints : UUID → Checkpoint} {db db' : Database} {other : Except OutboxDispatchError Unit}

/-- A delivery that returns has left the graph alone, or run it to its end. -/
theorem resumeThread_eq_ok {execution : Option Execution}
    (h : (resumeThread settings crypto fresh other approval checkpoint db).2 =
      .ok (execution, db')) :
    (checkpoint = .elsewhere ∧ execution = none ∧ db' = db) ∨
      ∃ humanApproval db₁ e, Delivers crypto fresh approval db checkpoint humanApproval db₁ ∧
        execution = some e ∧
        executeApprovedAction settings crypto fresh humanApproval db₁ = .ok (e, db') := by
  have hrun : ∀ {humanApproval db₁},
      (runToEnd settings crypto fresh humanApproval db₁).2 = .ok (execution, db') →
      ∃ e, execution = some e ∧
        executeApprovedAction settings crypto fresh humanApproval db₁ = .ok (e, db') := by
    intro humanApproval db₁ hend
    unfold runToEnd at hend
    cases he : executeApprovedAction settings crypto fresh humanApproval db₁ with
    | error exc => simp [he] at hend
    | ok r =>
      simp only [he, Except.ok.injEq, Prod.mk.injEq] at hend
      exact ⟨r.1, hend.1.symm, by rw [← hend.2]⟩
  cases checkpoint with
  | elsewhere =>
    simp only [resumeThread, Except.map_eq_ok, Prod.mk.injEq] at h
    obtain ⟨_, _, rfl, rfl⟩ := h
    exact .inl ⟨rfl, rfl, rfl⟩
  | approved humanApproval =>
    obtain ⟨e, he, hexec⟩ := hrun h
    exact .inr ⟨humanApproval, db, e, .approved humanApproval, he, hexec⟩
  | interrupted stateThreadId request =>
    unfold resumeThread at h
    cases hpropose : proposeAction crypto fresh.action (request.withToken fresh.proposalToken)
        db with
    | error exc => simp [hpropose] at h
    | ok r =>
      obtain ⟨proposal, db₁⟩ := r
      simp only [hpropose] at h
      cases hnormalize : normalizeHumanApproval (.obj approval) stateThreadId
          proposal.actionId.str proposal.interruptId.str proposal.idempotencyKey with
      | error message => simp [hnormalize] at h
      | ok normalized =>
        simp only [hnormalize] at h
        obtain ⟨e, he, hexec⟩ := hrun h
        exact .inr ⟨normalized, db₁, e, .interrupted hpropose hnormalize, he, hexec⟩

/-- The node returns what the executor did, or swallows its `ActionExecutionError`. -/
theorem executeApprovedAction_eq_ok {e : Execution}
    (h : executeApprovedAction settings crypto fresh approval db = .ok (e, db')) :
    (∃ result, e = ⟨approval, .ok result⟩ ∧
        Executed settings crypto fresh.clientToken fresh.row approval db result db') ∨
      ∃ message, e = ⟨approval, .error message⟩ ∧ db' = db ∧
        execute settings crypto fresh.clientToken fresh.row approval db =
          .error (.actionExecution message) := by
  unfold executeApprovedAction at h
  split at h
  · next result db₁ hexec =>
    simp only [Except.ok.injEq, Prod.mk.injEq] at h
    obtain ⟨rfl, rfl⟩ := h
    exact .inl ⟨result, rfl, executed_of_ok hexec⟩
  · next message hexec =>
    simp only [Except.ok.injEq, Prod.mk.injEq] at h
    obtain ⟨rfl, rfl⟩ := h
    exact .inr ⟨message, rfl, rfl, hexec⟩
  · cases h
  · cases h

/-- The payload reaches a thread and its checkpoint. -/
theorem resumeGraph_eq_ok {execution : Option Execution}
    (h : (resumeGraph settings crypto fresh other payload checkpoints db).2 =
      .ok (execution, db')) :
    ∃ approval threadId, feishuCardPayloadToHumanApproval payload = .ok approval ∧
      resumeThreadId approval = some threadId ∧
      (resumeThread settings crypto fresh other approval (checkpoints threadId) db).2 =
        .ok (execution, db') := by
  unfold resumeGraph at h
  cases happroval : feishuCardPayloadToHumanApproval payload with
  | error message => simp [happroval] at h
  | ok approval =>
    cases hthread : resumeThreadId approval with
    | none => simp [happroval, hthread] at h
    | some threadId =>
      simp only [happroval, hthread] at h
      exact ⟨approval, threadId, rfl, hthread, h⟩

end Resume
end Headhunt.Runtime
