import Headhunt.Storage.Models

/-! The request and response of the internal approval API. -/
namespace Headhunt.Schemas
open Headhunt.Storage Py

/-- The model validator is the last field: an edit comes with an edited payload. -/
structure ApprovalDecisionRequest where
  decision : Decision
  approver : Dict
  editedPayload : Option Dict
  edit : decision = .edit → nonemptyDict editedPayload = true

inductive ApprovalResponseStatus
  | queued
  | duplicate
  | alreadyApproved
  | alreadyRejected
  | alreadyExecuted
deriving DecidableEq, Repr

structure ApprovalDecisionResponse where
  status : ApprovalResponseStatus
  actionId : UUID
  interruptId : UUID
  threadId : UUID
  decision : Decision
  idempotencyKey : String
  outboxPayloadRef : Option String := none
  nextActions : List String
deriving DecidableEq

end Headhunt.Schemas
