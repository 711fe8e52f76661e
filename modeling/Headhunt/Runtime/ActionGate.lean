import Headhunt.Storage.Transactions

/-! `ActionGate`: a business action becomes a proposal that waits for a human. -/
namespace Headhunt.Runtime
open Headhunt.Storage Py

structure ProposeRequest where
  threadId : UUID
  actionType : String
  payloadSummary : String
  payload : Dict
  idempotencyKey : String
  artifactRefs : List Json

structure ProposedAction where
  actionId : UUID
  interruptId : UUID
  payloadRef : String
  idempotencyKey : String
deriving DecidableEq

structure FreshAction where
  actionId : UUID
  interruptId : UUID
  now : Time

def proposedAction (proposal : ActionProposal) : ProposedAction where
  actionId := proposal.id
  interruptId := proposal.interruptId
  payloadRef := proposal.payloadRef
  idempotencyKey := proposal.idempotencyKey

def payloadWithRefs (request : ProposeRequest) : Dict := Dict.ofList
  [("action_type", .str request.actionType), ("payload_summary", .str request.payloadSummary),
    ("payload", .obj request.payload), ("artifact_refs", .arr request.artifactRefs)]

def actionPayloadRef (actionId : UUID) : String :=
  s!"artifact://action-proposal/{actionId.str}/payload/v1"

def proposalRow (fresh : FreshAction) (request : ProposeRequest) : ActionProposal where
  id := fresh.actionId
  threadId := request.threadId
  interruptId := fresh.interruptId
  actionType := request.actionType
  payloadSummary := request.payloadSummary
  payloadRef := actionPayloadRef fresh.actionId
  idempotencyKey := request.idempotencyKey
  status := .pending
  createdAt := fresh.now

def proposeAction (crypto : Crypto) (fresh : FreshAction) (request : ProposeRequest)
    (db : Database) : Except StorageError (ProposedAction × Database) :=
  match db.proposalForKey? request.idempotencyKey with
  | some existing => .ok (proposedAction existing, db)
  | none => do
    let db ← storeJsonPayload (actionPayloadRef fresh.actionId) (payloadWithRefs request)
      (dumps .compact (.obj (payloadWithRefs request))) (stableHash crypto (payloadWithRefs request))
      db
    let db ← db.insertProposalOrIgnore (proposalRow fresh request)
    match (db.proposalForKey? request.idempotencyKey).filter (·.id ≠ fresh.actionId) with
    | some persisted => .ok (proposedAction persisted, db)
    | none =>
      let summary := Dict.ofList
        [("pending_action_id", .str fresh.actionId.str),
          ("pending_interrupt_id", .str fresh.interruptId.str),
          ("pending_action_type", .str request.actionType),
          ("payload_summary", .str request.payloadSummary)]
      .ok (proposedAction (proposalRow fresh request), db.updateThread request.threadId fun row =>
        { row with status := .interrupted, stateSummary := summary })

section Propose

variable {crypto : Crypto} {fresh : FreshAction} {request : ProposeRequest}
  {proposed : ProposedAction} {db db' : Database}

def proposalBlob (crypto : Crypto) (fresh : FreshAction) (request : ProposeRequest) :
    ArtifactBlob :=
  jsonBlob (actionPayloadRef fresh.actionId) (payloadWithRefs request)
    (dumps .compact (.obj (payloadWithRefs request))) (stableHash crypto (payloadWithRefs request))

/-- The proposal is there already, or it is written with its payload. -/
theorem proposeAction_eq_ok (h : proposeAction crypto fresh request db = .ok (proposed, db')) :
    (∃ p, db.proposalForKey? request.idempotencyKey = some p ∧ proposed = proposedAction p ∧
        db' = db) ∨
      (db.proposalForKey? request.idempotencyKey = none ∧
        proposed = proposedAction (proposalRow fresh request) ∧
        ∃ db₁ db₂ summary, storeJsonPayload (actionPayloadRef fresh.actionId)
            (payloadWithRefs request) (dumps .compact (.obj (payloadWithRefs request)))
            (stableHash crypto (payloadWithRefs request)) db = .ok db₁ ∧
          db₁.insertProposalOrIgnore (proposalRow fresh request) = .ok db₂ ∧
          db' = db₂.updateThread request.threadId fun row =>
            { row with status := .interrupted, stateSummary := summary }) := by
  unfold proposeAction at h
  cases hk : db.proposalForKey? request.idempotencyKey with
  | some p =>
    simp only [hk, Except.ok.injEq, Prod.mk.injEq] at h
    exact .inl ⟨p, rfl, h.1.symm, h.2.symm⟩
  | none =>
    simp only [hk, Except.bind_eq_ok] at h
    obtain ⟨db₁, hstore, db₂, hinsert, h⟩ := h
    have hk₁ : db₁.proposalForKey? request.idempotencyKey = none := by
      rw [storeJsonPayload_frame hstore]
      exact hk
    have hk₂ : db₂.proposalForKey? request.idempotencyKey = some (proposalRow fresh request) := by
      rcases Database.insertProposalOrIgnore_eq_ok.mp hinsert with ⟨hsome, _⟩ | ⟨_, _, _, rfl⟩
      · simp [proposalRow, hk₁] at hsome
      · change Table.find _ _ (_ ++ _) = _
        rw [Table.find_append_singleton,
          show Table.find _ request.idempotencyKey db₁.actionProposals = none from hk₁]
        simp [proposalRow]
    have hself : (some (proposalRow fresh request)).filter (·.id ≠ fresh.actionId) = none := by
      simp [proposalRow]
    simp only [hk₂, hself, Except.ok.injEq, Prod.mk.injEq] at h
    exact .inr ⟨rfl, h.1.symm, db₁, db₂, _, hstore, hinsert, h.2.symm⟩

theorem proposeAction_statements {scope : Scope}
    (h : proposeAction crypto fresh request db = .ok (proposed, db'))
    (hblob : scope.blob (proposalBlob crypto fresh request))
    (hproposal : scope.proposal (proposalRow fresh request)) : Statements scope db db' := by
  rcases proposeAction_eq_ok h with ⟨_, _, _, rfl⟩ | ⟨_, _, db₁, db₂, _, hstore, hinsert, rfl⟩
  · exact .refl
  · refine ((storeJsonPayload_statements hstore hblob).tail
      (.proposal hinsert hproposal rfl)).tail (.updateThread _ ?_)
    exact fun _ => rfl

end Propose
end Headhunt.Runtime
