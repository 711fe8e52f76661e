import Headhunt.Feishu.Cards
import Headhunt.Runtime.Stages

/-! One decision per proposal, over two channels. A decision is a HumanApproval and a
resume row, written together by one transaction; nothing writes either of them again. -/
namespace Headhunt.Runtime
open Headhunt.Core Headhunt.Feishu Headhunt.Schemas Headhunt.Storage Py Transition

/-- The approval and the payload behind it come from one click or one request. -/
inductive Submitted (approval : HumanApproval) (payloadRef : String) (payload : Dict) : Prop
  | click {callback : VerifiedFeishuCallback} {command : FeishuCardActionCommand}
    (hparse : parseCardActionCommand callback payloadRef = .ok command)
    (hpayload : payload = callback.payload)
    (hrow : approval = approvalOfAction (cardActionRow command payloadRef) command.interruptId
      (buildApprover callback.payload))
  | api {proposal : ActionProposal} {request : ApprovalDecisionRequest}
    (hpayload : payload = buildResumePayload proposal request)
    (hrow : approval = approvalOfRequest proposal request payloadRef)

/-- The decision recorded under a key: its proposal, its resume row and their payload. -/
def Recorded (db : Database) (key : String) (approval : HumanApproval) : Prop :=
  ∃ proposal row payload, db.proposal? approval.actionId = some proposal ∧
    proposal.idempotencyKey = key ∧ db.outboxForKey? (resumeKey key) = some row ∧
    row.kind = .resume ∧ getJsonPayload row.payloadRef db = .ok payload ∧
    Submitted approval row.payloadRef payload

structure Decided (preimage : String → Dict) (db : Database) : Prop where
  constrained : db.Constrained
  digested : db.Digested preimage
  approval : ∀ {key approval}, db.approvalForKey? key = some approval → Recorded db key approval
  resumeRow : ∀ row ∈ db.outbox, (row.kind = .resume ∨ ∃ key, row.idempotencyKey = resumeKey key) →
    ∃ key approval, row.kind = .resume ∧ row.idempotencyKey = resumeKey key ∧
      db.approvalForKey? key = some approval

theorem Recorded.grows {db db' : Database} {key : String} {approval : HumanApproval}
    (h : Recorded db key approval) (hgrow : db.Grows db') : Recorded db' key approval := by
  obtain ⟨proposal, row, payload, hp, hkey, hrow, hkind, hget, hsub⟩ := h
  obtain ⟨status, hp', _⟩ := hgrow.proposals hp
  obtain ⟨row', hrow', hsame⟩ := hgrow.outbox hrow
  refine ⟨_, row', payload, hp', hkey, hrow', hsame.kind.trans hkind, ?_, ?_⟩
  · rw [hsame.payloadRef]
    exact hgrow.getJsonPayload hget
  · rw [hsame.payloadRef]
    exact hsub

section Stage

variable {crypto : Crypto} {preimage : String → Dict} {db db' : Database}

/-- Nothing but a decision writes approvals and resume rows. -/
theorem Decided.quiet {scope : Scope} (hd : Decided preimage db) (h : Statements scope db db')
    (hblob : scope.Digested preimage)
    (houtbox : ∀ row, scope.outbox row → row.kind ≠ .resume ∧
      ∀ key, row.idempotencyKey ≠ resumeKey key)
    (happroval : ∀ approval, ¬scope.approval approval) : Decided preimage db' := by
  have hc' := h.constrained hd.constrained
  refine ⟨hc', h.digested hblob hd.digested, ?_, ?_⟩
  · intro key approval ha
    obtain ⟨hmem, hkey⟩ := (Table.find_eq_some_iff hc'.approvalKeys).mp ha
    have hold := (h.approval_origin hmem).resolve_right (happroval approval)
    have ha₀ : db.approvalForKey? key = some approval :=
      (Table.find_eq_some_iff hd.constrained.approvalKeys).mpr ⟨hold, hkey⟩
    exact (hd.approval ha₀).grows h.grows
  · intro row' hrow' hresume
    obtain ⟨row, horigin, hsame, _⟩ := h.outbox_origin hrow'
    rw [hsame.kind, hsame.idempotencyKey] at hresume
    rcases horigin with hrow | ⟨hscope, _⟩
    · obtain ⟨key, approval, hkind, hkey, ha⟩ := hd.resumeRow row hrow hresume
      exact ⟨key, approval, hsame.kind.trans hkind, hsame.idempotencyKey.trans hkey,
        h.grows.approvals ha⟩
    · obtain ⟨hkind, hkey⟩ := houtbox row hscope
      rcases hresume with hk | ⟨key, hk⟩
      · exact absurd hk hkind
      · exact absurd hk (hkey key)

structure Records (preimage : String → Dict) (db db' : Database) (approval : HumanApproval)
    (row : FeishuOutbox) (payload : Dict) : Prop where
  constrained : db'.Constrained
  digested : db'.Digested preimage
  grows : db.Grows db'
  proposal : ∃ proposal, db.proposal? approval.actionId = some proposal ∧
    proposal.idempotencyKey = approval.idempotencyKey
  first : db.approvalForKey? approval.idempotencyKey = none
  approvals : db'.humanApprovals = db.humanApprovals ++ [approval]
  rows : db'.outbox = db.outbox ++ [row]
  kind : row.kind = .resume
  key : row.idempotencyKey = resumeKey approval.idempotencyKey
  payload : getJsonPayload row.payloadRef db' = .ok payload

theorem Decided.record {approval : HumanApproval} {row : FeishuOutbox} {payload : Dict}
    (hd : Decided preimage db) (h : Records preimage db db' approval row payload)
    (hsub : Submitted approval row.payloadRef payload) : Decided preimage db' := by
  have happroval' : db'.approvalForKey? approval.idempotencyKey = some approval :=
    (Table.find_eq_some_iff h.constrained.approvalKeys).mpr ⟨by simp [h.approvals], rfl⟩
  have hrow' : db'.outboxForKey? (resumeKey approval.idempotencyKey) = some row :=
    (Table.find_eq_some_iff h.constrained.outboxKeys).mpr ⟨by simp [h.rows], h.key⟩
  refine ⟨h.constrained, h.digested, ?_, ?_⟩
  · intro key a ha
    obtain ⟨hmem, hk⟩ := (Table.find_eq_some_iff h.constrained.approvalKeys).mp ha
    rw [h.approvals] at hmem
    rcases List.mem_append.mp hmem with hold | hnew
    · have ha₀ : db.approvalForKey? key = some a :=
        (Table.find_eq_some_iff hd.constrained.approvalKeys).mpr ⟨hold, hk⟩
      exact (hd.approval ha₀).grows h.grows
    · obtain rfl := List.mem_singleton.mp hnew
      obtain rfl := hk
      obtain ⟨proposal, hp, hkey⟩ := h.proposal
      obtain ⟨status, hp', _⟩ := h.grows.proposals hp
      exact ⟨_, row, payload, hp', hkey, hrow', h.kind, h.payload, hsub⟩
  · intro r hr hresume
    rw [h.rows] at hr
    rcases List.mem_append.mp hr with hold | hnew
    · obtain ⟨key, a, hkind, hk, ha⟩ := hd.resumeRow r hold hresume
      exact ⟨key, a, hkind, hk, h.grows.approvals ha⟩
    · obtain rfl := List.mem_singleton.mp hnew
      exact ⟨_, approval, h.kind, h.key, happroval'⟩

theorem recordClick_records {row : RowDefaults} {callback : VerifiedFeishuCallback}
    {rawText : String} {command : FeishuCardActionCommand} (hd : Decided preimage db)
    (h : recordClick row callback rawText command db = .ok db')
    (hsha : preimage callback.payloadHash = callback.payload) :
    Records preimage db db'
      (approvalOfAction (cardActionRow command (buildPayloadRef callback)) command.interruptId
        (buildApprover callback.payload))
      (pendingOutbox row .resume (resumeKey command.idempotencyKey) (some command.threadId)
        (buildPayloadRef callback))
      callback.payload := by
  obtain ⟨proposal, db₁, hp, hnames, _, hstore, hinsert⟩ := recordClick_eq_ok h
  let scope : Scope :=
    { blob := fun b => b = jsonBlob (buildPayloadRef callback) callback.payload rawText
        callback.payloadHash
      outbox := fun _ => True
      approval := fun _ => True }
  have hs₁ : Statements scope db db₁ := storeJsonPayload_statements hstore rfl
  have hs : Statements scope db₁ db' :=
    insertActionAndResume_statements hinsert (fun _ => trivial) trivial
  have hall : Statements scope db db' := hs₁.trans hs
  have hscope : scope.Digested preimage := by
    rintro b rfl
    simp [jsonBlob, hsha]
  have hget := getJsonPayload_storeJsonPayload hstore (hs₁.digested hscope hd.digested) hsha
  obtain ⟨hfirst, _, _, hdb'⟩ := insertActionAndResume_eq_ok hinsert
  have hframe := storeJsonPayload_frame hstore
  rw [hframe] at hfirst
  exact
    { constrained := hall.constrained hd.constrained
      digested := hall.digested hscope hd.digested
      grows := hall.grows
      proposal := ⟨proposal, hp, hnames.idempotencyKey⟩
      first := hfirst
      approvals := by rw [hdb', hframe]
      rows := by rw [hdb', hframe]; rfl
      kind := rfl
      key := rfl
      payload := hs.grows.getJsonPayload hget }

theorem recordDecision_records {row : RowDefaults} {proposal : ActionProposal}
    {request : ApprovalDecisionRequest} {ref : String} (hd : Decided preimage db)
    (hp : proposal ∈ db.actionProposals)
    (hfirst : db.approvalForKey? proposal.idempotencyKey = none)
    (h : recordDecision crypto row proposal request db = .ok (ref, db'))
    (hsha : preimage (stableHash crypto (buildResumePayload proposal request)) =
      buildResumePayload proposal request) :
    Records preimage db db' (approvalOfRequest proposal request ref)
      (pendingOutbox row .resume (resumeKey proposal.idempotencyKey) (some proposal.threadId) ref)
      (buildResumePayload proposal request) := by
  have hnorow : db.outboxForKey? (resumeKey proposal.idempotencyKey) = none := by
    cases hrow : db.outboxForKey? (resumeKey proposal.idempotencyKey) with
    | none => rfl
    | some r =>
      obtain ⟨key, a, _, hkey, ha⟩ :=
        hd.resumeRow r (Table.find_mem hrow) (.inr ⟨_, Table.find_key hrow⟩)
      have he := resumeKey_injective (hkey.symm.trans (Table.find_key hrow))
      subst he
      rw [hfirst] at ha
      cases ha
  obtain ⟨db₁, hstore, _, _, href, hdb'⟩ := recordDecision_eq_ok hnorow h
  let scope : Scope :=
    { blob := fun b => b = outboxBlob crypto (buildResumePayload proposal request) none
      outbox := fun _ => True
      approval := fun _ => True }
  have hs : Statements scope db db' :=
    recordDecision_statements h rfl (fun _ => trivial) (fun _ => trivial)
  have hscope : scope.Digested preimage := by
    rintro b rfl
    simp [outboxBlob, jsonBlob, hsha]
  have hs₁ : Statements scope db db₁ := storeJsonPayload_statements hstore (by rw [href]; rfl)
  have hget := getJsonPayload_storeJsonPayload hstore (hs₁.digested hscope hd.digested) hsha
  have hframe := storeJsonPayload_frame hstore
  have hp₀ : db.proposal? proposal.id = some proposal :=
    (Table.find_eq_some_iff hd.constrained.proposalIds).mpr ⟨hp, rfl⟩
  exact
    { constrained := hs.constrained hd.constrained
      digested := hs.digested hscope hd.digested
      grows := hs.grows
      proposal := ⟨proposal, hp₀, rfl⟩
      first := hfirst
      approvals := by rw [hdb', hframe]
      rows := by rw [hdb', hframe]
      kind := rfl
      key := rfl
      payload := by rw [hdb']; exact hget }

end Stage

/-- A transaction of either channel on the proposal: a click that is read as an approval
and carries its ids, or a decision on the interrupt it is found under. A verified body has
been decoded before. -/
inductive AttemptOn {ω : Type*} (db : Database) (proposal : ActionProposal) : Label ω → Prop
  | click {row : RowDefaults} {callback : VerifiedFeishuCallback}
    {command : FeishuCardActionCommand}
    (hparse : parseCardActionCommand callback (buildPayloadRef callback) = .ok command)
    (htext : (String.fromUTF8? callback.rawBody).isSome)
    (hnames : ClickNames command (buildPayloadRef callback) proposal) :
    AttemptOn db proposal (.click row callback)
  | decide {row : RowDefaults} {interruptId : UUID} {request : ApprovalDecisionRequest}
    {found : ActionProposal} (hfind : proposalForInterrupt interruptId db = some found)
    (hid : found.id = proposal.id) : AttemptOn db proposal (.decide row interruptId request)

section Step

variable {ω : Type*} [DecidableEq ω] {settings : Settings} {crypto : Crypto}
  {config : ω → FeishuOutboxDispatcher} {preimage : String → Dict}

theorem Decided.quiets {db db' : Database} (hd : Decided preimage db)
    (h : Quiets preimage db db') : Decided preimage db' := by
  induction h with
  | refl => exact hd
  | tail _ hlast ih =>
    obtain ⟨h, hblob, houtbox, happroval⟩ := hlast
    exact ih.quiet h hblob houtbox happroval

inductive SubmittedBy (approval : HumanApproval) (payloadRef : String) (payload : Dict) :
    Label ω → Prop
  | click {row : RowDefaults} {callback : VerifiedFeishuCallback}
    {command : FeishuCardActionCommand}
    (hparse : parseCardActionCommand callback payloadRef = .ok command)
    (hpayload : payload = callback.payload)
    (hrow : approval = approvalOfAction (cardActionRow command payloadRef) command.interruptId
      (buildApprover callback.payload)) :
    SubmittedBy approval payloadRef payload (.click row callback)
  | decide {row : RowDefaults} {interruptId : UUID} {proposal : ActionProposal}
    {request : ApprovalDecisionRequest}
    (hpayload : payload = buildResumePayload proposal request)
    (hrow : approval = approvalOfRequest proposal request payloadRef) :
    SubmittedBy approval payloadRef payload (.decide row interruptId request)

omit [DecidableEq ω] in
theorem SubmittedBy.submitted {approval : HumanApproval} {payloadRef : String} {payload : Dict}
    {a : Label ω} (h : SubmittedBy approval payloadRef payload a) :
    Submitted approval payloadRef payload := by
  cases h with
  | click hparse hpayload hrow => exact .click hparse hpayload hrow
  | decide hpayload hrow => exact .api hpayload hrow

omit [DecidableEq ω] in
theorem Accepts.records {s : System ω} {a : Label ω} {db' : Database}
    (hd : Decided preimage s.db) (hnc : NoCollision settings crypto preimage s a)
    (h : Accepts crypto s.db a db') :
    ∃ proposal approval row payload, s.db.proposal? approval.actionId = some proposal ∧
      AttemptOn s.db proposal a ∧ Records preimage s.db db' approval row payload ∧
      SubmittedBy approval row.payloadRef payload a := by
  cases h with
  | click hparse htext hrecord =>
    obtain ⟨proposal, _, hp, hnames, _⟩ := recordClick_eq_ok hrecord
    refine ⟨proposal, _, _, _, hp, .click hparse (by simp [htext]) hnames,
      recordClick_records hd hrecord ?_, .click hparse rfl rfl⟩
    simpa [jsonBlob] using (hnc _ ⟨"", rfl⟩).symm
  | @decide _ _ proposal request ref _ hfind _ hfirst hrecord =>
    have hmem := (proposalForInterrupt_mem hfind).1
    have hp : s.db.proposal? proposal.id = some proposal :=
      (Table.find_eq_some_iff hd.constrained.proposalIds).mpr ⟨hmem, rfl⟩
    refine ⟨proposal, approvalOfRequest proposal request ref, _, _, hp, .decide hfind rfl,
      recordDecision_records hd hmem hfirst hrecord ?_, .decide rfl rfl⟩
    simpa [outboxBlob, jsonBlob] using (hnc _ ⟨_, hfind, rfl⟩).symm

theorem Decided.step {s t : System ω} {a : Label ω} (hd : Decided preimage s.db)
    (hnc : NoCollision settings crypto preimage s a)
    (h : System.step settings crypto config s a = some t) : Decided preimage t.db := by
  rcases System.step_cases hnc h with hquiet | haccept
  · exact hd.quiets hquiet
  · obtain ⟨_, approval, row, payload, _, _, hrecords, hsub⟩ := haccept.records hd hnc
    exact hd.record hrecords hsub.submitted

omit [DecidableEq ω] in
theorem Decided.initial : Decided preimage (System.initial ω).db where
  constrained := ⟨List.nodup_nil, List.nodup_nil, List.nodup_nil, List.nodup_nil, List.nodup_nil,
    by simp [System.initial]⟩
  digested := by
    intro ref b hb
    cases hb
  approval h := by cases h
  resumeRow := by simp [System.initial]

end Step

inductive Outcome
  | queued
  | duplicate
  | alreadyHandled
  | conflict
  | refused
deriving DecidableEq, Repr

def clickOutcome : Except ServiceError (FeishuEnqueueResult × Database) → Outcome
  | .ok (⟨.queued, _, _⟩, _) => .queued
  | .ok (⟨.duplicate, _, _⟩, _) => .duplicate
  | .error (.storage (.outboxPayloadConflict _)) => .conflict
  | .error _ => .refused

def decideOutcome : Except ApprovalError (ApprovalDecisionResponse × Database) → Outcome
  | .ok (response, _) =>
    match response.status with
    | .queued => .queued
    | .duplicate => .duplicate
    | _ => .alreadyHandled
  | .error (.conflict _) => .conflict
  | .error _ => .refused

def Label.outcome {ω : Type*} (crypto : Crypto) (db : Database) : Label ω → Option Outcome
  | .click row callback => some (clickOutcome (enqueueApprovalClick row callback db))
  | .decide row interruptId request =>
    some (decideOutcome (submitDecision crypto row interruptId request db))
  | _ => none

theorem coerceStoredActionValue_of_feishu {v : Json} {value : Dict}
    (h : Feishu.coerceActionValue v = .ok value) : coerceStoredActionValue v = .ok value := by
  cases v with
  | obj d => simpa [Feishu.coerceActionValue, coerceStoredActionValue] using h
  | str text =>
    unfold Feishu.coerceActionValue at h
    unfold coerceStoredActionValue
    rcases hl : loads text with e | j
    · cases e <;> simp [hl] at h
    · cases j <;> simp_all
  | _ => simp [Feishu.coerceActionValue] at h

theorem buildResumePayload_get (proposal : ActionProposal) (request : ApprovalDecisionRequest)
    {key : String} (hkey : key ≠ "human_approval") :
    (buildResumePayload proposal request).get key = .null := by
  simp [buildResumePayload, Dict.get_ofList, Dict.get_cons, hkey.symm]

/-- The edited payload of a stored decision can be looked for without an exception. -/
theorem Submitted.extractEditedPayload {approval : HumanApproval} {ref : String} {payload : Dict}
    (h : Submitted approval ref payload) : ∃ edited, extractEditedPayload payload = .ok edited := by
  have hevent : ∃ edited, editedPayloadOfEvent payload = .ok edited := by
    unfold editedPayloadOfEvent
    cases h with
    | api hpayload =>
      rw [hpayload, buildResumePayload_get _ _ (by decide)]
      exact ⟨none, rfl⟩
    | click hparse hpayload =>
      obtain ⟨value, hvalue, _⟩ := parseCardActionCommand_eq_ok hparse
      rw [← hpayload] at hvalue
      unfold extractCardActionValue payloadEvent at hvalue
      cases hev : payload.get "event" with
      | obj event =>
        simp only [hev, Json.asDict] at hvalue
        dsimp only
        cases hact : Dict.get event "action" with
        | obj action =>
          rw [hact] at hvalue
          simp only [coerceStoredActionValue_of_feishu hvalue, bind, Except.bind]
          exact ⟨_, rfl⟩
        | _ => exact ⟨none, rfl⟩
      | _ => exact ⟨none, rfl⟩
  unfold Runtime.extractEditedPayload
  split
  · exact ⟨_, rfl⟩
  · split
    · exact ⟨_, rfl⟩
    · exact hevent

theorem Submitted.editedPayloadRef {approval : HumanApproval} {ref : String} {payload : Dict}
    (h : Submitted approval ref payload) :
    approval.editedPayloadRef = none ∨ approval.editedPayloadRef = some ref := by
  cases h with
  | click _ _ hrow =>
    rw [hrow]
    simp only [approvalOfAction, cardActionRow]
    split_ifs
    · exact .inr rfl
    · exact .inl rfl
  | api _ hrow =>
    rw [hrow]
    simp only [approvalOfRequest]
    split_ifs
    · exact .inr rfl
    · exact .inl rfl

/-- A decision on a decided proposal is a duplicate or a conflict. -/
theorem repeatedDecision_cases {db : Database} {key : String} {existing : HumanApproval}
    (hrec : Recorded db key existing) (proposal : ActionProposal)
    (request : ApprovalDecisionRequest) :
    repeatedDecision existing proposal request db =
        .ok (duplicateResponse proposal request.decision) ∨
      ∃ message, repeatedDecision existing proposal request db = .error (.conflict message) := by
  obtain ⟨_, row, payload, _, _, _, _, hget, hsub⟩ := hrec
  have hexisting : ∃ edited, existingEditPayload existing db = .ok edited := by
    unfold existingEditPayload
    rcases hsub.editedPayloadRef with href | href
    · rw [href]
      exact ⟨none, rfl⟩
    · rw [href]
      by_cases hempty : row.payloadRef = ""
      · simp [hempty, Option.filter]
      · simpa [hempty, hget, Option.filter] using hsub.extractEditedPayload
  unfold repeatedDecision
  by_cases hsame : existing.decision = request.decision
  · rw [if_neg (not_not.mpr hsame)]
    by_cases hedit : request.decision = .edit
    · obtain ⟨edited, hedited⟩ := hexisting
      simp only [hedit, if_true, ensureExistingEditPayloadMatches, hedited, bind, Except.bind]
      by_cases hpayload : samePayload edited request.editedPayload = true
      · simp [hpayload]
      · simp [hpayload]
    · rw [if_neg hedit]
      exact .inl rfl
  · rw [if_pos hsame]
    exact .inr ⟨_, rfl⟩

/-- A click with the ids of an existing proposal is recorded, a duplicate or a conflict. -/
theorem click_attempt {preimage : String → Dict} {db : Database}
    {callback : VerifiedFeishuCallback} {rawText : String} {command : FeishuCardActionCommand}
    (row : RowDefaults) (proposal : ActionProposal) (hd : Decided preimage db)
    (hparse : parseCardActionCommand callback (buildPayloadRef callback) = .ok command)
    (htext : String.fromUTF8? callback.rawBody = some rawText)
    (hp : db.proposal? proposal.id = some proposal)
    (hnames : ClickNames command (buildPayloadRef callback) proposal) :
    (∃ db' result, recordClick row callback rawText command db = .ok db' ∧
        enqueueApprovalClick row callback db = .ok (result, db') ∧ result.status = .queued) ∨
      (∃ result, enqueueApprovalClick row callback db = .ok (result, db) ∧
        result.status = .duplicate) ∨
      ∃ message, enqueueApprovalClick row callback db =
        .error (.storage (.outboxPayloadConflict message)) := by
  simp only [enqueueApprovalClick, hparse, htext]
  cases hrecord : recordClick row callback rawText command db with
  | ok db' => exact .inl ⟨db', _, rfl, rfl, rfl⟩
  | error exc =>
    rcases recordClick_error hd.constrained hp hnames hrecord with rfl | ⟨message, rfl⟩
    · exact .inr (.inl ⟨_, rfl, rfl⟩)
    · exact .inr (.inr ⟨message, rfl⟩)

/-- An API decision on a proposal is recorded, answered from the tables, or a conflict. -/
theorem decide_attempt {preimage : String → Dict} {db : Database} {proposal : ActionProposal}
    {interruptId : UUID} (crypto : Crypto) (row : RowDefaults)
    (request : ApprovalDecisionRequest) (hd : Decided preimage db)
    (hfind : proposalForInterrupt interruptId db = some proposal) :
    (∃ db' ref response, proposal.status = .pending ∧
        db.approvalForKey? proposal.idempotencyKey = none ∧
        recordDecision crypto row proposal request db = .ok (ref, db') ∧
        submitDecision crypto row interruptId request db = .ok (response, db') ∧
        response.status = .queued) ∨
      (∃ response, submitDecision crypto row interruptId request db = .ok (response, db) ∧
        response.status ≠ .queued) ∨
      ∃ message, submitDecision crypto row interruptId request db = .error (.conflict message) := by
  simp only [submitDecision, hfind]
  by_cases hstatus : proposal.status = .pending
  · rw [if_neg (not_not.mpr hstatus)]
    cases hfirst : db.approvalForKey? proposal.idempotencyKey with
    | some existing =>
      rcases repeatedDecision_cases (hd.approval hfirst) proposal request with hrep | ⟨m, hrep⟩
      · simp only [hrep]
        exact .inr (.inl ⟨_, rfl, by simp [duplicateResponse]⟩)
      · simp only [hrep]
        exact .inr (.inr ⟨m, rfl⟩)
    | none =>
      cases hrecord : recordDecision crypto row proposal request db with
      | ok r => exact .inl ⟨r.2, r.1, _, hstatus, rfl, rfl, rfl, rfl⟩
      | error exc =>
        obtain ⟨message, hmessage⟩ := recordDecision_error hrecord
        exact .inr (.inr ⟨message, by simp [decisionResult, hmessage]⟩)
  · rw [if_pos hstatus]
    refine .inr (.inl ⟨_, rfl, ?_⟩)
    cases hst : proposal.status <;> simp [alreadyHandledResponse, alreadyHandledStatus, hst]

section Attempt

variable {ω : Type*} [DecidableEq ω] {settings : Settings} {crypto : Crypto}
  {config : ω → FeishuOutboxDispatcher} {preimage : String → Dict} {s t : System ω} {a : Label ω}
  {proposal : ActionProposal}

/-- The attempt is not the first decision: it says so, and changes nothing. -/
def Refused (settings : Settings) (crypto : Crypto) (config : ω → FeishuOutboxDispatcher)
    (s : System ω) (a : Label ω) : Prop :=
  (a.outcome crypto s.db = some .duplicate ∨ a.outcome crypto s.db = some .alreadyHandled ∨
      a.outcome crypto s.db = some .conflict) ∧
    System.step settings crypto config s a = some s

/-- An attempt on an existing proposal records the decision, or it is refused. -/
theorem attempt_cases {status : ProposalStatus} (hd : Decided preimage s.db)
    (hatt : AttemptOn s.db proposal a)
    (hp : s.db.proposal? proposal.id = some { proposal with status := status })
    (hstep : System.step settings crypto config s a = some t) :
    (a.outcome crypto s.db = some .queued ∧ Accepts crypto s.db a t.db) ∨
      Refused settings crypto config s a := by
  cases hatt with
  | @click row callback command hparse htext hnames =>
    obtain ⟨rawText, htext⟩ := Option.isSome_iff_exists.mp htext
    simp only [System.step] at hstep
    split_ifs at hstep with hroute
    obtain rfl := Option.some.inj hstep
    rcases click_attempt row { proposal with status := status } hd hparse htext hp
      ⟨hnames.threadId, hnames.actionId, hnames.interruptId, hnames.idempotencyKey⟩ with
      ⟨db', result, hrecord, heq, hqueued⟩ | ⟨result, heq, hdup⟩ | ⟨message, heq⟩
    · left
      refine ⟨?_, ?_⟩
      · simp only [Label.outcome, heq]
        cases result
        cases hqueued
        rfl
      · simp only [heq, commitOr]
        exact .click hparse htext hrecord
    · right
      refine ⟨.inl ?_, ?_⟩
      · simp only [Label.outcome, heq]
        cases result
        cases hdup
        rfl
      · simp only [System.step, hroute, if_true, heq, commitOr]
    · right
      refine ⟨.inr (.inr ?_), ?_⟩
      · simp only [Label.outcome, heq, clickOutcome]
      · simp only [System.step, hroute, if_true, heq, commitOr]
  | @decide row interruptId request found hfind hid =>
    obtain rfl := Option.some.inj hstep
    rcases decide_attempt crypto row request hd hfind with
      ⟨db', ref, response, hstatus, hfirst, hrecord, heq, hqueued⟩ | ⟨response, heq, hnot⟩ |
        ⟨message, heq⟩
    · left
      refine ⟨?_, ?_⟩
      · simp only [Label.outcome, heq, decideOutcome, hqueued]
      · simp only [heq, commitOr]
        exact .decide hfind hstatus hfirst hrecord
    · right
      refine ⟨?_, ?_⟩
      · cases hst : response.status <;> simp_all [Label.outcome, decideOutcome]
      · simp only [System.step, heq, commitOr]
    · right
      refine ⟨.inr (.inr ?_), ?_⟩
      · simp only [Label.outcome, heq, decideOutcome]
      · simp only [System.step, heq, commitOr]

theorem Quiets.grows {db db' : Database} (h : Quiets preimage db db') : db.Grows db' := by
  induction h with
  | refl => exact .refl db
  | tail _ hlast ih =>
    obtain ⟨h, _⟩ := hlast
    exact ih.trans h.grows

theorem Quiets.approval_origin {db db' : Database} (h : Quiets preimage db db')
    {approval : HumanApproval} (ha : approval ∈ db'.humanApprovals) :
    approval ∈ db.humanApprovals := by
  induction h with
  | refl => exact ha
  | tail _ hlast ih =>
    obtain ⟨h, _, _, happroval⟩ := hlast
    exact ih ((h.approval_origin ha).resolve_right (happroval approval))

theorem Decided.step_grows (hd : Decided preimage s.db)
    (hnc : NoCollision settings crypto preimage s a)
    (h : System.step settings crypto config s a = some t) : s.db.Grows t.db := by
  rcases System.step_cases hnc h with hquiet | haccept
  · exact hquiet.grows
  · obtain ⟨_, _, _, _, _, _, hrecords, _⟩ := haccept.records hd hnc
    exact hrecords.grows

/-- What a run keeps, and that it takes nothing back. -/
theorem Decided.run {run : List (Label ω)} (hd : Decided preimage s.db)
    (hnc : Along (System.step settings crypto config) (NoCollision settings crypto preimage) s run)
    (hrun : exec (System.step settings crypto config) s run = some t) :
    Decided preimage t.db ∧ s.db.Grows t.db := by
  refine exec_invariant (fun t => Decided preimage t.db ∧ s.db.Grows t.db) ?_
    ⟨hd, .refl s.db⟩ hnc hrun
  rintro u i v ⟨hu, hgrow⟩ hi hstep
  exact ⟨hu.step hi hstep, hgrow.trans (hu.step_grows hi hstep)⟩

omit [DecidableEq ω] in
/-- A recorded decision is answered with `queued`. -/
theorem Accepts.outcome {db db' : Database} (h : Accepts crypto db a db') :
    a.outcome crypto db = some .queued := by
  cases h with
  | click hparse htext hrecord =>
    simp only [Label.outcome, enqueueApprovalClick, hparse, htext, hrecord, clickResult,
      clickOutcome]
  | decide hfind hstatus hfirst hrecord =>
    simp only [Label.outcome, submitDecision, hfind, hstatus, hfirst, hrecord, decisionResult,
      decideOutcome, queuedResponse, ne_eq, not_true_eq_false, if_false]

/-- The payload of a submission carries the decision of its approval, as the channel
reads it; over the API also the edited payload. -/
inductive Carries (approval : HumanApproval) (payloadRef : String) (payload : Dict) :
    Label ω → Prop
  | click {row : RowDefaults} {callback : VerifiedFeishuCallback} {value : Dict}
    (hpayload : payload = callback.payload) (hvalue : extractCardActionValue payload = .ok value)
    (hdecision : value.get "decision" = .str approval.decision.value) :
    Carries approval payloadRef payload (.click row callback)
  | decide {row : RowDefaults} {interruptId : UUID} {request : ApprovalDecisionRequest}
    {humanApproval : Dict} (hpayload : payload.get "human_approval" = .obj humanApproval)
    (hdecision : humanApproval.get "decision" = .str approval.decision.value)
    (hrequest : approval.decision = request.decision)
    (hedit : approval.decision = .edit → approval.editedPayloadRef = some payloadRef ∧
      extractEditedPayload payload = .ok request.editedPayload) :
    Carries approval payloadRef payload (.decide row interruptId request)

omit [DecidableEq ω] in
theorem SubmittedBy.carries {approval : HumanApproval} {payloadRef : String} {payload : Dict}
    (h : SubmittedBy approval payloadRef payload a) : Carries approval payloadRef payload a := by
  cases h with
  | click hparse hpayload hrow =>
    obtain ⟨value, hvalue, haccepted⟩ := parseCardActionCommand_eq_ok hparse
    refine .click hpayload (hpayload ▸ hvalue) ?_
    rw [hrow]
    exact haccepted.decision
  | @decide row interruptId proposal request hpayload hrow =>
    subst hpayload hrow
    refine .decide (by simp [buildResumePayload, Dict.get_ofList, Dict.get_cons]; rfl) ?_ rfl ?_
    · cases hed : request.editedPayload with
      | none => simp [approvalOfRequest, Dict.get_ofList, Dict.get_cons]
      | some edited =>
        by_cases hempty : edited = []
        · simp [hempty, approvalOfRequest, Dict.get_ofList, Dict.get_cons]
        · simp [hempty, approvalOfRequest, Dict.get_set, Dict.get_ofList, Dict.get_cons]
    · intro hdecision
      have hdecision : request.decision = .edit := hdecision
      obtain ⟨edited, hedited, hne⟩ : ∃ edited, request.editedPayload = some edited ∧
          edited ≠ [] := by
        have hne := request.edit hdecision
        cases hed : request.editedPayload with
        | none => simp [hed, nonemptyDict] at hne
        | some edited =>
          refine ⟨edited, rfl, ?_⟩
          rintro rfl
          simp [hed, nonemptyDict] at hne
      refine ⟨by simp [approvalOfRequest, hdecision], ?_⟩
      simp [Runtime.extractEditedPayload, buildResumePayload, hedited, hne,
        Dict.get_ofList, Dict.get_cons, dictOrNone, Json.asDict]

def Creates (proposal : ActionProposal) (approval : HumanApproval) (s t : System ω) : Prop :=
  approval.actionId = proposal.id ∧ approval ∉ s.db.humanApprovals ∧
    approval ∈ t.db.humanApprovals

omit [DecidableEq ω] in
/-- A decision was recorded under a key exactly when it was recorded for its proposal. -/
theorem Decided.actionId_eq_iff {approval : HumanApproval} (hd : Decided preimage s.db)
    (hp : proposal ∈ s.db.actionProposals) (ha : approval ∈ s.db.humanApprovals) :
    approval.actionId = proposal.id ↔ approval.idempotencyKey = proposal.idempotencyKey := by
  have hfind := (Table.find_eq_some_iff hd.constrained.approvalKeys).mpr ⟨ha, rfl⟩
  obtain ⟨named, _, _, hnamed, hkey, _⟩ := hd.approval hfind
  have hmem := Table.find_mem hnamed
  have hid := Table.find_key hnamed
  constructor
  · intro h
    obtain rfl := hd.constrained.proposalIds.eq hmem hp (hid.trans h)
    exact hkey.symm
  · intro h
    obtain rfl := hd.constrained.proposalKeys.eq hmem hp (hkey.trans h)
    exact hid.symm

/-- One decision for the proposal in a run that ends in `s`. -/
structure DecidedOnce (settings : Settings) (crypto : Crypto) (config : ω → FeishuOutboxDispatcher)
    (run : List (Label ω)) (s : System ω) (proposal : ActionProposal) : Prop where
  approvals : (s.db.humanApprovals.filter fun a => a.actionId = proposal.id).length ≤ 1
  resumeRows : (s.db.outbox.filter fun r =>
    r.idempotencyKey = resumeKey proposal.idempotencyKey).length ≤ 1
  together : (∃ a ∈ s.db.humanApprovals, a.actionId = proposal.id) ↔
    ∃ r ∈ s.db.outbox, r.idempotencyKey = resumeKey proposal.idempotencyKey
  /-- The payload of the resume row is the one of the attempt that made the approval. -/
  submitted : ∀ approval ∈ s.db.humanApprovals, approval.actionId = proposal.id →
    ∀ row ∈ s.db.outbox, row.idempotencyKey = resumeKey proposal.idempotencyKey →
      ∃ payload u a v,
        Takes (System.step settings crypto config) (System.initial ω) run s u a v ∧
        AttemptOn u.db proposal a ∧ Creates proposal approval u v ∧
        SubmittedBy approval row.payloadRef payload a ∧
        getJsonPayload row.payloadRef s.db = .ok payload ∧
        Carries approval row.payloadRef payload a
  /-- Every attempt makes the approval or is refused. -/
  attempts : ∀ u a v,
    Takes (System.step settings crypto config) (System.initial ω) run s u a v →
      AttemptOn u.db proposal a → (u.db.proposal? proposal.id).isSome →
        (a.outcome crypto u.db = some .queued ∧ ∃ approval, Creates proposal approval u v) ∨
          Refused settings crypto config u a

omit [DecidableEq ω] in
theorem Decided.together (hd : Decided preimage s.db) (hp : proposal ∈ s.db.actionProposals) :
    (∃ a ∈ s.db.humanApprovals, a.actionId = proposal.id) ↔
      ∃ r ∈ s.db.outbox, r.idempotencyKey = resumeKey proposal.idempotencyKey := by
  constructor
  · rintro ⟨approval, ha, haction⟩
    have hkey := (hd.actionId_eq_iff hp ha).mp haction
    have hfind := (Table.find_eq_some_iff hd.constrained.approvalKeys).mpr ⟨ha, hkey⟩
    obtain ⟨_, row, _, _, _, hrow, _⟩ := hd.approval hfind
    exact ⟨row, Table.find_mem hrow, Table.find_key hrow⟩
  · rintro ⟨row, hrow, hkey⟩
    obtain ⟨key, approval, _, hkey', ha⟩ := hd.resumeRow row hrow (.inr ⟨_, hkey⟩)
    obtain rfl := resumeKey_injective (hkey'.symm.trans hkey)
    have hmem := Table.find_mem ha
    exact ⟨approval, hmem, (hd.actionId_eq_iff hp hmem).mpr (Table.find_key ha)⟩

/-- A step at which a HumanApproval appears is the attempt it comes from. -/
theorem Decided.appears {approval : HumanApproval} (hd : Decided preimage s.db)
    (hnc : NoCollision settings crypto preimage s a)
    (hstep : System.step settings crypto config s a = some t)
    (hnew : approval ∉ s.db.humanApprovals) (ha : approval ∈ t.db.humanApprovals) :
    ∃ proposal row payload, s.db.proposal? approval.actionId = some proposal ∧
      AttemptOn s.db proposal a ∧ Records preimage s.db t.db approval row payload ∧
      SubmittedBy approval row.payloadRef payload a := by
  rcases System.step_cases hnc hstep with hquiet | haccept
  · exact absurd (hquiet.approval_origin ha) hnew
  · obtain ⟨proposal, approval', row, payload, hp, hatt, hrecords, hsub⟩ :=
      haccept.records hd hnc
    rw [hrecords.approvals] at ha
    rcases List.mem_append.mp ha with hold | hone
    · exact absurd hold hnew
    · obtain rfl := List.mem_singleton.mp hone
      exact ⟨proposal, row, payload, hp, hatt, hrecords, hsub⟩

omit [DecidableEq ω] in
/-- The fields an attempt compares do not change. -/
theorem AttemptOn.of_ids {db : Database} {p q : ActionProposal} (h : AttemptOn db p a)
    {status : ProposalStatus} (hq : q = { p with status := status }) : AttemptOn db q a := by
  subst hq
  cases h with
  | click hparse htext hnames =>
    exact .click hparse htext
      ⟨hnames.threadId, hnames.actionId, hnames.interruptId, hnames.idempotencyKey⟩
  | decide hfind hid => exact .decide hfind hid

omit [DecidableEq ω] in
/-- An attempt is on one proposal. -/
theorem AttemptOn.id_eq {db : Database} {p q : ActionProposal} (hp : AttemptOn db p a)
    (hq : AttemptOn db q a) : p.id = q.id := by
  cases hp with
  | click hparse _ hnames =>
    cases hq with
    | click hparse' _ hnames' =>
      obtain rfl := Except.ok.inj (hparse.symm.trans hparse')
      exact hnames.actionId.trans hnames'.actionId.symm
  | decide hfind hid =>
    cases hq with
    | decide hfind' hid' =>
      obtain rfl := Option.some.inj (hfind.symm.trans hfind')
      exact hid.symm.trans hid'

/-- Around a step of a run. -/
theorem Decided.takes {u v : System ω} {run : List (Label ω)} (hd : Decided preimage s.db)
    (hnc : Along (System.step settings crypto config) (NoCollision settings crypto preimage) s run)
    (h : Takes (System.step settings crypto config) s run t u a v) :
    Decided preimage u.db ∧ NoCollision settings crypto preimage u a ∧
      System.step settings crypto config u a = some v ∧ u.db.Grows v.db ∧ v.db.Grows t.db := by
  obtain ⟨pre, post, hpre, hbefore, ha, hstep, hpost, hafter⟩ := h.along hnc
  have hu : Decided preimage u.db := (hd.run hbefore hpre).1
  have hgrow : u.db.Grows v.db := hu.step_grows ha hstep
  exact ⟨hu, ha, hstep, hgrow, ((hu.step ha hstep).run hafter hpost).2⟩

/-- Of any interleaving of clicks and API decisions, together with whatever else the
system does, one decides a proposal and all others are refused. -/
theorem one_decision_per_proposal {run : List (Label ω)}
    (hrun : exec (System.step settings crypto config) (System.initial ω) run = some s)
    (hnc : Along (System.step settings crypto config) (NoCollision settings crypto preimage)
      (System.initial ω) run)
    (hp : proposal ∈ s.db.actionProposals) :
    DecidedOnce settings crypto config run s proposal := by
  have hinit : Decided preimage (System.initial ω).db := Decided.initial
  have hd : Decided preimage s.db := (hinit.run hnc hrun).1
  have hfind : s.db.proposal? proposal.id = some proposal :=
    (Table.find_eq_some_iff hd.constrained.proposalIds).mpr ⟨hp, rfl⟩
  refine ⟨?_, ?_, hd.together hp, ?_, ?_⟩
  · refine hd.constrained.approvalKeys.length_filter_le _ proposal.idempotencyKey ?_
    intro approval ha haction
    exact (hd.actionId_eq_iff hp ha).mp (of_decide_eq_true haction)
  · refine hd.constrained.outboxKeys.length_filter_le _ (resumeKey proposal.idempotencyKey) ?_
    intro row _ hkey
    exact of_decide_eq_true hkey
  · intro approval ha haction row hrow hkey
    have hnone : approval ∉ (System.initial ω).db.humanApprovals := by simp [System.initial]
    obtain ⟨u, a, v, htakes, hu, hv⟩ :=
      exec_begins (fun t => approval ∈ t.db.humanApprovals) hnone ha hrun
    obtain ⟨hdu, hnca, hstep, hgrow, hafter⟩ := hinit.takes hnc htakes
    obtain ⟨named, row₀, payload, hnamed, hatt, hrecords, hsub⟩ := hdu.appears hnca hstep hu hv
    -- the row written then is the row there is now
    have hsame : row.payloadRef = row₀.payloadRef := by
      have hrow₀ : v.db.outboxForKey? (resumeKey approval.idempotencyKey) = some row₀ :=
        (Table.find_eq_some_iff hrecords.constrained.outboxKeys).mpr
          ⟨by simp [hrecords.rows], hrecords.key⟩
      obtain ⟨row', hrow', hsame⟩ := hafter.outbox hrow₀
      have hkey' : resumeKey approval.idempotencyKey = row.idempotencyKey := by
        rw [hkey, (hd.actionId_eq_iff hp ha).mp haction]
      obtain rfl := hd.constrained.outboxKeys.eq (Table.find_mem hrow') hrow
        ((Table.find_key hrow').trans hkey')
      exact hsame.payloadRef
    have hon : AttemptOn u.db proposal a := by
      obtain ⟨status, hnamed', _⟩ := (hgrow.trans hafter).proposals hnamed
      rw [haction, hfind] at hnamed'
      exact hatt.of_ids (Option.some.inj hnamed')
    refine ⟨payload, u, a, v, htakes, hon, ⟨haction, hu, hv⟩, hsame ▸ hsub, ?_, ?_⟩
    · rw [hsame]
      exact hafter.getJsonPayload hrecords.payload
    · rw [hsame]
      exact hsub.carries
  · intro u a v htakes hon hsome
    obtain ⟨hdu, hnca, hstep, hgrow, hafter⟩ := hinit.takes hnc htakes
    obtain ⟨p, hpu⟩ := Option.isSome_iff_exists.mp hsome
    have hstatus : u.db.proposal? proposal.id = some { proposal with status := p.status } := by
      obtain ⟨status, hps, _⟩ := (hgrow.trans hafter).proposals hpu
      rw [hfind] at hps
      rw [hpu, Option.some.inj hps]
    rcases attempt_cases hdu hon hstatus hstep with ⟨hqueued, haccept⟩ | hrefused
    · left
      obtain ⟨named, approval, row, payload, hnamed, hatt, hrecords, hsub⟩ :=
        haccept.records hdu hnca
      have hid : approval.actionId = proposal.id :=
        (Table.find_key hnamed).symm.trans (hatt.id_eq hon)
      have hnew : approval ∉ u.db.humanApprovals := fun hmem =>
        Table.find_eq_none_iff.mp hrecords.first approval hmem rfl
      exact ⟨hqueued, approval, hid, hnew, by simp [hrecords.approvals]⟩
    · exact .inr hrefused

end Attempt

/-- Digests that keep the length of the text, which tells the payloads of a small run
apart. -/
def sizeCrypto : Crypto where
  sha1 := id
  sha256 data := ⟨#[(data.size / 256).toUInt8, (data.size % 256).toUInt8]⟩
  decryptCbc _ _ _ := none

def calibrationThread : GraphThread where
  id := UUID.ofNat 1
  source := "feishu"
  sourceRef := "message"
  taskType := "requisition_calibration"
  councilMode := none
  modeReason := none
  status := .running
  stateSummary := []

def calibrationRequest : ProposeRequest where
  threadId := calibrationThread.id
  actionType := "bitable_write"
  payloadSummary := "RequisitionCalibrationDraft"
  payload := Dict.ofList
    [("business_kind", .str "RequisitionCalibrationDraft"),
      ("record_fields", .obj [("title", .str "CTO")])]
  idempotencyKey := "action:1"
  artifactRefs := []

def calibrationFresh : FreshAction := ⟨UUID.ofNat 2, UUID.ofNat 3, 0⟩

def calibrationProposal : ActionProposal := proposalRow calibrationFresh calibrationRequest

def clickPayload (decision : Decision) : Dict := Dict.ofList
  [("event", .obj [("action", .obj [("value", .obj (approvalCardValue calibrationProposal.threadId
    calibrationProposal.interruptId calibrationProposal.id calibrationProposal.idempotencyKey none
    decision))])])]

def calibrationClick (decision : Decision) : VerifiedFeishuCallback where
  payload := clickPayload decision
  rawBody := (dumps .compact (.obj (clickPayload decision))).toUTF8
  payloadHash := stableHash sizeCrypto (clickPayload decision)
  isChallenge := false
  challenge := none
  eventId := none
  eventType := "card.action.trigger"
  tenantKey := none
  appId := none
  messageId := none

def rejectRequest : ApprovalDecisionRequest where
  decision := .reject
  approver := []
  editedPayload := none
  edit h := nomatch h

/-- The payloads the run stores have 188, 238 and 349 bytes. -/
def calibrationPreimage (sha : String) : Dict :=
  if sha = "00bc" then payloadWithRefs calibrationRequest
  else if sha = "00ee" then clickPayload .approve
  else buildResumePayload calibrationProposal rejectRequest

def twoChannels : List (Label Unit) :=
  [.background (.thread calibrationThread),
    .propose calibrationFresh calibrationRequest calibrationThread.id.str true,
    .click ⟨UUID.ofNat 4, 0⟩ (calibrationClick .approve),
    .decide ⟨UUID.ofNat 5, 0⟩ calibrationProposal.interruptId rejectRequest]

/-- The click decides, and the API call is refused. -/
theorem one_decision_twoChannels :
    ∃ s : System Unit, s.db.humanApprovals.map HumanApproval.decision = [.approve] ∧
      DecidedOnce {} sizeCrypto (fun _ => ⟨"worker", 5, 30, 300⟩) twoChannels s
        calibrationProposal := by
  let step := System.step {} sizeCrypto fun _ : Unit => ⟨"worker", 5, 30, 300⟩
  have hend : (exec step (System.initial Unit) twoChannels).any (fun s =>
      s.db.humanApprovals.map HumanApproval.decision = [.approve] ∧
        calibrationProposal ∈ s.db.actionProposals) = true := by
    decide +kernel
  have hthird : (exec step (System.initial Unit) (twoChannels.take 3)).all (fun s =>
      proposalForInterrupt calibrationProposal.interruptId s.db = some calibrationProposal) =
        true := by
    decide +kernel
  have hnc : Along step (NoCollision {} sizeCrypto calibrationPreimage) (System.initial Unit)
      twoChannels := by
    refine ⟨fun _ h => h.elim, fun s₁ h₁ => ⟨?_, fun s₂ h₂ => ⟨?_, fun s₃ h₃ => ⟨?_, ?_⟩⟩⟩⟩
    · rintro b rfl
      decide +kernel
    · rintro b ⟨_, rfl⟩
      change Json.obj (clickPayload .approve) =
        .obj (calibrationPreimage (stableHash sizeCrypto (clickPayload .approve)))
      decide +kernel
    · have hexec : exec step (System.initial Unit) (twoChannels.take 3) = some s₃ :=
        exec_cons_eq_some.mpr ⟨s₁, h₁, exec_cons_eq_some.mpr ⟨s₂, h₂, exec_cons_eq_some.mpr
          ⟨s₃, h₃, rfl⟩⟩⟩
      have hfind := of_decide_eq_true ((Option.all_eq_true _ _).mp hthird s₃ hexec)
      rintro b ⟨proposal, hproposal, rfl⟩
      obtain rfl := Option.some.inj (hproposal.symm.trans hfind)
      decide +kernel
    · exact fun _ _ => trivial
  obtain ⟨s, hrun, hs⟩ := (Option.any_eq_true _ _).mp hend
  obtain ⟨happroved, hmem⟩ := of_decide_eq_true hs
  exact ⟨s, happroved, one_decision_per_proposal hrun hnc hmem⟩

end Headhunt.Runtime
