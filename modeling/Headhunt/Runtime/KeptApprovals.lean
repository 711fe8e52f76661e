import Headhunt.Runtime.ApprovalCard
import Headhunt.Runtime.BitableItems

/-! No approval is lost. A resume row that has succeeded stands for a proposal that was handled
as it was decided, in every run whose clicks are read alike by both parsers and whose approved
proposals can be written. -/
namespace Headhunt.Runtime
open Headhunt.Core Headhunt.Feishu Headhunt.Graphs Headhunt.Schemas Headhunt.Storage Py Transition

/-- The resume value names the proposal and says what was decided. -/
structure SaysDecision (value : Dict) (proposal : ActionProposal) (decision : Decision) : Prop where
  thread : resumeThreadId value = some proposal.threadId
  key : value.get "idempotency_key" = .str proposal.idempotencyKey
  decision : value.get "decision" = .str decision.value

section Values

variable {payload value : Dict} {proposal : ActionProposal} {decision : Decision}

theorem humanApprovalPayload_eq_ok {threadId actionId interruptId idempotencyKey decision : String}
    {approver : Dict} {editedPayload payloadRef : Json}
    (h : humanApprovalPayload threadId actionId interruptId idempotencyKey decision approver
      editedPayload payloadRef = .ok value) :
    value.get "thread_id" = .str threadId ∧ value.get "idempotency_key" = .str idempotencyKey ∧
      value.get "decision" = .str decision ∧
      (decision = "edit" → nonemptyDict (dictOrNone (value.get "edited_payload")) = true) := by
  let fields := Dict.ofList
    [("thread_id", .str threadId), ("action_id", .str actionId), ("interrupt_id", .str interruptId),
      ("idempotency_key", .str idempotencyKey), ("decision", .str decision)]
  have hedit := humanApprovalPayload_ok_edit h
  have hfields : ∀ {key text : String}, (key, Json.str text) ∈
      [("thread_id", Json.str threadId), ("action_id", .str actionId),
        ("interrupt_id", .str interruptId), ("idempotency_key", .str idempotencyKey),
        ("decision", .str decision)] → fields.get key = .str text := by
    intro key text hmem
    simp only [List.mem_cons, Prod.mk.injEq, Json.str.injEq, List.not_mem_nil, or_false] at hmem
    rcases hmem with ⟨rfl, rfl⟩ | ⟨rfl, rfl⟩ | ⟨rfl, rfl⟩ | ⟨rfl, rfl⟩ | ⟨rfl, rfl⟩ <;>
      simp [fields, Dict.get_ofList, Dict.get_cons]
  obtain ⟨value', hvalue', hreads⟩ := @humanApprovalPayload_readsOff threadId actionId interruptId
    idempotencyKey decision approver editedPayload payloadRef fields (hfields (by simp))
    (hfields (by simp)) (hfields (by simp)) (hfields (by simp)) (hfields (by simp)) hedit
  obtain rfl : value' = value := Except.ok.inj (hvalue'.symm.trans h)
  refine ⟨?_, ?_, ?_, ?_⟩
  · rw [hreads.threadId]
    exact hfields (by simp)
  · rw [hreads.idempotencyKey]
    exact hfields (by simp)
  · rw [hreads.decision]
    exact hfields (by simp)
  · intro hd
    rw [hreads.editedPayload]
    exact hedit hd

/-- A resume value that edits has something to write. -/
theorem edited_of_resumeValue (h : feishuCardPayloadToHumanApproval payload = .ok value)
    (hedit : value.get "decision" = .str "edit") :
    nonemptyDict (dictOrNone (value.get "edited_payload")) = true := by
  unfold feishuCardPayloadToHumanApproval directHumanApprovalPayload at h
  dsimp only at h
  split_ifs at h
  · simp only [Except.bind_eq_ok] at h
    obtain ⟨decision, _, _, _, _, _, _, _, _, _, h⟩ := h
    obtain ⟨_, _, hdecision, hedited⟩ := humanApprovalPayload_eq_ok h
    rw [hdecision] at hedit
    exact hedited (Json.str.inj hedit)
  · simp only [Except.bind_eq_ok] at h
    obtain ⟨_, _, _, _, decision, _, _, _, _, _, _, _, h⟩ := h
    obtain ⟨_, _, hdecision, hedited⟩ := humanApprovalPayload_eq_ok h
    rw [hdecision] at hedit
    exact hedited (Json.str.inj hedit)

/-- A decision over the API is read as it was made. -/
theorem saysDecision_of_api {request : ApprovalDecisionRequest}
    (h : feishuCardPayloadToHumanApproval (buildResumePayload proposal request) = .ok value) :
    SaysDecision value proposal request.decision := by
  obtain ⟨direct, hdirect, hthread, hkey, hdecision⟩ : ∃ direct : Dict,
      (buildResumePayload proposal request).get "human_approval" = .obj direct ∧
        direct.get "thread_id" = .str proposal.threadId.str ∧
        direct.get "idempotency_key" = .str proposal.idempotencyKey ∧
        direct.get "decision" = .str request.decision.value := by
    have hget : ∀ direct : Dict,
        (Dict.ofList [("human_approval", .obj direct)]).get "human_approval" = .obj direct := by
      intro direct
      simp [Dict.get_ofList, Dict.get_cons]
    refine ⟨_, hget _, ?_⟩
    cases request.editedPayload with
    | none => simp [Dict.get_ofList, Dict.get_cons]
    | some edited =>
      dsimp only
      split_ifs
      · simp [Dict.get_set, Dict.get_ofList, Dict.get_cons]
      · simp [Dict.get_ofList, Dict.get_cons]
  have hne : direct ≠ [] := by
    rintro rfl
    cases hthread
  unfold feishuCardPayloadToHumanApproval at h
  simp only [hdirect, Json.asDict, if_pos hne, directHumanApprovalPayload, Except.bind_eq_ok,
    requiredStr_eq_ok] at h
  obtain ⟨decision, ⟨hd, _⟩, threadId, ⟨ht, _⟩, _, _, _, _, key, ⟨hk, _⟩, h⟩ := h
  obtain ⟨hthread', hkey', hdecision', _⟩ := humanApprovalPayload_eq_ok h
  rw [hthread] at ht
  rw [hkey] at hk
  rw [hdecision] at hd
  refine ⟨?_, hkey'.trans hk.symm, hdecision'.trans hd.symm⟩
  simp only [resumeThreadId, hthread', ← ht, Json.asStr, Option.bind_some, UUID.parse_str]

end Values

/-- The settings and the stored payload of a proposal have all that a Bitable write needs. -/
def Writable (settings : Settings) (stored : Dict) : Prop :=
  ∃ inner businessKind recordFields, stored.get "payload" = .obj inner ∧
    Dict.get inner "business_kind" = .str businessKind ∧ businessKind ≠ "" ∧
    (settings.feishuBitableAppToken.filter (· ≠ "")).isSome ∧
    ((tableIdForBusinessKind settings businessKind).filter (· ≠ "")).isSome ∧
    Dict.get inner "record_fields" = .obj recordFields

section Execute

variable {settings : Settings} {crypto : Crypto} {fresh : ResumeFresh} {approval : Dict}
  {proposal q : ActionProposal} {decision : Decision} {db db' : Database} {e : Execution}

theorem exists_buildBitableOutboxPayload_iff {clientToken : UUID} {stored : Dict} :
    (∃ payload, buildBitableOutboxPayload settings crypto clientToken proposal stored approval =
      .ok payload) ↔ Writable settings stored := by
  unfold buildBitableOutboxPayload Writable
  cases hinner : stored.get "payload" with
  | obj inner =>
    simp only [Except.bind_eq_ok, requiredApprovalStr_eq_ok, Json.obj.injEq, exists_and_left,
      exists_eq_left']
    constructor
    · rintro ⟨payload, businessKind, ⟨hkind, hne⟩, h⟩
      split at h
      · next appToken tableId happ htable =>
        split at h
        · next recordFields hfields =>
          exact ⟨businessKind, hkind, hne, by rw [happ]; rfl, by rw [htable]; rfl, recordFields,
            hfields⟩
        · cases h
      · cases h
    · rintro ⟨businessKind, hkind, hne, happ, htable, recordFields, hfields⟩
      obtain ⟨appToken, happ⟩ := Option.isSome_iff_exists.mp happ
      obtain ⟨tableId, htable⟩ := Option.isSome_iff_exists.mp htable
      refine exists_comm.mp ⟨businessKind, ?_⟩
      rw [happ, htable, hfields]
      exact ⟨_, ⟨hkind, hne⟩, rfl⟩
  | _ => simp

theorem ApprovalNames.unique {text text' : String} (h : ApprovalNames approval proposal text)
    (h' : ApprovalNames approval q text') : proposal.id = q.id ∧ text = text' := by
  obtain ⟨id, hid, _, hparse⟩ := h.actionId
  obtain ⟨id', hid', _, hparse'⟩ := h'.actionId
  rw [hid, Json.str.injEq] at hid'
  subst hid'
  have hdecision := h.decision.1.symm.trans h'.decision.1
  exact ⟨Option.some.inj (hparse.symm.trans hparse'), Json.str.inj hdecision⟩

/-- What is swallowed is a payload that cannot be built. -/
theorem not_writable_of_swallowed {clientToken : UUID} {row : RowDefaults} {message : String}
    (hp : db.proposal? proposal.id = some proposal)
    (hnames : ApprovalNames approval proposal decision.value)
    (hedited : decision = .edit →
      nonemptyDict (dictOrNone (approval.get "edited_payload")) = true)
    (h : execute settings crypto clientToken row approval db = .error (.actionExecution message)) :
    proposal.status = .pending ∧ decision ≠ .reject ∧
      ∃ stored, getJsonPayload proposal.payloadRef db = .ok stored ∧ ¬Writable settings stored := by
  unfold execute at h
  rw [proposalOfApproval_eq_ok.mpr ⟨hp, hnames⟩] at h
  simp only [bind, Except.bind] at h
  have hpending : proposal.status = .pending := by
    by_contra hne
    rw [if_pos hne] at h
    cases h
  rw [if_neg (not_not.mpr hpending)] at h
  have hreject : decision ≠ .reject := by
    rintro rfl
    cases h
  have hnot : decision.value ≠ "reject" := by
    cases decision
    · decide
    · exact absurd rfl hreject
    · decide
  have hsupported : ¬(decision.value ≠ "approve" ∧ decision.value ≠ "edit") := by
    cases decision
    · simp [Decision.value]
    · exact absurd rfl hreject
    · simp [Decision.value]
  have hedit : ¬(decision.value = "edit" ∧
      nonemptyDict (dictOrNone (approval.get "edited_payload")) = false) := by
    rintro ⟨hvalue, hempty⟩
    have hd : decision = .edit := by
      cases decision <;> simp [Decision.value] at hvalue ⊢
    rw [hedited hd] at hempty
    cases hempty
  rw [if_neg hnot, if_neg hsupported, if_neg hedit] at h
  refine ⟨hpending, hreject, ?_⟩
  unfold queueBitableWrite at h
  cases hget : getJsonPayload proposal.payloadRef db with
  | error exc => simp [hget, bind, Except.bind, Except.mapError] at h
  | ok stored =>
    refine ⟨stored, rfl, ?_⟩
    intro hwritable
    obtain ⟨payload, hbuild⟩ := (@exists_buildBitableOutboxPayload_iff settings crypto approval
      proposal clientToken stored).mpr hwritable
    cases henqueue : enqueueJson crypto row .bitableWrite (bitableKey proposal) payload
        proposal.threadId none db with
    | error exc => simp [hget, hbuild, henqueue, bind, Except.bind, Except.mapError] at h
    | ok r => simp [hget, hbuild, henqueue, bind, Except.bind, Except.mapError] at h

structure Handles (db db' : Database) (proposal : ActionProposal) (decision : Decision)
    (e : Execution) : Prop where
  handled : ∀ p ∈ db'.actionProposals, p.id = proposal.id → p.status ≠ .pending
  proposals : ∀ p ∈ db'.actionProposals, p.status ≠ .pending → p ∈ db.actionProposals ∨
    p.idempotencyKey = proposal.idempotencyKey ∧ (p.status = .rejected ∧ decision = .reject ∨
      p.status = .approved ∧ decision ≠ .reject ∧ ∃ result, e.result = .ok result ∧
        result.status = .queued ∧ result.actionId = p.id.str)
  rows : ∀ row ∈ db'.outbox, row ∈ db.outbox ∨ row.status = .pending

theorem mem_markProposal (hc : db.Constrained) (hp : db.proposal? proposal.id = some proposal)
    {status : ProposalStatus} (hq : q ∈ (markProposal proposal status db).actionProposals) :
    q = { proposal with status := status } ∨ q ∈ db.actionProposals ∧ q.id ≠ proposal.id := by
  obtain ⟨p, hmem, rfl⟩ := Table.mem_modify.mp hq
  split_ifs with hid
  · left
    rw [hc.proposalIds.eq hmem (Table.find_mem hp) hid]
  · exact .inr ⟨hmem, hid⟩

/-- The executor handles the proposal, unless it cannot be written. -/
theorem executeApprovedAction_handles (hc : db.Constrained)
    (hp : db.proposal? proposal.id = some proposal)
    (hnames : ApprovalNames approval proposal decision.value)
    (hedited : decision = .edit →
      nonemptyDict (dictOrNone (approval.get "edited_payload")) = true)
    (hwritable : proposal.status = .pending → decision ≠ .reject → ∀ stored,
      getJsonPayload proposal.payloadRef db = .ok stored → Writable settings stored)
    (h : executeApprovedAction settings crypto fresh approval db = .ok (e, db')) :
    Handles db db' proposal decision e := by
  have hsame : ∀ {p text}, db.proposal? p.id = some p → ApprovalNames approval p text →
      p = proposal ∧ text = decision.value := by
    intro p text hfound hp'
    obtain ⟨hid, htext⟩ := hp'.unique hnames
    rw [hid, hp] at hfound
    exact ⟨(Option.some.inj hfound).symm, htext⟩
  rcases executeApprovedAction_eq_ok h with ⟨result, rfl, hdone⟩ | ⟨message, rfl, rfl, hswallowed⟩
  · cases hdone with
    | already hfound hp' hstatus =>
      obtain ⟨rfl, -⟩ := hsame hfound hp'
      refine ⟨?_, fun p hmem _ => .inl hmem, fun row hrow => .inl hrow⟩
      intro p hmem hid
      rw [hc.proposalIds.eq hmem (Table.find_mem hfound) hid]
      exact hstatus
    | rejected hfound hp' hpending hreject =>
      obtain ⟨rfl, htext⟩ := hsame hfound hp'
      have hd : decision = .reject := by
        rw [hreject] at htext
        cases decision <;> simp [Decision.value] at htext ⊢
      refine ⟨?_, ?_, fun row hrow => .inl hrow⟩
      · intro p hmem hid
        rcases mem_markProposal hc hfound hmem with rfl | ⟨_, hne⟩
        · simp
        · exact absurd hid hne
      · intro p hmem _
        rcases mem_markProposal hc hfound hmem with rfl | ⟨hold, _⟩
        · exact .inr ⟨rfl, .inl ⟨rfl, hd⟩⟩
        · exact .inl hold
    | @queued q text ref _ _ hfound hp' hpending hdecision hqueue hresult =>
      obtain ⟨rfl, htext⟩ := hsame hfound hp'
      have hd : decision ≠ .reject := by
        rintro rfl
        rw [htext] at hdecision
        simp [Decision.value] at hdecision
      obtain ⟨_, payload, db₁, _, _, henqueue, rfl⟩ := queueBitableWrite_eq_ok hqueue
      have hframe := enqueueJson_frame henqueue
      have hfound₁ : db₁.proposal? q.id = some q := by
        rw [hframe]
        exact hfound
      have hstatements : Statements executionScope db db₁ :=
        enqueueJson_statements henqueue trivial fun _ => trivial
      have hc₁ := hstatements.constrained hc
      have hproposals : db₁.actionProposals = db.actionProposals := by rw [hframe]
      refine ⟨?_, ?_, ?_⟩
      · intro p hmem hid
        rcases mem_markProposal hc₁ hfound₁ hmem with rfl | ⟨_, hne⟩
        · simp
        · exact absurd hid hne
      · intro p hmem _
        rcases mem_markProposal hc₁ hfound₁ hmem with rfl | ⟨hold, _⟩
        · exact .inr ⟨rfl, .inr ⟨rfl, hd, _, rfl, hresult.1, hresult.2.1⟩⟩
        · rw [hproposals] at hold
          exact .inl hold
      · intro row hrow
        have hrow : row ∈ db₁.outbox := hrow
        rcases enqueueJson_cases henqueue with ⟨_, _, _, rfl⟩ | ⟨_, _, db₂, hstore, hinsert⟩
        · exact .inl hrow
        · obtain ⟨_, _, _, rfl⟩ := Database.insertOutbox_eq_ok.mp hinsert
          rw [storeJsonPayload_frame hstore] at hrow
          rcases List.mem_append.mp hrow with hold | hnew
          · exact .inl hold
          · rw [List.mem_singleton.mp hnew]
            exact .inr rfl
  · obtain ⟨hpending, hreject, stored, hget, hnot⟩ :=
      not_writable_of_swallowed hp hnames hedited hswallowed
    exact absurd (hwritable hpending hreject stored hget) hnot

end Execute

/-- The decision recorded under a key, and its resume row, which says the same. -/
def SaidUnder (db : Database) (key : String) (approval : HumanApproval) : Prop :=
  ∃ proposal row payload, db.proposal? approval.actionId = some proposal ∧
    proposal.idempotencyKey = key ∧ db.outboxForKey? (resumeKey key) = some row ∧
    getJsonPayload row.payloadRef db = .ok payload ∧
    ∀ value, feishuCardPayloadToHumanApproval payload = .ok value →
      SaysDecision value proposal approval.decision

def Said (db : Database) : Prop :=
  ∀ key approval, db.approvalForKey? key = some approval → SaidUnder db key approval

/-- Both parsers read the same thread, key and decision off a click. -/
def Label.ReadAlike {ω : Type*} : Label ω → Prop
  | .click _ callback =>
    match parseCardActionCommand callback (buildPayloadRef callback),
        feishuCardPayloadToHumanApproval callback.payload with
    | .ok command, .ok value => resumeThreadId value = some command.threadId ∧
      value.get "idempotency_key" = .str command.idempotencyKey ∧
      value.get "decision" = .str command.decision.value
    | _, _ => True
  | _ => True

instance {ω : Type*} (a : Label ω) : Decidable a.ReadAlike := by
  unfold Label.ReadAlike
  split
  · split <;> infer_instance
  · infer_instance

section Said

variable {ω : Type*} {settings : Settings} {crypto : Crypto} {preimage : String → Dict}
  {db db' : Database} {key : String} {approval : HumanApproval}

theorem SaidUnder.grows (h : SaidUnder db key approval) (hgrows : db.Grows db') :
    SaidUnder db' key approval := by
  obtain ⟨proposal, row, payload, hp, hkey, hrow, hget, hsaid⟩ := h
  obtain ⟨status, hp', _⟩ := hgrows.proposals hp
  obtain ⟨row', hrow', hsame⟩ := hgrows.outbox hrow
  refine ⟨_, row', payload, hp', hkey, hrow', ?_, ?_⟩
  · rw [hsame.payloadRef]
    exact hgrows.getJsonPayload hget
  · intro value hvalue
    obtain ⟨hthread, hvalueKey, hdecision⟩ := hsaid value hvalue
    exact ⟨hthread, hvalueKey, hdecision⟩

theorem Said.quiets (hs : Said db) (hc : db.Constrained) (h : Quiets preimage db db') :
    Said db' := by
  intro key approval ha
  have hmem := h.approval_origin (Table.find_mem ha)
  have ha₀ : db.approvalForKey? key = some approval :=
    (Table.find_eq_some_iff hc.approvalKeys).mpr ⟨hmem, Table.find_key ha⟩
  exact (hs key approval ha₀).grows h.grows

theorem Said.record {row : FeishuOutbox} {payload : Dict} {proposal : ActionProposal}
    (hs : Said db) (hc : db.Constrained) (h : Records preimage db db' approval row payload)
    (hp : db.proposal? approval.actionId = some proposal)
    (hkey : proposal.idempotencyKey = approval.idempotencyKey)
    (hsaid : ∀ value, feishuCardPayloadToHumanApproval payload = .ok value →
      SaysDecision value proposal approval.decision) : Said db' := by
  intro key a ha
  obtain ⟨hmem, hk⟩ := (Table.find_eq_some_iff h.constrained.approvalKeys).mp ha
  rw [h.approvals] at hmem
  rcases List.mem_append.mp hmem with hold | hnew
  · have ha₀ : db.approvalForKey? key = some a :=
      (Table.find_eq_some_iff hc.approvalKeys).mpr ⟨hold, hk⟩
    exact (hs key a ha₀).grows h.grows
  · obtain rfl := List.mem_singleton.mp hnew
    subst hk
    obtain ⟨status, hp', _⟩ := h.grows.proposals hp
    have hrow : db'.outboxForKey? (resumeKey a.idempotencyKey) = some row :=
      (Table.find_eq_some_iff h.constrained.outboxKeys).mpr ⟨by simp [h.rows], h.key⟩
    refine ⟨_, row, payload, hp', hkey, hrow, h.payload, ?_⟩
    intro value hvalue
    obtain ⟨hthread, hvalueKey, hdecision⟩ := hsaid value hvalue
    exact ⟨hthread, hvalueKey, hdecision⟩

/-- A decision that is recorded is read back as it was made. -/
theorem Said.accepts {s : System ω} {a : Label ω} (hs : Said s.db) (hd : Decided preimage s.db)
    (hnc : NoCollision settings crypto preimage s a) (hread : a.ReadAlike)
    (h : Accepts crypto s.db a db') : Said db' := by
  cases h with
  | @click row callback rawText command _ hparse htext hrecord =>
    obtain ⟨proposal, _, hp, hnames, _⟩ := recordClick_eq_ok hrecord
    have hsha : preimage callback.payloadHash = callback.payload := by
      simpa [jsonBlob] using (hnc _ ⟨"", rfl⟩).symm
    refine hs.record hd.constrained (recordClick_records hd hrecord hsha) hp hnames.idempotencyKey ?_
    intro value hvalue
    simp only [Label.ReadAlike, hparse, hvalue] at hread
    obtain ⟨hthread, hkey, hdecision⟩ := hread
    refine ⟨?_, ?_, hdecision⟩
    · rw [hthread, hnames.threadId]
      rfl
    · rw [hkey, hnames.idempotencyKey]
      rfl
  | @decide row interruptId proposal request ref _ hfind _ hfirst hrecord =>
    have hmem := (proposalForInterrupt_mem hfind).1
    have hp : s.db.proposal? proposal.id = some proposal :=
      (Table.find_eq_some_iff hd.constrained.proposalIds).mpr ⟨hmem, rfl⟩
    have hsha : preimage (stableHash crypto (buildResumePayload proposal request)) =
        buildResumePayload proposal request := by
      simpa [outboxBlob, jsonBlob] using (hnc _ ⟨_, hfind, rfl⟩).symm
    exact hs.record hd.constrained (recordDecision_records hd hmem hfirst hrecord hsha) hp rfl
      fun value hvalue => saysDecision_of_api hvalue

theorem Said.step [DecidableEq ω] {config : ω → FeishuOutboxDispatcher} {s t : System ω}
    {a : Label ω} (hs : Said s.db) (hd : Decided preimage s.db)
    (hnc : NoCollision settings crypto preimage s a) (hread : a.ReadAlike)
    (h : System.step settings crypto config s a = some t) : Said t.db := by
  rcases System.step_cases hnc h with hquiet | haccept
  · exact hs.quiets hd.constrained hquiet
  · exact hs.accepts hd hnc hread haccept

end Said

/-- The graph has gone through the gate with an approval of this proposal. -/
structure PassedBy (db : Database) (humanApproval : Dict) (proposal : ActionProposal)
    (approval : HumanApproval) : Prop where
  found : db.proposal? proposal.id = some proposal
  recorded : db.approvalForKey? proposal.idempotencyKey = some approval
  names : ApprovalNames humanApproval proposal approval.decision.value
  edited : approval.decision = .edit →
    nonemptyDict (dictOrNone (humanApproval.get "edited_payload")) = true

section Gate

variable {crypto : Crypto} {preimage : String → Dict} {db db' db₁ : Database}
  {humanApproval payload value : Dict} {proposal : ActionProposal} {approval : HumanApproval}

theorem PassedBy.grows (h : PassedBy db humanApproval proposal approval) (hgrows : db.Grows db') :
    ∃ status, PassedBy db' humanApproval { proposal with status := status } approval := by
  obtain ⟨status, hp, _⟩ := hgrows.proposals h.found
  obtain ⟨haction, hthread, hdecision, hinterrupt, hkey⟩ := h.names
  exact ⟨status, hp, hgrows.approvals h.recorded,
    ⟨haction, hthread, hdecision, hinterrupt, hkey⟩, h.edited⟩

theorem Decision.value_injective {d d' : Decision} (h : d.value = d'.value) : d = d' := by
  cases d <;> cases d' <;> simp [Decision.value] at h ⊢

structure NormalizedFields (threadId actionId interruptId idempotencyKey : String)
    (decision : Decision) (value normalized : Dict) : Prop where
  threadId : normalized.get "thread_id" = .str threadId
  actionId : normalized.get "action_id" = .str actionId
  interruptId : normalized.get "interrupt_id" = .str interruptId
  idempotencyKey : normalized.get "idempotency_key" = .str idempotencyKey
  decision : normalized.get "decision" = .str decision.value
  editedPayload : dictOrNone (normalized.get "edited_payload") =
    dictOrNone (value.get "edited_payload")

theorem normalizedFields {threadId actionId interruptId idempotencyKey : String}
    {decision : Decision} : NormalizedFields threadId actionId interruptId idempotencyKey decision
      value (normalizedApproval threadId actionId interruptId idempotencyKey decision value) := by
  unfold normalizedApproval
  cases hedited : value.get "edited_payload" <;>
    constructor <;> simp [Dict.get_set, Dict.get_ofList, Dict.get_cons, dictOrNone, hedited]

/-- What the graph keeps of a delivered decision names the proposal it was made on, which is
not proposed again. -/
theorem passedBy_of_normalize {row : FeishuOutbox} {fresh : FreshAction} {request : ProposeRequest}
    {proposed : ProposedAction} {stateThreadId : String} (hd : Decided preimage db)
    (hs : Said db) (hrow : row ∈ db.outbox) (hkind : row.kind = .resume)
    (hget : getJsonPayload row.payloadRef db = .ok payload)
    (hvalue : feishuCardPayloadToHumanApproval payload = .ok value)
    (hpropose : proposeAction crypto fresh request db = .ok (proposed, db₁))
    (hnormalize : normalizeHumanApproval (.obj value) stateThreadId proposed.actionId.str
      proposed.interruptId.str proposed.idempotencyKey = .ok humanApproval) :
    ∃ proposal approval, PassedBy db humanApproval proposal approval ∧
      row.idempotencyKey = resumeKey proposal.idempotencyKey ∧ db₁ = db := by
  obtain ⟨key, approval, _, hrowKey, happroval⟩ := hd.resumeRow row hrow (.inl hkind)
  obtain ⟨proposal, row', payload', hp, rfl, hrow', hget', hsaid⟩ := hs key approval happroval
  have hp : db.proposal? proposal.id = some proposal := (Table.find_key hp).symm ▸ hp
  obtain rfl := hd.constrained.outboxKeys.eq (Table.find_mem hrow') hrow
    ((Table.find_key hrow').trans hrowKey.symm)
  obtain rfl := Except.ok.inj (hget'.symm.trans hget)
  obtain ⟨hthread, hkey, hdecision⟩ := hsaid value hvalue
  obtain ⟨fields, decision, hfields, hanswers, hdec, _, rfl⟩ :=
    normalizeHumanApproval_eq_ok.mp hnormalize
  obtain rfl := Json.obj.inj hfields
  have hproposedKey : proposed.idempotencyKey = proposal.idempotencyKey :=
    Json.str.inj (hanswers.idempotencyKey.1.symm.trans hkey)
  obtain rfl : decision = approval.decision :=
    Decision.value_injective (Json.str.inj (hdec.symm.trans hdecision))
  have hfound : db.proposalForKey? proposal.idempotencyKey = some proposal :=
    (Table.find_eq_some_iff hd.constrained.proposalKeys).mpr ⟨Table.find_mem hp, rfl⟩
  obtain ⟨rfl, hdb⟩ : proposed = proposedAction proposal ∧ db₁ = db := by
    rcases proposeAction_eq_ok hpropose with ⟨existing, hexisting, rfl, rfl⟩ | ⟨hnone, rfl, _⟩
    · have hsame := hd.constrained.proposalKeys.eq (Table.find_mem hexisting) (Table.find_mem hp)
        hproposedKey
      rw [hsame]
      exact ⟨rfl, rfl⟩
    · have hsome : db.proposalForKey? request.idempotencyKey = some proposal := by
        have hrequest : request.idempotencyKey = proposal.idempotencyKey := hproposedKey
        rw [hrequest]
        exact hfound
      rw [hnone] at hsome
      cases hsome
  have hthreadText : UUID.parse stateThreadId = some proposal.threadId := by
    simpa [resumeThreadId, hanswers.threadId.1, Json.asStr] using hthread
  have hkeeps : NormalizedFields stateThreadId proposal.id.str proposal.interruptId.str
      proposal.idempotencyKey approval.decision value (normalizedApproval stateThreadId
        proposal.id.str proposal.interruptId.str proposal.idempotencyKey approval.decision value) :=
    normalizedFields
  dsimp only [proposedAction]
  refine ⟨proposal, approval, ⟨hp, happroval, ⟨?_, ?_, ?_, ?_, ?_⟩, ?_⟩, hrowKey, hdb⟩
  · exact ⟨proposal.id.str, hkeeps.actionId, str_ne_empty _, UUID.parse_str _⟩
  · exact ⟨_, hkeeps.threadId, hanswers.threadId.2, hthreadText⟩
  · exact ⟨hkeeps.decision, Decision.value_ne_empty _⟩
  · unfold interruptMismatch
    rw [hkeeps.interruptId]
    simp
  · exact ⟨hkeeps.idempotencyKey, hanswers.idempotencyKey.2⟩
  · intro hedit
    have hedited := edited_of_resumeValue hvalue (by rw [hdecision, hedit]; rfl)
    rw [hkeeps.editedPayload]
    exact hedited

end Gate

section Deliver

variable {ω : Type*}

/-- What a worker delivers: its row, and the thread of the value. -/
def deliveredTo (s : System ω) (w : ω) : Option (Held × UUID) :=
  (s.held w).bind fun held =>
    match getJsonPayload held.item.payloadRef s.db with
    | .error _ => none
    | .ok payload =>
      match feishuCardPayloadToHumanApproval payload with
      | .error _ => none
      | .ok value => (resumeThreadId value).map fun threadId => (held, threadId)

/-- The graph waits for the decision of this row, or has gone on with it. -/
def Checkpoint.Awaits (key : String) : Checkpoint → Prop
  | .elsewhere => False
  | .interrupted _ _ => True
  | .approved humanApproval =>
    (humanApproval.get "idempotency_key").asStr.map resumeKey = some key

instance (key : String) (checkpoint : Checkpoint) : Decidable (checkpoint.Awaits key) := by
  cases checkpoint <;> unfold Checkpoint.Awaits <;> infer_instance

/-- What is assumed of LangGraph: a value that is delivered reaches the gate it is for. This leaves
out a delivery that is made again because the commit of the row was lost: the checkpoint is past
the gate by then. -/
def Label.AtGate (s : System ω) : Label ω → Prop
  | .finishResume w _ _ true =>
    ∀ p ∈ deliveredTo s w, (s.checkpoints p.2).Awaits p.1.item.idempotencyKey
  | _ => True

instance (s : System ω) (a : Label ω) : Decidable (a.AtGate s) := by
  unfold Label.AtGate
  split <;> infer_instance

/-- An approval or edit that is delivered for a pending proposal can be written. -/
def Label.CanBeWritten (settings : Settings) (s : System ω) : Label ω → Prop
  | .finishResume w _ _ true =>
    ∀ held, s.held w = some held → ∀ p ∈ s.db.actionProposals,
      held.item.idempotencyKey = resumeKey p.idempotencyKey → p.status = .pending →
      ∀ approval, s.db.approvalForKey? p.idempotencyKey = some approval →
        approval.decision ≠ .reject →
        ∀ stored, getJsonPayload p.payloadRef s.db = .ok stored → Writable settings stored
  | _ => True

def Handled (db : Database) (executions : List Execution) (proposal : ActionProposal) : Prop :=
  ∃ approval, db.approvalForKey? proposal.idempotencyKey = some approval ∧
    (proposal.status = .rejected ∧ approval.decision = .reject ∨
      proposal.status = .approved ∧ approval.decision ≠ .reject ∧
        ∃ e ∈ executions, ∃ result, e.result = .ok result ∧ result.status = .queued ∧
          result.actionId = proposal.id.str)

/-- A resume row that has succeeded leaves its proposal handled. -/
def Delivered (db : Database) : Prop :=
  ∀ row ∈ db.outbox, row.status = .succeeded → ∀ p ∈ db.actionProposals,
    row.idempotencyKey = resumeKey p.idempotencyKey → p.status ≠ .pending

structure Kept (s : System ω) : Prop where
  said : Said s.db
  handled : ∀ p ∈ s.db.actionProposals, p.status ≠ .pending → Handled s.db s.executions p
  delivered : Delivered s.db
  held : ∀ w held, s.held w = some held → ∃ row ∈ s.db.outbox, SameItem held.item row
  gates : ∀ threadId humanApproval, s.checkpoints threadId = .approved humanApproval →
    ∃ proposal approval, PassedBy s.db humanApproval proposal approval

section Step

variable [DecidableEq ω] {settings : Settings} {crypto : Crypto}
  {config : ω → FeishuOutboxDispatcher} {preimage : String → Dict} {s t : System ω} {a : Label ω}
  {db db' : Database}

omit [DecidableEq ω] in
theorem Handled.grows {executions executions' : List Execution} {p : ActionProposal}
    (h : Handled db executions p) (hgrows : db.Grows db') (hsub : executions ⊆ executions') :
    Handled db' executions' p := by
  obtain ⟨approval, happroval, hstatus⟩ := h
  refine ⟨approval, hgrows.approvals happroval, ?_⟩
  rcases hstatus with hrejected | ⟨happroved, hdecision, e, he, hresult⟩
  · exact .inl hrejected
  · exact .inr ⟨happroved, hdecision, e, hsub he, hresult⟩

omit [DecidableEq ω] in
/-- A graph goes through its gate with what it makes of the value. -/
theorem resumeThread_gate {fresh : ResumeFresh} {other : Except OutboxDispatchError Unit}
    {value humanApproval : Dict} {checkpoint : Checkpoint}
    (h : (resumeThread settings crypto fresh other value checkpoint db).1 =
      .approved humanApproval) :
    checkpoint = .approved humanApproval ∨ ∃ stateThreadId request proposed db₁,
      proposeAction crypto fresh.action (ProposeRequest.withToken request fresh.proposalToken) db =
        .ok (proposed, db₁) ∧
      normalizeHumanApproval (.obj value) stateThreadId proposed.actionId.str
        proposed.interruptId.str proposed.idempotencyKey = .ok humanApproval := by
  have hrun : ∀ {approval db₁}, (runToEnd settings crypto fresh approval db₁).1 =
      .approved humanApproval → approval = humanApproval := by
    intro approval db₁ hend
    unfold runToEnd at hend
    cases he : executeApprovedAction settings crypto fresh approval db₁ with
    | error exc =>
      simp only [he, Checkpoint.approved.injEq] at hend
      exact hend
    | ok r => simp [he] at hend
  cases checkpoint with
  | elsewhere => simp [resumeThread] at h
  | approved approval =>
    rw [hrun h]
    exact .inl rfl
  | interrupted stateThreadId request =>
    unfold resumeThread at h
    cases hpropose : proposeAction crypto fresh.action (request.withToken fresh.proposalToken)
        db with
    | error exc => simp [hpropose] at h
    | ok r =>
      obtain ⟨proposed, db₁⟩ := r
      simp only [hpropose] at h
      cases hnormalize : normalizeHumanApproval (.obj value) stateThreadId
          proposed.actionId.str proposed.interruptId.str proposed.idempotencyKey with
      | error message => simp [hnormalize] at h
      | ok normalized =>
        simp only [hnormalize] at h
        rw [hrun h] at hnormalize
        exact .inr ⟨stateThreadId, request, proposed, db₁, hpropose, hnormalize⟩

/-- What a worker holds after a step was held before, or is a row of the table. -/
theorem System.step_held {w : ω} {held : Held}
    (h : System.step settings crypto config s a = some t) (hheld : t.held w = some held) :
    s.held w = some held ∨ ∃ row ∈ s.db.outbox, SameItem held.item row := by
  have hrelease : ∀ {v : ω}, Function.update s.held v none w = some held →
      s.held w = some held := by
    intro v hv
    by_cases hw : w = v
    · subst hw
      simp at hv
    · rwa [Function.update_of_ne hw] at hv
  cases a with
  | propose fresh request stateThreadId commits =>
    simp only [System.step] at h
    by_cases hthread : UUID.parse stateThreadId = some request.threadId
    · rw [if_pos hthread] at h
      cases hpropose : proposeAction crypto fresh request s.db with
      | error exc =>
        simp only [hpropose, Option.some.injEq] at h
        subst h
        exact .inl hheld
      | ok r =>
        simp only [hpropose, Option.some.injEq] at h
        subst h
        exact .inl hheld
    · rw [if_neg hthread] at h
      cases h
  | background work =>
    simp only [System.step] at h
    split_ifs at h
    obtain rfl := Option.some.inj h
    exact .inl hheld
  | click row callback =>
    simp only [System.step] at h
    split_ifs at h
    obtain rfl := Option.some.inj h
    exact .inl hheld
  | claim v locked =>
    simp only [System.step] at h
    cases hfree : s.held v with
    | some held => simp [hfree] at h
    | none =>
      simp only [hfree] at h
      cases hclaim : (config v).claim s.clock locked s.db.outbox with
      | none =>
        simp only [hclaim, Option.some.injEq] at h
        subst h
        exact .inl hheld
      | some r =>
        simp only [hclaim, Option.some.injEq] at h
        subst h
        by_cases hw : w = v
        · subst hw
          obtain ⟨row, hrow, rfl⟩ := Option.map_eq_some_iff.mp hclaim
          have hmem := Table.first?_mem hrow
          simp only [Function.update_self, Option.some.injEq] at hheld
          subst hheld
          exact .inr ⟨row, List.mem_of_mem_filter hmem, rfl, rfl, rfl, rfl⟩
        · left
          simpa [Function.update_of_ne hw] using hheld
  | finishResume v fresh other commits =>
    obtain ⟨item, hitem, h⟩ := Option.bind_eq_some_iff.mp h
    split_ifs at h
    obtain rfl := Option.some.inj h
    refine .inl (hrelease (v := v) ?_)
    unfold System.finishResume at hheld
    dsimp only at hheld
    split at hheld
    · exact hheld
    · split_ifs at hheld
      · exact hheld
      · exact hheld
  | finishBitable v gateway =>
    obtain ⟨item, hitem, h⟩ := Option.bind_eq_some_iff.mp h
    split_ifs at h
    obtain rfl := Option.some.inj h
    exact .inl (hrelease hheld)
  | finishOther v outcome =>
    obtain ⟨item, hitem, h⟩ := Option.bind_eq_some_iff.mp h
    split_ifs at h
    obtain rfl := Option.some.inj h
    exact .inl (hrelease hheld)
  | crash v =>
    obtain rfl := Option.some.inj h
    exact .inl (hrelease hheld)
  | _ =>
    obtain rfl := Option.some.inj h
    exact .inl hheld

/-- A delivery that takes its graph through the gate. -/
structure Passes (crypto : Crypto) (s : System ω) (humanApproval : Dict) : Prop where
  passes : ∃ row : FeishuOutbox, row.kind = .resume ∧
    (∃ w held, s.held w = some held ∧ SameItem held.item row) ∧
    ∃ payload value stateThreadId fresh request proposed db₁,
      getJsonPayload row.payloadRef s.db = .ok payload ∧
      feishuCardPayloadToHumanApproval payload = .ok value ∧
      proposeAction crypto fresh request s.db = .ok (proposed, db₁) ∧
      normalizeHumanApproval (.obj value) stateThreadId proposed.actionId.str
        proposed.interruptId.str proposed.idempotencyKey = .ok humanApproval

/-- A graph is past its gate only by a delivery. -/
theorem System.step_gates {threadId : UUID} {humanApproval : Dict}
    (h : System.step settings crypto config s a = some t)
    (hgate : t.checkpoints threadId = .approved humanApproval) :
    s.checkpoints threadId = .approved humanApproval ∨ Passes crypto s humanApproval := by
  have hother : ∀ {id : UUID} {checkpoint : Checkpoint}, checkpoint ≠ .approved humanApproval →
      Function.update s.checkpoints id checkpoint threadId = .approved humanApproval →
      s.checkpoints threadId = .approved humanApproval := by
    intro id checkpoint hne hupdate
    by_cases hid : threadId = id
    · subst hid
      rw [Function.update_self] at hupdate
      exact absurd hupdate hne
    · rwa [Function.update_of_ne hid] at hupdate
  cases a with
  | propose fresh request stateThreadId commits =>
    simp only [System.step] at h
    by_cases hthread : UUID.parse stateThreadId = some request.threadId
    · rw [if_pos hthread] at h
      cases hpropose : proposeAction crypto fresh request s.db with
      | error exc =>
        simp only [hpropose, Option.some.injEq] at h
        subst h
        exact .inl hgate
      | ok r =>
        simp only [hpropose, Option.some.injEq] at h
        subst h
        exact .inl (hother (by simp) hgate)
    · rw [if_neg hthread] at h
      cases h
  | advance id =>
    obtain rfl := Option.some.inj h
    exact .inl (hother (by simp) hgate)
  | background work =>
    simp only [System.step] at h
    split_ifs at h
    obtain rfl := Option.some.inj h
    exact .inl hgate
  | click row callback =>
    simp only [System.step] at h
    split_ifs at h
    obtain rfl := Option.some.inj h
    exact .inl hgate
  | claim v locked =>
    simp only [System.step] at h
    cases hfree : s.held v with
    | some held => simp [hfree] at h
    | none =>
      simp only [hfree] at h
      cases hclaim : (config v).claim s.clock locked s.db.outbox with
      | none =>
        simp only [hclaim, Option.some.injEq] at h
        subst h
        exact .inl hgate
      | some r =>
        simp only [hclaim, Option.some.injEq] at h
        subst h
        exact .inl hgate
  | finishResume v fresh other commits =>
    obtain ⟨held, hheld, h⟩ := Option.bind_eq_some_iff.mp h
    split_ifs at h with hkind
    obtain rfl := Option.some.inj h
    have hgate : (handleResume settings crypto fresh other held.item.payloadRef s.checkpoints
        s.db).1 threadId = .approved humanApproval := by
      unfold System.finishResume at hgate
      dsimp only at hgate
      split at hgate
      · exact hgate
      · split_ifs at hgate
        · exact hgate
        · exact hgate
    unfold handleResume at hgate
    cases hget : getJsonPayload held.item.payloadRef s.db with
    | error exc =>
      simp only [hget] at hgate
      exact .inl hgate
    | ok payload =>
      simp only [hget, resumeGraph] at hgate
      cases hvalue : feishuCardPayloadToHumanApproval payload with
      | error message =>
        simp only [hvalue] at hgate
        exact .inl hgate
      | ok value =>
        simp only [hvalue] at hgate
        cases hthread : resumeThreadId value with
        | none =>
          simp only [hthread] at hgate
          exact .inl hgate
        | some id =>
          simp only [hthread] at hgate
          by_cases hid : threadId = id
          · subst hid
            rw [Function.update_self] at hgate
            rcases resumeThread_gate hgate with hsame | ⟨stateThreadId, request, proposed, db₁,
              hpropose, hnormalize⟩
            · exact .inl hsame
            · exact .inr ⟨held.item, hkind, ⟨v, held, hheld, .refl _⟩, payload, value,
                stateThreadId, fresh.action, _, proposed, db₁, hget, hvalue, hpropose, hnormalize⟩
          · rw [Function.update_of_ne hid] at hgate
            exact .inl hgate
  | finishBitable v gateway =>
    obtain ⟨item, hitem, h⟩ := Option.bind_eq_some_iff.mp h
    split_ifs at h
    obtain rfl := Option.some.inj h
    exact .inl hgate
  | finishOther v outcome =>
    obtain ⟨item, hitem, h⟩ := Option.bind_eq_some_iff.mp h
    split_ifs at h
    obtain rfl := Option.some.inj h
    exact .inl hgate
  | _ =>
    obtain rfl := Option.some.inj h
    exact .inl hgate

omit [DecidableEq ω] in
/-- A proposal of a resume row that has succeeded was handled, and stays so. -/
theorem Delivered.grows (hdel : Delivered db) (hd : Decided preimage db) (hgrows : db.Grows db')
    (hc : db'.Constrained) {row : FeishuOutbox} (hrow : row ∈ db.outbox)
    (hsucceeded : row.status = .succeeded) {p : ActionProposal} (hp : p ∈ db'.actionProposals)
    (hkey : row.idempotencyKey = resumeKey p.idempotencyKey) : p.status ≠ .pending := by
  obtain ⟨key, approval, _, hrowKey, happroval⟩ := hd.resumeRow row hrow (.inr ⟨_, hkey⟩)
  obtain ⟨old, _, _, hold, rfl, _⟩ := hd.approval happroval
  have hkeys := resumeKey_injective (hrowKey.symm.trans hkey)
  have hold : db.proposal? old.id = some old := (Table.find_key hold).symm ▸ hold
  have hhandled := hdel row hrow hsucceeded old (Table.find_mem hold) hrowKey
  have hkept := proposal?_of_grows hgrows hold hhandled
  rw [← hc.proposalKeys.eq (Table.find_mem hkept) hp hkeys]
  exact hhandled

omit [DecidableEq ω] in
theorem Kept.idle (hk : Kept s) (hd : Decided preimage s.db) (hd' : Decided preimage t.db)
    (h : Idle preimage (Finishing s) s.db t.db) (hexecutions : t.executions = s.executions) :
    (∀ p ∈ t.db.actionProposals, p.status ≠ .pending → Handled t.db t.executions p) ∧
      Delivered t.db := by
  refine ⟨?_, ?_⟩
  · intro p hp hstatus
    rw [hexecutions]
    exact (hk.handled p (h.settled p hp hstatus) hstatus).grows h.grows (List.Subset.refl _)
  · intro row' hrow' hsucceeded p hp hkey
    obtain ⟨row, hsame, horigin, hdone⟩ := h.row row' hrow'
    rcases hdone hsucceeded with hold | ⟨w, held, hheld, hkind, hid⟩
    · rw [hsame.idempotencyKey] at hkey
      rcases horigin with hrow | ⟨_, _, hpending⟩
      · exact hk.delivered.grows hd h.grows hd'.constrained hrow hold hp hkey
      · rw [hold] at hpending
        cases hpending
    · -- a row that a worker finishes is no resume row
      obtain ⟨held₀, hmem₀, hsame₀⟩ := hk.held w held hheld
      obtain ⟨held₁, hmem₁, hsame₁⟩ := exists_sameItem hd.constrained h.grows hmem₀
      have hids : row'.id = held₁.id := by rw [hid, hsame₁.id, hsame₀.id]
      obtain rfl := hd'.constrained.outboxIds.eq hrow' hmem₁ hids
      obtain ⟨_, _, hresume, _⟩ := hd'.resumeRow row' hrow' (.inr ⟨_, hkey⟩)
      rw [hsame₁.kind, hsame₀.kind] at hresume
      exact absurd hresume hkind

/-- A delivery handles the proposal of its row. -/
theorem Kept.delivery (hk : Kept s) (hs : System.Sound preimage s) (hd' : Decided preimage t.db)
    (hgrows : s.db.Grows t.db) (hgate : a.AtGate s) (hwritable : a.CanBeWritten settings s)
    (h : Delivery settings crypto config s a t) :
    (∀ p ∈ t.db.actionProposals, p.status ≠ .pending → Handled t.db t.executions p) ∧
      Delivered t.db := by
  cases h with
  | @intro w fresh other held payload value threadId execution db' _ hheld hkind hget hvalue
    hthread hrun hdb hexecutions =>
    obtain ⟨row, hrow, hitem⟩ := hk.held w held hheld
    have hgetRow : getJsonPayload row.payloadRef s.db = .ok payload := by
      rw [hitem.payloadRef]
      exact hget
    have hawaits : (s.checkpoints threadId).Awaits held.item.idempotencyKey := by
      refine hgate (held, threadId) ?_
      simp [deliveredTo, hheld, hget, hvalue, hthread]
    obtain ⟨humanApproval, proposal, approval, e, hpassed, hexec, hrowKey, rfl⟩ :
        ∃ humanApproval proposal approval e, PassedBy s.db humanApproval proposal approval ∧
          executeApprovedAction settings crypto fresh humanApproval s.db = .ok (e, db') ∧
          row.idempotencyKey = resumeKey proposal.idempotencyKey ∧ execution = some e := by
      rcases resumeThread_eq_ok hrun with ⟨helse, _⟩ | ⟨humanApproval, db₁, e, hdelivers, he, hexec⟩
      · rw [helse] at hawaits
        exact hawaits.elim
      · generalize hcheckpoint : s.checkpoints threadId = checkpoint at hdelivers hawaits
        cases hdelivers with
        | approved =>
          obtain ⟨proposal, approval, hpassed⟩ := hk.gates threadId humanApproval hcheckpoint
          refine ⟨humanApproval, proposal, approval, e, hpassed, hexec, ?_, he⟩
          simp only [Checkpoint.Awaits, hpassed.names.idempotencyKey.1, Json.asStr,
            Option.map_some, Option.some.injEq] at hawaits
          rw [hitem.idempotencyKey, hawaits]
        | interrupted hpropose hnormalize =>
          obtain ⟨proposal, approval, hpassed, hkey, rfl⟩ := passedBy_of_normalize hs.decided
            hk.said hrow (hitem.kind.trans hkind) hgetRow hvalue hpropose hnormalize
          exact ⟨humanApproval, proposal, approval, e, hpassed, hexec, hkey, he⟩
    have hproposal := Table.find_mem hpassed.found
    have hhandles : Handles s.db db' proposal approval.decision e := by
      refine executeApprovedAction_handles hs.decided.constrained hpassed.found hpassed.names
        hpassed.edited ?_ hexec
      intro hpending hdecision
      refine hwritable held hheld proposal hproposal ?_ hpending approval hpassed.recorded hdecision
      rw [← hitem.idempotencyKey, hrowKey]
    have hproposals : t.db.actionProposals = db'.actionProposals := by
      rw [hdb]
      rfl
    refine ⟨?_, ?_⟩
    · intro p hp hstatus
      rw [hproposals] at hp
      rw [hexecutions]
      rcases hhandles.proposals p hp hstatus with hold | ⟨hkey, hnew⟩
      · exact (hk.handled p hold hstatus).grows hgrows (List.subset_append_left _ _)
      · refine ⟨approval, ?_, ?_⟩
        · rw [hkey]
          exact hgrows.approvals hpassed.recorded
        · rcases hnew with hrejected | ⟨happroved, hdecision, hresult⟩
          · exact .inl hrejected
          · exact .inr ⟨happroved, hdecision, e, by simp, hresult⟩
    · intro row' hrow' hsucceeded p hp hkey
      have hfinish : Statements { succeed := fun id => id = held.item.id } db' t.db := by
        rw [hdb]
        exact finish_statements _ _ _ _ fun _ => rfl
      obtain ⟨row₁, horigin, hsame, hdone⟩ := hfinish.outbox_origin hrow'
      have hmem₁ : row₁ ∈ db'.outbox := horigin.resolve_right fun hnew => hnew.1.elim
      rcases hdone hsucceeded with hold | hid
      · rw [hsame.idempotencyKey] at hkey
        rcases hhandles.rows row₁ hmem₁ with hmem | hpending
        · exact hk.delivered.grows hs.decided hgrows hd'.constrained hmem hold hp hkey
        · rw [hold] at hpending
          cases hpending
      · -- the row of this delivery
        obtain ⟨row₂, hmem₂, hsame₂⟩ := exists_sameItem hs.decided.constrained hgrows hrow
        have hids : row'.id = row₂.id := by rw [hid, hsame₂.id, hitem.id]
        obtain rfl := hd'.constrained.outboxIds.eq hrow' hmem₂ hids
        rw [hsame₂.idempotencyKey, hrowKey] at hkey
        obtain ⟨status, hkept, _⟩ := hgrows.proposals hpassed.found
        have hsameKey := resumeKey_injective hkey
        obtain rfl := hd'.constrained.proposalKeys.eq hp (Table.find_mem hkept) hsameKey.symm
        rw [hproposals] at hp
        exact hhandles.handled _ hp rfl

theorem Kept.step (hk : Kept s) (hs : System.Sound preimage s)
    (hnc : NoCollision settings crypto preimage s a) (hread : a.ReadAlike) (hgate : a.AtGate s)
    (hwritable : a.CanBeWritten settings s)
    (h : System.step settings crypto config s a = some t) : Kept t := by
  have hgrows := hs.decided.step_grows hnc h
  have hd' := hs.decided.step hnc h
  obtain ⟨hhandled, hdelivered⟩ : (∀ p ∈ t.db.actionProposals, p.status ≠ .pending →
      Handled t.db t.executions p) ∧ Delivered t.db := by
    rcases System.step_idle_or_delivery hnc h with ⟨hidle, hexecutions⟩ | hdelivery
    · exact hk.idle hs.decided hd' hidle hexecutions
    · exact hk.delivery hs hd' hgrows hgate hwritable hdelivery
  refine ⟨hk.said.step hs.decided hnc hread h, hhandled, hdelivered, ?_, ?_⟩
  · intro w held hheld
    obtain ⟨row, hrow, hsame⟩ : ∃ row ∈ s.db.outbox, SameItem held.item row := by
      rcases System.step_held h hheld with hbefore | hclaimed
      · exact hk.held w held hbefore
      · exact hclaimed
    obtain ⟨row', hrow', hsame'⟩ := exists_sameItem hs.decided.constrained hgrows hrow
    exact ⟨row', hrow', hsame.trans hsame'⟩
  · intro threadId humanApproval hcheckpoint
    obtain ⟨proposal, approval, hpassed⟩ : ∃ proposal approval,
        PassedBy s.db humanApproval proposal approval := by
      rcases System.step_gates h hcheckpoint with hbefore | ⟨row, hkind, ⟨w, held, hheld, hitem⟩,
        payload, value, stateThreadId, fresh, request, proposed, db₁, hget, hvalue, hpropose,
        hnormalize⟩
      · exact hk.gates threadId humanApproval hbefore
      · obtain ⟨row₀, hrow₀, hsame₀⟩ := hk.held w held hheld
        obtain ⟨proposal, approval, hpassed, _⟩ := passedBy_of_normalize hs.decided hk.said hrow₀
          (hsame₀.kind.trans (hitem.kind.symm.trans hkind))
          (by rw [hsame₀.payloadRef, ← hitem.payloadRef]; exact hget) hvalue hpropose hnormalize
        exact ⟨proposal, approval, hpassed⟩
    obtain ⟨status, hpassed'⟩ := hpassed.grows hgrows
    exact ⟨_, approval, hpassed'⟩

omit [DecidableEq ω] in
theorem Kept.initial : Kept (System.initial ω) where
  said _ _ h := by cases h
  handled _ hp := by cases hp
  delivered _ hr := by cases hr
  held _ _ h := by cases h
  gates _ _ h := by cases h

/-- Where a resume row has succeeded, its proposal was handled as the recorded approval says. -/
def ApprovalsKept (db : Database) : Prop :=
  ∀ row ∈ db.outbox, row.status = .succeeded → ∀ proposal ∈ db.actionProposals,
    row.idempotencyKey = resumeKey proposal.idempotencyKey →
    ∃ approval, db.approvalForKey? proposal.idempotencyKey = some approval ∧
      proposal.status ≠ .pending ∧
      (approval.decision = .reject → proposal.status = .rejected) ∧
      (approval.decision ≠ .reject → proposal.status = .approved ∧
        (db.outbox.filter fun row => writtenFor db row = some proposal.id).length = 1)

omit [DecidableEq ω] in
/-- An approved proposal has its item. -/
theorem System.Sound.exists_item (hs : System.Sound preimage s) {proposal : ActionProposal}
    {e : Execution} {result : ActionExecutionResult} (he : e ∈ s.executions)
    (hresult : e.result = .ok result) (hqueued : result.status = .queued)
    (hid : result.actionId = proposal.id.str) :
    ∃ row ∈ s.db.outbox, writtenFor s.db row = some proposal.id := by
  obtain ⟨row, hrow, q, hq⟩ := hs.gated.queued e he result hresult hqueued
  obtain ⟨result', hresult', _, hid', _⟩ := hq.result
  obtain rfl := Except.ok.inj (hresult'.symm.trans hresult)
  have hsame : q.id = proposal.id := UUID.str_injective (hid'.symm.trans hid)
  obtain ⟨payload, hget, hwrites⟩ := hq.stored
  refine ⟨row, hrow, ?_⟩
  unfold writtenFor
  rw [if_pos hq.kind, hget]
  simp only [hwrites.action, Json.asStr, Option.bind_some, UUID.parse_str, hsame]

omit [DecidableEq ω] in
/-- No proposal has two items. -/
theorem System.Sound.length_items_le (hs : System.Sound preimage s) {proposal : ActionProposal}
    (hp : proposal ∈ s.db.actionProposals) :
    (s.db.outbox.filter fun row => writtenFor s.db row = some proposal.id).length ≤ 1 := by
  refine hs.decided.constrained.outboxKeys.length_filter_le _ (bitableKey proposal) ?_
  intro row hrow hwritten
  obtain ⟨e, q, hqueued, hid⟩ := hs.queuedBy_of_writtenFor hrow (of_decide_eq_true hwritten)
  rw [hs.decided.constrained.proposalIds.eq hp (Table.find_mem hqueued.found) hid.symm]
  exact hqueued.key

omit [DecidableEq ω] in
theorem Kept.approvalsKept (hk : Kept s) (hs : System.Sound preimage s) : ApprovalsKept s.db := by
  intro row hrow hsucceeded proposal hp hkey
  have hpending := hk.delivered row hrow hsucceeded proposal hp hkey
  obtain ⟨approval, happroval, hstatus⟩ := hk.handled proposal hp hpending
  refine ⟨approval, happroval, hpending, ?_, ?_⟩
  · intro hreject
    rcases hstatus with ⟨hrejected, _⟩ | ⟨_, hnot, _⟩
    · exact hrejected
    · exact absurd hreject hnot
  · intro hnot
    rcases hstatus with ⟨_, hreject⟩ | ⟨happroved, _, e, he, result, hresult, hqueued, hid⟩
    · exact absurd hreject hnot
    · refine ⟨happroved, ?_⟩
      obtain ⟨item, hitem, hwritten⟩ := hs.exists_item he hresult hqueued hid
      have hmem : item ∈ s.db.outbox.filter fun row => writtenFor s.db row = some proposal.id :=
        List.mem_filter.mpr ⟨hitem, by simp [hwritten]⟩
      have hpos := List.length_pos_of_mem hmem
      have hle := hs.length_items_le hp
      omega

/-- No approval is lost in a run in which both parsers read every click alike, every value that
is delivered reaches its gate, and what is approved can be written. -/
theorem approvalsKept_of_run {run : List (Label ω)}
    (hrun : exec (System.step settings crypto config) (System.initial ω) run = some s)
    (hnc : Along (System.step settings crypto config) (NoCollision settings crypto preimage)
      (System.initial ω) run)
    (hread : Along (System.step settings crypto config) (fun _ a => a.ReadAlike)
      (System.initial ω) run)
    (hgate : Along (System.step settings crypto config) (fun s a => a.AtGate s)
      (System.initial ω) run)
    (hwritable : Along (System.step settings crypto config) (fun s a => a.CanBeWritten settings s)
      (System.initial ω) run) : ApprovalsKept s.db := by
  have hall := hnc.and (hread.and (hgate.and hwritable))
  obtain ⟨hs, hk⟩ : System.Sound preimage s ∧ Kept s := by
    refine exec_invariant (fun s => System.Sound preimage s ∧ Kept s) ?_
      ⟨System.Sound.initial, Kept.initial⟩ hall hrun
    rintro u a v ⟨hu, hku⟩ ⟨hi, hread, hgate, hwritable⟩ hstep
    have hv : System.Sound preimage v :=
      ⟨hu.decided.step hi hstep, hu.gated.step hu.decided.constrained hu.decided.digested hi hstep⟩
    exact ⟨hv, hku.step hu hi hread hgate hwritable hstep⟩
  exact hk.approvalsKept hs

end Step
end Deliver

def allWritable (settings : Settings) (crypto : Crypto) (s : System Unit) : Bool :=
  s.db.actionProposals.all fun p =>
    match getJsonPayload p.payloadRef s.db with
    | .ok stored => (buildBitableOutboxPayload settings crypto p.id p stored []).toBool
    | .error _ => true

theorem canBeWritten_of_allWritable {settings : Settings} {crypto : Crypto} {s : System Unit}
    {a : Label Unit} (h : allWritable settings crypto s = true) : a.CanBeWritten settings s := by
  unfold Label.CanBeWritten
  split
  · intro held _ p hp _ _ approval _ _ stored hstored
    have hone := List.all_eq_true.mp h p hp
    simp only [hstored] at hone
    cases hbuild : buildBitableOutboxPayload settings crypto p.id p stored [] with
    | error exc =>
      rw [hbuild] at hone
      cases hone
    | ok payload => exact exists_buildBitableOutboxPayload_iff.mp ⟨payload, hbuild⟩
  · trivial

theorem approvalsKept_of_run_approvedRun :
    ∃ s : System Unit, (s.db.actionProposals.map ActionProposal.status) = [.approved] ∧
      ApprovalsKept s.db := by
  let step := System.step calibrationSettings sizeCrypto fun _ : Unit => ⟨"worker", 5, 30, 300⟩
  have hall : ((exec step (System.initial Unit) approvedRun).any fun s =>
        s.db.actionProposals.map ActionProposal.status = [.approved]) = true ∧
      checkAlong step (fun s a => (a.stored calibrationSettings sizeCrypto s).all
        fun p => decide (approvedPreimage p.1 = p.2)) (System.initial Unit) approvedRun = true ∧
      checkAlong step (fun s a => decide a.ReadAlike && decide (a.AtGate s) &&
        allWritable calibrationSettings sizeCrypto s) (System.initial Unit) approvedRun = true := by
    decide +kernel
  obtain ⟨hend, hstored, hmeets⟩ := hall
  have hnc : Along step (NoCollision calibrationSettings sizeCrypto approvedPreimage)
      (System.initial Unit) approvedRun := by
    refine along_of_checkAlong ?_ hstored
    intro u a h
    exact noCollision_of_stored fun p hp => of_decide_eq_true (List.all_eq_true.mp h p hp)
  have hmeets : Along step (fun s a => (a.ReadAlike ∧ a.AtGate s) ∧
      a.CanBeWritten calibrationSettings s) (System.initial Unit) approvedRun := by
    refine along_of_checkAlong ?_ hmeets
    intro u a h
    simp only [Bool.and_eq_true, decide_eq_true_eq] at h
    exact ⟨h.1, canBeWritten_of_allWritable h.2⟩
  obtain ⟨s, hrun, hs⟩ := (Option.any_eq_true _ _).mp hend
  exact ⟨s, of_decide_eq_true hs, approvalsKept_of_run hrun hnc (hmeets.mono fun _ _ h => h.1.1)
    (hmeets.mono fun _ _ h => h.1.2) (hmeets.mono fun _ _ h => h.2)⟩

def NeverLosesApprovals : Prop :=
  ∀ (settings : Settings) (crypto : Crypto) (config : Unit → FeishuOutboxDispatcher)
    (preimage : String → Dict) (run : List (Label Unit)) (s : System Unit),
    exec (System.step settings crypto config) (System.initial Unit) run = some s →
    Along (System.step settings crypto config) (NoCollision settings crypto preimage)
      (System.initial Unit) run →
    Along (System.step settings crypto config) (fun s a => a.AtGate s) (System.initial Unit) run →
    ApprovalsKept s.db

def lostRun : List (Label Unit) := approvedRun.take 5

/-- Without an app token the resume row succeeds and the approved proposal stays pending. -/
theorem not_neverLosesApprovals : ¬NeverLosesApprovals := by
  let step := System.step {} sizeCrypto fun _ : Unit => ⟨"worker", 5, 30, 300⟩
  have hall : ((exec step (System.initial Unit) lostRun).any fun s =>
        s.db.outbox.map (fun row => (row.status, row.idempotencyKey)) =
            [(.succeeded, resumeKey calibrationProposal.idempotencyKey)] &&
          s.db.actionProposals.map (fun p => (p.status, p.idempotencyKey)) =
            [(.pending, calibrationProposal.idempotencyKey)]) = true ∧
      checkAlong step (fun s a => (a.stored {} sizeCrypto s).all
        fun p => decide (approvedPreimage p.1 = p.2)) (System.initial Unit) lostRun = true ∧
      checkAlong step (fun s a => decide (a.AtGate s)) (System.initial Unit) lostRun = true := by
    decide +kernel
  obtain ⟨hend, hstored, hgate⟩ := hall
  have hnc : Along step (NoCollision {} sizeCrypto approvedPreimage) (System.initial Unit)
      lostRun := by
    refine along_of_checkAlong ?_ hstored
    intro u a h
    exact noCollision_of_stored fun p hp => of_decide_eq_true (List.all_eq_true.mp h p hp)
  obtain ⟨s, hrun, hs⟩ := (Option.any_eq_true _ _).mp hend
  simp only [Bool.and_eq_true, decide_eq_true_eq] at hs
  intro hnever
  have hkept := hnever {} sizeCrypto _ approvedPreimage lostRun s hrun hnc
    (along_of_checkAlong (fun _ _ h => of_decide_eq_true h) hgate)
  obtain ⟨row, houtbox, hrow⟩ := List.map_eq_singleton_iff.mp hs.1
  obtain ⟨proposal, hproposals, hproposal⟩ := List.map_eq_singleton_iff.mp hs.2
  simp only [Prod.mk.injEq] at hrow hproposal
  obtain ⟨approval, _, hpending, _⟩ := hkept row (by simp [houtbox]) hrow.1 proposal
    (by simp [hproposals]) (by rw [hrow.2, hproposal.2])
  exact hpending hproposal.1

end Headhunt.Runtime
