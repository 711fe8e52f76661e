import Headhunt.Feishu.OutboxHandlers
import Headhunt.Runtime.Decisions
import Headhunt.Runtime.Deliveries

/-! Human-gated Bitable writes. Every item comes from an execution of an approved proposal,
which never has another one, and the proposal is looked at again before the gateway is called. -/
namespace Headhunt.Runtime
open Headhunt.Core Headhunt.Feishu Headhunt.Schemas Headhunt.Storage Py Transition

/-- The handler of a row reads this payload and calls the gateway. -/
structure CallsGateway (db : Database) (payloadRef : String) (payload : Dict) (call : BatchCreate) :
    Prop where
  reads : getJsonPayload payloadRef db = .ok payload
  calls : writeBitable payload db = .ok call

/-- The proposal a payload names is approved or executed. -/
def Released (db : Database) (payload : Dict) : Prop :=
  ∃ text actionId proposal, payload.get "action_id" = .str text ∧
    UUID.parse text = some actionId ∧ db.proposal? actionId = some proposal ∧
    (proposal.status = .approved ∨ proposal.status = .executed)

/-- The fields of the one record of an approval. An edit adds a field of its own. -/
inductive RecordOf (recordFields approval : Dict) : Dict → Prop
  | approve (h : approval.get "decision" = .str "approve") :
    RecordOf recordFields approval recordFields
  | edit {edited : Dict} (h : approval.get "decision" = .str "edit")
    (hedited : approval.get "edited_payload" = .obj edited) (hne : edited ≠ []) :
    RecordOf recordFields approval
      (recordFields.set "人工编辑" (.str (dumps {} (.obj edited))))

/-- The payload writes one record, made of the stored payload of the proposal. -/
structure WritesRecord (db : Database) (proposal : ActionProposal) (approval payload : Dict) :
    Prop where
  action : payload.get "action_id" = .str proposal.id.str
  record : ∃ proposalPayload inner recordFields fields,
    getJsonPayload proposal.payloadRef db = .ok proposalPayload ∧
    proposalPayload.get "payload" = .obj inner ∧
    Dict.get inner "record_fields" = .obj recordFields ∧
    RecordOf recordFields approval fields ∧
    payload.get "records" = .arr [.obj (Dict.ofList [("fields", .obj fields)])]

/-- The row was queued by this execution, for an approved proposal. -/
structure QueuedBy (db : Database) (e : Execution) (proposal : ActionProposal)
    (row : FeishuOutbox) : Prop where
  found : db.proposal? proposal.id = some proposal
  approved : proposal.status = .approved
  kind : row.kind = .bitableWrite
  key : row.idempotencyKey = bitableKey proposal
  names : ∃ decision, ApprovalNames e.approval proposal decision
  result : ∃ result, e.result = .ok result ∧ result.status = .queued ∧
    result.actionId = proposal.id.str ∧ result.outboxPayloadRef = some row.payloadRef
  stored : ∃ payload, getJsonPayload row.payloadRef db = .ok payload ∧
    WritesRecord db proposal e.approval payload

def writtenFor (db : Database) (row : FeishuOutbox) : Option UUID :=
  if row.kind = .bitableWrite then
    match getJsonPayload row.payloadRef db with
    | .ok payload => (payload.get "action_id").asStr.bind UUID.parse
    | .error _ => none
  else none

structure Gated (db : Database) (executions : List Execution) : Prop where
  items : ∀ row ∈ db.outbox, (row.kind = .bitableWrite ∨ ∃ p, row.idempotencyKey = bitableKey p) →
    ∃ e ∈ executions, ∃ proposal, QueuedBy db e proposal row
  queued : ∀ e ∈ executions, ∀ result, e.result = .ok result → result.status = .queued →
    ∃ row ∈ db.outbox, ∃ proposal, QueuedBy db e proposal row

section Gateway

variable {db db' : Database} {payloadRef : String} {payload : Dict} {call : BatchCreate}

/-- The handler ends as the gateway does exactly when it calls it. -/
theorem exists_callsGateway_iff :
    (∃ payload call, CallsGateway db payloadRef payload call) ↔
      ∀ gateway, handleBitable payloadRef gateway db = gateway := by
  unfold handleBitable
  constructor
  · rintro ⟨payload, call, hpayload, hcall⟩ gateway
    rw [hpayload]
    change (writeBitable payload db).mapError handlerDispatchError >>= _ = _
    rw [hcall]
    rfl
  · intro h
    have hok := h (.ok ())
    simp only [Except.bind_eq_ok, Except.mapError_eq_ok] at hok
    obtain ⟨payload, hpayload, call, hcall, _⟩ := hok
    exact ⟨payload, call, hpayload, hcall⟩

theorem ensureActionApproved_eq_ok {actionId : UUID} (h : ensureActionApproved actionId db = .ok ()) :
    ∃ proposal, db.proposal? actionId = some proposal ∧
      (proposal.status = .approved ∨ proposal.status = .executed) := by
  unfold ensureActionApproved at h
  cases hp : db.proposal? actionId with
  | none => simp [hp] at h
  | some proposal =>
    simp only [hp] at h
    split_ifs at h with hstatus
    exact ⟨proposal, rfl, hstatus⟩

theorem released_of_writeBitable (h : writeBitable payload db = .ok call) : Released db payload := by
  unfold writeBitable at h
  obtain ⟨id, hid, h⟩ := Except.bind_eq_ok.mp h
  cases id with
  | none => cases h
  | some actionId =>
    dsimp only at h
    cases happroved : ensureActionApproved actionId db with
    | error exc => cases exc <;> simp [happroved] at h
    | ok u =>
      obtain ⟨proposal, hp, hstatus⟩ := ensureActionApproved_eq_ok happroved
      unfold optionalUuid at hid
      cases htext : firstStr [payload.get "action_id"] with
      | none => simp [htext] at hid
      | some text =>
        simp only [htext] at hid
        cases hparse : UUID.parse text with
        | none => simp [hparse] at hid
        | some parsed =>
          simp only [hparse, Except.ok.injEq, Option.some.injEq] at hid
          subst hid
          exact ⟨text, parsed, proposal, (firstStr_singleton_eq_some.mp htext).1, hparse, hp,
            hstatus⟩

/-- A settled proposal stays as it is. -/
theorem proposal?_of_grows {proposal : ActionProposal} {id : UUID} (hgrows : db.Grows db')
    (hp : db.proposal? id = some proposal) (hstatus : proposal.status ≠ .pending) :
    db'.proposal? id = some proposal := by
  obtain ⟨status, hp', hkeep⟩ := hgrows.proposals hp
  obtain rfl := hkeep hstatus
  exact hp'

theorem Released.grows (h : Released db payload) (hgrows : db.Grows db') : Released db' payload := by
  obtain ⟨text, actionId, proposal, htext, hparse, hp, hstatus⟩ := h
  have hne : proposal.status ≠ .pending := by
    rcases hstatus with hs | hs <;> simp [hs]
  exact ⟨text, actionId, proposal, htext, hparse, proposal?_of_grows hgrows hp hne, hstatus⟩

end Gateway

section Record

variable {settings : Settings} {crypto : Crypto} {clientToken : UUID} {proposal : ActionProposal}
  {proposalPayload approval payload : Dict} {decision : String}

theorem buildBitableOutboxPayload_eq_ok
    (h : buildBitableOutboxPayload settings crypto clientToken proposal proposalPayload approval =
      .ok payload) :
    ∃ inner recordFields, proposalPayload.get "payload" = .obj inner ∧
      Dict.get inner "record_fields" = .obj recordFields ∧
      payload.get "action_id" = .str proposal.id.str ∧
      payload.get "records" = .arr [.obj
        (Dict.ofList [("fields", .obj (editedRecordFields recordFields approval))])] := by
  unfold buildBitableOutboxPayload at h
  cases hinner : proposalPayload.get "payload" with
  | obj inner =>
    simp only [hinner] at h
    obtain ⟨businessKind, _, h⟩ := Except.bind_eq_ok.mp h
    split at h
    · cases hfields : Dict.get inner "record_fields" with
      | obj recordFields =>
        simp only [hfields, Except.ok.injEq] at h
        subst h
        refine ⟨inner, recordFields, rfl, hfields, ?_, ?_⟩
        · simp [bitablePayload, Dict.get_ofList, Dict.get_cons]
        · simp [bitablePayload, Dict.get_ofList, Dict.get_cons]
      | _ => simp [hfields] at h
    · cases h
  | _ => simp [hinner] at h

/-- The fields that are written are those of the proposal, and an edit. -/
theorem recordOf_editedRecordFields {recordFields : Dict}
    (hdecision : approval.get "decision" = .str decision)
    (h : decision = "approve" ∨ decision = "edit" ∧
      nonemptyDict (dictOrNone (approval.get "edited_payload")) = true) :
    RecordOf recordFields approval (editedRecordFields recordFields approval) := by
  rcases h with rfl | ⟨rfl, hedited⟩
  · have hsame : editedRecordFields recordFields approval = recordFields := by
      unfold editedRecordFields
      rw [hdecision]
      rfl
    rw [hsame]
    exact .approve hdecision
  · cases hpayload : approval.get "edited_payload" with
    | obj edited =>
      have hset : editedRecordFields recordFields approval =
          recordFields.set "人工编辑" (.str (dumps {} (.obj edited))) := by
        unfold editedRecordFields
        rw [hdecision, hpayload]
        rfl
      rw [hset]
      refine .edit hdecision hpayload ?_
      rintro rfl
      simp [hpayload, dictOrNone, nonemptyDict] at hedited
    | _ => simp [hpayload, dictOrNone, nonemptyDict] at hedited

end Record

section Items

variable {settings : Settings} {crypto : Crypto} {preimage : String → Dict} {done : UUID → Prop}
  {db db' : Database} {executions : List Execution} {proposal : ActionProposal}
  {row row' : FeishuOutbox} {e : Execution}

theorem QueuedBy.grows (h : QueuedBy db e proposal row) (hgrows : db.Grows db')
    (hsame : SameItem row row') : QueuedBy db' e proposal row' := by
  obtain ⟨payload, hget, hwrites⟩ := h.stored
  obtain ⟨proposalPayload, inner, recordFields, fields, hproposal, hrecord⟩ := hwrites.record
  obtain ⟨result, hok, hqueued, hid, href⟩ := h.result
  refine ⟨?_, h.approved, hsame.kind.trans h.kind, hsame.idempotencyKey.trans h.key, h.names, ?_,
    ?_⟩
  · exact proposal?_of_grows hgrows h.found (by simp [h.approved])
  · exact ⟨result, hok, hqueued, hid, by rw [hsame.payloadRef, href]⟩
  · rw [hsame.payloadRef]
    exact ⟨payload, hgrows.getJsonPayload hget, hwrites.action, proposalPayload, inner,
      recordFields, fields, hgrows.getJsonPayload hproposal, hrecord⟩

/-- A row of the table is still there when the table has grown. -/
theorem exists_sameItem (hc : db.Constrained) (hgrows : db.Grows db') (hrow : row ∈ db.outbox) :
    ∃ row' ∈ db'.outbox, SameItem row row' := by
  have hfind : db.outboxForKey? row.idempotencyKey = some row :=
    (Table.find_eq_some_iff hc.outboxKeys).mpr ⟨hrow, rfl⟩
  obtain ⟨row', hrow', hsame⟩ := hgrows.outbox hfind
  exact ⟨row', Table.find_mem hrow', hsame⟩

/-- Nothing but a queued execution adds items. -/
theorem Gated.keeps (hg : Gated db executions) (hc : db.Constrained) (hgrows : db.Grows db')
    (hrows : ∀ r' ∈ db'.outbox, ∃ r, SameItem r r' ∧
      (r ∈ db.outbox ∨ r.kind ≠ .bitableWrite ∧ ∀ p, r.idempotencyKey ≠ bitableKey p)) :
    Gated db' executions where
  items := by
    intro r' hr' hitem
    obtain ⟨r, hsame, horigin⟩ := hrows r' hr'
    rw [hsame.kind, hsame.idempotencyKey] at hitem
    rcases horigin with hr | ⟨hkind, hkey⟩
    · obtain ⟨e, he, proposal, hqueued⟩ := hg.items r hr hitem
      exact ⟨e, he, proposal, hqueued.grows hgrows hsame⟩
    · rcases hitem with hk | ⟨p, hp⟩
      · exact absurd hk hkind
      · exact absurd hp (hkey p)
  queued := by
    intro e he result hresult hstatus
    obtain ⟨r, hr, proposal, hqueued⟩ := hg.queued e he result hresult hstatus
    obtain ⟨r', hr', hsame⟩ := exists_sameItem hc hgrows hr
    exact ⟨r', hr', proposal, hqueued.grows hgrows hsame⟩

theorem Gated.idle (hg : Gated db executions) (hc : db.Constrained)
    (h : Idle preimage done db db') : Gated db' executions := by
  refine hg.keeps hc h.grows ?_
  intro r' hr'
  obtain ⟨r, hsame, horigin, _⟩ := h.row r' hr'
  exact ⟨r, hsame, horigin.imp_right fun hnew => ⟨hnew.1, hnew.2.1⟩⟩

/-- An execution that queues nothing is noted. -/
theorem Gated.noted (hg : Gated db executions)
    (h : ∀ result, e.result = .ok result → result.status ≠ .queued) :
    Gated db (executions ++ [e]) where
  items := by
    intro r hr hitem
    obtain ⟨e', he', proposal, hqueued⟩ := hg.items r hr hitem
    exact ⟨e', List.mem_append_left _ he', proposal, hqueued⟩
  queued := by
    intro e' he' result hresult hstatus
    rcases List.mem_append.mp he' with he' | he'
    · exact hg.queued e' he' result hresult hstatus
    · obtain rfl := List.mem_singleton.mp he'
      exact absurd hstatus (h result hresult)

/-- A pending proposal has no item. -/
theorem Gated.outboxForKey?_eq_none (hg : Gated db executions)
    (hp : db.proposal? proposal.id = some proposal) (hpending : proposal.status = .pending) :
    db.outboxForKey? (bitableKey proposal) = none := by
  cases hrow : db.outboxForKey? (bitableKey proposal) with
  | none => rfl
  | some row =>
    have hkey := Table.find_key hrow
    obtain ⟨e, _, q, hqueued⟩ := hg.items row (Table.find_mem hrow) (.inr ⟨proposal, hkey⟩)
    obtain ⟨_, hid⟩ := bitableKey_injective (hqueued.key.symm.trans hkey)
    have hfound := hqueued.found
    rw [hid, hp] at hfound
    obtain rfl := Option.some.inj hfound
    rw [hqueued.approved] at hpending
    cases hpending

/-- A pending proposal is approved and its item queued, in one transaction. -/
theorem Gated.queue {clientToken : UUID} {defaults : RowDefaults} {approval : Dict}
    {decision ref : String} {result : ActionExecutionResult} (hg : Gated db executions)
    (hc : db.Constrained) (hd : db.Digested preimage)
    (hp : db.proposal? proposal.id = some proposal) (hpending : proposal.status = .pending)
    (hnames : ApprovalNames approval proposal decision)
    (hdecision : decision = "approve" ∨ decision = "edit" ∧
      nonemptyDict (dictOrNone (approval.get "edited_payload")) = true)
    (hqueue : queueBitableWrite settings crypto clientToken defaults proposal approval db =
      .ok (ref, db'))
    (hresult : result.status = .queued ∧ result.actionId = proposal.id.str ∧
      result.outboxPayloadRef = some ref)
    (hsha : ∀ b, ExecutionStores settings crypto clientToken approval db b →
      b.contentJson = .obj (preimage b.sha256)) :
    Gated db' (executions ++ [⟨approval, .ok result⟩]) := by
  obtain ⟨proposalPayload, payload, db₁, hget, hbuild, henqueue, rfl⟩ :=
    queueBitableWrite_eq_ok hqueue
  have hstores := hsha _ ⟨_, _, _, _, hp, hnames, hget, hbuild, rfl⟩
  rcases enqueueJson_cases henqueue with ⟨existing, hexisting, _⟩ | ⟨_, href, db₂, hstore, hinsert⟩
  · rw [hg.outboxForKey?_eq_none hp hpending] at hexisting
    cases hexisting
  have hframe := storeJsonPayload_frame hstore
  obtain ⟨_, _, _, hdb₁⟩ := Database.insertOutbox_eq_ok.mp hinsert
  have hp₁ : db₁.proposal? proposal.id = some proposal := by
    rw [enqueueJson_frame henqueue]
    exact hp
  -- nothing that was there is lost
  have hmark : Statements { handle := fun _ _ => True } db₁ (markProposal proposal .approved db₁) :=
    markProposal_statements hp₁ hpending trivial
  have hgrows : db.Grows (markProposal proposal .approved db₁) :=
    (enqueueJson_grows henqueue).trans hmark.grows
  have houtbox : (markProposal proposal .approved db₁).outbox = db.outbox ++
      [pendingOutbox defaults .bitableWrite (bitableKey proposal) (some proposal.threadId) ref] := by
    rw [hdb₁, hframe]
    rfl
  -- the new item
  have hpayload : getJsonPayload ref (markProposal proposal .approved db₁) = .ok payload := by
    have hblob : ({ blob := fun b => b = outboxBlob crypto payload none } : Scope).Digested
        preimage := by
      rintro b rfl
      exact hstores
    have hs : Statements { blob := fun b => b = outboxBlob crypto payload none } db db₂ :=
      storeJsonPayload_statements hstore (by rw [href]; rfl)
    have hread : getJsonPayload ref db₂ = .ok payload :=
      getJsonPayload_storeJsonPayload hstore (hs.digested hblob hd) (Json.obj.inj hstores).symm
    exact ((Database.Grows.insertOutbox hinsert).trans hmark.grows).getJsonPayload hread
  have hnew : QueuedBy (markProposal proposal .approved db₁) ⟨approval, .ok result⟩
      { proposal with status := .approved }
      (pendingOutbox defaults .bitableWrite (bitableKey proposal) (some proposal.threadId) ref) := by
    obtain ⟨inner, recordFields, hinner, hfields, haction, hrecords⟩ :=
      buildBitableOutboxPayload_eq_ok hbuild
    refine ⟨proposal?_markProposal hp₁, rfl, rfl, rfl, ⟨decision, ?_⟩,
      ⟨result, rfl, hresult⟩, payload, hpayload,
      haction, ?_⟩
    · exact ⟨hnames.actionId, hnames.threadId, hnames.decision, hnames.interruptId,
        hnames.idempotencyKey⟩
    · exact ⟨proposalPayload, inner, recordFields, _, hgrows.getJsonPayload hget, hinner, hfields,
        recordOf_editedRecordFields hnames.decision.1 hdecision, hrecords⟩
  refine ⟨?_, ?_⟩
  · intro r hr hitem
    rw [houtbox] at hr
    rcases List.mem_append.mp hr with hr | hr
    · obtain ⟨e, he, q, hqueued⟩ := hg.items r hr hitem
      exact ⟨e, List.mem_append_left _ he, q, hqueued.grows hgrows (.refl r)⟩
    · obtain rfl := List.mem_singleton.mp hr
      exact ⟨_, by simp, _, hnew⟩
  · intro e he outcome hok hstatus
    rcases List.mem_append.mp he with he | he
    · obtain ⟨r, hr, q, hqueued⟩ := hg.queued e he outcome hok hstatus
      obtain ⟨r', hr', hsame⟩ := exists_sameItem hc hgrows hr
      exact ⟨r', hr', q, hqueued.grows hgrows hsame⟩
    · obtain rfl := List.mem_singleton.mp he
      exact ⟨_, by rw [houtbox]; simp, _, hnew⟩

def executionScope : Scope where
  blob _ := True
  outbox _ := True
  handle _ _ := True

theorem executeApprovedAction_statements {fresh : ResumeFresh} {approval : Dict}
    (h : executeApprovedAction settings crypto fresh approval db = .ok (e, db')) :
    Statements executionScope db db' := by
  rcases executeApprovedAction_eq_ok h with ⟨_, _, hdone⟩ | ⟨_, _, rfl, _⟩
  · exact hdone.statements (fun _ _ => trivial) (fun _ _ => trivial) fun _ _ => trivial
  · exact .refl

/-- What the executor is called with keeps the items, whatever it returns. -/
theorem Gated.execute {fresh : ResumeFresh} {approval : Dict} (hg : Gated db executions)
    (hc : db.Constrained) (hd : db.Digested preimage)
    (h : executeApprovedAction settings crypto fresh approval db = .ok (e, db'))
    (hsha : ∀ b, ExecutionStores settings crypto fresh.clientToken approval db b →
      b.contentJson = .obj (preimage b.sha256)) : Gated db' (executions ++ [e]) := by
  rcases executeApprovedAction_eq_ok h with ⟨result, rfl, hdone⟩ | ⟨message, rfl, rfl, _⟩
  · cases hdone with
    | already hp hnames hstatus hresult =>
      refine hg.noted ?_
      rintro _ ⟨⟩
      simp [hresult]
    | @rejected proposal decision _ hp hnames hpending hdecision hresult =>
      have hmark : Statements { handle := fun _ _ => True } db
          (markProposal proposal .rejected db) := markProposal_statements hp hpending trivial
      have hkept : Gated (markProposal proposal .rejected db) executions :=
        hg.keeps hc hmark.grows fun r hr => ⟨r, .refl r, .inl hr⟩
      refine hkept.noted ?_
      rintro _ ⟨⟩
      simp [hresult]
    | queued hp hnames hpending hdecision hqueue hresult =>
      exact hg.queue hc hd hp hpending hnames hdecision hqueue
        ⟨hresult.1, hresult.2.1, hresult.2.2.2⟩ hsha
  · refine hg.noted ?_
    rintro _ ⟨⟩

end Items

section Step

variable {ω : Type*} [DecidableEq ω] {settings : Settings} {crypto : Crypto}
  {config : ω → FeishuOutboxDispatcher} {preimage : String → Dict} {s t : System ω} {a : Label ω}
  {run : List (Label ω)}

/-- What is there when the executor is called: the tables, with the proposal made again. -/
theorem Delivers.idle {done : UUID → Prop} {fresh : ResumeFresh} {approval humanApproval : Dict}
    {checkpoint : Checkpoint} {db db₁ : Database}
    (h : Delivers crypto fresh approval db checkpoint humanApproval db₁)
    (hsha : ∀ b, ResumeStores settings crypto fresh approval checkpoint db b →
      b.contentJson = .obj (preimage b.sha256)) : Idle preimage done db db₁ := by
  cases h with
  | approved => exact .refl _
  | interrupted hpropose => exact .propose hpropose (hsha _ (.inl ⟨_, _, rfl, rfl⟩))

theorem Gated.step (hg : Gated s.db s.executions) (hc : s.db.Constrained)
    (hd : s.db.Digested preimage) (hnc : NoCollision settings crypto preimage s a)
    (h : System.step settings crypto config s a = some t) : Gated t.db t.executions := by
  rcases System.step_idle_or_delivery hnc h with ⟨hidle, hexecutions⟩ | hdelivery
  · rw [hexecutions]
    exact hg.idle hc hidle
  · cases hdelivery with
    | @intro w fresh other held payload approval threadId execution db' _ hheld _ hget happroval
      hthread hrun hdb hexecutions =>
      have hstores : ∀ b,
          ResumeStores settings crypto fresh approval (s.checkpoints threadId) s.db b →
          b.contentJson = .obj (preimage b.sha256) := fun b hb =>
        hnc b ⟨held, payload, approval, threadId, hheld, hget, happroval, hthread, hb⟩
      have hfinish : ∀ db, Idle preimage (fun id => id = held.item.id) db
          (completeItem config w held (.ok ()) db) := fun _ =>
        .worker (finish_statements _ _ _ _ fun _ => rfl)
      rw [hdb, hexecutions]
      rcases resumeThread_eq_ok hrun with
        ⟨_, rfl, rfl⟩ | ⟨humanApproval, db₁, e, hdelivers, rfl, hexec⟩
      · rw [Option.toList_none, List.append_nil]
        exact hg.idle hc (hfinish _)
      · have hidle : Idle preimage (fun _ => False) s.db db₁ := hdelivers.idle hstores
        have hsha : ∀ b, ExecutionStores settings crypto fresh.clientToken humanApproval db₁ b →
            b.contentJson = .obj (preimage b.sha256) := fun b hb =>
          hstores b (.inr ⟨humanApproval, db₁, hdelivers, hb⟩)
        have hg₁ := hg.idle hc hidle
        have hc₁ := hidle.constrained hc
        have hexecuted := hg₁.execute hc₁ (hidle.digested hd) hexec hsha
        have hc' := (executeApprovedAction_statements hexec).constrained hc₁
        exact hexecuted.idle hc' (hfinish _)

omit [DecidableEq ω] in
theorem Gated.initial : Gated (System.initial ω).db (System.initial ω).executions where
  items _ hr := by cases hr
  queued _ he := by cases he

structure System.Sound (preimage : String → Dict) (s : System ω) : Prop where
  decided : Decided preimage s.db
  gated : Gated s.db s.executions

theorem System.Sound.exec (hs : System.Sound preimage s)
    (hnc : Along (System.step settings crypto config) (NoCollision settings crypto preimage) s run)
    (hrun : Transition.exec (System.step settings crypto config) s run = some t) :
    System.Sound preimage t := by
  refine exec_invariant (System.Sound preimage) ?_ hs hnc hrun
  rintro u i v ⟨hd, hg⟩ hi hstep
  exact ⟨hd.step hi hstep, hg.step hd.constrained hd.digested hi hstep⟩

omit [DecidableEq ω] in
theorem System.Sound.initial : System.Sound preimage (System.initial ω) :=
  ⟨Decided.initial, Gated.initial⟩

/-- Human-gated Bitable writes in a run that ends in `s`. -/
structure HumanGated (settings : Settings) (crypto : Crypto) (config : ω → FeishuOutboxDispatcher)
    (run : List (Label ω)) (s : System ω) : Prop where
  /-- When the gateway is called, and ever after, the proposal is approved or executed. -/
  calls : ∀ u, Visits (System.step settings crypto config) (System.initial ω) run u →
    ∀ payloadRef payload call, CallsGateway u.db payloadRef payload call →
      Released u.db payload ∧ Released s.db payload
  /-- Every item was queued by an execution, with the one record it asked for. -/
  items : ∀ row ∈ s.db.outbox, row.kind = .bitableWrite →
    ∃ e ∈ s.executions, ∃ proposal, QueuedBy s.db e proposal row
  executions : ∀ e ∈ s.executions, ∀ result, e.result = .ok result → result.status = .queued →
    ∃ row ∈ s.db.outbox, ∃ proposal, QueuedBy s.db e proposal row
  once : ∀ proposal ∈ s.db.actionProposals,
    (s.db.outbox.filter fun row => writtenFor s.db row = some proposal.id).length ≤ 1
  /-- A proposal that is rejected at any time has no item at any time. -/
  rejected : ∀ u v, Visits (System.step settings crypto config) (System.initial ω) run u →
    Visits (System.step settings crypto config) (System.initial ω) run v →
    ∀ proposal, u.db.proposal? proposal.id = some proposal → proposal.status = .rejected →
      ∀ row ∈ v.db.outbox, writtenFor v.db row ≠ some proposal.id

omit [DecidableEq ω] in
/-- The payload of an item names the proposal it was queued for. -/
theorem System.Sound.queuedBy_of_writtenFor (hs : System.Sound preimage s) {row : FeishuOutbox}
    {id : UUID} (hrow : row ∈ s.db.outbox) (h : writtenFor s.db row = some id) :
    ∃ e proposal, QueuedBy s.db e proposal row ∧ proposal.id = id := by
  unfold writtenFor at h
  split_ifs at h with hkind
  obtain ⟨e, _, proposal, hqueued⟩ := hs.gated.items row hrow (.inl hkind)
  obtain ⟨payload, hget, hwrites⟩ := hqueued.stored
  simp only [hget, hwrites.action, Json.asStr, Option.bind_some, UUID.parse_str,
    Option.some.injEq] at h
  exact ⟨e, proposal, hqueued, h⟩

end Step

def calibrationSettings : Settings where
  feishuBitableAppToken := some "app"
  feishuBitableRequisitionTableId := some "table"

def approvedRun : List (Label Unit) :=
  [.background (.thread calibrationThread),
    .propose calibrationFresh calibrationRequest calibrationThread.id.str true,
    .click ⟨UUID.ofNat 4, 0⟩ (calibrationClick .approve),
    .claim () fun _ => false,
    .finishResume () ⟨⟨UUID.ofNat 5, UUID.ofNat 6, 0⟩, UUID.ofNat 7, UUID.ofNat 8,
      ⟨UUID.ofNat 9, 0⟩⟩ (.ok ()) true,
    .claim () fun _ => false,
    .finishBitable () (.ok ())]

/-- The payloads the run stores have 188, 238, 242 and 237 bytes. -/
def approvedPreimage (sha : String) : Dict :=
  if sha = "00bc" then payloadWithRefs calibrationRequest
  else if sha = "00ee" then clickPayload .approve
  else if sha = "00f2" then payloadWithRefs (calibrationRequest.withToken (UUID.ofNat 7))
  else bitablePayload sizeCrypto "app" "table" (UUID.ofNat 8).str
    [.obj (Dict.ofList [("fields", .obj [("title", .str "CTO")])])] [] calibrationProposal.id

end Headhunt.Runtime
