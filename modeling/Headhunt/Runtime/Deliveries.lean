import Headhunt.Runtime.Stages

/-! What a step does to the queue and the proposals: it delivers a resume value, or it
queues no Bitable write and settles no proposal. -/
namespace Headhunt.Runtime
open Headhunt.Core Headhunt.Feishu Headhunt.Graphs Headhunt.Schemas Headhunt.Storage Py

/-- A part of a step that queues no Bitable write and settles no proposal. The rows it marks
as succeeded are among `done`. -/
structure Idle (preimage : String → Dict) (done : UUID → Prop) (db db' : Database) : Prop where
  grows : db.Grows db'
  constrained : db.Constrained → db'.Constrained
  digested : db.Digested preimage → db'.Digested preimage
  row : ∀ r' ∈ db'.outbox, ∃ r, SameItem r r' ∧
    (r ∈ db.outbox ∨ r.kind ≠ .bitableWrite ∧ (∀ p, r.idempotencyKey ≠ bitableKey p) ∧
      r.status = .pending) ∧
    (r'.status = .succeeded → r.status = .succeeded ∨ done r'.id)
  settled : ∀ p ∈ db'.actionProposals, p.status ≠ .pending → p ∈ db.actionProposals

structure IdleScope (preimage : String → Dict) (done : UUID → Prop) (scope : Scope) : Prop where
  blob : scope.Digested preimage
  outbox : ∀ row, scope.outbox row →
    row.kind ≠ .bitableWrite ∧ ∀ p, row.idempotencyKey ≠ bitableKey p
  handle : ∀ id status, ¬scope.handle id status
  succeed : ∀ id, scope.succeed id → done id

section Idle

variable {crypto : Crypto} {preimage : String → Dict} {done : UUID → Prop} {db db' : Database}

theorem Idle.refl (db : Database) : Idle preimage done db db where
  grows := .refl db
  constrained h := h
  digested h := h
  row r hr := ⟨r, .refl r, .inl hr, .inl⟩
  settled _ hp _ := hp

theorem IdleScope.idle {scope : Scope} (hscope : IdleScope preimage done scope)
    (h : Statements scope db db') : Idle preimage done db db' where
  grows := h.grows
  constrained := h.constrained
  digested := h.digested hscope.blob
  row := by
    intro r' hr'
    obtain ⟨r, horigin, hsame, hsucceeded⟩ := h.outbox_origin hr'
    refine ⟨r, hsame, ?_, fun hs => (hsucceeded hs).imp_right (hscope.succeed _)⟩
    rcases horigin with hr | ⟨hr, hpending⟩
    · exact .inl hr
    · obtain ⟨hkind, hkey⟩ := hscope.outbox r hr
      exact .inr ⟨hkind, hkey, hpending⟩
  settled := by
    intro p' hp' hstatus
    obtain ⟨p, horigin, heq, hkeeps⟩ := h.proposal_origin hp'
    have hsame : p'.status = p.status := hkeeps.resolve_right (hscope.handle _ _)
    rw [hsame] at heq
    subst heq
    exact horigin.resolve_right fun hnew => hstatus hnew.2

theorem resumeRow_spares {row : RowDefaults} {key : String} {threadId : Option UUID} {ref : String} :
    (pendingOutbox row .resume (resumeKey key) threadId ref).kind ≠ .bitableWrite ∧
      ∀ p, (pendingOutbox row .resume (resumeKey key) threadId ref).idempotencyKey ≠
        bitableKey p := by
  refine ⟨by simp [pendingOutbox], ?_⟩
  intro p
  exact (bitableKey_ne_resumeKey p key).symm

/-- A transaction that only changes threads and card actions, or the state of rows. -/
theorem Idle.worker (h : Statements { succeed := done } db db') : Idle preimage done db db' :=
  have hscope : IdleScope preimage done { succeed := done } :=
    ⟨fun _ hb => hb.elim, fun _ hr => hr.elim, fun _ _ hh => hh, fun _ hs => hs⟩
  hscope.idle h

theorem Idle.background {work : Background} (hallowed : work.Allowed) (h : work.run db = .ok db')
    (hsha : ∀ {ref payload text sha}, work = .blob ref payload text sha →
      preimage sha = payload) : Idle preimage done db db' := by
  cases work with
  | thread row =>
    obtain rfl := Except.ok.inj h
    exact .worker ((Relation.ReflTransGen.single (.thread row)).tail
      (.updateThread row.id fun _ => rfl))
  | blob ref payload text sha =>
    let scope : Scope := { blob := fun b => b = jsonBlob ref payload text sha }
    have hscope : IdleScope preimage done scope := by
      refine ⟨?_, fun _ hr => hr.elim, fun _ _ hh => hh, fun _ hs => hs.elim⟩
      rintro b rfl
      simp [jsonBlob, hsha rfl]
    have hs : Statements scope db db' := storeJsonPayload_statements h rfl
    exact hscope.idle hs
  | outbox row kind key threadId payloadRef =>
    obtain ⟨_, hbitable, hkey⟩ := hallowed
    let scope : Scope := { outbox := fun r => r = pendingOutbox row kind key threadId payloadRef }
    have hscope : IdleScope preimage done scope := by
      refine ⟨fun _ hb => hb.elim, ?_, fun _ _ hh => hh, fun _ hs => hs.elim⟩
      rintro r rfl
      refine ⟨hbitable, ?_⟩
      intro p hp
      have hp : key = bitableKey p := hp
      simp [hp, reservedKey_bitableKey] at hkey
    have hs : Statements scope db db' := .single (.outbox h rfl rfl)
    exact hscope.idle hs
  | cardAction row =>
    exact .worker (.single (.cardAction h))

theorem Idle.propose {fresh : FreshAction} {request : ProposeRequest} {proposed : ProposedAction}
    (h : proposeAction crypto fresh request db = .ok (proposed, db'))
    (hsha : (proposalBlob crypto fresh request).contentJson =
      .obj (preimage (proposalBlob crypto fresh request).sha256)) : Idle preimage done db db' := by
  let scope : Scope :=
    { blob := fun b => b = proposalBlob crypto fresh request, proposal := fun _ => True }
  have hscope : IdleScope preimage done scope := by
    refine ⟨?_, fun _ hr => hr.elim, fun _ _ hh => hh, fun _ hs => hs.elim⟩
    rintro b rfl
    exact hsha
  have hs : Statements scope db db' := proposeAction_statements h rfl trivial
  exact hscope.idle hs

/-- A decision queues a resume row and leaves the proposals alone. -/
theorem Idle.accepts {ω : Type*} [DecidableEq ω] {settings : Settings} {s : System ω} {a : Label ω}
    (hnc : NoCollision settings crypto preimage s a) (h : Accepts crypto s.db a db') :
    Idle preimage done s.db db' := by
  let scope : Scope :=
    { blob := a.Stores settings crypto s
      outbox := fun r => ∃ row key threadId ref,
        r = pendingOutbox row .resume (resumeKey key) threadId ref
      approval := fun _ => True }
  have hscope : IdleScope preimage done scope := by
    refine ⟨hnc, ?_, fun _ _ hh => hh, fun _ hs => hs.elim⟩
    rintro r ⟨row, key, threadId, ref, rfl⟩
    exact resumeRow_spares
  refine hscope.idle ?_
  cases h with
  | @click row callback rawText command db' hparse htext hrecord =>
    obtain ⟨proposal, db₁, _, _, _, hstore, hinsert⟩ := recordClick_eq_ok hrecord
    have hs₁ : Statements scope s.db db₁ := storeJsonPayload_statements hstore ⟨rawText, rfl⟩
    have hs₂ : Statements scope db₁ db' :=
      insertActionAndResume_statements hinsert (fun _ => trivial) ⟨_, _, _, _, rfl⟩
    exact hs₁.trans hs₂
  | @decide row interruptId proposal request ref db' hfind _ _ hrecord =>
    exact recordDecision_statements hrecord ⟨proposal, hfind, rfl⟩ (fun _ => ⟨_, _, _, _, rfl⟩)
      fun _ => trivial

end Idle

/-- The step delivers a resume value, and what that did is committed with the row. -/
inductive Delivery {ω : Type*} [DecidableEq ω] (settings : Settings) (crypto : Crypto)
    (config : ω → FeishuOutboxDispatcher) (s : System ω) : Label ω → System ω → Prop
  | intro {w : ω} {fresh : ResumeFresh} {other : Except OutboxDispatchError Unit} {held : Held}
    {payload approval : Dict} {threadId : UUID} {execution : Option Execution} {db' : Database}
    {t : System ω} (hheld : s.held w = some held) (hkind : held.item.kind = .resume)
    (hget : getJsonPayload held.item.payloadRef s.db = .ok payload)
    (happroval : feishuCardPayloadToHumanApproval payload = .ok approval)
    (hthread : resumeThreadId approval = some threadId)
    (hrun : (resumeThread settings crypto fresh other approval (s.checkpoints threadId) s.db).2 =
      .ok (execution, db'))
    (hdb : t.db = completeItem config w held (.ok ()) db')
    (hexecutions : t.executions = s.executions ++ execution.toList) :
    Delivery settings crypto config s (.finishResume w fresh other true) t

/-- The rows whose handlers have returned and are no resume rows. -/
def Finishing {ω : Type*} (s : System ω) (id : UUID) : Prop :=
  ∃ w held, s.held w = some held ∧ held.item.kind ≠ .resume ∧ id = held.item.id

section Step

variable {ω : Type*} [DecidableEq ω] {settings : Settings} {crypto : Crypto}
  {config : ω → FeishuOutboxDispatcher} {preimage : String → Dict} {s t : System ω} {a : Label ω}

omit [DecidableEq ω] in
theorem Idle.finish {w : ω} {held : Held} (hheld : s.held w = some held)
    {outcome : Except OutboxDispatchError Unit}
    (hkind : outcome = .ok () → held.item.kind ≠ .resume) :
    Idle preimage (Finishing s) s.db (completeItem config w held outcome s.db) :=
  .worker (finish_statements _ _ _ _ fun hok => ⟨w, held, hheld, hkind hok, rfl⟩)

/-- A step delivers a resume value, or it is idle and executes nothing. -/
theorem System.step_idle_or_delivery (hnc : NoCollision settings crypto preimage s a)
    (h : System.step settings crypto config s a = some t) :
    (Idle preimage (Finishing s) s.db t.db ∧ t.executions = s.executions) ∨
      Delivery settings crypto config s a t := by
  cases a with
  | tick d =>
    obtain rfl := Option.some.inj h
    exact .inl ⟨.refl _, rfl⟩
  | background work =>
    simp only [System.step] at h
    split_ifs at h with hallowed
    obtain rfl := Option.some.inj h
    refine .inl ⟨?_, rfl⟩
    cases hrun : work.run s.db with
    | error exc => exact .refl _
    | ok db' =>
      refine .background hallowed hrun ?_
      rintro ref payload text sha rfl
      simpa [jsonBlob] using (hnc _ rfl).symm
  | propose fresh request stateThreadId commits =>
    simp only [System.step] at h
    by_cases hthread : UUID.parse stateThreadId = some request.threadId
    · rw [if_pos hthread] at h
      cases hpropose : proposeAction crypto fresh request s.db with
      | error exc =>
        simp only [hpropose, Option.some.injEq] at h
        subst h
        exact .inl ⟨.refl _, rfl⟩
      | ok r =>
        simp only [hpropose, Option.some.injEq] at h
        subst h
        cases commits with
        | false => exact .inl ⟨.refl _, rfl⟩
        | true => exact .inl ⟨.propose hpropose (hnc _ rfl), rfl⟩
    · rw [if_neg hthread] at h
      cases h
  | advance threadId =>
    obtain rfl := Option.some.inj h
    exact .inl ⟨.refl _, rfl⟩
  | click row callback =>
    simp only [System.step] at h
    split_ifs at h
    obtain rfl := Option.some.inj h
    refine .inl ⟨?_, rfl⟩
    rcases click_cases row callback with hsame | haccept
    · rw [hsame]
      exact .refl _
    · exact .accepts hnc haccept
  | decide row interruptId request =>
    obtain rfl := Option.some.inj h
    refine .inl ⟨?_, rfl⟩
    rcases decide_cases row interruptId request with hsame | haccept
    · rw [hsame]
      exact .refl _
    · exact .accepts hnc haccept
  | claim w locked =>
    simp only [System.step] at h
    cases hheld : s.held w with
    | some held => simp [hheld] at h
    | none =>
      simp only [hheld] at h
      cases hclaim : (config w).claim s.clock locked s.db.outbox with
      | none =>
        simp only [hclaim, Option.some.injEq] at h
        subst h
        exact .inl ⟨.refl _, rfl⟩
      | some r =>
        simp only [hclaim, Option.some.injEq] at h
        subst h
        exact .inl ⟨.worker (claim_statements hclaim), rfl⟩
  | finishResume w fresh other commits =>
    obtain ⟨held, hheld, h⟩ := Option.bind_eq_some_iff.mp h
    split_ifs at h with hkind
    obtain rfl := Option.some.inj h
    unfold System.finishResume
    dsimp only
    cases hrun : (handleResume settings crypto fresh other held.item.payloadRef s.checkpoints
        s.db).2 with
    | error exc => exact .inl ⟨.finish hheld fun hok => (by cases hok), rfl⟩
    | ok r =>
      obtain ⟨execution, db₁⟩ := r
      dsimp only
      split_ifs with hcommits
      · subst hcommits
        unfold handleResume at hrun
        cases hget : getJsonPayload held.item.payloadRef s.db with
        | error exc => simp [hget] at hrun
        | ok payload =>
          simp only [hget] at hrun
          obtain ⟨approval, threadId, happroval, hthread, hresume⟩ := resumeGraph_eq_ok hrun
          exact .inr (.intro hheld hkind hget happroval hthread hresume rfl rfl)
      · exact .inl ⟨.refl _, rfl⟩
  | finishBitable w gateway =>
    obtain ⟨held, hheld, h⟩ := Option.bind_eq_some_iff.mp h
    split_ifs at h with hkind
    obtain rfl := Option.some.inj h
    exact .inl ⟨.finish hheld fun _ => by simp [hkind], rfl⟩
  | finishOther w outcome =>
    obtain ⟨held, hheld, h⟩ := Option.bind_eq_some_iff.mp h
    split_ifs at h with hkind
    obtain rfl := Option.some.inj h
    exact .inl ⟨.finish hheld fun _ => hkind.1, rfl⟩
  | crash w =>
    obtain rfl := Option.some.inj h
    exact .inl ⟨.refl _, rfl⟩

end Step

section Stored

variable (settings : Settings) (crypto : Crypto)

def proposalStored (request : ProposeRequest) : List (String × Dict) :=
  [(stableHash crypto (payloadWithRefs request), payloadWithRefs request)]

def executionStored (clientToken : UUID) (approval : Dict) (db : Database) :
    List (String × Dict) :=
  match proposalOfApproval approval db with
  | .error _ => []
  | .ok (proposal, _) =>
    match getJsonPayload proposal.payloadRef db with
    | .error _ => []
    | .ok proposalPayload =>
      match buildBitableOutboxPayload settings crypto clientToken proposal proposalPayload
          approval with
      | .error _ => []
      | .ok payload => [(stableHash crypto payload, payload)]

def resumeStored (fresh : ResumeFresh) (approval : Dict) (checkpoint : Checkpoint)
    (db : Database) : List (String × Dict) :=
  match checkpoint with
  | .elsewhere => []
  | .approved humanApproval => executionStored settings crypto fresh.clientToken humanApproval db
  | .interrupted stateThreadId request =>
    let request := request.withToken fresh.proposalToken
    proposalStored crypto request ++
      match proposeAction crypto fresh.action request db with
      | .error _ => []
      | .ok (proposal, db) =>
        match normalizeHumanApproval (.obj approval) stateThreadId proposal.actionId.str
            proposal.interruptId.str proposal.idempotencyKey with
        | .error _ => []
        | .ok normalized => executionStored settings crypto fresh.clientToken normalized db

def Label.stored {ω : Type*} (s : System ω) : Label ω → List (String × Dict)
  | .background (.blob _ payload _ sha256) => [(sha256, payload)]
  | .propose _ request _ _ => proposalStored crypto request
  | .click _ callback => [(callback.payloadHash, callback.payload)]
  | .decide _ interruptId request =>
    match proposalForInterrupt interruptId s.db with
    | none => []
    | some proposal => [(stableHash crypto (buildResumePayload proposal request),
        buildResumePayload proposal request)]
  | .finishResume w fresh _ _ =>
    match s.held w with
    | none => []
    | some held =>
      match getJsonPayload held.item.payloadRef s.db with
      | .error _ => []
      | .ok payload =>
        match feishuCardPayloadToHumanApproval payload with
        | .error _ => []
        | .ok approval =>
          match resumeThreadId approval with
          | none => []
          | some threadId =>
            resumeStored settings crypto fresh approval (s.checkpoints threadId) s.db
  | _ => []

variable {settings crypto}

theorem ExecutionStores.mem_stored {clientToken : UUID} {approval : Dict} {db : Database}
    {b : ArtifactBlob} (h : ExecutionStores settings crypto clientToken approval db b) :
    ∃ payload, b.contentJson = .obj payload ∧
      (b.sha256, payload) ∈ executionStored settings crypto clientToken approval db := by
  obtain ⟨proposal, decision, proposalPayload, payload, hp, hnames, hget, hbuild, rfl⟩ := h
  refine ⟨payload, rfl, ?_⟩
  unfold executionStored
  rw [proposalOfApproval_eq_ok.mpr ⟨hp, hnames⟩]
  simp [hget, hbuild, outboxBlob, jsonBlob]

theorem ResumeStores.mem_stored {fresh : ResumeFresh} {approval : Dict} {checkpoint : Checkpoint}
    {db : Database} {b : ArtifactBlob}
    (h : ResumeStores settings crypto fresh approval checkpoint db b) :
    ∃ payload, b.contentJson = .obj payload ∧
      (b.sha256, payload) ∈ resumeStored settings crypto fresh approval checkpoint db := by
  rcases h with ⟨stateThreadId, request, rfl, rfl⟩ | ⟨humanApproval, db₁, hdelivers, hstores⟩
  · exact ⟨_, rfl, List.mem_append_left _ (List.mem_singleton.mpr rfl)⟩
  · obtain ⟨payload, hpayload, hmem⟩ := hstores.mem_stored
    refine ⟨payload, hpayload, ?_⟩
    cases hdelivers with
    | approved => exact hmem
    | interrupted hpropose hnormalize =>
      refine List.mem_append_right _ ?_
      simp only [hpropose, hnormalize]
      exact hmem

theorem noCollision_of_stored {ω : Type*} {preimage : String → Dict} {s : System ω} {a : Label ω}
    (h : ∀ p ∈ a.stored settings crypto s, preimage p.1 = p.2) :
    NoCollision settings crypto preimage s a := by
  intro b hb
  suffices hmem : ∃ payload, b.contentJson = .obj payload ∧
      (b.sha256, payload) ∈ a.stored settings crypto s by
    obtain ⟨payload, hpayload, hmem⟩ := hmem
    rw [hpayload, h _ hmem]
  cases a with
  | background work =>
    cases work with
    | blob ref payload text sha =>
      obtain rfl := hb
      exact ⟨payload, rfl, List.mem_singleton.mpr rfl⟩
    | _ => exact hb.elim
  | propose fresh request stateThreadId commits =>
    obtain rfl := hb
    exact ⟨_, rfl, List.mem_singleton.mpr rfl⟩
  | click row callback =>
    obtain ⟨rawText, rfl⟩ := hb
    exact ⟨_, rfl, List.mem_singleton.mpr rfl⟩
  | decide row interruptId request =>
    obtain ⟨proposal, hfind, rfl⟩ := hb
    refine ⟨_, rfl, ?_⟩
    simp only [Label.stored, hfind]
    exact List.mem_singleton.mpr rfl
  | finishResume w fresh other commits =>
    obtain ⟨held, payload, approval, threadId, hheld, hget, happroval, hthread, hstores⟩ := hb
    simp only [Label.stored, hheld, hget, happroval, hthread]
    exact hstores.mem_stored
  | _ => exact hb.elim

end Stored
end Headhunt.Runtime
