import Headhunt.Runtime.ApprovalSystem

/-! What one step of the system does to the tables: it records a decision, or it writes
nothing that concerns decisions. -/
namespace Headhunt.Runtime
open Headhunt.Core Headhunt.Feishu Headhunt.Graphs Headhunt.Schemas Headhunt.Storage Py

def ResumeStores (settings : Settings) (crypto : Crypto) (fresh : ResumeFresh) (approval : Dict)
    (checkpoint : Checkpoint) (db : Database) (b : ArtifactBlob) : Prop :=
  (∃ stateThreadId request, checkpoint = .interrupted stateThreadId request ∧
      b = proposalBlob crypto fresh.action (request.withToken fresh.proposalToken)) ∨
    ∃ humanApproval db₁, Delivers crypto fresh approval db checkpoint humanApproval db₁ ∧
      ExecutionStores settings crypto fresh.clientToken humanApproval db₁ b

section Step

variable {ω : Type*} [DecidableEq ω] (settings : Settings) (crypto : Crypto)

/-- The payloads a step hands to the blob store. -/
def Label.Stores (s : System ω) : Label ω → ArtifactBlob → Prop
  | .background (.blob contentRef payload rawText sha256), b =>
    b = jsonBlob contentRef payload rawText sha256
  | .propose fresh request _ _, b => b = proposalBlob crypto fresh request
  | .click _ callback, b => ∃ rawText, b =
    jsonBlob (buildPayloadRef callback) callback.payload rawText callback.payloadHash
  | .decide _ interruptId request, b => ∃ proposal,
    proposalForInterrupt interruptId s.db = some proposal ∧
      b = outboxBlob crypto (buildResumePayload proposal request) none
  | .finishResume w fresh _ _, b => ∃ h payload approval threadId, s.held w = some h ∧
    getJsonPayload h.item.payloadRef s.db = .ok payload ∧
    feishuCardPayloadToHumanApproval payload = .ok approval ∧
    resumeThreadId approval = some threadId ∧
    ResumeStores settings crypto fresh approval (s.checkpoints threadId) s.db b
  | _, _ => False

/-- No payload of the run shares its digest with another one: `preimage` gives back the
payload of every digest that is stored. -/
def NoCollision (preimage : String → Dict) (s : System ω) (a : Label ω) : Prop :=
  ∀ b, a.Stores settings crypto s b → b.contentJson = .obj (preimage b.sha256)

end Step

/-- A part of a step that writes nothing concerning decisions. -/
inductive Quiet (preimage : String → Dict) (db db' : Database) : Prop
  | intro {scope : Scope} (h : Statements scope db db') (hblob : scope.Digested preimage)
    (houtbox : ∀ row, scope.outbox row → row.kind ≠ .resume ∧
      ∀ key, row.idempotencyKey ≠ resumeKey key)
    (happroval : ∀ approval, ¬scope.approval approval)

abbrev Quiets (preimage : String → Dict) : Database → Database → Prop :=
  Relation.ReflTransGen (Quiet preimage)

/-- A transaction that records a decision. -/
inductive Accepts {ω : Type*} (crypto : Crypto) (db : Database) : Label ω → Database → Prop
  | click {row : RowDefaults} {callback : VerifiedFeishuCallback} {rawText : String}
    {command : FeishuCardActionCommand} {db' : Database}
    (hparse : parseCardActionCommand callback (buildPayloadRef callback) = .ok command)
    (htext : String.fromUTF8? callback.rawBody = some rawText)
    (hrecord : recordClick row callback rawText command db = .ok db') :
    Accepts crypto db (.click row callback) db'
  | decide {row : RowDefaults} {interruptId : UUID} {proposal : ActionProposal}
    {request : ApprovalDecisionRequest} {ref : String} {db' : Database}
    (hfind : proposalForInterrupt interruptId db = some proposal)
    (hstatus : proposal.status = .pending)
    (hfirst : db.approvalForKey? proposal.idempotencyKey = none)
    (hrecord : recordDecision crypto row proposal request db = .ok (ref, db')) :
    Accepts crypto db (.decide row interruptId request) db'

section Quiet

variable {crypto : Crypto} {preimage : String → Dict} {db db' : Database}

/-- The workers change the state of a row and nothing it says. -/
theorem finish_statements {scope : Scope} (d : FeishuOutboxDispatcher) (item : FeishuOutbox)
    (currentTime : Time) (outcome : Except OutboxDispatchError Unit)
    (hscope : outcome = .ok () → scope.succeed item.id) :
    Statements scope db { db with outbox := d.finish item currentTime outcome db.outbox } := by
  unfold FeishuOutboxDispatcher.finish
  cases outcome with
  | ok u =>
    refine .single (.updateOutbox item.id ?_ ?_)
    · exact fun _ => ⟨rfl, rfl, rfl, rfl⟩
    · exact fun _ _ => hscope rfl
  | error exc =>
    dsimp only
    cases Table.find FeishuOutbox.id item.id db.outbox with
    | none => exact .refl
    | some current =>
      unfold FeishuOutboxDispatcher.handleFailure
      dsimp only
      generalize (if current.attemptCount = 0 then 1 else current.attemptCount) = attempts
      by_cases hmax : d.maxAttempts ≤ attempts
      · rw [if_pos hmax]
        refine .single (.updateOutbox current.id ?_ ?_)
        · exact fun _ => ⟨rfl, rfl, rfl, rfl⟩
        · intro _ h
          cases h
      · rw [if_neg hmax]
        split_ifs
        · refine .single (.updateOutbox current.id ?_ ?_)
          · exact fun _ => ⟨rfl, rfl, rfl, rfl⟩
          · intro _ h
            cases h
        · exact .refl

theorem claim_statements {scope : Scope} {d : FeishuOutboxDispatcher} {currentTime : Time}
    {locked : UUID → Bool} {item : FeishuOutbox} {table : OutboxTable}
    (h : d.claim currentTime locked db.outbox = some (item, table)) :
    Statements scope db { db with outbox := table } := by
  obtain ⟨row, _, heq⟩ := Option.map_eq_some_iff.mp h
  obtain ⟨-, rfl⟩ := Prod.mk.inj heq
  refine .single (.updateOutbox row.id ?_ ?_)
  · exact fun _ => ⟨rfl, rfl, rfl, rfl⟩
  · intro _ h
    cases h

/-- A part that writes no payload, decision or new outbox row. -/
theorem Quiet.worker (h : Statements { succeed := fun _ => True } db db') :
    Quiet preimage db db' :=
  .intro h (fun _ hb => hb.elim) (fun _ hr => hr.elim) (fun _ ha => ha)

theorem Quiet.completeItem {ω : Type*} (config : ω → FeishuOutboxDispatcher) (w : ω) (h : Held)
    (outcome : Except OutboxDispatchError Unit) (db : Database) :
    Quiet preimage db (completeItem config w h outcome db) :=
  .worker (finish_statements _ _ _ _ fun _ => trivial)

theorem Quiet.propose {fresh : FreshAction} {request : ProposeRequest} {proposed : ProposedAction}
    (h : proposeAction crypto fresh request db = .ok (proposed, db'))
    (hsha : (proposalBlob crypto fresh request).contentJson =
      .obj (preimage (proposalBlob crypto fresh request).sha256)) : Quiet preimage db db' := by
  let scope : Scope :=
    { blob := fun b => b = proposalBlob crypto fresh request, proposal := fun _ => True }
  have hs : Statements scope db db' := proposeAction_statements h rfl trivial
  refine .intro hs ?_ (fun _ hr => hr.elim) (fun _ ha => ha)
  rintro b rfl
  exact hsha

theorem Quiet.execute {settings : Settings} {clientToken : UUID} {row : RowDefaults}
    {approval : Dict} {result : ActionExecutionResult}
    (h : Executed settings crypto clientToken row approval db result db')
    (hsha : ∀ b, ExecutionStores settings crypto clientToken approval db b →
      b.contentJson = .obj (preimage b.sha256)) : Quiet preimage db db' := by
  let scope : Scope :=
    { blob := ExecutionStores settings crypto clientToken approval db
      outbox := fun r => r.kind = .bitableWrite ∧ ∃ p, r.idempotencyKey = bitableKey p
      handle := fun _ _ => True }
  have hs : Statements scope db db' :=
    h.statements (fun _ hb => hb) (fun p _ => ⟨rfl, p, rfl⟩) (fun _ _ => trivial)
  refine .intro hs hsha ?_ (fun _ ha => ha)
  rintro r ⟨hkind, p, hkey⟩
  refine ⟨by simp [hkind], ?_⟩
  intro key
  rw [hkey]
  exact bitableKey_ne_resumeKey p key

theorem Quiet.background {work : Background} (hallowed : work.Allowed)
    (h : work.run db = .ok db')
    (hsha : ∀ {ref payload text sha}, work = .blob ref payload text sha →
      preimage sha = payload) : Quiet preimage db db' := by
  cases work with
  | thread row =>
    obtain rfl := Except.ok.inj h
    exact .worker ((Relation.ReflTransGen.single (.thread row)).tail
      (.updateThread row.id fun _ => rfl))
  | blob ref payload text sha =>
    let scope : Scope := { blob := fun b => b = jsonBlob ref payload text sha }
    have hs : Statements scope db db' := storeJsonPayload_statements h rfl
    refine .intro hs ?_ (fun _ hr => hr.elim) (fun _ ha => ha)
    rintro b rfl
    simp [jsonBlob, hsha rfl]
  | outbox row kind key threadId payloadRef =>
    obtain ⟨hresume, hbitable, hkey⟩ := hallowed
    let scope : Scope := { outbox := fun r => r = pendingOutbox row kind key threadId payloadRef }
    have hs : Statements scope db db' := .single (.outbox h rfl rfl)
    refine .intro hs (fun _ hb => hb.elim) ?_ (fun _ ha => ha)
    rintro r rfl
    refine ⟨hresume, ?_⟩
    rintro k rfl
    simp [reservedKey_resumeKey] at hkey
  | cardAction row =>
    exact .worker (.single (.cardAction h))

/-- A delivery that returns. -/
theorem Quiets.resume {settings : Settings} {fresh : ResumeFresh}
    {other : Except OutboxDispatchError Unit} {approval : Dict} {checkpoint : Checkpoint}
    {execution : Option Execution}
    (h : (resumeThread settings crypto fresh other approval checkpoint db).2 =
      .ok (execution, db'))
    (hsha : ∀ b, ResumeStores settings crypto fresh approval checkpoint db b →
      b.contentJson = .obj (preimage b.sha256)) : Quiets preimage db db' := by
  rcases resumeThread_eq_ok h with ⟨_, _, rfl⟩ | ⟨humanApproval, db₁, e, hdelivers, _, hexec⟩
  · exact .refl
  · have hexecute : Quiets preimage db₁ db' := by
      rcases executeApprovedAction_eq_ok hexec with ⟨result, _, hdone⟩ | ⟨_, _, rfl, _⟩
      · exact .single (.execute hdone fun b hb => hsha b (.inr ⟨_, _, hdelivers, hb⟩))
      · exact .refl
    cases hdelivers with
    | approved => exact hexecute
    | interrupted hpropose =>
      have hfirst : Quiet preimage db db₁ := .propose hpropose (hsha _ (.inl ⟨_, _, rfl, rfl⟩))
      exact (Relation.ReflTransGen.single hfirst).trans hexecute

/-- A click is recorded or changes nothing. -/
theorem click_cases {ω : Type*} (row : RowDefaults) (callback : VerifiedFeishuCallback) :
    commitOr db (enqueueApprovalClick row callback db) = db ∨
      Accepts crypto db (Label.click row callback : Label ω)
        (commitOr db (enqueueApprovalClick row callback db)) := by
  unfold enqueueApprovalClick
  cases hparse : parseCardActionCommand callback (buildPayloadRef callback) with
  | error exc => exact .inl rfl
  | ok command =>
    dsimp only
    cases htext : String.fromUTF8? callback.rawBody with
    | none => exact .inl rfl
    | some rawText =>
      dsimp only
      cases hrecord : recordClick row callback rawText command db with
      | ok db' => exact .inr (.click hparse htext hrecord)
      | error exc => cases exc <;> exact .inl rfl

/-- A decision over the API is recorded or changes nothing. -/
theorem decide_cases {ω : Type*} (row : RowDefaults) (interruptId : UUID)
    (request : ApprovalDecisionRequest) :
    commitOr db (submitDecision crypto row interruptId request db) = db ∨
      Accepts crypto db (Label.decide row interruptId request : Label ω)
        (commitOr db (submitDecision crypto row interruptId request db)) := by
  unfold submitDecision
  cases hfind : proposalForInterrupt interruptId db with
  | none => exact .inl rfl
  | some proposal =>
    dsimp only
    by_cases hstatus : proposal.status = .pending
    · rw [if_neg (not_not.mpr hstatus)]
      cases hfirst : db.approvalForKey? proposal.idempotencyKey with
      | some existing =>
        dsimp only
        cases repeatedDecision existing proposal request db <;> exact .inl rfl
      | none =>
        dsimp only
        cases hrecord : recordDecision crypto row proposal request db with
        | error exc => exact .inl rfl
        | ok r => exact .inr (.decide hfind hstatus hfirst hrecord)
    · rw [if_pos hstatus]
      exact .inl rfl

end Quiet

section Step

variable {ω : Type*} [DecidableEq ω] {settings : Settings} {crypto : Crypto}
  {config : ω → FeishuOutboxDispatcher} {preimage : String → Dict} {s t : System ω} {a : Label ω}

/-- Every step is quiet, or it records a decision. -/
theorem System.step_cases (hnc : NoCollision settings crypto preimage s a)
    (h : System.step settings crypto config s a = some t) :
    Quiets preimage s.db t.db ∨ Accepts crypto s.db a t.db := by
  cases a with
  | tick d =>
    obtain rfl := Option.some.inj h
    exact .inl .refl
  | background work =>
    simp only [System.step] at h
    split_ifs at h with hallowed
    obtain rfl := Option.some.inj h
    cases hrun : work.run s.db with
    | error exc => exact .inl .refl
    | ok db' =>
      refine .inl (.single (.background hallowed hrun ?_))
      rintro ref payload text sha rfl
      simpa [jsonBlob] using (hnc _ rfl).symm
  | propose fresh request stateThreadId commits =>
    simp only [System.step] at h
    by_cases hthread : UUID.parse stateThreadId = some request.threadId
    · rw [if_pos hthread] at h
      cases hpropose : proposeAction crypto fresh request s.db with
      | error exc =>
        simp only [hpropose, Option.some.injEq] at h
        subst h
        exact .inl .refl
      | ok r =>
        simp only [hpropose, Option.some.injEq] at h
        subst h
        cases commits with
        | false => exact .inl .refl
        | true => exact .inl (.single (.propose hpropose (hnc _ rfl)))
    · rw [if_neg hthread] at h
      cases h
  | advance threadId =>
    obtain rfl := Option.some.inj h
    exact .inl .refl
  | click row callback =>
    simp only [System.step] at h
    split_ifs at h
    obtain rfl := Option.some.inj h
    rcases click_cases row callback with hsame | haccept
    · rw [hsame]
      exact .inl .refl
    · exact .inr haccept
  | decide row interruptId request =>
    obtain rfl := Option.some.inj h
    rcases decide_cases row interruptId request with hsame | haccept
    · rw [hsame]
      exact .inl .refl
    · exact .inr haccept
  | claim w locked =>
    simp only [System.step] at h
    cases hheld : s.held w with
    | some held => simp [hheld] at h
    | none =>
      simp only [hheld] at h
      cases hclaim : (config w).claim s.clock locked s.db.outbox with
      | none =>
        simp only [hclaim, Option.some.injEq] at h
        subst h
        exact .inl .refl
      | some r =>
        simp only [hclaim, Option.some.injEq] at h
        subst h
        exact .inl (.single (.worker (claim_statements hclaim)))
  | finishResume w fresh other commits =>
    obtain ⟨held, hheld, h⟩ := Option.bind_eq_some_iff.mp h
    split_ifs at h with hkind
    obtain rfl := Option.some.inj h
    unfold System.finishResume
    dsimp only
    cases hrun : (handleResume settings crypto fresh other held.item.payloadRef s.checkpoints
        s.db).2 with
    | error exc => exact .inl (.single (.completeItem _ _ _ _ _))
    | ok r =>
      obtain ⟨execution, db₁⟩ := r
      dsimp only
      split_ifs
      · refine .inl (Relation.ReflTransGen.tail ?_ (.completeItem _ _ _ _ _))
        unfold handleResume at hrun
        cases hget : getJsonPayload held.item.payloadRef s.db with
        | error exc => simp [hget] at hrun
        | ok payload =>
          simp only [hget] at hrun
          obtain ⟨approval, threadId, happroval, hthread, hresume⟩ := resumeGraph_eq_ok hrun
          refine Quiets.resume hresume ?_
          intro b hb
          exact hnc b ⟨held, payload, approval, threadId, hheld, hget, happroval, hthread, hb⟩
      · exact .inl .refl
  | finishBitable w gateway =>
    obtain ⟨held, hheld, h⟩ := Option.bind_eq_some_iff.mp h
    split_ifs at h
    obtain rfl := Option.some.inj h
    exact .inl (.single (.completeItem _ _ _ _ _))
  | finishOther w outcome =>
    obtain ⟨held, hheld, h⟩ := Option.bind_eq_some_iff.mp h
    split_ifs at h
    obtain rfl := Option.some.inj h
    exact .inl (.single (.completeItem _ _ _ _ _))
  | crash w =>
    obtain rfl := Option.some.inj h
    exact .inl .refl

end Step
end Headhunt.Runtime
