import Mathlib.Logic.Relation
import Headhunt.Storage.Repositories

/-! Transactions as sequences of statements. None takes anything back: blobs and
decisions stay, rows keep what they say, and a proposal changes its status once. -/
namespace Headhunt.Storage
open Py

/-- The parts of an outbox row that no worker changes. -/
structure SameItem (r r' : FeishuOutbox) : Prop where
  id : r'.id = r.id
  kind : r'.kind = r.kind
  idempotencyKey : r'.idempotencyKey = r.idempotencyKey
  payloadRef : r'.payloadRef = r.payloadRef

theorem SameItem.refl (r : FeishuOutbox) : SameItem r r := ⟨rfl, rfl, rfl, rfl⟩

theorem SameItem.trans {r r' r'' : FeishuOutbox} (h : SameItem r r') (h' : SameItem r' r'') :
    SameItem r r'' :=
  ⟨h'.id.trans h.id, h'.kind.trans h.kind, h'.idempotencyKey.trans h.idempotencyKey,
    h'.payloadRef.trans h.payloadRef⟩

structure Database.Grows (db db' : Database) : Prop where
  blobs : ∀ {ref b}, db.blob? ref = some b → db'.blob? ref = some b
  threads : ∀ {id}, db.hasThread id = true → db'.hasThread id = true
  proposals : ∀ {id p}, db.proposal? id = some p →
    ∃ status, db'.proposal? id = some { p with status := status } ∧
      (p.status ≠ .pending → status = p.status)
  approvals : ∀ {key h}, db.approvalForKey? key = some h → db'.approvalForKey? key = some h
  outbox : ∀ {key r}, db.outboxForKey? key = some r →
    ∃ r', db'.outboxForKey? key = some r' ∧ SameItem r r'

namespace Database.Grows

variable {db db' db'' : Database}

theorem refl (db : Database) : db.Grows db where
  blobs h := h
  threads h := h
  proposals {_ p} h := ⟨p.status, h, fun _ => rfl⟩
  approvals h := h
  outbox {_ r} h := ⟨r, h, SameItem.refl r⟩

theorem trans (h : db.Grows db') (h' : db'.Grows db'') : db.Grows db'' where
  blobs hb := h'.blobs (h.blobs hb)
  threads ht := h'.threads (h.threads ht)
  proposals := by
    intro id p hp
    obtain ⟨st, hst, hkeep⟩ := h.proposals hp
    obtain ⟨st', hst', hkeep'⟩ := h'.proposals hst
    refine ⟨st', hst', ?_⟩
    intro hne
    have he := hkeep hne
    subst he
    exact hkeep' hne
  approvals ha := h'.approvals (h.approvals ha)
  outbox := by
    intro key r hr
    obtain ⟨r', hr', hsame⟩ := h.outbox hr
    obtain ⟨r'', hr'', hsame'⟩ := h'.outbox hr'
    exact ⟨r'', hr'', hsame.trans hsame'⟩

theorem getJsonPayload (h : db.Grows db') {ref : String} {payload : Dict}
    (hp : getJsonPayload ref db = .ok payload) : getJsonPayload ref db' = .ok payload := by
  unfold Storage.getJsonPayload at hp ⊢
  cases hb : db.blob? ref with
  | none => simp [hb] at hp
  | some b =>
    rw [h.blobs hb]
    simpa [hb] using hp

theorem insertBlobOrIgnore (row : ArtifactBlob) : db.Grows (db.insertBlobOrIgnore row) where
  blobs := by
    intro ref b hb
    unfold Database.blob? Database.insertBlobOrIgnore at *
    rw [Table.find_insertOrIgnore, hb]
    rfl
  threads h := h
  proposals {_ p} h := ⟨p.status, h, fun _ => rfl⟩
  approvals h := h
  outbox {_ r} h := ⟨r, h, SameItem.refl r⟩

theorem insertOutbox {row : FeishuOutbox} (h : db.insertOutbox row = .ok db') : db.Grows db' := by
  obtain ⟨_, _, _, rfl⟩ := Database.insertOutbox_eq_ok.mp h
  exact
    { blobs := fun h => h
      threads := fun h => h
      proposals := fun {_ p} h => ⟨p.status, h, fun _ => rfl⟩
      approvals := fun h => h
      outbox := fun {_ r} h => ⟨r, Table.find_append_of_some h, SameItem.refl r⟩ }

theorem insertProposalOrIgnore {row : ActionProposal}
    (h : db.insertProposalOrIgnore row = .ok db') : db.Grows db' := by
  rcases Database.insertProposalOrIgnore_eq_ok.mp h with ⟨_, rfl⟩ | ⟨_, _, _, rfl⟩
  · exact refl _
  · exact
      { blobs := fun h => h
        threads := fun h => h
        proposals := fun {_ p} h => ⟨p.status, Table.find_append_of_some h, fun _ => rfl⟩
        approvals := fun h => h
        outbox := fun {_ r} h => ⟨r, h, SameItem.refl r⟩ }

theorem insertApproval {row : HumanApproval} (h : db.insertApproval row = .ok db') :
    db.Grows db' := by
  obtain ⟨_, _, _, rfl⟩ := Database.insertApproval_eq_ok.mp h
  exact
    { blobs := fun h => h
      threads := fun h => h
      proposals := fun {_ p} h => ⟨p.status, h, fun _ => rfl⟩
      approvals := fun h => Table.find_append_of_some h
      outbox := fun {_ r} h => ⟨r, h, SameItem.refl r⟩ }

theorem insertCardAction {row : FeishuCardAction} (h : db.insertCardAction row = .ok db') :
    db.Grows db' := by
  obtain ⟨_, _, _, rfl⟩ := Database.insertCardAction_eq_ok.mp h
  exact
    { blobs := fun h => h
      threads := fun h => h
      proposals := fun {_ p} h => ⟨p.status, h, fun _ => rfl⟩
      approvals := fun h => h
      outbox := fun {_ r} h => ⟨r, h, SameItem.refl r⟩ }

theorem updateThread (id : UUID) {values : GraphThread → GraphThread}
    (hid : ∀ row, (values row).id = row.id) : db.Grows (db.updateThread id values) where
  blobs h := h
  threads := by
    intro j h
    unfold Database.hasThread Database.updateThread at *
    rw [Table.find_modify hid, Option.isSome_map]
    exact h
  proposals {_ p} h := ⟨p.status, h, fun _ => rfl⟩
  approvals h := h
  outbox {_ r} h := ⟨r, h, SameItem.refl r⟩

/-- A pending proposal is handled. -/
theorem updateProposal {proposal : ActionProposal} (hp : db.proposal? proposal.id = some proposal)
    (hpending : proposal.status = .pending) (status : ProposalStatus) :
    db.Grows (db.updateProposal proposal.id fun row => { row with status := status }) where
  blobs h := h
  threads h := h
  proposals := by
    intro id p h
    have hkey : ∀ row : ActionProposal, ({ row with status := status } : ActionProposal).id =
        row.id := fun _ => rfl
    unfold Database.proposal? Database.updateProposal at *
    rw [Table.find_modify hkey, h]
    by_cases hid : p.id = proposal.id
    · have he : p = proposal := by
        have hk := Table.find_key h
        rw [← hk, hid, hp] at h
        exact (Option.some.inj h).symm
      subst he
      exact ⟨status, by simp, fun hne => absurd hpending hne⟩
    · exact ⟨p.status, by simp [hid], fun _ => rfl⟩
  approvals h := h
  outbox {_ r} h := ⟨r, h, SameItem.refl r⟩

/-- The workers change the state of a row and nothing it says. -/
theorem updateOutbox (id : UUID) {values : FeishuOutbox → FeishuOutbox}
    (hsame : ∀ row, SameItem row (values row)) :
    db.Grows { db with outbox := Storage.updateOutbox id values db.outbox } where
  blobs h := h
  threads h := h
  proposals {_ p} h := ⟨p.status, h, fun _ => rfl⟩
  approvals h := h
  outbox := by
    intro key r h
    have hkey : ∀ row : FeishuOutbox,
        (if row.id = id then values row else row).idempotencyKey = row.idempotencyKey := by
      intro row
      split_ifs
      · exact (hsame row).idempotencyKey
      · rfl
    unfold Database.outboxForKey? Storage.updateOutbox Table.modify Table.find at *
    simp only [List.find?_map, Function.comp_def, hkey, h, Option.map_some]
    refine ⟨_, rfl, ?_⟩
    split_ifs
    · exact hsame r
    · exact SameItem.refl r

theorem insertThread (row : GraphThread) : db.Grows
    { db with graphThreads := Table.insertOrIgnore GraphThread.id row db.graphThreads } where
  blobs h := h
  threads := by
    intro id h
    unfold Database.hasThread at *
    obtain ⟨t, ht⟩ := Option.isSome_iff_exists.mp h
    rw [Table.find_insertOrIgnore, ht]
    rfl
  proposals {_ p} h := ⟨p.status, h, fun _ => rfl⟩
  approvals h := h
  outbox {_ r} h := ⟨r, h, SameItem.refl r⟩

end Database.Grows

/-- What the UNIQUE and FOREIGN KEY constraints keep true of the tables. -/
structure Database.Constrained (db : Database) : Prop where
  proposalIds : Table.Unique ActionProposal.id db.actionProposals
  proposalKeys : Table.Unique ActionProposal.idempotencyKey db.actionProposals
  approvalKeys : Table.Unique HumanApproval.idempotencyKey db.humanApprovals
  outboxIds : Table.Unique FeishuOutbox.id db.outbox
  outboxKeys : Table.Unique FeishuOutbox.idempotencyKey db.outbox
  proposalThreads : ∀ p ∈ db.actionProposals, db.hasThread p.threadId = true

structure Scope where
  /-- The payloads it hands to the blob store. -/
  blob : ArtifactBlob → Prop := fun _ => False
  outbox : FeishuOutbox → Prop := fun _ => False
  approval : HumanApproval → Prop := fun _ => False
  proposal : ActionProposal → Prop := fun _ => False
  /-- The proposals it handles, and the status they get. -/
  handle : UUID → ProposalStatus → Prop := fun _ _ => False
  /-- The outbox rows it marks as succeeded. -/
  succeed : UUID → Prop := fun _ => False

inductive Statement (scope : Scope) (db : Database) : Database → Prop
  | blob {row : ArtifactBlob} (hrow : scope.blob row) :
    Statement scope db (db.insertBlobOrIgnore row)
  | outbox {row : FeishuOutbox} {db' : Database} (h : db.insertOutbox row = .ok db')
    (hrow : scope.outbox row) (hpending : row.status = .pending) : Statement scope db db'
  | proposal {row : ActionProposal} {db' : Database}
    (h : db.insertProposalOrIgnore row = .ok db') (hrow : scope.proposal row)
    (hpending : row.status = .pending) : Statement scope db db'
  | approval {row : HumanApproval} {db' : Database} (h : db.insertApproval row = .ok db')
    (hrow : scope.approval row) : Statement scope db db'
  | cardAction {row : FeishuCardAction} {db' : Database}
    (h : db.insertCardAction row = .ok db') : Statement scope db db'
  | thread (row : GraphThread) : Statement scope db
    { db with graphThreads := Table.insertOrIgnore GraphThread.id row db.graphThreads }
  | updateThread (id : UUID) {values : GraphThread → GraphThread}
    (hid : ∀ row, (values row).id = row.id) : Statement scope db (db.updateThread id values)
  | handle {proposal : ActionProposal} (hp : db.proposal? proposal.id = some proposal)
    (hpending : proposal.status = .pending) {status : ProposalStatus}
    (hscope : scope.handle proposal.id status) :
    Statement scope db
      (db.updateProposal proposal.id fun row => { row with status := status })
  | updateOutbox (id : UUID) {values : FeishuOutbox → FeishuOutbox}
    (hsame : ∀ row, SameItem row (values row))
    (hstatus : ∀ row, (values row).status = .succeeded → scope.succeed id) :
    Statement scope db { db with outbox := Storage.updateOutbox id values db.outbox }

/-- The statements of a transaction one after the other. -/
abbrev Statements (scope : Scope) : Database → Database → Prop :=
  Relation.ReflTransGen (Statement scope)

variable {db db' : Database} {scope : Scope}

theorem Statement.grows (h : Statement scope db db') : db.Grows db' := by
  cases h with
  | blob hrow => exact .insertBlobOrIgnore _
  | outbox h => exact .insertOutbox h
  | proposal h => exact .insertProposalOrIgnore h
  | approval h => exact .insertApproval h
  | cardAction h => exact .insertCardAction h
  | thread row => exact .insertThread row
  | updateThread id hid => exact .updateThread id hid
  | handle hp hpending => exact .updateProposal hp hpending _
  | updateOutbox id hsame => exact .updateOutbox id hsame

theorem Statements.grows (h : Statements scope db db') : db.Grows db' := by
  induction h with
  | refl => exact .refl db
  | tail _ hlast ih => exact ih.trans hlast.grows

theorem Statement.constrained (h : Statement scope db db') (hc : db.Constrained) :
    db'.Constrained := by
  have hthreads : ∀ p ∈ db.actionProposals, db'.hasThread p.threadId = true :=
    fun p hp => h.grows.threads (hc.proposalThreads p hp)
  cases h with
  | blob hrow => exact ⟨hc.1, hc.2, hc.3, hc.4, hc.5, hthreads⟩
  | outbox h =>
    obtain ⟨hkey, hid, _, rfl⟩ := Database.insertOutbox_eq_ok.mp h
    exact ⟨hc.1, hc.2, hc.3, hc.4.append_singleton hid, hc.5.append_singleton hkey, hthreads⟩
  | proposal h =>
    rcases Database.insertProposalOrIgnore_eq_ok.mp h with ⟨_, rfl⟩ | ⟨hkey, hid, hthread, rfl⟩
    · exact hc
    · refine ⟨hc.1.append_singleton hid, hc.2.append_singleton hkey, hc.3, hc.4, hc.5, ?_⟩
      intro p hp
      rcases List.mem_append.mp hp with hp | hp
      · exact hthreads p hp
      · obtain rfl := List.mem_singleton.mp hp
        exact hthread
  | approval h =>
    obtain ⟨hkey, _, _, rfl⟩ := Database.insertApproval_eq_ok.mp h
    exact ⟨hc.1, hc.2, hc.3.append_singleton hkey, hc.4, hc.5, hthreads⟩
  | cardAction h =>
    obtain ⟨_, _, _, rfl⟩ := Database.insertCardAction_eq_ok.mp h
    exact ⟨hc.1, hc.2, hc.3, hc.4, hc.5, hthreads⟩
  | thread row => exact ⟨hc.1, hc.2, hc.3, hc.4, hc.5, hthreads⟩
  | updateThread id hid => exact ⟨hc.1, hc.2, hc.3, hc.4, hc.5, hthreads⟩
  | handle hp hpending hscope =>
    refine ⟨hc.1.modify ?_, hc.2.modify ?_, hc.3, hc.4, hc.5, ?_⟩
    · exact fun _ => rfl
    · exact fun _ => rfl
    · intro p hp
      obtain ⟨q, hq, rfl⟩ := Table.mem_modify.mp hp
      split_ifs
      · exact hthreads q hq
      · exact hthreads q hq
  | updateOutbox id hsame =>
    exact ⟨hc.1, hc.2, hc.3, hc.4.modify fun row => (hsame row).id,
      hc.5.modify fun row => (hsame row).idempotencyKey, hthreads⟩

theorem Statements.constrained (h : Statements scope db db') (hc : db.Constrained) :
    db'.Constrained := by
  induction h with
  | refl => exact hc
  | tail _ hlast ih => exact hlast.constrained ih

theorem Statements.approval_origin (h : Statements scope db db') {a : HumanApproval}
    (ha : a ∈ db'.humanApprovals) : a ∈ db.humanApprovals ∨ scope.approval a := by
  induction h with
  | refl => exact .inl ha
  | tail _ hlast ih =>
    cases hlast with
    | approval h hrow =>
      obtain ⟨_, _, _, rfl⟩ := Database.insertApproval_eq_ok.mp h
      rcases List.mem_append.mp ha with ha | ha
      · exact ih ha
      · obtain rfl := List.mem_singleton.mp ha
        exact .inr hrow
    | outbox h =>
      obtain ⟨_, _, _, rfl⟩ := Database.insertOutbox_eq_ok.mp h
      exact ih ha
    | proposal h =>
      rcases Database.insertProposalOrIgnore_eq_ok.mp h with ⟨_, rfl⟩ | ⟨_, _, _, rfl⟩
      · exact ih ha
      · exact ih ha
    | cardAction h =>
      obtain ⟨_, _, _, rfl⟩ := Database.insertCardAction_eq_ok.mp h
      exact ih ha
    | _ => exact ih ha

/-- A row was there before, or it is one the transaction may write; and it has
succeeded before, or it is one the transaction may complete. -/
theorem Statements.outbox_origin (h : Statements scope db db') {r' : FeishuOutbox}
    (hr : r' ∈ db'.outbox) :
    ∃ r, (r ∈ db.outbox ∨ scope.outbox r ∧ r.status = .pending) ∧ SameItem r r' ∧
      (r'.status = .succeeded → r.status = .succeeded ∨ scope.succeed r'.id) := by
  induction h generalizing r' with
  | refl => exact ⟨r', .inl hr, .refl r', fun h => .inl h⟩
  | tail _ hlast ih =>
    cases hlast with
    | outbox h hrow hpending =>
      obtain ⟨_, _, _, rfl⟩ := Database.insertOutbox_eq_ok.mp h
      rcases List.mem_append.mp hr with hr | hr
      · exact ih hr
      · obtain rfl := List.mem_singleton.mp hr
        exact ⟨r', .inr ⟨hrow, hpending⟩, .refl r', fun h => .inl h⟩
    | updateOutbox id hsame hstatus =>
      obtain ⟨q, hq, rfl⟩ := Table.mem_modify.mp hr
      obtain ⟨r, horigin, hrq, hsucc⟩ := ih hq
      refine ⟨r, horigin, ?_⟩
      split_ifs with hid
      · refine ⟨hrq.trans (hsame q), fun hs => .inr ?_⟩
        rw [(hsame q).id, hid]
        exact hstatus q hs
      · exact ⟨hrq, hsucc⟩
    | approval h =>
      obtain ⟨_, _, _, rfl⟩ := Database.insertApproval_eq_ok.mp h
      exact ih hr
    | proposal h =>
      rcases Database.insertProposalOrIgnore_eq_ok.mp h with ⟨_, rfl⟩ | ⟨_, _, _, rfl⟩
      · exact ih hr
      · exact ih hr
    | cardAction h =>
      obtain ⟨_, _, _, rfl⟩ := Database.insertCardAction_eq_ok.mp h
      exact ih hr
    | _ => exact ih hr

/-- A proposal was there before, or it is one the transaction may add; and it has the
status it had, or one the transaction may give it. -/
theorem Statements.proposal_origin (h : Statements scope db db') {p' : ActionProposal}
    (hp : p' ∈ db'.actionProposals) :
    ∃ p, (p ∈ db.actionProposals ∨ scope.proposal p ∧ p.status = .pending) ∧
      p' = { p with status := p'.status } ∧
      (p'.status = p.status ∨ scope.handle p.id p'.status) := by
  induction h generalizing p' with
  | refl => exact ⟨p', .inl hp, rfl, .inl rfl⟩
  | tail _ hlast ih =>
    cases hlast with
    | proposal h hrow hpending =>
      rcases Database.insertProposalOrIgnore_eq_ok.mp h with ⟨_, rfl⟩ | ⟨_, _, _, rfl⟩
      · exact ih hp
      · rcases List.mem_append.mp hp with hp | hp
        · exact ih hp
        · obtain rfl := List.mem_singleton.mp hp
          exact ⟨p', .inr ⟨hrow, hpending⟩, rfl, .inl rfl⟩
    | handle hfind hpending hscope =>
      obtain ⟨q, hq, rfl⟩ := Table.mem_modify.mp hp
      obtain ⟨p, horigin, hpq, hstatus⟩ := ih hq
      refine ⟨p, horigin, ?_⟩
      split_ifs with hid
      · have hpid : p.id = q.id := by rw [hpq]
        refine ⟨by rw [hpq], .inr ?_⟩
        rw [hpid, hid]
        exact hscope
      · exact ⟨hpq, hstatus⟩
    | approval h =>
      obtain ⟨_, _, _, rfl⟩ := Database.insertApproval_eq_ok.mp h
      exact ih hp
    | outbox h =>
      obtain ⟨_, _, _, rfl⟩ := Database.insertOutbox_eq_ok.mp h
      exact ih hp
    | cardAction h =>
      obtain ⟨_, _, _, rfl⟩ := Database.insertCardAction_eq_ok.mp h
      exact ih hp
    | _ => exact ih hp

def Database.Digested (preimage : String → Dict) (db : Database) : Prop :=
  ∀ ref b, db.blob? ref = some b → b.contentJson = .obj (preimage b.sha256)

def Scope.Digested (preimage : String → Dict) (scope : Scope) : Prop :=
  ∀ b, scope.blob b → b.contentJson = .obj (preimage b.sha256)

theorem Statement.digested {preimage : String → Dict} (h : Statement scope db db')
    (hscope : scope.Digested preimage) (hd : db.Digested preimage) : db'.Digested preimage := by
  cases h with
  | blob hrow =>
    intro ref b hb
    rw [blob?_insertBlobOrIgnore] at hb
    rcases Option.or_eq_some_iff.mp hb with hb | ⟨_, hb⟩
    · exact hd ref b hb
    · split_ifs at hb
      obtain rfl := Option.some.inj hb
      exact hscope _ hrow
  | outbox h =>
    obtain ⟨_, _, _, rfl⟩ := Database.insertOutbox_eq_ok.mp h
    exact hd
  | proposal h =>
    rcases Database.insertProposalOrIgnore_eq_ok.mp h with ⟨_, rfl⟩ | ⟨_, _, _, rfl⟩
    · exact hd
    · exact hd
  | approval h =>
    obtain ⟨_, _, _, rfl⟩ := Database.insertApproval_eq_ok.mp h
    exact hd
  | cardAction h =>
    obtain ⟨_, _, _, rfl⟩ := Database.insertCardAction_eq_ok.mp h
    exact hd
  | _ => exact hd

theorem Statements.digested {preimage : String → Dict} (h : Statements scope db db')
    (hscope : scope.Digested preimage) (hd : db.Digested preimage) : db'.Digested preimage := by
  induction h with
  | refl => exact hd
  | tail _ hlast ih => exact hlast.digested hscope ih

theorem storeJsonPayload_statements {ref text sha : String} {payload : Dict}
    (h : storeJsonPayload ref payload text sha db = .ok db')
    (hscope : scope.blob (jsonBlob ref payload text sha)) : Statements scope db db' := by
  rcases storeJsonPayload_eq_ok.mp h with ⟨b, _, _, rfl⟩ | ⟨_, rfl⟩
  · exact .refl
  · exact .single (.blob hscope)

/-- A stored payload is read back, unless another one has its digest. -/
theorem getJsonPayload_storeJsonPayload {preimage : String → Dict} {ref text sha : String}
    {payload : Dict} (h : storeJsonPayload ref payload text sha db = .ok db')
    (hd : db'.Digested preimage) (hsha : preimage sha = payload) :
    getJsonPayload ref db' = .ok payload := by
  obtain ⟨b, hb, rfl⟩ := blob?_storeJsonPayload h
  simp [getJsonPayload, hb, hd ref b hb, hsha]

def outboxBlob (crypto : Crypto) (payload : Dict) (contentRef : Option String) : ArtifactBlob :=
  jsonBlob (resolvedContentRef crypto payload contentRef) payload (dumps .compact (.obj payload))
    (stableHash crypto payload)

theorem enqueueJson_statements {crypto : Crypto} {row : RowDefaults} {kind : OutboxKind}
    {key : String} {payload : Dict} {threadId : Option UUID} {contentRef : Option String}
    {ref : String}
    (h : enqueueJson crypto row kind key payload threadId contentRef db = .ok (ref, db'))
    (hblob : scope.blob (outboxBlob crypto payload contentRef))
    (houtbox : ∀ ref, scope.outbox (pendingOutbox row kind key threadId ref)) :
    Statements scope db db' := by
  rcases enqueueJson_cases h with ⟨_, _, _, rfl⟩ | ⟨_, rfl, db₁, hstore, hinsert⟩
  · exact .refl
  · exact (storeJsonPayload_statements hstore hblob).tail (.outbox hinsert (houtbox _) rfl)

theorem storeJsonPayload_grows {ref text sha : String} {payload : Dict}
    (h : storeJsonPayload ref payload text sha db = .ok db') : db.Grows db' :=
  have hstatements : Statements { blob := fun _ => True } db db' :=
    storeJsonPayload_statements h trivial
  hstatements.grows

section Enqueue

variable {crypto : Crypto} {row : RowDefaults} {kind : OutboxKind} {key : String} {payload : Dict}
  {threadId : Option UUID} {contentRef : Option String} {ref : String}

theorem enqueueJson_grows
    (h : enqueueJson crypto row kind key payload threadId contentRef db = .ok (ref, db')) :
    db.Grows db' :=
  have hstatements : Statements { blob := fun _ => True, outbox := fun _ => True } db db' :=
    enqueueJson_statements h trivial fun _ => trivial
  hstatements.grows

theorem blob?_of_enqueueJson {b : ArtifactBlob} {r : String}
    (h : enqueueJson crypto row kind key payload threadId contentRef db = .ok (ref, db'))
    (hb : db'.blob? r = some b) :
    db.blob? r = some b ∨ r = resolvedContentRef crypto payload contentRef := by
  rcases enqueueJson_cases h with ⟨_, _, _, rfl⟩ | ⟨_, rfl, db₁, hstore, hinsert⟩
  · exact .inl hb
  · obtain ⟨_, _, _, rfl⟩ := Database.insertOutbox_eq_ok.mp hinsert
    exact (blob?_of_storeJsonPayload hstore hb).imp_right And.left

/-- Enqueueing adds a row under its key, unless there is one. -/
theorem isSome_outboxForKey?_enqueueJson {k : String}
    (h : enqueueJson crypto row kind key payload threadId contentRef db = .ok (ref, db')) :
    (db'.outboxForKey? k).isSome = true ↔ (db.outboxForKey? k).isSome = true ∨ k = key := by
  rcases enqueueJson_cases h with ⟨existing, hexisting, _, rfl⟩ | ⟨_, rfl, db₁, hstore, hinsert⟩
  · constructor
    · exact .inl
    · rintro (h | rfl)
      · exact h
      · simp [hexisting]
  · obtain ⟨_, _, _, rfl⟩ := Database.insertOutbox_eq_ok.mp hinsert
    rw [storeJsonPayload_frame hstore]
    change (Table.find FeishuOutbox.idempotencyKey k (db.outbox ++ [_])).isSome = true ↔ _
    rw [Table.find_append_singleton]
    by_cases hk : k = key
    · simp [hk, pendingOutbox]
    · simp [hk, Ne.symm hk, pendingOutbox, Database.outboxForKey?]

/-- The row under the key has the ref that is returned. -/
theorem outboxForKey?_enqueueJson
    (h : enqueueJson crypto row kind key payload threadId contentRef db = .ok (ref, db')) :
    ∃ existing, db'.outboxForKey? key = some existing ∧ existing.payloadRef = ref := by
  rcases enqueueJson_cases h with ⟨existing, hexisting, rfl, rfl⟩ | ⟨hnone, _, db₁, hstore, hinsert⟩
  · exact ⟨existing, hexisting, rfl⟩
  · obtain ⟨_, _, _, rfl⟩ := Database.insertOutbox_eq_ok.mp hinsert
    refine ⟨pendingOutbox row kind key threadId ref, ?_, rfl⟩
    rw [storeJsonPayload_frame hstore]
    unfold Database.outboxForKey? at hnone ⊢
    rw [Table.find_append_singleton, hnone]
    simp [pendingOutbox]

/-- The payload under the ref that is returned has the digest of the payload. -/
theorem digest_enqueueJson
    (h : enqueueJson crypto row kind key payload threadId contentRef db = .ok (ref, db')) :
    ∃ b, db'.blob? ref = some b ∧ b.sha256 = stableHash crypto payload := by
  cases hk : db.outboxForKey? key with
  | some existing =>
    simp only [enqueueJson, hk, Except.check_eq_ok, Except.ok.injEq, Prod.mk.injEq] at h
    obtain ⟨hcheck, rfl, rfl⟩ := h
    unfold ensureExistingPayloadMatches at hcheck
    split at hcheck
    · rename_i b hb
      split_ifs at hcheck with hsha
      exact ⟨b, hb, hsha⟩
    · cases hcheck
  | none =>
    rcases enqueueJson_cases h with ⟨existing, hexisting, _⟩ | ⟨_, _, db₁, hstore, hinsert⟩
    · rw [hk] at hexisting
      cases hexisting
    · obtain ⟨b, hb, hsha⟩ := blob?_storeJsonPayload hstore
      exact ⟨b, (Database.Grows.insertOutbox hinsert).blobs hb, hsha⟩

/-- A new key. The payload under its ref, if there is one, is the same. -/
theorem enqueueJson_new (hkey : db.outboxForKey? key = none)
    (hblob : ∀ b, db.blob? (resolvedContentRef crypto payload contentRef) = some b →
      b.sha256 = stableHash crypto payload)
    (hid : Table.find FeishuOutbox.id row.id db.outbox = none)
    (hthread : ∀ id ∈ threadId, db.hasThread id = true) :
    ∃ db', enqueueJson crypto row kind key payload threadId contentRef db =
        .ok (resolvedContentRef crypto payload contentRef, db') ∧
      db'.outbox = db.outbox ++ [pendingOutbox row kind key threadId
        (resolvedContentRef crypto payload contentRef)] := by
  obtain ⟨db₁, hstore⟩ : ∃ db₁, storeJsonPayload (resolvedContentRef crypto payload contentRef)
      payload (dumps .compact (.obj payload)) (stableHash crypto payload) db = .ok db₁ := by
    cases hb : db.blob? (resolvedContentRef crypto payload contentRef) with
    | none => exact ⟨_, storeJsonPayload_eq_ok.mpr (.inr ⟨hb, rfl⟩)⟩
    | some b => exact ⟨_, storeJsonPayload_eq_ok.mpr (.inl ⟨b, hb, hblob b hb, rfl⟩)⟩
  have hframe := storeJsonPayload_frame hstore
  obtain ⟨db₂, hinsert, houtbox⟩ : ∃ db₂, db₁.insertOutbox (pendingOutbox row kind key threadId
      (resolvedContentRef crypto payload contentRef)) = .ok db₂ ∧
        db₂.outbox = db.outbox ++ [pendingOutbox row kind key threadId
          (resolvedContentRef crypto payload contentRef)] := by
    rw [hframe]
    exact ⟨_, Database.insertOutbox_eq_ok.mpr ⟨hkey, hid, hthread, rfl⟩, rfl⟩
  refine ⟨db₂, ?_, houtbox⟩
  rw [enqueueJson_of_none hkey, hstore]
  change (db₁.insertOutbox _ >>= _) = _
  rw [hinsert]
  rfl

/-- A new key with a new ref. -/
theorem enqueueJson_fresh (hkey : db.outboxForKey? key = none)
    (hblob : db.blob? (resolvedContentRef crypto payload contentRef) = none)
    (hid : Table.find FeishuOutbox.id row.id db.outbox = none)
    (hthread : ∀ id ∈ threadId, db.hasThread id = true) :
    ∃ db', enqueueJson crypto row kind key payload threadId contentRef db =
      .ok (resolvedContentRef crypto payload contentRef, db') := by
  obtain ⟨db', henqueue, _⟩ := @enqueueJson_new _ crypto row kind key payload threadId contentRef
    hkey (fun b hb => by rw [hblob] at hb; cases hb) hid hthread
  exact ⟨db', henqueue⟩

end Enqueue

/-- Enqueueing touches payloads and outbox rows only. -/
theorem enqueueJson_frame {crypto : Crypto} {row : RowDefaults} {kind : OutboxKind}
    {key : String} {payload : Dict} {threadId : Option UUID} {contentRef : Option String}
    {ref : String}
    (h : enqueueJson crypto row kind key payload threadId contentRef db = .ok (ref, db')) :
    db' = { db with artifactBlobs := db'.artifactBlobs, outbox := db'.outbox } := by
  rcases enqueueJson_cases h with ⟨_, _, _, rfl⟩ | ⟨_, _, db₁, hstore, hinsert⟩
  · rfl
  · obtain ⟨_, _, _, rfl⟩ := Database.insertOutbox_eq_ok.mp hinsert
    rw [storeJsonPayload_frame hstore]

theorem insertActionAndResume_statements {row : RowDefaults} {action : FeishuCardAction}
    {interruptId : UUID} {payloadRef : String} {approver : Dict}
    (h : insertActionAndResume row action interruptId payloadRef approver db = .ok db')
    (happroval : ∀ h, scope.approval h)
    (houtbox : scope.outbox (pendingOutbox row .resume (resumeKey action.idempotencyKey)
      action.threadId payloadRef)) : Statements scope db db' := by
  unfold insertActionAndResume at h
  simp only [Except.bind_eq_ok] at h
  obtain ⟨db₁, haction, db₂, hinsert, h⟩ := h
  exact ((Relation.ReflTransGen.single (.cardAction haction)).tail
    (.approval hinsert (happroval _))).tail (.outbox h houtbox rfl)

end Headhunt.Storage
