import Headhunt.Feishu.Fencing
import Headhunt.Runtime.TaskSystem

/-! A task that is prepared more than once, after an error or by a second worker, gets one
card: the confirmation card, or the one that says it could not be read. -/
namespace Headhunt.Runtime
open Headhunt.Core Headhunt.Feishu Headhunt.ModelProfiles Headhunt.Policy Headhunt.Storage Py

def HasConfirmationCard (db : Database) (sourceRef : String) (modelProfileId : UUID) : Prop :=
  (db.outboxForKey? (taskConfirmationKey sourceRef modelProfileId)).isSome = true

def HasParseFailedCard (db : Database) (sourceRef : String) (modelProfileId : UUID) : Prop :=
  (db.outboxForKey? (taskParseFailedKey sourceRef modelProfileId)).isSome = true

def OneOutcome (db : Database) : Prop :=
  ∀ sourceRef modelProfileId, HasConfirmationCard db sourceRef modelProfileId →
    ¬HasParseFailedCard db sourceRef modelProfileId

section Outcome

variable (settings : Settings) (crypto : Crypto) (decryptGcm : DecryptGcm)

/-- The model cannot be reached, and the item is tried again. -/
def Retries (item : PrepareItem) (payload : Dict) (run : PrepareRun) (db : Database) : Prop :=
  ∃ exc, readTask settings crypto decryptGcm item payload run db = .error exc ∧
    isRetryableTaskPrepareError exc = true

/-- The task is read as the one whose payload and card are stored, if they are. -/
def Fits (item : PrepareItem) (payload : Dict) (run : PrepareRun) (db : Database) : Prop :=
  ∃ parsed modelLabel plan,
    readTask settings crypto decryptGcm item payload run db = .ok (parsed, modelLabel) ∧
    confirmablePlan parsed run.fresh = .ok plan ∧
    (∀ b, db.blob? (taskPayloadRef plan.threadId plan.taskId) = some b →
      b.sha256 = stableHash crypto (buildGraphDispatchPayload parsed plan item.modelProfileId none)) ∧
    ∀ b, db.blob? (taskConfirmationCardRef plan.threadId plan.taskId) = some b →
      b.sha256 = stableHash crypto (confirmationCardPayload item.chatId parsed plan)

variable {ω : Type*} [DecidableEq ω] (config : ω → FeishuOutboxDispatcher)

def Executes (s : TaskSystem ω) (w : ω) (h : Held) (payload : Dict) (item : PrepareItem) : Prop :=
  s.held w = some h ∧ h.item.kind = .taskConfirmationPrepare ∧
    getJsonPayload h.item.payloadRef s.db = .ok payload ∧ prepareItem payload = .ok item

/-- An execution agrees with the card that has been sent: with the confirmation card if it
reads the same task or is to be tried again, with the other one if it does not read a task. -/
def AgreesWithCard (s : TaskSystem ω) : TaskEvent ω → Prop
  | .finishPrepare w run => ∀ h payload item, Executes s w h payload item →
    (HasConfirmationCard s.db item.sourceRef item.modelProfileId →
      Retries settings crypto decryptGcm item payload run s.db ∨
        Fits settings crypto decryptGcm item payload run s.db) ∧
    (HasParseFailedCard s.db item.sourceRef item.modelProfileId →
      ¬Fits settings crypto decryptGcm item payload run s.db)
  | _ => True

/-- An execution after the confirmation card writes the state of its own row only. -/
def AddsNothing (s : TaskSystem ω) : TaskEvent ω → Prop
  | .finishPrepare w run => ∀ h payload item t, Executes s w h payload item →
    HasConfirmationCard s.db item.sourceRef item.modelProfileId →
    TaskSystem.step settings crypto decryptGcm config s (.finishPrepare w run) = some t →
    ∃ outcome, t.db =
      { s.db with outbox := (config w).finish h.item h.currentTime outcome s.db.outbox }
  | _ => True

end Outcome

structure Answered (crypto : Crypto) (db : Database) : Prop where
  one : OneOutcome db
  cardRef : ∀ sourceRef modelProfileId row,
    db.outboxForKey? (taskConfirmationKey sourceRef modelProfileId) = some row →
    row.payloadRef =
      taskConfirmationCardRef (feishuThreadId crypto sourceRef) (feishuTaskId crypto sourceRef)
  stored : ∀ sourceRef modelProfileId, HasConfirmationCard db sourceRef modelProfileId →
    (∃ b, db.blob? (taskCard crypto sourceRef).taskPayloadRef = some b) ∧
      ∃ b, db.blob? (taskConfirmationCardRef (feishuThreadId crypto sourceRef)
        (feishuTaskId crypto sourceRef)) = some b

section Answered

variable {settings : Settings} {crypto : Crypto} {decryptGcm : DecryptGcm} {item : PrepareItem}
  {payload : Dict} {run : PrepareRun} {db db' : Database}

theorem answered_empty : Answered crypto {} where
  one := by
    intro _ _ h
    cases h
  cardRef := by
    intro _ _ _ h
    cases h
  stored := by
    intro _ _ h
    cases h

/-- A part that sends no card. -/
theorem Answered.of_grows (hs : Answered crypto db) (hgrows : db.Grows db')
    (hconfirm : ∀ sourceRef modelProfileId, HasConfirmationCard db' sourceRef modelProfileId →
      HasConfirmationCard db sourceRef modelProfileId)
    (hone : OneOutcome db') : Answered crypto db' where
  one := hone
  cardRef := by
    intro sourceRef modelProfileId row' hrow'
    have hsent : HasConfirmationCard db sourceRef modelProfileId :=
      hconfirm sourceRef modelProfileId (Option.isSome_iff_exists.mpr ⟨row', hrow'⟩)
    obtain ⟨row, hrow⟩ := Option.isSome_iff_exists.mp hsent
    obtain ⟨_, hfind, hsame⟩ := hgrows.outbox hrow
    obtain rfl := Option.some.inj (hrow'.symm.trans hfind)
    rw [hsame.payloadRef]
    exact hs.cardRef sourceRef modelProfileId row hrow
  stored := by
    intro sourceRef modelProfileId hsent
    obtain ⟨⟨b, hb⟩, b', hb'⟩ := hs.stored sourceRef modelProfileId (hconfirm _ _ hsent)
    exact ⟨⟨b, hgrows.blobs hb⟩, b', hgrows.blobs hb'⟩

/-- Other keys are not those of the cards. -/
theorem Answered.of_keys (hs : Answered crypto db) (hgrows : db.Grows db')
    (hkeys : ∀ key, startsWith key "task_confirmation:" = true ∨
      startsWith key "task_parse_failed:" = true →
      (db'.outboxForKey? key).isSome = true → (db.outboxForKey? key).isSome = true) :
    Answered crypto db' := by
  have hconfirm : ∀ sourceRef modelProfileId, HasConfirmationCard db' sourceRef modelProfileId →
      HasConfirmationCard db sourceRef modelProfileId :=
    fun sourceRef modelProfileId =>
      hkeys _ (.inl (taskConfirmationKey_start sourceRef modelProfileId))
  refine hs.of_grows hgrows hconfirm ?_
  intro sourceRef modelProfileId hsent hfailed
  refine hs.one sourceRef modelProfileId (hconfirm _ _ hsent) ?_
  exact hkeys _ (.inr (taskParseFailedKey_start sourceRef modelProfileId)) hfailed

theorem Answered.spares (hs : Answered crypto db) (h : SparesTasks db db') :
    Answered crypto db' := by
  refine hs.of_keys h.grows ?_
  rintro key (hkey | hkey) hsome
  · exact h.keys key (reservedTaskKey_of_start (by decide) hkey) hsome
  · exact h.keys key (reservedTaskKey_of_start (by decide) hkey) hsome

/-- A transaction whose only new row is under a key of another kind. -/
theorem Answered.of_start {start key : String} (hs : Answered crypto db) (hgrows : db.Grows db')
    (hstart : start = "graph_dispatch:" ∨ start = "task_authorize:")
    (hkey : startsWith key start = true)
    (houtbox : ∀ k, (db'.outboxForKey? k).isSome = true →
      (db.outboxForKey? k).isSome = true ∨ k = key) : Answered crypto db' := by
  refine hs.of_keys hgrows ?_
  intro k hk hsome
  rcases houtbox k hsome with h | rfl
  · exact h
  · have hmem : start ∈ taskKeyStarts := by
      rcases hstart with rfl | rfl <;> decide
    rcases hk with hk | hk
    · obtain rfl := taskKeyStart_unique hmem (by decide) hkey hk
      exact absurd hstart (by decide)
    · obtain rfl := taskKeyStart_unique hmem (by decide) hkey hk
      exact absurd hstart (by decide)

variable {parsed : FeishuTaskIntake} {modelLabel : String} {plan : TaskPlan}

/-- The ids of a plan are made of the source ref of its item. -/
theorem plan_ids (hnames : PayloadNames payload item)
    (hread : readTask settings crypto decryptGcm item payload run db = .ok (parsed, modelLabel))
    (hplan : confirmablePlan parsed run.fresh = .ok plan) :
    parsed.sourceRef = item.sourceRef ∧
      plan.threadId = feishuThreadId crypto item.sourceRef ∧
      plan.taskId = feishuTaskId crypto item.sourceRef := by
  have htask := taskRead_of_readTask hnames hread
  obtain ⟨_, hthread, hid⟩ := confirmablePlan_eq_ok hplan
  rw [hthread, hid, htask.identified.threadId, htask.identified.taskId, htask.sourceRef]
  exact ⟨rfl, rfl, rfl⟩

theorem taskConfirmationCardRef_ne (threadId taskId : UUID) :
    taskConfirmationCardRef threadId taskId ≠ "" := by
  intro h
  have hlist := congrArg String.toList h
  unfold taskConfirmationCardRef at hlist
  simp only [ToString.toString, String.toList_append] at hlist
  simp at hlist

/-- An execution that sends the confirmation card has read the task that is stored. -/
theorem Answered.fits (hs : Answered crypto db) (hnames : PayloadNames payload item)
    (hread : readTask settings crypto decryptGcm item payload run db = .ok (parsed, modelLabel))
    (h : SendsConfirmation crypto item parsed run plan db db') :
    Fits settings crypto decryptGcm item payload run db := by
  obtain ⟨hplan, db₁, ref, hstore, henqueue⟩ := h
  obtain ⟨hsource, hthread, hid⟩ := plan_ids hnames hread hplan
  have hgrows := storeJsonPayload_grows hstore
  refine ⟨parsed, modelLabel, plan, hread, hplan, ?_, ?_⟩
  · intro b hb
    obtain ⟨b', hb', hsha⟩ := blob?_storeJsonPayload hstore
    obtain rfl := Option.some.inj ((hgrows.blobs hb).symm.trans hb')
    exact hsha
  · intro b hb
    have hblob := hgrows.blobs hb
    have houtbox : db₁.outbox = db.outbox := by
      rw [storeJsonPayload_frame hstore]
    cases hrow : db₁.outboxForKey? (taskConfirmationKey parsed.sourceRef item.modelProfileId) with
    | some existing =>
      have hexisting : existing.payloadRef = taskConfirmationCardRef plan.threadId plan.taskId := by
        rw [hthread, hid]
        refine hs.cardRef item.sourceRef item.modelProfileId existing ?_
        unfold Database.outboxForKey? at hrow ⊢
        rwa [houtbox, hsource] at hrow
      simp only [enqueueCard, enqueueJson, hrow, Except.check_eq_ok] at henqueue
      have hmatch := henqueue.1
      simp only [ensureExistingPayloadMatches, hexisting, hblob] at hmatch
      split_ifs at hmatch with hsha
      exact hsha
    | none =>
      rcases enqueueJson_cases henqueue with ⟨existing, hexisting, _⟩ | ⟨_, href, db₂, hcard, _⟩
      · rw [hrow] at hexisting
        cases hexisting
      · rw [resolvedContentRef_some _ _ (taskConfirmationCardRef_ne _ _)] at href
        subst href
        obtain ⟨b', hb', hsha⟩ := blob?_storeJsonPayload hcard
        obtain rfl := Option.some.inj (((storeJsonPayload_grows hcard).blobs hblob).symm.trans hb')
        exact hsha

/-- Once the confirmation card has been sent, an execution that reads the same task finds
everything stored. -/
theorem Answered.confirmation_stored (hs : Answered crypto db)
    (hnames : PayloadNames payload item)
    (hsent : HasConfirmationCard db item.sourceRef item.modelProfileId)
    (hread : readTask settings crypto decryptGcm item payload run db = .ok (parsed, modelLabel))
    (hplan : confirmablePlan parsed run.fresh = .ok plan)
    (htask : ∀ b, db.blob? (taskPayloadRef plan.threadId plan.taskId) = some b →
      b.sha256 = stableHash crypto (buildGraphDispatchPayload parsed plan item.modelProfileId none))
    (hcard : ∀ b, db.blob? (taskConfirmationCardRef plan.threadId plan.taskId) = some b →
      b.sha256 = stableHash crypto (confirmationCardPayload item.chatId parsed plan)) :
    enqueueTaskConfirmationCard crypto item parsed run db = (.ok (), db) := by
  obtain ⟨hsource, hthread, hid⟩ := plan_ids hnames hread hplan
  obtain ⟨⟨b, hb⟩, b', hb'⟩ := hs.stored item.sourceRef item.modelProfileId hsent
  obtain ⟨existing, hrow⟩ := Option.isSome_iff_exists.mp hsent
  have hexisting := hs.cardRef item.sourceRef item.modelProfileId existing hrow
  have hblob : db.blob? (taskPayloadRef plan.threadId plan.taskId) = some b := by
    rw [hthread, hid]
    exact hb
  have hstore : storeTaskPayload crypto item parsed plan db = .ok db :=
    storeJsonPayload_eq_ok.mpr (.inl ⟨b, hblob, htask b hblob, rfl⟩)
  have hsha : b'.sha256 = stableHash crypto (confirmationCardPayload item.chatId parsed plan) := by
    refine hcard b' ?_
    rw [hthread, hid]
    exact hb'
  have henqueue : enqueueCard crypto item parsed plan run.row db =
      .ok (existing.payloadRef, db) := by
    simp only [enqueueCard, enqueueJson, hsource, hrow, ensureExistingPayloadMatches, hexisting,
      hb', hsha, if_true]
    rfl
  exact enqueueTaskConfirmationCard_eq_ok.mpr
    ⟨plan, hplan, db, existing.payloadRef, hstore, henqueue⟩

/-- An execution that sends the confirmation card, where the other one has not been sent. -/
theorem Answered.confirmed (hs : Answered crypto db) (hnames : PayloadNames payload item)
    (hread : readTask settings crypto decryptGcm item payload run db = .ok (parsed, modelLabel))
    (hfailed : ¬HasParseFailedCard db item.sourceRef item.modelProfileId)
    (h : SendsConfirmation crypto item parsed run plan db db') : Answered crypto db' := by
  obtain ⟨hplan, db₁, ref, hstore, henqueue⟩ := h
  obtain ⟨hsource, hthread, hid⟩ := plan_ids hnames hread hplan
  have houtbox : ∀ key, db₁.outboxForKey? key = db.outboxForKey? key := by
    intro key
    rw [storeJsonPayload_frame hstore]
    rfl
  have hgrows₁ := storeJsonPayload_grows hstore
  have hgrows₂ := enqueueJson_grows henqueue
  have hkeys : ∀ key, (db'.outboxForKey? key).isSome = true ↔
      (db.outboxForKey? key).isSome = true ∨
        key = taskConfirmationKey item.sourceRef item.modelProfileId := by
    intro key
    rw [isSome_outboxForKey?_enqueueJson henqueue, houtbox, hsource]
  have hfailedKeys : ∀ sourceRef modelProfileId, HasParseFailedCard db' sourceRef modelProfileId →
      HasParseFailedCard db sourceRef modelProfileId := by
    intro sourceRef modelProfileId hsome
    rcases (hkeys _).mp hsome with h | h
    · exact h
    · have hstart := taskParseFailedKey_start sourceRef modelProfileId
      rw [h] at hstart
      have hne := taskKeyStart_unique (by decide) (by decide) hstart (taskConfirmationKey_start _ _)
      exact absurd hne (by decide)
  have hcardRef : ∀ row, db'.outboxForKey? (taskConfirmationKey item.sourceRef
      item.modelProfileId) = some row → row.payloadRef = taskConfirmationCardRef
        (feishuThreadId crypto item.sourceRef) (feishuTaskId crypto item.sourceRef) := by
    intro row hrow
    obtain ⟨row', hrow', href⟩ := outboxForKey?_enqueueJson henqueue
    rw [hsource] at hrow'
    obtain rfl := Option.some.inj (hrow.symm.trans hrow')
    rw [href]
    rcases enqueueJson_cases henqueue with ⟨existing, hexisting, rfl, _⟩ | ⟨_, rfl, _⟩
    · rw [houtbox, hsource] at hexisting
      exact hs.cardRef _ _ _ hexisting
    · rw [resolvedContentRef_some _ _ (taskConfirmationCardRef_ne _ _), hthread, hid]
  have hcard : ∃ b, db'.blob? (taskConfirmationCardRef (feishuThreadId crypto item.sourceRef)
      (feishuTaskId crypto item.sourceRef)) = some b := by
    rcases enqueueJson_cases henqueue with
      ⟨existing, hexisting, _, _⟩ | ⟨_, rfl, db₂, hblob, hinsert⟩
    · rw [houtbox, hsource] at hexisting
      obtain ⟨_, b, hb⟩ := hs.stored _ _ (Option.isSome_iff_exists.mpr ⟨existing, hexisting⟩)
      exact ⟨b, hgrows₂.blobs (hgrows₁.blobs hb)⟩
    · obtain ⟨b, hb, _⟩ := blob?_storeJsonPayload hblob
      rw [resolvedContentRef_some _ _ (taskConfirmationCardRef_ne _ _), hthread, hid] at hb
      exact ⟨b, (Database.Grows.insertOutbox hinsert).blobs hb⟩
  have htask : ∃ b, db'.blob? (taskCard crypto item.sourceRef).taskPayloadRef = some b := by
    obtain ⟨b, hb, _⟩ := blob?_storeJsonPayload hstore
    rw [hthread, hid] at hb
    exact ⟨b, hgrows₂.blobs hb⟩
  refine ⟨?_, ?_, ?_⟩
  · intro sourceRef modelProfileId hsent hsome
    have hnot := hfailedKeys _ _ hsome
    rcases (hkeys _).mp hsent with h | h
    · exact hs.one _ _ h hnot
    · rw [HasParseFailedCard, taskConfirmationKey_eq_iff.mp h] at hnot
      exact hfailed hnot
  · intro sourceRef modelProfileId row hrow
    by_cases hkey : taskConfirmationKey sourceRef modelProfileId =
        taskConfirmationKey item.sourceRef item.modelProfileId
    · rw [hkey] at hrow
      rw [sourceRef_of_taskConfirmationKey hkey]
      exact hcardRef row hrow
    · have hsent := ((hkeys _).mp (Option.isSome_iff_exists.mpr ⟨row, hrow⟩)).resolve_right hkey
      obtain ⟨old, hold⟩ := Option.isSome_iff_exists.mp hsent
      obtain ⟨_, hfind, hsame⟩ := (hgrows₁.trans hgrows₂).outbox hold
      obtain rfl := Option.some.inj (hrow.symm.trans hfind)
      rw [hsame.payloadRef]
      exact hs.cardRef _ _ _ hold
  · intro sourceRef modelProfileId hsent
    rcases (hkeys _).mp hsent with h | h
    · obtain ⟨⟨b, hb⟩, b', hb'⟩ := hs.stored _ _ h
      exact ⟨⟨b, hgrows₂.blobs (hgrows₁.blobs hb)⟩, b', hgrows₂.blobs (hgrows₁.blobs hb')⟩
    · rw [sourceRef_of_taskConfirmationKey h]
      exact ⟨htask, hcard⟩

/-- An execution that sends the card of the failure, where the confirmation card has not been
sent. -/
theorem Answered.failed {view : Database} {errorSummary ref : String} (hs : Answered crypto db)
    (hgrows : db.Grows view) (houtbox : view.outbox = db.outbox)
    (hsent : ¬HasConfirmationCard db item.sourceRef item.modelProfileId)
    (henqueue : enqueueParseFailedCard crypto item modelLabel errorSummary run.row view =
      .ok (ref, db')) : Answered crypto db' := by
  have hkeys : ∀ key, (db'.outboxForKey? key).isSome = true →
      (db.outboxForKey? key).isSome = true ∨
        key = taskParseFailedKey item.sourceRef item.modelProfileId := by
    intro key hkey
    unfold Database.outboxForKey?
    rw [← houtbox]
    exact (isSome_outboxForKey?_enqueueJson henqueue).mp hkey
  have hconfirm : ∀ sourceRef modelProfileId, HasConfirmationCard db' sourceRef modelProfileId →
      HasConfirmationCard db sourceRef modelProfileId := by
    intro sourceRef modelProfileId hsome
    rcases hkeys _ hsome with h | h
    · exact h
    · have hstart := taskConfirmationKey_start sourceRef modelProfileId
      rw [h] at hstart
      have hne := taskKeyStart_unique (by decide) (by decide) hstart (taskParseFailedKey_start _ _)
      exact absurd hne (by decide)
  refine hs.of_grows (hgrows.trans (enqueueJson_grows henqueue)) hconfirm ?_
  intro sourceRef modelProfileId hsome hfailed
  have hsome := hconfirm _ _ hsome
  rcases hkeys _ hfailed with h | h
  · exact hs.one _ _ hsome h
  · rw [HasConfirmationCard, taskConfirmationKey_eq_iff.mpr h] at hsome
    exact hsent hsome

/-- An execution that agrees with the confirmation card does not fail for good. -/
theorem Answered.not_sent {exc : PrepareError} {view : Database} (hs : Answered crypto db)
    (hnames : PayloadNames payload item)
    (hagrees : HasConfirmationCard db item.sourceRef item.modelProfileId →
      Retries settings crypto decryptGcm item payload run db ∨
        Fits settings crypto decryptGcm item payload run db)
    (hcause : readTask settings crypto decryptGcm item payload run db = .error exc ∧ view = db ∨
      ∃ parsed, readTask settings crypto decryptGcm item payload run db =
        .ok (parsed, modelLabel) ∧
          enqueueTaskConfirmationCard crypto item parsed run db = (.error exc, view))
    (hretry : isRetryableTaskPrepareError exc = false) :
    ¬HasConfirmationCard db item.sourceRef item.modelProfileId := by
  intro hsent
  rcases hagrees hsent with
    ⟨exc', hread, hagain⟩ | ⟨parsed, label, plan, hread, hplan, htask, hcard⟩
  · rcases hcause with ⟨hread', _⟩ | ⟨parsed, hread', _⟩
    · obtain rfl := Except.error.inj (hread.symm.trans hread')
      rw [hretry] at hagain
      cases hagain
    · rw [hread] at hread'
      cases hread'
  · rcases hcause with ⟨hread', _⟩ | ⟨parsed', hread', hfails⟩
    · rw [hread] at hread'
      cases hread'
    · obtain ⟨rfl, rfl⟩ := Prod.mk.inj (Except.ok.inj (hread.symm.trans hread'))
      rw [hs.confirmation_stored hnames hsent hread hplan htask hcard] at hfails
      cases hfails

theorem Answered.prepareTask_of_sent (hs : Answered crypto db) (hnames : PayloadNames payload item)
    (hsent : HasConfirmationCard db item.sourceRef item.modelProfileId)
    (hagrees : Retries settings crypto decryptGcm item payload run db ∨
      Fits settings crypto decryptGcm item payload run db) :
    (∃ exc, prepareTask settings crypto decryptGcm item payload run db = .error exc) ∨
      prepareTask settings crypto decryptGcm item payload run db = .ok db := by
  unfold prepareTask
  rcases hagrees with ⟨exc, hread, hretry⟩ | ⟨parsed, label, plan, hread, hplan, htask, hcard⟩
  · refine .inl ⟨.dispatch ⟨safeIntakeParseError exc, some taskConfirmationPrepareRetrySeconds⟩, ?_⟩
    simp only [hread, failPreparation, hretry, if_true]
  · refine .inr ?_
    simp only [hread, hs.confirmation_stored hnames hsent hread hplan htask hcard]

end Answered

open Transition

section Run

variable {ω : Type*} [DecidableEq ω] {settings : Settings} {crypto : Crypto}
  {decryptGcm : DecryptGcm} {config : ω → FeishuOutboxDispatcher} {s t : TaskSystem ω}
  {event : TaskEvent ω}

theorem Answered.step (hs : Answered crypto s.db)
    (hagrees : AgreesWithCard settings crypto decryptGcm s event)
    (h : TaskSystem.step settings crypto decryptGcm config s event = some t) :
    Answered crypto t.db := by
  cases TaskSystem.step_effect h with
  | spares hspares => exact hs.spares hspares
  | click rawText hclick hsent hconfirm =>
    have hconfirms := confirmTask_confirms hconfirm
    exact hs.of_start hconfirms.grows (.inl rfl) (graphDispatchKey_start _)
      fun key hkey => ((hconfirms.outbox key).mp hkey).imp_right And.right
  | authorize thread ref henqueue =>
    have hgrows := (insertThreadOrIgnore_grows thread).trans (enqueueJson_grows henqueue)
    exact hs.of_start hgrows (.inr rfl) (taskAuthorizeKey_start _ _)
      fun key hkey => (isSome_outboxForKey?_enqueueJson henqueue).mp hkey
  | prepare held payload item view hheld hkind hpayload hitem hend hfinish =>
    obtain ⟨hconfirmed, hfailed⟩ := hagrees held payload item ⟨hheld, hkind, hpayload, hitem⟩
    have hnames := prepareItem_eq_ok hitem
    refine Answered.spares ?_ hfinish
    cases hend with
    | confirmed parsed modelLabel plan hread hsends =>
      refine hs.confirmed hnames hread ?_ hsends
      intro hsome
      exact hfailed hsome (hs.fits hnames hread hsends)
    | failed modelLabel exc tables ref hcause hretry henqueue =>
      have hnot := hs.not_sent hnames hconfirmed hcause hretry
      rcases hcause with ⟨_, rfl⟩ | ⟨parsed, _, hfails⟩
      · exact hs.failed (.refl _) rfl hnot henqueue
      · obtain ⟨hgrows, hframe⟩ := enqueueTaskConfirmationCard_error hfails
        refine hs.failed hgrows ?_ hnot henqueue
        rw [hframe]

theorem Answered.addsNothing (hs : Answered crypto s.db)
    (hagrees : AgreesWithCard settings crypto decryptGcm s event) :
    AddsNothing settings crypto decryptGcm config s event := by
  cases event with
  | finishPrepare w run =>
    intro held payload item t hexecutes hsent hstep
    obtain ⟨hheld, hkind, hpayload, hitem⟩ := hexecutes
    obtain ⟨hconfirmed, _⟩ := hagrees held payload item ⟨hheld, hkind, hpayload, hitem⟩
    simp only [TaskSystem.step, hheld, hkind, if_true, Option.some.injEq] at hstep
    subst hstep
    have hhandle : handlePreparation settings crypto decryptGcm held.item run s.db =
        prepareTask settings crypto decryptGcm item payload run s.db := by
      simp only [handlePreparation, hpayload, prepareTaskConfirmation, hitem]
      rfl
    have hnames := prepareItem_eq_ok hitem
    rcases hs.prepareTask_of_sent hnames hsent (hconfirmed hsent) with ⟨exc, herror⟩ | hok
    · refine ⟨.error (handlerDispatchError exc), ?_⟩
      simp only [hhandle, herror, commitDispatch]
    · refine ⟨.ok (), ?_⟩
      simp only [hhandle, hok, commitDispatch]
  | _ => trivial

/-- No run answers an item with both cards, or adds anything after a confirmation card. -/
def PreparesOnce (settings : Settings) (crypto : Crypto) (decryptGcm : DecryptGcm)
    (config : ω → FeishuOutboxDispatcher) : Prop :=
  ∀ (s t : TaskSystem ω) (tr : List (TaskEvent ω)), s.Initial →
    exec (TaskSystem.step settings crypto decryptGcm config) s tr = some t →
    OneOutcome t.db ∧ Along (TaskSystem.step settings crypto decryptGcm config)
      (AddsNothing settings crypto decryptGcm config) s tr

/-- In every run whose executions agree with the cards that have been sent, no item is
answered with both cards, and what follows a confirmation card adds nothing. -/
theorem oneOutcome_of_agreesWithCard {tr : List (TaskEvent ω)} (hs : s.Initial)
    (hagrees : Along (TaskSystem.step settings crypto decryptGcm config)
      (AgreesWithCard settings crypto decryptGcm) s tr)
    (hrun : exec (TaskSystem.step settings crypto decryptGcm config) s tr = some t) :
    OneOutcome t.db ∧ Along (TaskSystem.step settings crypto decryptGcm config)
      (AddsNothing settings crypto decryptGcm config) s tr := by
  have hempty : Answered crypto s.db := by
    rw [hs.1]
    exact answered_empty
  have hstep : ∀ u event v, Answered crypto u.db →
      AgreesWithCard settings crypto decryptGcm u event →
      TaskSystem.step settings crypto decryptGcm config u event = some v →
      Answered crypto v.db := by
    intro u event v hu hagrees h
    exact hu.step hagrees h
  refine ⟨?_, ?_⟩
  · have hanswered : Answered crypto t.db :=
      exec_invariant (fun u => Answered crypto u.db) hstep hempty hagrees hrun
    exact hanswered.one
  · refine Along.of_invariant (fun u => Answered crypto u.db) hstep ?_ hempty hagrees
    intro u event hu hagrees
    exact hu.addsNothing hagrees

end Run

/-- Hash functions that say nothing: the runs store each payload once. -/
def flatCrypto : Crypto where
  sha1 _ := ⟨#[]⟩
  sha256 _ := ⟨#[1]⟩
  decryptCbc _ _ _ := none

def emptyKey : DecryptGcm := fun _ _ _ _ => some ⟨#[]⟩

def prepareSettings : Settings := { modelSecretEncryptionKey := some "secret" }

def mappingRef : String := "feishu://message/unknown_tenant/oc_chat/om_1"

def mappingEvent : Dict := Dict.ofList
  [("event", .obj (Dict.ofList
    [("message", .obj (Dict.ofList
        [("chat_id", .str "oc_chat"), ("message_id", .str "om_1"),
          ("content", .str "\x7b\"text\": \"寻找电控候选人\"\x7d")])),
      ("sender", .obj (Dict.ofList
        [("sender_id", .obj (Dict.ofList [("open_id", .str "ou_1")]))]))]))]

def mappingProfile : UserModelProfile where
  id := .ofNat 7
  tenantId := none
  guildId := "oc_chat"
  userId := "ou_1"
  provider := .openai
  modelName := "gpt"
  displayName := "gpt"
  encryptedApiKey := some "v1:AA==:AA==:AA=="
  baseUrl := none
  usage := .chat
  status := .active
  isDefault := true

def mappingThread : GraphThread where
  id := feishuThreadId flatCrypto mappingRef
  source := "feishu"
  sourceRef := mappingRef
  taskType := "task_intake"
  councilMode := none
  modeReason := none
  status := .queued
  stateSummary := []

def mappingItem : Dict := Dict.ofList
  [("chat_id", .str "oc_chat"), ("event_payload_ref", .str "artifact://event"),
    ("source_ref", .str mappingRef), ("model_profile_id", .str mappingProfile.id.str),
    ("thread_id", .str mappingThread.id.str), ("model_owner_user_id", .str "ou_1"),
    ("model_owner_id_type", .str "open_id"), ("model_guild_id", .str "oc_chat")]

def mappingRun (n : Nat) (answer : LlmAnswer) : PrepareRun where
  profiles := [mappingProfile]
  first := answer
  second := answer
  fresh := ⟨.ofNat 3, .ofNat 4⟩
  row := ⟨.ofNat n, 0⟩

def mappingAnswer : LlmAnswer := .ok (.obj (rulePayload [("task", "寻找电控候选人")]))

def idleTasks : TaskSystem Bool := ⟨0, {}, fun _ => none⟩

/-- The item is enqueued and claimed, and claimed once more when the lease has run out. -/
def claimedTwice : List (TaskEvent Bool) :=
  [.background (.thread mappingThread),
    .background (.blob "artifact://event" mappingEvent "" "event"),
    .background (.blob "artifact://item" mappingItem "" "item"),
    .background (.outbox ⟨.ofNat 1, 0⟩ .taskConfirmationPrepare "task_confirmation_prepare:m"
      (some mappingThread.id) "artifact://item"),
    .claim true fun _ => false, .tick 300000000, .claim false fun _ => false]

abbrev mappingStep : TaskSystem Bool → TaskEvent Bool → Option (TaskSystem Bool) :=
  TaskSystem.step prepareSettings flatCrypto emptyKey twoWorkers

theorem idleTasks_initial : idleTasks.Initial := ⟨rfl, fun _ => rfl⟩

/-- The first worker sends the confirmation card, the second one that of its failure. -/
theorem not_preparesOnce : ¬PreparesOnce prepareSettings flatCrypto emptyKey twoWorkers := by
  intro honce
  have hboth : (exec mappingStep idleTasks (claimedTwice ++
      [.finishPrepare true (mappingRun 2 mappingAnswer),
        .finishPrepare false (mappingRun 3 (.error (.gateway "LLM request failed: HTTP 400")))])).any
      (fun t =>
        (t.db.outboxForKey? (taskConfirmationKey mappingRef mappingProfile.id)).isSome &&
        (t.db.outboxForKey? (taskParseFailedKey mappingRef mappingProfile.id)).isSome) = true := by
    decide +kernel
  obtain ⟨t, hrun, hcards⟩ := (Option.any_eq_true _ _).mp hboth
  obtain ⟨hconfirmed, hfailed⟩ := Bool.and_eq_true_iff.mp hcards
  exact (honce idleTasks t _ idleTasks_initial hrun).1 mappingRef mappingProfile.id hconfirmed
    hfailed

/-- Nothing has been sent that the execution could contradict, or it is tried again. -/
def agreesSurely (settings : Settings) (crypto : Crypto) (decryptGcm : DecryptGcm)
    (s : TaskSystem Bool) (w : Bool) (run : PrepareRun) : Bool :=
  (s.held w).all fun h => (getJsonPayload h.item.payloadRef s.db).toOption.all fun payload =>
    (prepareItem payload).toOption.all fun item =>
      (s.db.outboxForKey? (taskParseFailedKey item.sourceRef item.modelProfileId)).isNone &&
      ((s.db.outboxForKey? (taskConfirmationKey item.sourceRef item.modelProfileId)).isNone ||
        match readTask settings crypto decryptGcm item payload run s.db with
        | .ok _ => false
        | .error exc => isRetryableTaskPrepareError exc)

theorem agreesWithCard_of_agreesSurely {settings : Settings} {crypto : Crypto}
    {decryptGcm : DecryptGcm} {s : TaskSystem Bool} {w : Bool} {run : PrepareRun}
    (h : agreesSurely settings crypto decryptGcm s w run = true) :
    AgreesWithCard settings crypto decryptGcm s (.finishPrepare w run) := by
  intro held payload item hexecutes
  obtain ⟨hheld, _, hpayload, hitem⟩ := hexecutes
  simp only [agreesSurely, hheld, hpayload, hitem, Except.toOption, Option.all_some,
    Bool.and_eq_true, Bool.or_eq_true, Option.isNone_iff_eq_none] at h
  obtain ⟨hfailed, hconfirmed⟩ := h
  constructor
  · intro hsent
    rcases hconfirmed with hnone | hretry
    · simp [HasConfirmationCard, hnone] at hsent
    · refine .inl ?_
      split at hretry
      · cases hretry
      · rename_i exc hread
        exact ⟨exc, hread, hretry⟩
  · intro hsome
    simp [HasParseFailedCard, hfailed] at hsome

def overtakenRun : List (TaskEvent Bool) := claimedTwice ++
  [.finishPrepare true (mappingRun 2 mappingAnswer),
    .finishPrepare false (mappingRun 3 (.error (.transport "TimeoutError" "timed out")))]

theorem oneOutcome_overtakenRun : ∃ t, exec mappingStep idleTasks overtakenRun = some t ∧
    HasConfirmationCard t.db mappingRef mappingProfile.id ∧ OneOutcome t.db := by
  have hsome : (exec mappingStep idleTasks overtakenRun).any (fun t =>
      (t.db.outboxForKey? (taskConfirmationKey mappingRef mappingProfile.id)).isSome) = true := by
    decide +kernel
  have hfirst : (exec mappingStep idleTasks claimedTwice).any (fun u =>
      agreesSurely prepareSettings flatCrypto emptyKey u true (mappingRun 2 mappingAnswer)) =
        true := by
    decide +kernel
  have hsecond : (exec mappingStep idleTasks (claimedTwice ++
      [.finishPrepare true (mappingRun 2 mappingAnswer)])).any (fun v =>
        agreesSurely prepareSettings flatCrypto emptyKey v false
          (mappingRun 3 (.error (.transport "TimeoutError" "timed out")))) = true := by
    decide +kernel
  obtain ⟨t, hrun, hsent⟩ := (Option.any_eq_true _ _).mp hsome
  obtain ⟨u, hu, hagrees⟩ := (Option.any_eq_true _ _).mp hfirst
  obtain ⟨v, hv, hagrees'⟩ := (Option.any_eq_true _ _).mp hsecond
  have hquiet : Along mappingStep (AgreesWithCard prepareSettings flatCrypto emptyKey) idleTasks
      claimedTwice := by
    refine along_iff_forall.mpr ?_
    intro pre event post w htr _
    have hmem : event ∈ claimedTwice := by
      rw [htr]
      simp
    simp only [claimedTwice, List.mem_cons, List.not_mem_nil, or_false] at hmem
    rcases hmem with rfl | rfl | rfl | rfl | rfl | rfl | rfl <;> trivial
  have hall : Along mappingStep (AgreesWithCard prepareSettings flatCrypto emptyKey) idleTasks
      overtakenRun := by
    refine (along_append hu).mpr ⟨hquiet, agreesWithCard_of_agreesSurely hagrees, ?_⟩
    intro v' hv'
    obtain ⟨u', hu', hrest⟩ := exec_append_eq_some.mp hv
    obtain rfl := Option.some.inj (hu.symm.trans hu')
    obtain ⟨v₁, hstep, hnil⟩ := exec_cons_eq_some.mp hrest
    obtain rfl := Option.some.inj hnil
    obtain rfl := Option.some.inj (hv'.symm.trans hstep)
    exact ⟨agreesWithCard_of_agreesSurely hagrees', fun _ _ => trivial⟩
  exact ⟨t, hrun, hsent, (oneOutcome_of_agreesWithCard idleTasks_initial hall hrun).1⟩

end Headhunt.Runtime
