import Headhunt.Graphs.TaskRuns
import Headhunt.Runtime.Preparations

/-! What is confirmed is what runs: the payload of a queued task is the one its card shows, and
the graph makes the plan of it once more. -/
namespace Headhunt.Runtime
open Headhunt.Core Headhunt.Feishu Headhunt.Graphs Headhunt.ModelProfiles Headhunt.Policy
  Headhunt.Storage Py Transition

/-- The starts of the refs under which the payloads and the cards of tasks are stored. -/
def taskRefStarts : List String :=
  ["artifact://feishu-task-intake/", "artifact://feishu-card/task-confirmation/",
    "artifact://task-authorization/"]

def reservedTaskRef (ref : String) : Bool := taskRefStarts.any (startsWith ref)

/-- No other part of the service stores anything under these refs. -/
def TaskEvent.SparesRefs {ω : Type*} : TaskEvent ω → Prop
  | .background (.blob contentRef _ _ _) => reservedTaskRef contentRef = false
  | _ => True

/-- The starts of the refs that a step of the system writes under by itself. -/
def stepRefStarts : List String :=
  taskRefStarts ++ ["artifact://feishu-callback/", "artifact://feishu-card/task-parse-failed/"]

theorem stepRefStarts_apart : ∀ a ∈ stepRefStarts, ∀ b ∈ stepRefStarts,
    startsWith a b = true → a = b := by decide +kernel

theorem ref_ne_of_starts {a b start start' : String} (ha : startsWith a start = true)
    (hb : startsWith b start' = true) (hstart : start ∈ stepRefStarts)
    (hstart' : start' ∈ stepRefStarts) (hne : start ≠ start') : a ≠ b := by
  rintro rfl
  rcases startsWith_of_starts ha hb with h | h
  · exact hne (stepRefStarts_apart start hstart start' hstart' h)
  · exact hne (stepRefStarts_apart start' hstart' start hstart h).symm

theorem taskPayloadRef_start (threadId taskId : UUID) :
    startsWith (taskPayloadRef threadId taskId) "artifact://feishu-task-intake/" = true :=
  startsWith_append (taskPayloadRef_toList threadId taskId)

theorem approvedTaskPayloadRef_toList (taskPayloadRef : String) :
    (approvedTaskPayloadRef taskPayloadRef).toList =
      taskPayloadRef.toList ++ ":approved".toList := by
  unfold approvedTaskPayloadRef
  simp only [ToString.toString, String.toList_append]

theorem approvedTaskPayloadRef_start (threadId taskId : UUID) :
    startsWith (approvedTaskPayloadRef (taskPayloadRef threadId taskId))
      "artifact://feishu-task-intake/" = true := by
  have hlist := approvedTaskPayloadRef_toList (taskPayloadRef threadId taskId)
  rw [taskPayloadRef_toList, List.append_assoc] at hlist
  exact startsWith_append hlist

theorem approvedTaskPayloadRef_injective {a b : String}
    (h : approvedTaskPayloadRef a = approvedTaskPayloadRef b) : a = b := by
  have hlist := congrArg String.toList h
  rw [approvedTaskPayloadRef_toList, approvedTaskPayloadRef_toList] at hlist
  exact String.toList_inj.mp (List.append_cancel_right hlist)

theorem taskPayloadRef_length (threadId taskId : UUID) :
    (taskPayloadRef threadId taskId).toList.length = 106 := by
  have hids : threadId.str.toList.length = 36 ∧ taskId.str.toList.length = 36 := by
    simp only [String.length_toList, UUID.length_str, and_self]
  rw [taskPayloadRef_toList]
  simp only [List.length_append, hids]
  rfl

theorem approvedTaskPayloadRef_ne_taskPayloadRef (threadId taskId threadId' taskId' : UUID) :
    approvedTaskPayloadRef (taskPayloadRef threadId taskId) ≠ taskPayloadRef threadId' taskId' := by
  intro h
  have hlength := congrArg (List.length ∘ String.toList) h
  simp only [Function.comp_apply, approvedTaskPayloadRef_toList, List.length_append,
    taskPayloadRef_length] at hlength
  have happroved : ":approved".toList.length = 9 := by decide
  omega

theorem taskConfirmationCardRef_toList (threadId taskId : UUID) :
    (taskConfirmationCardRef threadId taskId).toList =
      "artifact://feishu-card/task-confirmation/".toList ++
        (threadId.str.toList ++ "/".toList ++ taskId.str.toList ++ "/v1".toList) := by
  unfold taskConfirmationCardRef
  simp only [ToString.toString, String.toList_append, List.append_assoc]

theorem taskConfirmationCardRef_start (threadId taskId : UUID) :
    startsWith (taskConfirmationCardRef threadId taskId)
      "artifact://feishu-card/task-confirmation/" = true :=
  startsWith_append (taskConfirmationCardRef_toList threadId taskId)

/-- The two ids of a ref can be read off it. -/
theorem ids_of_ref {head : List Char} {threadId taskId threadId' taskId' : UUID}
    (h : head ++ (threadId.str.toList ++ "/".toList ++ taskId.str.toList ++ "/v1".toList) =
      head ++ (threadId'.str.toList ++ "/".toList ++ taskId'.str.toList ++ "/v1".toList)) :
    threadId = threadId' ∧ taskId = taskId' := by
  have hlength : ∀ id id' : UUID, id.str.toList.length = id'.str.toList.length := by
    intro id id'
    rw [String.length_toList, String.length_toList, UUID.length_str, UUID.length_str]
  have hids := List.append_cancel_right (List.append_cancel_left h)
  rw [List.append_assoc, List.append_assoc] at hids
  obtain ⟨hthread, hrest⟩ := List.append_inj hids (hlength threadId threadId')
  have htask := List.append_cancel_left hrest
  exact ⟨UUID.str_injective (String.toList_inj.mp hthread),
    UUID.str_injective (String.toList_inj.mp htask)⟩

theorem taskPayloadRef_ids {threadId taskId threadId' taskId' : UUID}
    (h : taskPayloadRef threadId taskId = taskPayloadRef threadId' taskId') :
    threadId = threadId' ∧ taskId = taskId' := by
  have hlist := congrArg String.toList h
  rw [taskPayloadRef_toList, taskPayloadRef_toList] at hlist
  exact ids_of_ref hlist

theorem taskConfirmationCardRef_ids {threadId taskId threadId' taskId' : UUID}
    (h : taskConfirmationCardRef threadId taskId = taskConfirmationCardRef threadId' taskId') :
    threadId = threadId' ∧ taskId = taskId' := by
  have hlist := congrArg String.toList h
  rw [taskConfirmationCardRef_toList, taskConfirmationCardRef_toList] at hlist
  exact ids_of_ref hlist

theorem taskAuthorizationRef_start (threadId taskId : UUID) :
    startsWith (taskAuthorizationRef threadId taskId) "artifact://task-authorization/" = true := by
  have hlist : (taskAuthorizationRef threadId taskId).toList =
      "artifact://task-authorization/".toList ++
        (threadId.str.toList ++ "/".toList ++ taskId.str.toList ++ "/v1".toList) := by
    unfold taskAuthorizationRef
    simp only [ToString.toString, String.toList_append, List.append_assoc]
  exact startsWith_append hlist

theorem taskParseFailedCardRef_start (crypto : Crypto) (sourceRef : String)
    (modelProfileId : UUID) :
    startsWith (taskParseFailedCardRef crypto sourceRef modelProfileId)
      "artifact://feishu-card/task-parse-failed/" = true := by
  have hlist : (taskParseFailedCardRef crypto sourceRef modelProfileId).toList =
      "artifact://feishu-card/task-parse-failed/".toList ++
        (profileRefId crypto sourceRef modelProfileId).toList := by
    unfold taskParseFailedCardRef
    simp only [ToString.toString, String.toList_append]
  exact startsWith_append hlist

theorem buildPayloadRef_start (callback : VerifiedFeishuCallback) :
    startsWith (buildPayloadRef callback) "artifact://feishu-callback/" = true := by
  have hlist : (buildPayloadRef callback).toList =
      "artifact://feishu-callback/".toList ++ callback.payloadHash.toList := by
    unfold buildPayloadRef
    simp only [ToString.toString, String.toList_append]
  exact startsWith_append hlist

section Stored

variable {db db' : Database} {ref text sha : String} {payload : Dict}

def Holds (db : Database) (ref : String) : Prop := (db.blob? ref).isSome = true

theorem Holds.mono (h : Holds db ref) (hgrows : db.Grows db') : Holds db' ref := by
  obtain ⟨b, hb⟩ := Option.isSome_iff_exists.mp h
  exact Option.isSome_iff_exists.mpr ⟨b, hgrows.blobs hb⟩

theorem holds_of_getJsonPayload (h : getJsonPayload ref db = .ok payload) : Holds db ref := by
  unfold getJsonPayload at h
  unfold Holds
  cases hb : db.blob? ref with
  | none => simp [hb] at h
  | some b => rfl

/-- A payload is there already, or it is the one that is stored. -/
theorem storeJsonPayload_cases (h : storeJsonPayload ref payload text sha db = .ok db') :
    (Holds db ref ∧ db' = db ∨ ¬Holds db ref ∧ getJsonPayload ref db' = .ok payload) ∧
      ∀ r, Holds db' r → Holds db r ∨ r = ref := by
  refine ⟨?_, ?_⟩
  · rcases storeJsonPayload_eq_ok.mp h with ⟨b, hb, _, rfl⟩ | ⟨hnone, rfl⟩
    · exact .inl ⟨Option.isSome_iff_exists.mpr ⟨b, hb⟩, rfl⟩
    · refine .inr ⟨by simp [Holds, hnone], ?_⟩
      simp [getJsonPayload, blob?_insertBlobOrIgnore, hnone, jsonBlob]
  · intro r hr
    obtain ⟨b, hb⟩ := Option.isSome_iff_exists.mp hr
    rcases blob?_of_storeJsonPayload h hb with hb | ⟨href, _⟩
    · exact .inl (Option.isSome_iff_exists.mpr ⟨b, hb⟩)
    · exact .inr href

/-- Only what is there already can be in the way of a payload. -/
theorem holds_of_storeJsonPayload_error {exc : StorageError}
    (h : storeJsonPayload ref payload text sha db = .error exc) : Holds db ref := by
  unfold Holds
  cases hb : db.blob? ref with
  | some b => rfl
  | none =>
    have hok : storeJsonPayload ref payload text sha db =
        .ok (db.insertBlobOrIgnore (jsonBlob ref payload text sha)) :=
      storeJsonPayload_eq_ok.mpr (.inr ⟨hb, rfl⟩)
    cases h.symm.trans hok

/-- What `enqueue_json` leaves under the ref it is given, and the row it leaves. -/
theorem enqueueJson_stores {crypto : Crypto} {row : RowDefaults} {kind : OutboxKind}
    {key contentRef ref : String} {threadId : Option UUID} (hne : contentRef ≠ "")
    (h : enqueueJson crypto row kind key payload threadId (some contentRef) db = .ok (ref, db')) :
    (∀ r, Holds db' r → Holds db r ∨
      r = contentRef ∧ (¬Holds db r → getJsonPayload r db' = .ok payload)) ∧
    ∀ written, db'.outboxForKey? key = some written → db.outboxForKey? key = some written ∨
      db.outboxForKey? key = none ∧ written.kind = kind ∧ written.payloadRef = contentRef ∧
        Holds db' contentRef := by
  rcases enqueueJson_cases h with ⟨existing, hexisting, _, rfl⟩ | ⟨hnone, rfl, db₁, hstore, hinsert⟩
  · exact ⟨fun r hr => .inl hr, fun written hwritten => .inl hwritten⟩
  · rw [resolvedContentRef_some _ _ hne] at hstore hinsert
    obtain ⟨hstored, hrefs⟩ := storeJsonPayload_cases hstore
    have hgrows := Database.Grows.insertOutbox hinsert
    have houtbox := storeJsonPayload_frame hstore
    obtain ⟨_, _, _, rfl⟩ := Database.insertOutbox_eq_ok.mp hinsert
    refine ⟨fun r hr => (hrefs r hr).imp_right fun href => ⟨href, ?_⟩, ?_⟩
    · intro hnew
      subst href
      rcases hstored with ⟨hold, _⟩ | ⟨_, hget⟩
      · exact absurd hold hnew
      · exact hgrows.getJsonPayload hget
    · intro written hwritten
      refine .inr ⟨hnone, ?_⟩
      have hholds : Holds db₁ contentRef := by
        rcases hstored with ⟨hold, rfl⟩ | ⟨_, hget⟩
        · exact hold
        · exact holds_of_getJsonPayload hget
      rw [houtbox] at hwritten
      unfold Database.outboxForKey? at hnone hwritten
      rw [Table.find_append_singleton, hnone] at hwritten
      simp only [pendingOutbox, if_true, Option.none_or, Option.some.injEq] at hwritten
      subst hwritten
      exact ⟨rfl, rfl, hholds.mono hgrows⟩

end Stored

/-- The payload of a task and its confirmation card, stored together. -/
structure Shown {crypto : Crypto} (db : Database) (threadId taskId : UUID)
    (task : ConfirmedTask crypto) : Prop where
  ids : task.plan.threadId = threadId ∧ task.plan.taskId = taskId
  payload : getJsonPayload (taskPayloadRef threadId taskId) db = .ok task.taskPayload
  card : ∃ chatId, getJsonPayload (taskConfirmationCardRef threadId taskId) db =
    .ok (confirmationCardPayload chatId task.parsed task.plan)

theorem Shown.mono {crypto : Crypto} {db db' : Database} {threadId taskId : UUID}
    {task : ConfirmedTask crypto} (h : Shown db threadId taskId task) (hgrows : db.Grows db') :
    Shown db' threadId taskId task where
  ids := h.ids
  payload := hgrows.getJsonPayload h.payload
  card := by
    obtain ⟨chatId, hcard⟩ := h.card
    exact ⟨chatId, hgrows.getJsonPayload hcard⟩

/-- What the click on the card has made of the payload of its task. -/
def ApprovedPayload (db : Database) (threadId taskId : UUID) : Prop :=
  ∃ payload operatorOpenId authorizedAt,
    getJsonPayload (taskPayloadRef threadId taskId) db = .ok payload ∧
    getJsonPayload (approvedTaskPayloadRef (taskPayloadRef threadId taskId)) db =
      .ok (authorizedTaskPayload payload operatorOpenId authorizedAt)

theorem ApprovedPayload.mono {db db' : Database} {threadId taskId : UUID}
    (h : ApprovedPayload db threadId taskId) (hgrows : db.Grows db') :
    ApprovedPayload db' threadId taskId := by
  obtain ⟨payload, operatorOpenId, authorizedAt, hget, happroved⟩ := h
  exact ⟨payload, operatorOpenId, authorizedAt, hgrows.getJsonPayload hget,
    hgrows.getJsonPayload happroved⟩

def requestedPayload (crypto : Crypto) (fresh : FreshPlan) (authorizedAt : String)
    (request : TaskAuthorizeRequest) : Dict :=
  authorizationPayload authorizedAt request (authorizationPlan crypto fresh request)
    (resolveSourceRef crypto request)

def AuthorizedPayload (crypto : Crypto) (db : Database) (ref : String) : Prop :=
  ∃ fresh authorizedAt request,
    getJsonPayload ref db = .ok (requestedPayload crypto fresh authorizedAt request)

structure Dispatches (db : Database) (row : FeishuOutbox) (ref : String) : Prop where
  kind : row.kind = .graphDispatch
  payloadRef : row.payloadRef = ref
  holds : Holds db ref

theorem Dispatches.mono {db db' : Database} {row row' : FeishuOutbox} {ref : String}
    (h : Dispatches db row ref) (hgrows : db.Grows db') (hsame : SameItem row row') :
    Dispatches db' row' ref :=
  ⟨hsame.kind.trans h.kind, hsame.payloadRef.trans h.payloadRef, h.holds.mono hgrows⟩

/-- The row sends the card of the task, whose payload is there. -/
structure SendsCard (crypto : Crypto) (db : Database) (sourceRef : String) (row : FeishuOutbox) :
    Prop where
  card : row.payloadRef =
    taskConfirmationCardRef (feishuThreadId crypto sourceRef) (feishuTaskId crypto sourceRef)
  payload : Holds db (taskCard crypto sourceRef).taskPayloadRef

/-- What the tables say of the tasks that have been read, shown and started. -/
structure TasksStored (crypto : Crypto) (db : Database) : Prop where
  shown : ∀ threadId taskId, Holds db (taskPayloadRef threadId taskId) ∨
    Holds db (taskConfirmationCardRef threadId taskId) →
    ∃ task : ConfirmedTask crypto, Shown db threadId taskId task
  sent : ∀ sourceRef modelProfileId row,
    db.outboxForKey? (taskConfirmationKey sourceRef modelProfileId) = some row →
    SendsCard crypto db sourceRef row
  approved : ∀ threadId taskId, Holds db (approvedTaskPayloadRef (taskPayloadRef threadId taskId)) →
    ApprovedPayload db threadId taskId
  started : ∀ sourceRef row,
    db.outboxForKey? (graphDispatchKey (taskConfirmKey sourceRef)) = some row →
    Dispatches db row (approvedTaskPayloadRef (taskCard crypto sourceRef).taskPayloadRef)
  authorized : ∀ threadId taskId, Holds db (taskAuthorizationRef threadId taskId) →
    AuthorizedPayload crypto db (taskAuthorizationRef threadId taskId)
  requested : ∀ source sourceRef row,
    db.outboxForKey? (taskAuthorizeKey source sourceRef) = some row →
    ∃ threadId taskId, Dispatches db row (taskAuthorizationRef threadId taskId)

theorem tasksStored_empty (crypto : Crypto) : TasksStored crypto {} where
  shown _ _ h := by rcases h with h | h <;> cases h
  sent _ _ _ h := by cases h
  approved _ _ h := by cases h
  started _ _ h := by cases h
  authorized _ _ h := by cases h
  requested _ _ _ h := by cases h

section Extend

variable {crypto : Crypto} {db db' : Database}

/-- What a step adds is as the rest is. -/
theorem TasksStored.extend (hs : TasksStored crypto db) (hgrows : db.Grows db')
    (hshown : ∀ threadId taskId, Holds db' (taskPayloadRef threadId taskId) ∨
      Holds db' (taskConfirmationCardRef threadId taskId) →
      Holds db (taskPayloadRef threadId taskId) ∨
        Holds db (taskConfirmationCardRef threadId taskId) ∨
        ∃ task : ConfirmedTask crypto, Shown db' threadId taskId task)
    (hsent : ∀ sourceRef modelProfileId row,
      db'.outboxForKey? (taskConfirmationKey sourceRef modelProfileId) = some row →
      (db.outboxForKey? (taskConfirmationKey sourceRef modelProfileId)).isSome = true ∨
        SendsCard crypto db' sourceRef row)
    (happroved : ∀ threadId taskId,
      Holds db' (approvedTaskPayloadRef (taskPayloadRef threadId taskId)) →
      Holds db (approvedTaskPayloadRef (taskPayloadRef threadId taskId)) ∨
        ApprovedPayload db' threadId taskId)
    (hstarted : ∀ sourceRef row,
      db'.outboxForKey? (graphDispatchKey (taskConfirmKey sourceRef)) = some row →
      (db.outboxForKey? (graphDispatchKey (taskConfirmKey sourceRef))).isSome = true ∨
        Dispatches db' row (approvedTaskPayloadRef (taskCard crypto sourceRef).taskPayloadRef))
    (hauthorized : ∀ threadId taskId, Holds db' (taskAuthorizationRef threadId taskId) →
      Holds db (taskAuthorizationRef threadId taskId) ∨
        AuthorizedPayload crypto db' (taskAuthorizationRef threadId taskId))
    (hrequested : ∀ source sourceRef row,
      db'.outboxForKey? (taskAuthorizeKey source sourceRef) = some row →
      (db.outboxForKey? (taskAuthorizeKey source sourceRef)).isSome = true ∨
        ∃ threadId taskId, Dispatches db' row (taskAuthorizationRef threadId taskId)) :
    TasksStored crypto db' where
  shown := by
    intro threadId taskId h
    rcases hshown threadId taskId h with h | h | h
    · obtain ⟨task, htask⟩ := hs.shown threadId taskId (.inl h)
      exact ⟨task, htask.mono hgrows⟩
    · obtain ⟨task, htask⟩ := hs.shown threadId taskId (.inr h)
      exact ⟨task, htask.mono hgrows⟩
    · exact h
  sent := by
    intro sourceRef modelProfileId row hrow
    rcases hsent sourceRef modelProfileId row hrow with h | h
    · obtain ⟨old, hold⟩ := Option.isSome_iff_exists.mp h
      obtain ⟨row', hrow', hsame⟩ := hgrows.outbox hold
      obtain rfl := Option.some.inj (hrow.symm.trans hrow')
      obtain ⟨hcard, hpayload⟩ := hs.sent sourceRef modelProfileId old hold
      exact ⟨hsame.payloadRef.trans hcard, hpayload.mono hgrows⟩
    · exact h
  approved := by
    intro threadId taskId h
    rcases happroved threadId taskId h with h | h
    · exact (hs.approved threadId taskId h).mono hgrows
    · exact h
  started := by
    intro sourceRef row hrow
    rcases hstarted sourceRef row hrow with h | h
    · obtain ⟨old, hold⟩ := Option.isSome_iff_exists.mp h
      obtain ⟨row', hrow', hsame⟩ := hgrows.outbox hold
      obtain rfl := Option.some.inj (hrow.symm.trans hrow')
      exact (hs.started sourceRef old hold).mono hgrows hsame
    · exact h
  authorized := by
    intro threadId taskId h
    rcases hauthorized threadId taskId h with h | h
    · obtain ⟨fresh, authorizedAt, request, hget⟩ := hs.authorized threadId taskId h
      exact ⟨fresh, authorizedAt, request, hgrows.getJsonPayload hget⟩
    · exact h
  requested := by
    intro source sourceRef row hrow
    rcases hrequested source sourceRef row hrow with h | h
    · obtain ⟨old, hold⟩ := Option.isSome_iff_exists.mp h
      obtain ⟨row', hrow', hsame⟩ := hgrows.outbox hold
      obtain rfl := Option.some.inj (hrow.symm.trans hrow')
      obtain ⟨threadId, taskId, hdispatches⟩ := hs.requested source sourceRef old hold
      exact ⟨threadId, taskId, hdispatches.mono hgrows hsame⟩
    · exact h

/-- A part that neither answers a task nor starts one. -/
theorem TasksStored.keeps (hs : TasksStored crypto db) (h : SparesTasks db db')
    (hrefs : ∀ ref, reservedTaskRef ref = true → Holds db' ref → Holds db ref) :
    TasksStored crypto db' := by
  have hstart : ∀ {ref start}, startsWith ref start = true → start ∈ taskRefStarts →
      Holds db' ref → Holds db ref := by
    intro ref start hstart hmem
    exact hrefs ref (List.any_eq_true.mpr ⟨start, hmem, hstart⟩)
  refine hs.extend h.grows ?_ ?_ ?_ ?_ ?_ ?_
  · intro threadId taskId hholds
    rcases hholds with hholds | hholds
    · exact .inl (hstart (taskPayloadRef_start threadId taskId) (by simp [taskRefStarts]) hholds)
    · exact .inr (.inl (hstart (taskConfirmationCardRef_start threadId taskId)
        (by simp [taskRefStarts]) hholds))
  · intro sourceRef modelProfileId row hrow
    exact .inl (h.keys _ (reservedTaskKey_of_start (by decide)
      (taskConfirmationKey_start sourceRef modelProfileId))
      (Option.isSome_iff_exists.mpr ⟨row, hrow⟩))
  · intro threadId taskId hholds
    exact .inl (hstart (approvedTaskPayloadRef_start threadId taskId) (by simp [taskRefStarts])
      hholds)
  · intro sourceRef row hrow
    exact .inl (h.keys _ (reservedTaskKey_of_start (by decide) (graphDispatchKey_start _))
      (Option.isSome_iff_exists.mpr ⟨row, hrow⟩))
  · intro threadId taskId hholds
    exact .inl (hstart (taskAuthorizationRef_start threadId taskId) (by simp [taskRefStarts])
      hholds)
  · intro source sourceRef row hrow
    exact .inl (h.keys _ (reservedTaskKey_of_start (by decide) (taskAuthorizeKey_start _ _))
      (Option.isSome_iff_exists.mpr ⟨row, hrow⟩))

/-- What a click that goes through leaves in the tables. -/
theorem confirmTask_stores {row : RowDefaults} {authorizedAt rawText : String}
    {callback : VerifiedFeishuCallback} {command : FeishuTaskConfirmationCommand}
    (h : confirmTask crypto row authorizedAt callback rawText command db = .ok db') :
    (∀ r, Holds db' r → Holds db r ∨ r = buildPayloadRef callback ∨
      r = approvedTaskPayloadRef command.taskPayloadRef ∧
        (r ≠ buildPayloadRef callback → ¬Holds db r → ∃ taskPayload,
          getJsonPayload command.taskPayloadRef db' = .ok taskPayload ∧
          getJsonPayload r db' = .ok (authorizedTaskPayload taskPayload command.operatorOpenId
            authorizedAt))) ∧
    ∀ key written, db'.outboxForKey? key = some written →
      (db.outboxForKey? key).isSome = true ∨ key = graphDispatchKey command.idempotencyKey ∧
        Dispatches db' written (approvedTaskPayloadRef command.taskPayloadRef) := by
  have hgrows := (confirmTask_confirms h).grows
  obtain ⟨db₁, taskPayload, db₂, hstore, hget, _, hinsert, h⟩ := confirmTask_eq_ok h
  obtain ⟨_, hrefs⟩ := storeJsonPayload_cases hstore
  have hframe := storeJsonPayload_frame hstore
  have hget₂ := (Database.Grows.insertCardAction hinsert).getJsonPayload hget
  obtain ⟨_, _, _, rfl⟩ := Database.insertCardAction_eq_ok.mp hinsert
  by_cases happrove : command.decision = .approve
  · rw [if_pos happrove] at h
    obtain ⟨thread, ref, _, henqueue⟩ := startTask_eq_ok h
    have hget' := ((upsertThread_grows thread).trans (enqueueJson_grows henqueue)).getJsonPayload
      hget₂
    obtain ⟨hstores, hrows⟩ := enqueueJson_stores (approvedTaskPayloadRef_ne _) henqueue
    refine ⟨?_, ?_⟩
    · intro r hr
      rcases hstores r hr with hold | ⟨href, hnew⟩
      · rcases hrefs r hold with hold | hold
        · exact .inl hold
        · exact .inr (.inl hold)
      · refine .inr (.inr ⟨href, fun hne hfresh => ⟨taskPayload, hget', hnew ?_⟩⟩)
        intro hold
        rcases hrefs r hold with hold | hold
        · exact hfresh hold
        · exact hne hold
    · intro key written hwritten
      by_cases hkey : key = graphDispatchKey command.idempotencyKey
      · subst hkey
        rcases hrows written hwritten with hold | ⟨_, hkind, href, hholds⟩
        · refine .inl (Option.isSome_iff_exists.mpr ⟨written, ?_⟩)
          unfold Database.outboxForKey? upsertThread at *
          rw [hframe] at hold
          exact hold
        · exact .inr ⟨rfl, hkind, href, hholds⟩
      · refine .inl ?_
        have hsome := (isSome_outboxForKey?_enqueueJson henqueue).mp
          (Option.isSome_iff_exists.mpr ⟨written, hwritten⟩)
        have hold := hsome.resolve_right hkey
        unfold Database.outboxForKey? upsertThread at *
        rw [hframe] at hold
        exact hold
  · rw [if_neg happrove] at h
    subst h
    refine ⟨fun r hr => (hrefs r hr).imp_right .inl, fun key written hwritten => .inl ?_⟩
    refine Option.isSome_iff_exists.mpr ⟨written, ?_⟩
    unfold Database.outboxForKey? at *
    rw [hframe] at hwritten
    exact hwritten

theorem TasksStored.confirmed (hs : TasksStored crypto db) {row : RowDefaults}
    {authorizedAt rawText sourceRef : String} {callback : VerifiedFeishuCallback}
    {decision : Decision} (h : confirmTask crypto row authorizedAt callback rawText
      ((taskCard crypto sourceRef).command decision callback (buildPayloadRef callback)) db =
        .ok db') : TasksStored crypto db' := by
  have hgrows := (confirmTask_confirms h).grows
  obtain ⟨hrefs, hrows⟩ := confirmTask_stores h
  have hother : ∀ {ref start}, startsWith ref start = true → start ∈ stepRefStarts →
      start ≠ "artifact://feishu-callback/" → start ≠ "artifact://feishu-task-intake/" →
      Holds db' ref → Holds db ref := by
    intro ref start hstart hmem hcallback htask hholds
    rcases hrefs ref hholds with hold | hold | ⟨hold, _⟩
    · exact hold
    · exact absurd hold (ref_ne_of_starts hstart (buildPayloadRef_start callback) hmem
        (by simp [stepRefStarts]) hcallback)
    · exact absurd hold (ref_ne_of_starts hstart (approvedTaskPayloadRef_start _ _) hmem
        (by simp [stepRefStarts, taskRefStarts]) htask)
  have hkeys : ∀ {key start}, startsWith key start = true → start ∈ taskKeyStarts →
      start ≠ "graph_dispatch:" → (db'.outboxForKey? key).isSome = true →
      (db.outboxForKey? key).isSome = true := by
    intro key start hstart hmem hne hsome
    obtain ⟨written, hwritten⟩ := Option.isSome_iff_exists.mp hsome
    rcases hrows key written hwritten with hold | ⟨hkey, _⟩
    · exact hold
    · refine absurd ?_ hne
      rw [hkey] at hstart
      exact taskKeyStart_unique hmem (by decide) hstart (graphDispatchKey_start _)
  refine hs.extend hgrows ?_ ?_ ?_ ?_ ?_ ?_
  · intro threadId taskId hholds
    rcases hholds with hholds | hholds
    · rcases hrefs _ hholds with hold | hold | ⟨hold, _⟩
      · exact .inl hold
      · exact absurd hold (ref_ne_of_starts (taskPayloadRef_start _ _)
          (buildPayloadRef_start callback) (by decide) (by decide) (by decide))
      · exact absurd hold.symm (approvedTaskPayloadRef_ne_taskPayloadRef _ _ _ _)
    · exact .inr (.inl (hother (taskConfirmationCardRef_start threadId taskId) (by decide)
        (by decide) (by decide) hholds))
  · intro other modelProfileId written hwritten
    exact .inl (hkeys (taskConfirmationKey_start other modelProfileId) (by decide) (by decide)
      (Option.isSome_iff_exists.mpr ⟨written, hwritten⟩))
  · intro threadId taskId hholds
    by_cases hold : Holds db (approvedTaskPayloadRef (taskPayloadRef threadId taskId))
    · exact .inl hold
    · have hne := ref_ne_of_starts (approvedTaskPayloadRef_start threadId taskId)
        (buildPayloadRef_start callback) (by decide) (by decide) (by decide)
      rcases hrefs _ hholds with h | h | ⟨href, hnew⟩
      · exact absurd h hold
      · exact absurd h hne
      · obtain ⟨taskPayload, hget, happroved⟩ := hnew hne hold
        rw [← approvedTaskPayloadRef_injective href] at hget
        exact .inr ⟨taskPayload, _, _, hget, happroved⟩
  · intro other written hwritten
    rcases hrows _ written hwritten with hold | ⟨hkey, hdispatches⟩
    · exact .inl hold
    · obtain rfl := taskConfirmKey_injective (graphDispatchKey_injective hkey)
      exact .inr hdispatches
  · intro threadId taskId hholds
    exact .inl (hother (taskAuthorizationRef_start threadId taskId) (by decide) (by decide)
      (by decide) hholds)
  · intro source other written hwritten
    exact .inl (hkeys (taskAuthorizeKey_start source other) (by decide) (by decide)
      (Option.isSome_iff_exists.mpr ⟨written, hwritten⟩))

theorem TasksStored.requests (hs : TasksStored crypto db) {fresh : FreshPlan} {row : RowDefaults}
    {authorizedAt ref : String} {request : TaskAuthorizeRequest} {thread : GraphThread}
    (h : enqueueAuthorized crypto row authorizedAt request (authorizationPlan crypto fresh request)
      (resolveSourceRef crypto request) (insertThreadOrIgnore thread db) = .ok (ref, db')) :
    TasksStored crypto db' := by
  have hgrows := (insertThreadOrIgnore_grows thread).trans (enqueueJson_grows h)
  have hne : taskAuthorizationRef (authorizationPlan crypto fresh request).threadId
      (authorizationPlan crypto fresh request).taskId ≠ "" := by
    intro hempty
    have hstart := taskAuthorizationRef_start (authorizationPlan crypto fresh request).threadId
      (authorizationPlan crypto fresh request).taskId
    rw [hempty] at hstart
    exact absurd hstart (by decide)
  obtain ⟨hrefs, hrows⟩ := enqueueJson_stores hne h
  have hother : ∀ {r start}, startsWith r start = true → start ∈ stepRefStarts →
      start ≠ "artifact://task-authorization/" → Holds db' r → Holds db r := by
    intro r start hstart hmem hauthorization hholds
    rcases hrefs r hholds with hold | ⟨hold, _⟩
    · exact hold
    · exact absurd hold (ref_ne_of_starts hstart (taskAuthorizationRef_start _ _) hmem
        (by decide) hauthorization)
  have hkeys : ∀ {key start}, startsWith key start = true → start ∈ taskKeyStarts →
      start ≠ "task_authorize:" → (db'.outboxForKey? key).isSome = true →
      (db.outboxForKey? key).isSome = true := by
    intro key start hstart hmem hauthorization hsome
    rcases (isSome_outboxForKey?_enqueueJson h).mp hsome with hold | rfl
    · exact hold
    · exact absurd (taskKeyStart_unique hmem (by decide) hstart (taskAuthorizeKey_start _ _))
        hauthorization
  refine hs.extend hgrows ?_ ?_ ?_ ?_ ?_ ?_
  · intro threadId taskId hholds
    rcases hholds with hholds | hholds
    · exact .inl (hother (taskPayloadRef_start threadId taskId) (by decide) (by decide) hholds)
    · exact .inr (.inl (hother (taskConfirmationCardRef_start threadId taskId) (by decide)
        (by decide) hholds))
  · intro sourceRef modelProfileId written hwritten
    exact .inl (hkeys (taskConfirmationKey_start sourceRef modelProfileId) (by decide) (by decide)
      (Option.isSome_iff_exists.mpr ⟨written, hwritten⟩))
  · intro threadId taskId hholds
    exact .inl (hother (approvedTaskPayloadRef_start threadId taskId) (by decide) (by decide)
      hholds)
  · intro sourceRef written hwritten
    exact .inl (hkeys (graphDispatchKey_start _) (by decide) (by decide)
      (Option.isSome_iff_exists.mpr ⟨written, hwritten⟩))
  · intro threadId taskId hholds
    by_cases hold : Holds db (taskAuthorizationRef threadId taskId)
    · exact .inl hold
    · rcases hrefs _ hholds with h | ⟨_, hnew⟩
      · exact .inl h
      · exact .inr ⟨fresh, authorizedAt, request, hnew hold⟩
  · intro source sourceRef written hwritten
    rcases (isSome_outboxForKey?_enqueueJson h).mp
      (Option.isSome_iff_exists.mpr ⟨written, hwritten⟩) with hold | hkey
    · exact .inl hold
    · rw [hkey] at hwritten ⊢
      rcases hrows written hwritten with hold | ⟨_, hkind, href, hholds⟩
      · exact .inl (Option.isSome_iff_exists.mpr ⟨written, hold⟩)
      · exact .inr ⟨_, _, hkind, href, hholds⟩

end Extend

section Prepare

variable {settings : Settings} {crypto : Crypto} {decryptGcm : DecryptGcm} {item : PrepareItem}
  {payload : Dict} {run : PrepareRun} {db db' view : Database} {parsed : FeishuTaskIntake}
  {modelLabel : String} {plan : TaskPlan} {exc : PrepareError}

/-- A task that has been read and planned, once it is confirmed. -/
theorem confirmedTask_of_readTask
    (hread : readTask settings crypto decryptGcm item payload run db = .ok (parsed, modelLabel))
    (hplan : confirmablePlan parsed run.fresh = .ok plan) :
    ∃ task : ConfirmedTask crypto, task.parsed = parsed ∧ task.plan = plan ∧
      task.modelProfileId = item.modelProfileId ∧ task.embeddingProfileId = none := by
  simp only [readTask, Except.bind_eq_ok, Except.mapError_eq_ok] at hread
  obtain ⟨eventPayload, _, intake, hintake, _, _, hparse⟩ := hread
  obtain ⟨howner, _, hparsed⟩ := parseWithUserModel_eq_ok hparse
  have hsame : parsed.modelOwnerUserId = intake.modelOwnerUserId := by
    obtain ⟨fields, status, parserError, source, _, rfl⟩ := hparsed
    rfl
  exact ⟨
    { event := eventPayload
      tenantKey := firstStr [payload.get "tenant_key"]
      intake := intake
      parsed := parsed
      fresh := run.fresh
      plan := plan
      modelProfileId := item.modelProfileId
      embeddingProfileId := none
      operatorOpenId := none
      authorizedAt := ""
      read := hintake
      parsedFrom := hparsed
      owner := by rw [hsame]; exact howner
      planned := hplan }, rfl, rfl, rfl, rfl⟩

/-- The card of a task is not there without its payload. -/
theorem TasksStored.payload_of_card (hs : TasksStored crypto db) {threadId taskId : UUID}
    (h : Holds db (taskConfirmationCardRef threadId taskId)) :
    Holds db (taskPayloadRef threadId taskId) := by
  obtain ⟨task, htask⟩ := hs.shown threadId taskId (.inr h)
  exact holds_of_getJsonPayload htask.payload

/-- No card of the task has been sent where its payload is not stored. -/
theorem TasksStored.row_none (hs : TasksStored crypto db) (hnames : PayloadNames payload item)
    (hread : readTask settings crypto decryptGcm item payload run db = .ok (parsed, modelLabel))
    (hplan : confirmablePlan parsed run.fresh = .ok plan)
    (hnew : ¬Holds db (taskPayloadRef plan.threadId plan.taskId)) :
    db.outboxForKey? (taskConfirmationKey parsed.sourceRef item.modelProfileId) = none := by
  obtain ⟨hsource, hthread, htask⟩ := plan_ids hnames hread hplan
  cases hrow : db.outboxForKey? (taskConfirmationKey parsed.sourceRef item.modelProfileId) with
  | none => rfl
  | some row =>
    have hsent := (hs.sent parsed.sourceRef item.modelProfileId row hrow).payload
    rw [hsource] at hsent
    rw [hthread, htask] at hnew
    exact absurd hsent hnew

/-- Where the card cannot be sent, nothing is stored either. -/
theorem TasksStored.unchanged_of_error (hs : TasksStored crypto db)
    (hnames : PayloadNames payload item)
    (hread : readTask settings crypto decryptGcm item payload run db = .ok (parsed, modelLabel))
    (h : enqueueTaskConfirmationCard crypto item parsed run db = (.error exc, view))
    (hexc : exc ≠ .integrity) : view = db := by
  unfold enqueueTaskConfirmationCard at h
  split at h
  · exact (Prod.mk.inj h).2.symm
  · rename_i plan hplan
    split at h
    · exact (Prod.mk.inj h).2.symm
    · rename_i db₁ hstore
      obtain ⟨hstored, hrefs⟩ := storeJsonPayload_cases hstore
      split at h
      · rename_i exc' henqueue
        obtain ⟨hexc', rfl⟩ := Prod.mk.inj h
        rcases hstored with ⟨_, heq⟩ | ⟨hnew, _⟩
        · exact heq
        · exfalso
          have hrow : db₁.outboxForKey? (taskConfirmationKey parsed.sourceRef
              item.modelProfileId) = none := by
            have hnone := hs.row_none hnames hread hplan hnew
            unfold Database.outboxForKey? at hnone ⊢
            rw [storeJsonPayload_frame hstore]
            exact hnone
          rw [enqueueCard, enqueueJson_of_none hrow,
            resolvedContentRef_some _ _ (taskConfirmationCardRef_ne _ _)] at henqueue
          rcases Except.bind_eq_error.mp henqueue with hcard | ⟨db₂, _, hinsert⟩
          · rcases hrefs _ (holds_of_storeJsonPayload_error hcard) with hold | hold
            · exact hnew (hs.payload_of_card hold)
            · exact ref_ne_of_starts (taskConfirmationCardRef_start _ _) (taskPayloadRef_start _ _)
                (by decide) (by decide) (by decide) hold
          · rcases Except.bind_eq_error.mp hinsert with hinsert | ⟨_, _, hok⟩
            · obtain ⟨unique, rfl⟩ := Database.insertOutbox_error hinsert
              exact hexc (Except.error.inj hexc').symm
            · cases hok
      · cases (Prod.mk.inj h).1

/-- What an execution that returns has written. -/
theorem prepareTask_writes
    (h : prepareTask settings crypto decryptGcm item payload run db = .ok db') :
    (∃ parsed modelLabel plan,
      readTask settings crypto decryptGcm item payload run db = .ok (parsed, modelLabel) ∧
        SendsConfirmation crypto item parsed run plan db db') ∨
    ∃ modelLabel exc view ref, exc ≠ .integrity ∧
      (view = db ∨ ∃ parsed modelLabel,
        readTask settings crypto decryptGcm item payload run db = .ok (parsed, modelLabel) ∧
          enqueueTaskConfirmationCard crypto item parsed run db = (.error exc, view)) ∧
      enqueueParseFailedCard crypto item modelLabel (safeIntakeParseError exc) run.row view =
        .ok (ref, db') := by
  have hfail : ∀ {modelLabel exc view},
      failPreparation crypto item modelLabel exc run view = .ok db' → exc ≠ .integrity ∧
        ∃ ref, enqueueParseFailedCard crypto item modelLabel (safeIntakeParseError exc) run.row
          view = .ok (ref, db') := by
    intro modelLabel exc view hfail
    obtain ⟨_, henqueue⟩ := failPreparation_eq_ok hfail
    refine ⟨?_, henqueue⟩
    rintro rfl
    unfold failPreparation at hfail
    dsimp only at hfail
    split_ifs at hfail with _ hself
    exact hself rfl
  unfold prepareTask at h
  split at h
  · rename_i exc hread
    obtain ⟨hexc, ref, henqueue⟩ := hfail h
    exact .inr ⟨_, exc, db, ref, hexc, .inl rfl, henqueue⟩
  · rename_i parsed modelLabel hread
    split at h
    · rename_i view hsends
      obtain rfl := Except.ok.inj h
      obtain ⟨plan, hsends⟩ := enqueueTaskConfirmationCard_eq_ok.mp hsends
      exact .inl ⟨parsed, modelLabel, plan, hread, hsends⟩
    · rename_i exc view hfails
      obtain ⟨hexc, ref, henqueue⟩ := hfail h
      exact .inr ⟨modelLabel, exc, view, ref, hexc, .inr ⟨parsed, modelLabel, hread, hfails⟩,
        henqueue⟩

theorem TasksStored.failed (hs : TasksStored crypto db) {errorSummary ref : String}
    (h : enqueueParseFailedCard crypto item modelLabel errorSummary run.row db = .ok (ref, db')) :
    TasksStored crypto db' := by
  have hstart := taskParseFailedCardRef_start crypto item.sourceRef item.modelProfileId
  have hne : taskParseFailedCardRef crypto item.sourceRef item.modelProfileId ≠ "" := by
    intro hempty
    rw [hempty] at hstart
    exact absurd hstart (by decide)
  obtain ⟨hrefs, _⟩ := enqueueJson_stores hne h
  have hrefs' : ∀ {r start}, startsWith r start = true → start ∈ taskRefStarts → Holds db' r →
      Holds db r := by
    intro r start hr hmem hholds
    rcases hrefs r hholds with hold | ⟨hold, _⟩
    · exact hold
    · refine absurd hold (ref_ne_of_starts hr hstart (List.mem_append_left _ hmem) (by decide) ?_)
      rintro rfl
      exact absurd hmem (by decide)
  have hkeys : ∀ {key start}, startsWith key start = true → start ∈ taskKeyStarts →
      start ≠ "task_parse_failed:" → (db'.outboxForKey? key).isSome = true →
      (db.outboxForKey? key).isSome = true := by
    intro key start hkey hmem hfailed hsome
    rcases (isSome_outboxForKey?_enqueueJson h).mp hsome with hold | rfl
    · exact hold
    · exact absurd (taskKeyStart_unique hmem (by decide) hkey (taskParseFailedKey_start _ _))
        hfailed
  refine hs.extend (enqueueJson_grows h) ?_ ?_ ?_ ?_ ?_ ?_
  · intro threadId taskId hholds
    rcases hholds with hholds | hholds
    · exact .inl (hrefs' (taskPayloadRef_start _ _) (by decide) hholds)
    · exact .inr (.inl (hrefs' (taskConfirmationCardRef_start _ _) (by decide) hholds))
  · intro sourceRef modelProfileId written hwritten
    exact .inl (hkeys (taskConfirmationKey_start _ _) (by decide) (by decide)
      (Option.isSome_iff_exists.mpr ⟨written, hwritten⟩))
  · intro threadId taskId hholds
    exact .inl (hrefs' (approvedTaskPayloadRef_start _ _) (by decide) hholds)
  · intro sourceRef written hwritten
    exact .inl (hkeys (graphDispatchKey_start _) (by decide) (by decide)
      (Option.isSome_iff_exists.mpr ⟨written, hwritten⟩))
  · intro threadId taskId hholds
    exact .inl (hrefs' (taskAuthorizationRef_start _ _) (by decide) hholds)
  · intro source sourceRef written hwritten
    exact .inl (hkeys (taskAuthorizeKey_start _ _) (by decide) (by decide)
      (Option.isSome_iff_exists.mpr ⟨written, hwritten⟩))

/-- A card that is sent shows the payload that is stored with it. -/
theorem TasksStored.sends (hs : TasksStored crypto db) (hnames : PayloadNames payload item)
    (hread : readTask settings crypto decryptGcm item payload run db = .ok (parsed, modelLabel))
    (h : SendsConfirmation crypto item parsed run plan db db') : TasksStored crypto db' := by
  obtain ⟨hplan, db₁, ref, hstore, henqueue⟩ := h
  obtain ⟨hsource, hthread, htaskId⟩ := plan_ids hnames hread hplan
  obtain ⟨task, rfl, rfl, hprofile, hembedding⟩ := confirmedTask_of_readTask hread hplan
  obtain ⟨hstored, hrefs₁⟩ := storeJsonPayload_cases hstore
  obtain ⟨hrefs₂, hrows⟩ := enqueueJson_stores (taskConfirmationCardRef_ne _ _) henqueue
  have hgrows₂ := enqueueJson_grows henqueue
  have hgrows := (storeJsonPayload_grows hstore).trans hgrows₂
  have houtbox : ∀ key, db₁.outboxForKey? key = db.outboxForKey? key := by
    intro key
    rw [storeJsonPayload_frame hstore]
    rfl
  have hpayload : Holds db' (taskPayloadRef task.plan.threadId task.plan.taskId) := by
    rcases hstored with ⟨hold, _⟩ | ⟨_, hget⟩
    · exact hold.mono hgrows
    · exact (holds_of_getJsonPayload hget).mono hgrows₂
  -- the payload and the card are new together, or neither is
  have hshown : Holds db (taskPayloadRef task.plan.threadId task.plan.taskId) ∨
      Shown db' task.plan.threadId task.plan.taskId task := by
    rcases hstored with ⟨hold, _⟩ | ⟨hnew, hget⟩
    · exact .inl hold
    · refine .inr ⟨⟨rfl, rfl⟩, ?_, item.chatId, ?_⟩
      · have hget' := hgrows₂.getJsonPayload hget
        rw [← hprofile, ← hembedding] at hget'
        exact hget'
      · have hcard : ¬Holds db₁ (taskConfirmationCardRef task.plan.threadId task.plan.taskId) := by
          intro hholds
          rcases hrefs₁ _ hholds with hold | hold
          · exact hnew (hs.payload_of_card hold)
          · exact ref_ne_of_starts (taskConfirmationCardRef_start _ _) (taskPayloadRef_start _ _)
              (by decide) (by decide) (by decide) hold
        have hrow := hs.row_none hnames hread hplan hnew
        obtain ⟨written, hwritten, _⟩ := outboxForKey?_enqueueJson henqueue
        have hholds : Holds db' (taskConfirmationCardRef task.plan.threadId task.plan.taskId) := by
          rcases hrows written hwritten with hold | ⟨_, _, _, hholds⟩
          · rw [houtbox, hrow] at hold
            cases hold
          · exact hholds
        rcases hrefs₂ _ hholds with hold | ⟨_, hget'⟩
        · exact absurd hold hcard
        · exact hget' hcard
  have hother : ∀ {r start}, startsWith r start = true → start ∈ stepRefStarts →
      start ≠ "artifact://feishu-task-intake/" →
      start ≠ "artifact://feishu-card/task-confirmation/" → Holds db' r → Holds db r := by
    intro r start hr hmem htask hcard hholds
    rcases hrefs₂ r hholds with hold | ⟨hold, _⟩
    · rcases hrefs₁ r hold with hold | hold
      · exact hold
      · exact absurd hold (ref_ne_of_starts hr (taskPayloadRef_start _ _) hmem (by decide) htask)
    · exact absurd hold (ref_ne_of_starts hr (taskConfirmationCardRef_start _ _) hmem (by decide)
        hcard)
  have hkeys : ∀ {key start}, startsWith key start = true → start ∈ taskKeyStarts →
      start ≠ "task_confirmation:" → (db'.outboxForKey? key).isSome = true →
      (db.outboxForKey? key).isSome = true := by
    intro key start hkey hmem hconfirmation hsome
    rcases (isSome_outboxForKey?_enqueueJson henqueue).mp hsome with hold | rfl
    · rwa [houtbox] at hold
    · exact absurd (taskKeyStart_unique hmem (by decide) hkey (taskConfirmationKey_start _ _))
        hconfirmation
  refine hs.extend hgrows ?_ ?_ ?_ ?_ ?_ ?_
  · intro threadId taskId hholds
    have hids : Holds db (taskPayloadRef threadId taskId) ∨
        Holds db (taskConfirmationCardRef threadId taskId) ∨
        task.plan.threadId = threadId ∧ task.plan.taskId = taskId := by
      rcases hholds with hholds | hholds
      · rcases hrefs₂ _ hholds with hold | ⟨hold, _⟩
        · rcases hrefs₁ _ hold with hold | hold
          · exact .inl hold
          · obtain ⟨rfl, rfl⟩ := taskPayloadRef_ids hold
            exact .inr (.inr ⟨rfl, rfl⟩)
        · exact absurd hold (ref_ne_of_starts (taskPayloadRef_start _ _)
            (taskConfirmationCardRef_start _ _) (by decide) (by decide) (by decide))
      · rcases hrefs₂ _ hholds with hold | ⟨hold, _⟩
        · rcases hrefs₁ _ hold with hold | hold
          · exact .inr (.inl hold)
          · exact absurd hold (ref_ne_of_starts (taskConfirmationCardRef_start _ _)
              (taskPayloadRef_start _ _) (by decide) (by decide) (by decide))
        · obtain ⟨rfl, rfl⟩ := taskConfirmationCardRef_ids hold
          exact .inr (.inr ⟨rfl, rfl⟩)
    rcases hids with hold | hold | ⟨rfl, rfl⟩
    · exact .inl hold
    · exact .inr (.inl hold)
    · rcases hshown with hold | hshown
      · exact .inl hold
      · exact .inr (.inr ⟨task, hshown⟩)
  · intro sourceRef modelProfileId written hwritten
    rcases (isSome_outboxForKey?_enqueueJson henqueue).mp
      (Option.isSome_iff_exists.mpr ⟨written, hwritten⟩) with hold | hkey
    · rw [houtbox] at hold
      exact .inl hold
    · have hsourceRef := sourceRef_of_taskConfirmationKey hkey
      rw [hkey] at hwritten ⊢
      rcases hrows written hwritten with hold | ⟨_, _, hcard, _⟩
      · rw [houtbox] at hold
        exact .inl (Option.isSome_iff_exists.mpr ⟨written, hold⟩)
      · rw [hthread, htaskId, ← hsource, ← hsourceRef] at hcard hpayload
        exact .inr ⟨hcard, hpayload⟩
  · intro threadId taskId hholds
    rcases hrefs₂ _ hholds with hold | ⟨hold, _⟩
    · rcases hrefs₁ _ hold with hold | hold
      · exact .inl hold
      · exact absurd hold (approvedTaskPayloadRef_ne_taskPayloadRef _ _ _ _)
    · exact absurd hold (ref_ne_of_starts (approvedTaskPayloadRef_start _ _)
        (taskConfirmationCardRef_start _ _) (by decide) (by decide) (by decide))
  · intro sourceRef written hwritten
    exact .inl (hkeys (graphDispatchKey_start _) (by decide) (by decide)
      (Option.isSome_iff_exists.mpr ⟨written, hwritten⟩))
  · intro threadId taskId hholds
    exact .inl (hother (taskAuthorizationRef_start _ _) (by decide) (by decide) (by decide) hholds)
  · intro source sourceRef written hwritten
    exact .inl (hkeys (taskAuthorizeKey_start _ _) (by decide) (by decide)
      (Option.isSome_iff_exists.mpr ⟨written, hwritten⟩))

end Prepare

/-- The payload holds the plan of its text. -/
structure PlansText (payload : Dict) (text : String) : Prop where
  nonempty : text ≠ ""
  taskType : payload.get "task_type" = .str (classifyTask text)
  councilMode : payload.get "council_mode" = .str (selectCouncil text).mode.value
  modeReason : payload.get "mode_reason" = .str (selectCouncil text).reason
  requiredAgents : payload.get "required_agents" = textArray (selectCouncil text).requiredAgents
  optionalAgents : payload.get "optional_agents" = textArray (selectCouncil text).optionalAgents

structure PlanOf (payload : Dict) (plan : TaskPlan) : Prop where
  taskType : payload.get "task_type" = .str plan.taskType
  councilMode : payload.get "council_mode" = .str plan.councilMode.value
  modeReason : payload.get "mode_reason" = .str plan.modeReason
  requiredAgents : payload.get "required_agents" = textArray plan.requiredAgents
  optionalAgents : payload.get "optional_agents" = textArray plan.optionalAgents

/-- Whatever the thread holds already, the graph makes the plan in the payload. -/
def Replans (payload : Dict) (input : InitialState) : Prop :=
  ∀ replies (state : RecruitmentState), ∃ next plan,
    createTaskPlanAndPolicy replies (receiveUserInput replies (state.receive input)) = .ok next ∧
      next.taskPlan = some plan ∧ next.taskType = some plan.taskType ∧
      next.councilMode = some plan.councilMode.value ∧ next.modeReason = some plan.modeReason ∧
      PlanOf payload plan

theorem replans_of_plansText {payload : Dict} {input : InitialState}
    (hplans : PlansText payload input.userInput) (hthread : ∃ id : UUID, input.threadId = id.str) :
    Replans payload input := by
  obtain ⟨id, hid⟩ := hthread
  intro replies state
  have hreceived : (state.receive input).threadId = input.threadId ∧
      (state.receive input).userInput = some input.userInput := by
    unfold RecruitmentState.receive
    cases input.task <;> cases input.feishuContext <;> exact ⟨rfl, rfl⟩
  obtain ⟨hthread, htext⟩ := hreceived
  have hidText : id.str ≠ "" := str_ne_nil id
  have hparse : UUID.parse (receiveUserInput replies (state.receive input)).threadId = some id := by
    simp only [receiveUserInput, hthread, hid, ne_eq, hidText, not_false_eq_true, if_true,
      UUID.parse_str]
  have hrequest : textOrDefault (receiveUserInput replies (state.receive input)).userInput
      emptyTask = input.userInput := by
    simp only [receiveUserInput, htext, Option.getD_some]
    exact textOrDefault_some hplans.nonempty
  unfold createTaskPlanAndPolicy
  rw [hparse]
  refine ⟨_, _, rfl, rfl, rfl, rfl, rfl, ?_⟩
  simp only [createTaskPlan, hrequest]
  exact ⟨hplans.taskType, hplans.councilMode, hplans.modeReason, hplans.requiredAgents,
    hplans.optionalAgents⟩

theorem plansText_dispatchPayload {crypto : Crypto} (task : ConfirmedTask crypto) :
    PlansText task.dispatchPayload task.plan.requestText := by
  obtain ⟨hrequest, _, htype, hmode, hreason, hrequired, hoptional⟩ := task.plan_eq
  have hget : ∀ {key v}, key ≠ "authorization" → task.taskPayload.get key = v →
      task.dispatchPayload.get key = v := by
    intro key v hkey hv
    rw [task.get_dispatchPayload hkey, hv]
  refine ⟨hrequest, hget (by decide) ?_, hget (by decide) ?_, hget (by decide) ?_,
    hget (by decide) ?_, hget (by decide) ?_⟩
  · simp [ConfirmedTask.taskPayload, buildGraphDispatchPayload, Dict.get_ofList, Dict.get_cons,
      htype]
  · simp [ConfirmedTask.taskPayload, buildGraphDispatchPayload, Dict.get_ofList, Dict.get_cons,
      hmode]
  · simp [ConfirmedTask.taskPayload, buildGraphDispatchPayload, Dict.get_ofList, Dict.get_cons,
      hreason]
  · simp [ConfirmedTask.taskPayload, buildGraphDispatchPayload, Dict.get_ofList, Dict.get_cons,
      hrequired]
  · simp [ConfirmedTask.taskPayload, buildGraphDispatchPayload, Dict.get_ofList, Dict.get_cons,
      hoptional]

section Requested

variable (crypto : Crypto) (fresh : FreshPlan) (authorizedAt : String)
  (request : TaskAuthorizeRequest)

theorem authorizationPlan_text :
    (authorizationPlan crypto fresh request).requestText = request.requestText ∧
      (authorizationPlan crypto fresh request).taskType = classifyTask request.requestText ∧
      (authorizationPlan crypto fresh request).councilMode =
        (selectCouncil request.requestText).mode ∧
      (authorizationPlan crypto fresh request).modeReason =
        (selectCouncil request.requestText).reason ∧
      (authorizationPlan crypto fresh request).requiredAgents =
        (selectCouncil request.requestText).requiredAgents ∧
      (authorizationPlan crypto fresh request).optionalAgents =
        (selectCouncil request.requestText).optionalAgents :=
  ⟨rfl, rfl, rfl, rfl, rfl, rfl⟩

theorem authorizationPayload_keys (plan : TaskPlan) (sourceRef : String) :
    (authorizationPayload authorizedAt request plan sourceRef).get "thread_id" =
        .str plan.threadId.str ∧
      (authorizationPayload authorizedAt request plan sourceRef).get "user_input" =
        .str plan.requestText ∧
      PlanOf (authorizationPayload authorizedAt request plan sourceRef) plan := by
  refine ⟨?_, ?_, ?_, ?_, ?_, ?_, ?_⟩ <;>
    simp [authorizationPayload, textArray, Dict.get_ofList, Dict.get_cons]

theorem plansText_requestedPayload :
    PlansText (requestedPayload crypto fresh authorizedAt request) request.requestText := by
  obtain ⟨_, htype, hmode, hreason, hrequired, hoptional⟩ :=
    authorizationPlan_text crypto fresh request
  obtain ⟨_, _, hplan⟩ := authorizationPayload_keys authorizedAt request
    (authorizationPlan crypto fresh request) (resolveSourceRef crypto request)
  constructor
  case nonempty => exact request.requestText_ne
  case taskType => rw [← htype]; exact hplan.taskType
  case councilMode => rw [← hmode]; exact hplan.councilMode
  case modeReason => rw [← hreason]; exact hplan.modeReason
  case requiredAgents => rw [← hrequired]; exact hplan.requiredAgents
  case optionalAgents => rw [← hoptional]; exact hplan.optionalAgents

/-- The input of a request names its thread and its text. -/
theorem feishuPayloadToInitialState_requestedPayload :
    ∃ input, feishuPayloadToInitialState crypto
        (requestedPayload crypto fresh authorizedAt request) = .ok input ∧
      input.userInput = request.requestText ∧ ∃ id : UUID, input.threadId = id.str := by
  obtain ⟨hthread, htext, _⟩ := authorizationPayload_keys authorizedAt request
    (authorizationPlan crypto fresh request) (resolveSourceRef crypto request)
  rw [(authorizationPlan_text crypto fresh request).1] at htext
  refine ⟨taskInitialState (requestedPayload crypto fresh authorizedAt request)
    (authorizationPlan crypto fresh request).threadId.str request.requestText, ?_, rfl, _, rfl⟩
  unfold feishuPayloadToInitialState requestedPayload
  rw [hthread, htext, firstStr_str (str_ne_nil _), firstStr_str request.requestText_ne]

end Requested

section Run

variable {ω : Type*} [DecidableEq ω] {settings : Settings} {crypto : Crypto}
  {decryptGcm : DecryptGcm} {config : ω → FeishuOutboxDispatcher} {s t : TaskSystem ω}
  {event : TaskEvent ω} {db : Database}

omit [DecidableEq ω] in
theorem TasksStored.background (hs : TasksStored crypto db) {work : Background}
    (hspares : work.SparesTasks)
    (hrefs : TaskEvent.SparesRefs (.background work : TaskEvent ω)) :
    TasksStored crypto (commitOr db ((work.run db).map fun db => ((), db))) := by
  refine hs.keeps (.background hspares) ?_
  cases hrun : work.run db with
  | error exc => exact fun _ _ hholds => hholds
  | ok db' =>
    change ∀ ref, reservedTaskRef ref = true → Holds db' ref → Holds db ref
    intro ref href hholds
    cases work with
    | thread row =>
      obtain rfl := Except.ok.inj hrun
      exact hholds
    | blob contentRef payload rawText sha256 =>
      rcases (storeJsonPayload_cases hrun).2 ref hholds with hold | rfl
      · exact hold
      · rw [show reservedTaskRef ref = false from hrefs] at href
        cases href
    | cardAction row =>
      obtain ⟨_, _, _, rfl⟩ := Database.insertCardAction_eq_ok.mp hrun
      exact hholds
    | outbox row kind key threadId payloadRef =>
      obtain ⟨_, _, _, rfl⟩ := Database.insertOutbox_eq_ok.mp hrun
      exact hholds

theorem TasksStored.step (hs : TasksStored crypto s.db) (hrefs : event.SparesRefs)
    (h : s.step settings crypto decryptGcm config event = some t) : TasksStored crypto t.db := by
  have hfinish : ∀ {db : Database}, TasksStored crypto db → ∀ d item currentTime outcome,
      TasksStored crypto
        { db with outbox := FeishuOutboxDispatcher.finish d item currentTime outcome db.outbox } :=
    fun hdb d item currentTime outcome =>
      hdb.keeps (.finish d item currentTime outcome) fun _ _ hholds => hholds
  cases event with
  | tick d =>
    obtain rfl := Option.some.inj h
    exact hs
  | background work =>
    simp only [TaskSystem.step] at h
    split_ifs at h with hspares
    obtain rfl := Option.some.inj h
    exact hs.background hspares hrefs
  | click row authorizedAt callback sourceRef modelProfileId decision =>
    simp only [TaskSystem.step] at h
    split_ifs at h with hclick
    obtain rfl := Option.some.inj h
    rcases commitOr_confirmation hclick.1 with heq | ⟨rawText, hconfirm⟩
    · rw [heq]
      exact hs
    · exact hs.confirmed hconfirm
  | authorize fresh row authorizedAt request =>
    obtain rfl := Option.some.inj h
    cases hrun : authorize crypto fresh row authorizedAt request s.db with
    | error exc => exact hs
    | ok committed =>
      obtain ⟨response, db'⟩ := committed
      rcases authorize_eq_ok hrun with rfl | ⟨ref, henqueue⟩
      · exact hs
      · exact hs.requests henqueue
  | claim w locked =>
    simp only [TaskSystem.step] at h
    split at h
    · cases h
    · split at h
      · obtain rfl := Option.some.inj h
        exact hs
      · rename_i item table hclaim
        obtain rfl := Option.some.inj h
        exact hs.keeps (.workers (claim_statements hclaim)) fun _ _ hholds => hholds
  | finishPrepare w run =>
    simp only [TaskSystem.step] at h
    split at h
    · cases h
    · rename_i held hheld
      split_ifs at h with hkind
      obtain rfl := Option.some.inj h
      cases hrun : handlePreparation settings crypto decryptGcm held.item run s.db with
      | error exc => exact hfinish hs _ _ _ _
      | ok view =>
        refine hfinish ?_ _ _ _ _
        obtain ⟨payload, item, _, hitem, hprepare⟩ := handlePreparation_eq_ok hrun
        have hnames := prepareItem_eq_ok hitem
        rcases prepareTask_writes hprepare with ⟨parsed, modelLabel, plan, hread, hsends⟩ |
          ⟨modelLabel, exc, tables, ref, hexc, htables, henqueue⟩
        · exact hs.sends hnames hread hsends
        · have hsame : tables = s.db := by
            rcases htables with heq | ⟨parsed, label, hread, hfails⟩
            · exact heq
            · exact hs.unchanged_of_error hnames hread hfails hexc
          rw [hsame] at henqueue
          exact hs.failed henqueue
  | finishOther w outcome =>
    simp only [TaskSystem.step] at h
    split at h
    · cases h
    · split_ifs at h
      obtain rfl := Option.some.inj h
      exact hfinish hs _ _ _ _
  | crash w =>
    obtain rfl := Option.some.inj h
    exact hs

/-- The item of a confirmed task: what its card shows, accepted, and planned as it says. -/
structure RunsAsShown (crypto : Crypto) (db : Database) (sourceRef : String) (row : FeishuOutbox)
    (task : ConfirmedTask crypto) : Prop where
  kind : row.kind = .graphDispatch
  shown : Shown db (feishuThreadId crypto sourceRef) (feishuTaskId crypto sourceRef) task
  payload : getJsonPayload row.payloadRef db = .ok task.dispatchPayload
  same : ∀ key, key ≠ "authorization" → task.dispatchPayload.get key = task.taskPayload.get key
  status : (task.dispatchPayload.get "authorization").asDict.get "status" = .str "authorized"
  accepted : feishuPayloadToInitialState crypto task.dispatchPayload = .ok task.input ∧
    requireFeishuTaskIntakeReady task.input = .ok ()
  replans : Replans task.dispatchPayload task.input

/-- What is confirmed is what runs. -/
structure ConfirmedRuns (crypto : Crypto) (db : Database) : Prop where
  cards : ∀ sourceRef modelProfileId row,
    db.outboxForKey? (taskConfirmationKey sourceRef modelProfileId) = some row →
    row.payloadRef =
      taskConfirmationCardRef (feishuThreadId crypto sourceRef) (feishuTaskId crypto sourceRef)
  confirmed : ∀ sourceRef row,
    db.outboxForKey? (graphDispatchKey (taskConfirmKey sourceRef)) = some row →
    ∃ task, RunsAsShown crypto db sourceRef row task
  requested : ∀ source sourceRef row,
    db.outboxForKey? (taskAuthorizeKey source sourceRef) = some row →
    row.kind = .graphDispatch ∧ ∃ payload input, getJsonPayload row.payloadRef db = .ok payload ∧
      feishuPayloadToInitialState crypto payload = .ok input ∧ Replans payload input

omit [DecidableEq ω] in
theorem TasksStored.runsAsShown (hs : TasksStored crypto db) {sourceRef : String}
    {row : FeishuOutbox}
    (hrow : db.outboxForKey? (graphDispatchKey (taskConfirmKey sourceRef)) = some row) :
    ∃ task, RunsAsShown crypto db sourceRef row task := by
  obtain ⟨hkind, href, hholds⟩ := hs.started sourceRef row hrow
  obtain ⟨payload, operatorOpenId, authorizedAt, hget, happroved⟩ := hs.approved _ _ hholds
  obtain ⟨shownTask, hshown⟩ := hs.shown _ _ (.inl (holds_of_getJsonPayload hget))
  have hpayload := Except.ok.inj (hget.symm.trans hshown.payload)
  -- the task of the card, with the click on it
  obtain ⟨task, htask⟩ : ∃ task : ConfirmedTask crypto, task =
      { shownTask with operatorOpenId := operatorOpenId, authorizedAt := authorizedAt } := ⟨_, rfl⟩
  have hdispatch : task.dispatchPayload =
      authorizedTaskPayload payload operatorOpenId authorizedAt := by
    rw [htask, hpayload]
    rfl
  have hclicked : Shown db (feishuThreadId crypto sourceRef) (feishuTaskId crypto sourceRef)
      task := by
    rw [htask]
    exact ⟨hshown.ids, hshown.payload, hshown.card⟩
  refine ⟨task, ?_⟩
  constructor
  case kind => exact hkind
  case shown => exact hclicked
  case payload =>
    rw [href, hdispatch]
    exact happroved
  case same => exact fun key hkey => task.get_dispatchPayload hkey
  case status =>
    rw [hdispatch, authorizedTaskPayload, Dict.get_set_self]
    simp [Json.asDict, Dict.get_ofList, Dict.get_cons]
  case accepted =>
    obtain ⟨input, hinput, haccepted⟩ := Except.bind_eq_ok.mp task.dispatchInput_eq
    obtain ⟨_, hready, haccepted⟩ := Except.bind_eq_ok.mp haccepted
    split at haccepted
    · obtain rfl := Except.ok.inj haccepted
      exact ⟨hinput, hready⟩
    · cases haccepted
  case replans => exact replans_of_plansText (plansText_dispatchPayload task) ⟨_, rfl⟩

omit [DecidableEq ω] in
theorem TasksStored.confirmedRuns (hs : TasksStored crypto db) : ConfirmedRuns crypto db where
  cards sourceRef modelProfileId row hrow := (hs.sent sourceRef modelProfileId row hrow).card
  confirmed _ _ hrow := hs.runsAsShown hrow
  requested := by
    intro source sourceRef row hrow
    obtain ⟨threadId, taskId, hkind, href, hholds⟩ := hs.requested source sourceRef row hrow
    obtain ⟨fresh, authorizedAt, request, hget⟩ := hs.authorized threadId taskId hholds
    obtain ⟨input, hinput, htext, hthread⟩ :=
      feishuPayloadToInitialState_requestedPayload crypto fresh authorizedAt request
    rw [← href] at hget
    have hplans := plansText_requestedPayload crypto fresh authorizedAt request
    rw [← htext] at hplans
    exact ⟨hkind, _, input, hget, hinput, replans_of_plansText hplans hthread⟩

/-- In every run, every queued task is the one that was confirmed or requested. -/
theorem confirmedRuns_of_run {tr : List (TaskEvent ω)} (hs : s.Initial)
    (hrefs : ∀ event ∈ tr, event.SparesRefs)
    (hrun : exec (TaskSystem.step settings crypto decryptGcm config) s tr = some t) :
    ConfirmedRuns crypto t.db := by
  have hempty : TasksStored crypto s.db := by
    rw [hs.1]
    exact tasksStored_empty crypto
  refine TasksStored.confirmedRuns ?_
  refine exec_invariant (fun u => TasksStored crypto u.db) (P := fun _ event => event.SparesRefs)
    ?_ hempty ?_ hrun
  · intro u event v hu hspares hstep
    exact hu.step hspares hstep
  · refine along_iff_forall.mpr ?_
    rintro pre event post _ rfl _
    exact hrefs event (by simp)

end Run

def mappingClick : VerifiedFeishuCallback where
  payload := Dict.ofList
    [("event", .obj (Dict.ofList
      [("operator", .obj (Dict.ofList [("open_id", .str "ou_1")])),
        ("action", .obj (Dict.ofList
          [("value", .obj ((taskCard flatCrypto mappingRef).value .approve))]))]))]
  rawBody := ⟨#[]⟩
  payloadHash := "click"
  isChallenge := false
  challenge := none
  eventId := some "click"
  eventType := "card.action.trigger"
  tenantKey := none
  appId := none
  messageId := none

theorem apiSource_ne : "api" ≠ "" := by decide

def mappingRequest : TaskAuthorizeRequest where
  requestText := "寻找电控候选人"
  sourceRef := some "ats-1"
  threadId := some (.ofNat 11)
  approved := true
  requestText_ne := by decide
  source_ne := apiSource_ne

def confirmedRun : List (TaskEvent Bool) := claimedTwice ++
  [.finishPrepare true (mappingRun 2 mappingAnswer),
    .click ⟨.ofNat 5, 0⟩ "2026-07-01T00:00:00Z" mappingClick mappingRef mappingProfile.id .approve,
    .authorize ⟨.ofNat 8, .ofNat 9⟩ ⟨.ofNat 10, 0⟩ "2026-07-01T00:00:00Z" mappingRequest]

theorem confirmedRuns_of_run_confirmedRun : ∃ t, exec mappingStep idleTasks confirmedRun = some t ∧
    (t.db.outboxForKey? (graphDispatchKey (taskConfirmKey mappingRef))).isSome = true ∧
    (t.db.outboxForKey? (taskAuthorizeKey "api" "ats-1")).isSome = true ∧
    ConfirmedRuns flatCrypto t.db := by
  have hboth : (exec mappingStep idleTasks confirmedRun).any (fun t =>
      (t.db.outboxForKey? (graphDispatchKey (taskConfirmKey mappingRef))).isSome &&
      (t.db.outboxForKey? (taskAuthorizeKey "api" "ats-1")).isSome) = true := by
    decide +kernel
  obtain ⟨t, hrun, hrows⟩ := (Option.any_eq_true _ _).mp hboth
  obtain ⟨hconfirmed, hrequested⟩ := Bool.and_eq_true_iff.mp hrows
  refine ⟨t, hrun, hconfirmed, hrequested, confirmedRuns_of_run idleTasks_initial ?_ hrun⟩
  intro event hmem
  simp only [confirmedRun, claimedTwice, List.cons_append, List.nil_append, List.mem_cons,
    List.not_mem_nil, or_false] at hmem
  have hevent : reservedTaskRef "artifact://event" = false := by decide +kernel
  have hitem : reservedTaskRef "artifact://item" = false := by decide +kernel
  rcases hmem with rfl | rfl | rfl | rfl | rfl | rfl | rfl | rfl | rfl | rfl <;>
    first | exact hevent | exact hitem | trivial

end Headhunt.Runtime
