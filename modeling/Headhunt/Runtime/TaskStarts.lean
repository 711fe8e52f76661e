import Headhunt.Api.Authenticity
import Headhunt.Feishu.TaskConfirmation
import Headhunt.Feishu.TaskIntake
import Headhunt.Lib.PyJsonText
import Headhunt.Runtime.Stages

/-! The clicks on task confirmation cards, in any order and among everything else the
service writes: a task is started exactly if the recorded decision is to approve it. -/
namespace Headhunt.Runtime
open Headhunt.Api Headhunt.Core Headhunt.Feishu Headhunt.Storage Py

/-- The callback is a click on a button of the task's card. -/
def ClicksCard (crypto : Crypto) (sourceRef : String) (decision : Decision)
    (callback : VerifiedFeishuCallback) : Prop :=
  callback.eventType = "card.action.trigger" ∧ decision ≠ .edit ∧ sourceRef ≠ "" ∧
    extractCardActionValue callback.payload = .ok ((taskCard crypto sourceRef).value decision)

instance (crypto : Crypto) (sourceRef : String) (decision : Decision)
    (callback : VerifiedFeishuCallback) :
    Decidable (ClicksCard crypto sourceRef decision callback) := by
  unfold ClicksCard
  infer_instance

def startsWith (text start : String) : Bool := start.toList.isPrefixOf text.toList

/-- What other parts write: callbacks under their own digest, and neither the dispatch of
a confirmed task nor a click on its card. -/
def Background.Apart : Background → Prop
  | .blob contentRef _ _ sha256 =>
    startsWith contentRef "artifact://feishu-callback/" = true →
      contentRef = s!"artifact://feishu-callback/{sha256}"
  | .outbox _ _ key _ _ => startsWith key "graph_dispatch:" = false
  | .cardAction row => startsWith row.idempotencyKey "task_confirm:" = false
  | .thread _ => True

instance : (work : Background) → Decidable work.Apart
  | .blob _ _ _ _ => inferInstanceAs (Decidable (_ → _ = _))
  | .outbox _ _ _ _ _ | .cardAction _ => inferInstanceAs (Decidable (_ = _))
  | .thread _ => inferInstanceAs (Decidable True)

inductive CardEvent
  /-- A request with a click on the card of the task. -/
  | click (row : RowDefaults) (authorizedAt : String) (request : Request) (sourceRef : String)
      (decision : Decision)
  /-- The first write of a model setup click: its payload without the secrets. -/
  | modelSetup (request : Request) (redacted : Dict) (rawText sha256 : String)
  | background (work : Background)
  | claim (d : FeishuOutboxDispatcher) (currentTime : Time) (locked : UUID → Bool)
  | finish (d : FeishuOutboxDispatcher) (item : FeishuOutbox) (currentTime : Time)
      (outcome : Except OutboxDispatchError Unit)

section Step

variable (settings : Settings) (crypto : Crypto)

def enqueuedCallback (request : Request) : Option VerifiedFeishuCallback :=
  match receiveFeishuCardAction settings crypto request with
  | .ok (.enqueue callback) => some callback
  | _ => none

def CardEvent.step (db : Database) : CardEvent → Option Database
  | .click row authorizedAt request sourceRef decision =>
    ((enqueuedCallback settings crypto request).filter fun callback =>
      ClicksCard crypto sourceRef decision callback).map fun callback =>
        commitOr db (enqueueTaskConfirmation crypto row authorizedAt callback db)
  | .modelSetup request redacted rawText sha256 =>
    ((enqueuedCallback settings crypto request).filter fun callback =>
      cardRoute callback.payload = .ok .modelProfileSetup).map fun callback =>
        commitOr db ((storeJsonPayload (buildPayloadRef callback) redacted rawText sha256 db).map
          fun db => ((), db))
  | .background work =>
    if work.Apart then some (commitOr db ((work.run db).map fun db => ((), db))) else none
  | .claim d currentTime locked =>
    some (((d.claim currentTime locked db.outbox).map fun claimed =>
      { db with outbox := claimed.2 }).getD db)
  | .finish d item currentTime outcome =>
    some { db with outbox := d.finish item currentTime outcome db.outbox }

/-- The digest of a body tells it from the other bodies of the run. -/
def CardEvent.NoCollision (preimage : String → ByteArray) : CardEvent → Prop
  | .click _ _ request _ _ | .modelSetup request _ _ _ =>
    preimage (hexdigest (crypto.sha256 request.body)) = request.body
  | _ => True

end Step

def payloadOf (settings : Settings) (crypto : Crypto) (body : ByteArray) :
    Except FeishuCallbackError Dict := do
  (FeishuCallbackVerifier.ofSettings settings).decryptIfNeeded crypto (← loadsJson body)

def RecordedFor (db : Database) (sourceRef : String) (action : FeishuCardAction) : Prop :=
  action ∈ db.cardActions ∧ action.idempotencyKey = taskConfirmKey sourceRef

def Dispatched (db : Database) (sourceRef : String) : Prop :=
  (db.outboxForKey? (graphDispatchKey (taskConfirmKey sourceRef))).isSome = true

/-- The stored payload of the task passes the check of every click on its card. -/
def Confirmable (crypto : Crypto) (db : Database) (sourceRef : String) : Prop :=
  ∃ taskPayload, getJsonPayload (taskCard crypto sourceRef).taskPayloadRef db = .ok taskPayload ∧
    ∀ decision callback payloadRef, validateTaskConfirmationPayload taskPayload
      ((taskCard crypto sourceRef).command decision callback payloadRef) = .ok ()

structure StartsSound (settings : Settings) (crypto : Crypto) (preimage : String → ByteArray)
    (db : Database) : Prop where
  actionKeys : Table.Unique FeishuCardAction.idempotencyKey db.cardActions
  started : ∀ sourceRef, Dispatched db sourceRef ↔
    ∃ action, RecordedFor db sourceRef action ∧ action.decision = .approve
  confirmable : ∀ sourceRef action, RecordedFor db sourceRef action → Confirmable crypto db sourceRef
  /-- A payload under the ref of a callback is the callback, or a setup click without secrets. -/
  callbacks : ∀ hash b, db.blob? s!"artifact://feishu-callback/{hash}" = some b →
    b.sha256 = hash ∨ ∃ payload, payloadOf settings crypto (preimage hash) = .ok payload ∧
      cardRoute payload = .ok .modelProfileSetup

section Click

variable {settings : Settings} {crypto : Crypto} {request : Request}
  {callback : VerifiedFeishuCallback} {sourceRef : String} {decision : Decision}

theorem enqueuedCallback_eq_some (h : enqueuedCallback settings crypto request = some callback) :
    callback.rawBody = request.body ∧
      callback.payloadHash = hexdigest (crypto.sha256 request.body) ∧
      payloadOf settings crypto request.body = .ok callback.payload ∧
      ∃ rawText, String.fromUTF8? callback.rawBody = some rawText := by
  unfold enqueuedCallback at h
  split at h
  · rename_i c hreceive
    obtain rfl := Option.some.inj h
    obtain ⟨hverify, _⟩ := receiveFeishuCardAction_eq_enqueue.mp hreceive
    obtain ⟨payload, _, ⟨body, hbody, hpayload⟩, _, _, hverified⟩ :=
      verifyCardAction_eq_ok.mp hverify
    obtain ⟨rfl, _⟩ := verifiedCallback_eq_ok hverified
    obtain ⟨hraw, hhash⟩ := verifiedCallback_body hverified
    refine ⟨hraw, hhash, Except.bind_eq_ok.mpr ⟨body, hbody, hpayload⟩, ?_⟩
    rw [hraw]
    unfold loadsJson at hbody
    cases htext : String.fromUTF8? request.body with
    | none => simp [htext] at hbody
    | some rawText => exact ⟨rawText, rfl⟩
  · cases h

/-- An unsigned, plain body that shows the token reaches the service. -/
theorem enqueuedCallback_of_token {text eventType : String}
    {payload : Dict} {now : Time} (hload : loads text = .ok (.obj payload))
    (hencrypt : (payload.get "encrypt").asStr = none)
    (hchallenge : (payload.get "challenge").asStr = none)
    (htoken : (FeishuCallbackVerifier.ofSettings settings).verifyToken payload false = .ok ())
    (htype : eventTypeOf payload false = some eventType) :
    enqueuedCallback settings crypto ⟨text.toUTF8, [], now⟩ = some
      { payload := payload
        rawBody := text.toUTF8
        payloadHash := hexdigest (crypto.sha256 text.toUTF8)
        isChallenge := false
        challenge := none
        eventId := firstStr [(payloadHeader payload).get "event_id", payload.get "uuid",
          payload.get "event_id"]
        eventType := eventType
        tenantKey := firstStr [(payloadHeader payload).get "tenant_key",
          (payloadEvent payload).get "tenant_key"]
        appId := firstStr [(payloadHeader payload).get "app_id", payload.get "app_id"]
        messageId := extractMessageId (payloadEvent payload) } := by
  have hbody : loadsJson text.toUTF8 = .ok payload := by
    simp only [loadsJson, fromUTF8_toUTF8, hload]
  have hsigned : ∀ v : FeishuCallbackVerifier,
      v.validateCardSignatureIfPresent crypto now text.toUTF8 [] = .ok false := by
    intro v
    unfold FeishuCallbackVerifier.validateCardSignatureIfPresent
    cases v.verificationToken <;> rfl
  have hplain : ∀ v : FeishuCallbackVerifier, v.decryptIfNeeded crypto payload = .ok payload := by
    intro v
    unfold FeishuCallbackVerifier.decryptIfNeeded
    cases hget : payload.get "encrypt" with
    | str s => simp [hget, Json.asStr] at hencrypt
    | _ => rfl
  unfold enqueuedCallback
  rw [receiveFeishuCardAction_eq_enqueue.mpr ⟨?_, ?_⟩]
  · simp only [FeishuCallbackVerifier.verifyCardAction, hbody, hsigned, hplain, hchallenge, htoken,
      FeishuCallbackVerifier.verifiedCallback, htype, bind, Except.bind, Option.isSome_none,
      Bool.not_false, Bool.and_self, if_true, Bool.false_eq_true, if_false]
  · rfl

/-- `enqueue_card_action` hands the click to the confirmation. -/
theorem cardRoute_of_clicksCard (h : ClicksCard crypto sourceRef decision callback) :
    cardRoute callback.payload = .ok .taskConfirmation := by
  obtain ⟨hkind, _⟩ := (taskCard crypto sourceRef).get_value decision
  simp [cardRoute, isTaskConfirmationCallback, hasActionKind, h.2.2.2, hkind, bind, Except.bind]

theorem taskPayloadRef_toList (threadId taskId : UUID) :
    (taskPayloadRef threadId taskId).toList = "artifact://feishu-task-intake/".toList ++
      (threadId.str.toList ++ "/".toList ++ taskId.str.toList ++ "/v1".toList) := by
  unfold taskPayloadRef
  simp only [ToString.toString, String.toList_append, List.append_assoc]

theorem enqueueTaskConfirmation_click {row : RowDefaults} {authorizedAt rawText : String}
    {db : Database} (h : ClicksCard crypto sourceRef decision callback)
    (htext : String.fromUTF8? callback.rawBody = some rawText) :
    enqueueTaskConfirmation crypto row authorizedAt callback db =
      confirmationResult
        ((taskCard crypto sourceRef).command decision callback (buildPayloadRef callback))
        (buildPayloadRef callback) db
        (confirmTask crypto row authorizedAt callback rawText
          ((taskCard crypto sourceRef).command decision callback (buildPayloadRef callback)) db) := by
  obtain ⟨htype, hdecision, hsource, hvalue⟩ := h
  have href : (taskCard crypto sourceRef).taskPayloadRef ≠ "" := by
    intro hempty
    have hlist := taskPayloadRef_toList (feishuThreadId crypto sourceRef)
      (feishuTaskId crypto sourceRef)
    have hnil : ([] : List Char) = _ := (congrArg String.toList hempty.symm).trans hlist
    cases hnil
  unfold enqueueTaskConfirmation
  rw [parseTaskConfirmationCommand_card _ htype hvalue hdecision hsource href]
  simp only [htext]

end Click

section Sound

variable {settings : Settings} {crypto : Crypto} {preimage : String → ByteArray}
  {db db' : Database}

theorem Confirmable.mono {sourceRef : String} (h : Confirmable crypto db sourceRef)
    (hgrows : db.Grows db') : Confirmable crypto db' sourceRef := by
  obtain ⟨taskPayload, hget, hvalidate⟩ := h
  exact ⟨taskPayload, hgrows.getJsonPayload hget, hvalidate⟩

theorem Dispatched.mono {sourceRef : String} (h : Dispatched db sourceRef)
    (hgrows : db.Grows db') : Dispatched db' sourceRef := by
  obtain ⟨row, hrow⟩ := Option.isSome_iff_exists.mp h
  obtain ⟨row', hrow', _⟩ := hgrows.outbox hrow
  exact Option.isSome_iff_exists.mpr ⟨row', hrow'⟩

/-- A part that neither records a click nor dispatches a task. -/
theorem StartsSound.apart (hs : StartsSound settings crypto preimage db) (hgrows : db.Grows db')
    (hactions : db'.cardActions = db.cardActions)
    (houtbox : ∀ sourceRef, Dispatched db' sourceRef → Dispatched db sourceRef)
    (hblobs : ∀ hash b, db'.blob? s!"artifact://feishu-callback/{hash}" = some b →
      db.blob? s!"artifact://feishu-callback/{hash}" = some b ∨ b.sha256 = hash ∨
        ∃ payload, payloadOf settings crypto (preimage hash) = .ok payload ∧
          cardRoute payload = .ok .modelProfileSetup) :
    StartsSound settings crypto preimage db' where
  actionKeys := hactions ▸ hs.actionKeys
  started := by
    intro sourceRef
    unfold RecordedFor
    rw [hactions]
    exact ⟨fun h => (hs.started sourceRef).mp (houtbox sourceRef h),
      fun h => ((hs.started sourceRef).mpr h).mono hgrows⟩
  confirmable := by
    intro sourceRef action haction
    unfold RecordedFor at haction
    rw [hactions] at haction
    exact (hs.confirmable sourceRef action haction).mono hgrows
  callbacks := by
    intro hash b hb
    rcases hblobs hash b hb with hb | hb
    · exact hs.callbacks hash b hb
    · exact hb

theorem callbackRef_toList (hash : String) : s!"artifact://feishu-callback/{hash}".toList =
    "artifact://feishu-callback/".toList ++ hash.toList := by
  simp only [ToString.toString, String.toList_append]

theorem callbackRef_injective {hash other : String}
    (h : s!"artifact://feishu-callback/{hash}" = s!"artifact://feishu-callback/{other}") :
    hash = other := by
  have hlist := congrArg String.toList h
  rw [callbackRef_toList, callbackRef_toList] at hlist
  exact String.toList_inj.mp (List.append_cancel_left hlist)

theorem callbackRef_ne_approved (crypto : Crypto) (hash sourceRef : String) :
    s!"artifact://feishu-callback/{hash}" ≠
      approvedTaskPayloadRef (taskCard crypto sourceRef).taskPayloadRef := by
  intro h
  have hlist := congrArg (fun s : String => s.toList.take 19) h
  simp only [approvedTaskPayloadRef, taskCard, ToString.toString, String.toList_append,
    taskPayloadRef_toList] at hlist
  change "artifact://feishu-c".toList = "artifact://feishu-t".toList at hlist
  exact absurd hlist (by decide)

/-- A click that goes through is the first one of its card. -/
theorem StartsSound.confirms {callback : VerifiedFeishuCallback} {sourceRef : String}
    {decision : Decision} (hs : StartsSound settings crypto preimage db)
    (h : Confirms callback
      ((taskCard crypto sourceRef).command decision callback (buildPayloadRef callback)) db db') :
    StartsSound settings crypto preimage db' := by
  have hrecorded : ∀ src action, RecordedFor db' src action ↔ RecordedFor db src action ∨
      src = sourceRef ∧ action = confirmationRow
        ((taskCard crypto sourceRef).command decision callback (buildPayloadRef callback)) := by
    intro src action
    unfold RecordedFor
    rw [h.cardActions, List.mem_append, List.mem_singleton, or_and_right]
    refine or_congr_right ⟨?_, ?_⟩
    · rintro ⟨rfl, hkey⟩
      exact ⟨(taskConfirmKey_injective hkey).symm, rfl⟩
    · rintro ⟨rfl, rfl⟩
      exact ⟨rfl, rfl⟩
  refine ⟨?_, ?_, ?_, ?_⟩
  · rw [h.cardActions]
    exact hs.actionKeys.append_singleton h.first
  · intro src
    have hkey : graphDispatchKey (taskConfirmKey src) = graphDispatchKey (taskConfirmKey sourceRef) ↔
        src = sourceRef :=
      ⟨fun h => taskConfirmKey_injective (graphDispatchKey_injective h), fun h => h ▸ rfl⟩
    have hdispatched : Dispatched db' src ↔
        Dispatched db src ∨ decision = .approve ∧ src = sourceRef :=
      (h.outbox _).trans (or_congr_right (and_congr_right fun _ => hkey))
    rw [hdispatched, hs.started src]
    simp only [hrecorded, or_and_right, exists_or]
    refine or_congr_right ⟨?_, ?_⟩
    · rintro ⟨happrove, hsrc⟩
      exact ⟨_, ⟨hsrc, rfl⟩, happrove⟩
    · rintro ⟨_, ⟨hsrc, rfl⟩, happrove⟩
      exact ⟨happrove, hsrc⟩
  · intro src action haction
    rcases (hrecorded src action).mp haction with haction | ⟨rfl, _⟩
    · exact (hs.confirmable src action haction).mono h.grows
    · obtain ⟨taskPayload, hget, hvalidate⟩ := h.taskPayload
      exact ⟨taskPayload, hget, fun _ _ _ => validate_command _ taskPayload hvalidate⟩
  · intro hash b hb
    rcases h.blobs _ b hb with hb | ⟨href, hsha⟩ | href
    · exact hs.callbacks hash b hb
    · exact .inl (hsha.trans (callbackRef_injective href).symm)
    · exact absurd href (callbackRef_ne_approved crypto hash sourceRef)

theorem StartsSound.click {row : RowDefaults} {authorizedAt : String}
    {callback : VerifiedFeishuCallback} {sourceRef rawText : String} {decision : Decision}
    (hs : StartsSound settings crypto preimage db)
    (hclick : ClicksCard crypto sourceRef decision callback)
    (htext : String.fromUTF8? callback.rawBody = some rawText) :
    StartsSound settings crypto preimage
      (commitOr db (enqueueTaskConfirmation crypto row authorizedAt callback db)) := by
  rw [enqueueTaskConfirmation_click hclick htext]
  cases hconfirm : confirmTask crypto row authorizedAt callback rawText
      ((taskCard crypto sourceRef).command decision callback (buildPayloadRef callback)) db with
  | ok db' => exact hs.confirms (confirmTask_confirms hconfirm)
  | error exc =>
    unfold confirmationResult
    dsimp only
    split_ifs
    · exact hs
    · exact hs

theorem StartsSound.background {work : Background} (hs : StartsSound settings crypto preimage db)
    (hapart : work.Apart) :
    StartsSound settings crypto preimage
      (commitOr db ((work.run db).map fun db => ((), db))) := by
  cases hrun : work.run db with
  | error exc => exact hs
  | ok db' =>
    change StartsSound settings crypto preimage db'
    cases work with
    | thread row =>
      obtain rfl := Except.ok.inj hrun
      refine hs.apart ?_ rfl (fun _ h => h) fun _ _ h => .inl h
      exact (Database.Grows.insertThread row).trans (.updateThread row.id fun _ => rfl)
    | blob contentRef payload rawText sha256 =>
      have hframe := storeJsonPayload_frame hrun
      refine hs.apart (storeJsonPayload_grows hrun) (by rw [hframe]) ?_ ?_
      · intro sourceRef h
        rw [hframe] at h
        exact h
      · intro hash b hb
        rcases blob?_of_storeJsonPayload hrun hb with hb | ⟨href, hsha⟩
        · exact .inl hb
        · have hstarts : startsWith contentRef "artifact://feishu-callback/" = true := by
            rw [← href, startsWith, callbackRef_toList, List.isPrefixOf_iff_prefix]
            exact List.prefix_append _ _
          exact .inr (.inl (hsha.trans (callbackRef_injective (href.trans (hapart hstarts))).symm))
    | outbox row kind key threadId payloadRef =>
      obtain ⟨_, _, _, heq⟩ := Database.insertOutbox_eq_ok.mp hrun
      refine hs.apart (.insertOutbox hrun) (by rw [heq]) ?_ ?_
      · intro sourceRef h
        have hne : key ≠ graphDispatchKey (taskConfirmKey sourceRef) := by
          rintro rfl
          have hstarts := hapart
          rw [Background.Apart, startsWith, graphDispatchKey_toList, ← Bool.not_eq_true,
            List.isPrefixOf_iff_prefix] at hstarts
          exact hstarts (List.prefix_append _ _)
        unfold Dispatched Database.outboxForKey? at h ⊢
        rw [heq, Table.find_append_singleton] at h
        simpa [pendingOutbox, hne] using h
      · intro hash b hb
        rw [heq] at hb
        exact .inl hb
    | cardAction row =>
      obtain ⟨_, hfirst, _, heq⟩ := Database.insertCardAction_eq_ok.mp hrun
      have hgrows := Database.Grows.insertCardAction hrun
      have hrecorded : ∀ src action, RecordedFor db' src action ↔ RecordedFor db src action := by
        intro src action
        have hne : row.idempotencyKey ≠ taskConfirmKey src := by
          intro hkey
          have hstarts := hapart
          rw [Background.Apart, startsWith, hkey, taskConfirmKey_toList, ← Bool.not_eq_true,
            List.isPrefixOf_iff_prefix] at hstarts
          exact hstarts (List.prefix_append _ _)
        unfold RecordedFor
        rw [heq, List.mem_append, List.mem_singleton]
        constructor
        · rintro ⟨haction | rfl, hkey⟩
          · exact ⟨haction, hkey⟩
          · exact absurd hkey hne
        · rintro ⟨haction, hkey⟩
          exact ⟨.inl haction, hkey⟩
      refine ⟨?_, ?_, ?_, ?_⟩
      · rw [heq]
        exact hs.actionKeys.append_singleton hfirst
      · intro src
        have hdispatched : Dispatched db' src ↔ Dispatched db src := by rw [heq]; rfl
        simp only [hdispatched, hs.started src, hrecorded]
      · intro src action haction
        exact (hs.confirmable src action ((hrecorded src action).mp haction)).mono hgrows
      · intro hash b hb
        rw [heq] at hb
        exact hs.callbacks hash b hb

/-- The workers change the state of a row and nothing it says. -/
theorem StartsSound.workers {table : OutboxTable} (hs : StartsSound settings crypto preimage db)
    (h : Statements { succeed := fun _ => True } db { db with outbox := table }) :
    StartsSound settings crypto preimage { db with outbox := table } := by
  refine hs.apart h.grows rfl ?_ fun _ _ hb => .inl hb
  intro sourceRef hdispatched
  obtain ⟨row', hrow'⟩ := Option.isSome_iff_exists.mp hdispatched
  obtain ⟨row, hrow | ⟨hnone, _⟩, hsame, _⟩ := h.outbox_origin (Table.find_mem hrow')
  · have hkey : row.idempotencyKey = graphDispatchKey (taskConfirmKey sourceRef) := by
      rw [← hsame.idempotencyKey]
      exact Table.find_key hrow'
    unfold Dispatched Database.outboxForKey?
    rw [← hkey]
    exact Option.isSome_iff_exists.mpr (Table.exists_find_of_mem hrow)
  · exact hnone.elim

theorem StartsSound.step {event : CardEvent} (hs : StartsSound settings crypto preimage db)
    (hsha : event.NoCollision crypto preimage) (h : event.step settings crypto db = some db') :
    StartsSound settings crypto preimage db' := by
  cases event with
  | click row authorizedAt request sourceRef decision =>
    obtain ⟨callback, hcallback, rfl⟩ := Option.map_eq_some_iff.mp h
    obtain ⟨hcallback, hclick⟩ := Option.filter_eq_some_iff.mp hcallback
    obtain ⟨_, _, _, rawText, htext⟩ := enqueuedCallback_eq_some hcallback
    exact hs.click (of_decide_eq_true hclick) htext
  | modelSetup request redacted rawText sha256 =>
    obtain ⟨callback, hcallback, rfl⟩ := Option.map_eq_some_iff.mp h
    obtain ⟨hcallback, hroute⟩ := Option.filter_eq_some_iff.mp hcallback
    obtain ⟨_, hhash, hpayload, _⟩ := enqueuedCallback_eq_some hcallback
    cases hstore : storeJsonPayload (buildPayloadRef callback) redacted rawText sha256 db with
    | error exc => exact hs
    | ok db' =>
      change StartsSound settings crypto preimage db'
      have hframe := storeJsonPayload_frame hstore
      refine hs.apart (storeJsonPayload_grows hstore) (by rw [hframe]) ?_ ?_
      · intro src hdispatched
        rw [hframe] at hdispatched
        exact hdispatched
      · intro hash b hb
        rcases blob?_of_storeJsonPayload hstore hb with hb | ⟨href, _⟩
        · exact .inl hb
        · obtain rfl : hash = callback.payloadHash := callbackRef_injective href
          refine .inr (.inr ⟨callback.payload, ?_, of_decide_eq_true hroute⟩)
          rw [hhash, show preimage _ = _ from hsha]
          exact hpayload
  | background work =>
    simp only [CardEvent.step] at h
    split_ifs at h with hapart
    obtain rfl := Option.some.inj h
    exact hs.background hapart
  | claim d currentTime locked =>
    obtain rfl := Option.some.inj h
    cases hclaim : d.claim currentTime locked db.outbox with
    | none => exact hs
    | some claimed => exact hs.workers (claim_statements hclaim)
  | finish d item currentTime outcome =>
    obtain rfl := Option.some.inj h
    exact hs.workers (finish_statements d item currentTime outcome fun _ => trivial)

theorem startsSound_empty : StartsSound settings crypto preimage {} where
  actionKeys := List.nodup_nil
  started := by
    intro sourceRef
    constructor
    · intro h
      cases h
    · rintro ⟨_, ⟨h, _⟩, _⟩
      cases h
  confirmable := by
    rintro _ _ ⟨h, _⟩
    cases h
  callbacks := by
    intro _ _ h
    cases h

/-- The stored payload of a click's own body has its digest. -/
theorem StartsSound.own_digest {request : Request} {callback : VerifiedFeishuCallback}
    {sourceRef : String} {decision : Decision} (hs : StartsSound settings crypto preimage db)
    (hcallback : enqueuedCallback settings crypto request = some callback)
    (hclick : ClicksCard crypto sourceRef decision callback)
    (hsha : preimage (hexdigest (crypto.sha256 request.body)) = request.body) :
    ∀ b, db.blob? (buildPayloadRef callback) = some b → b.sha256 = callback.payloadHash := by
  intro b hb
  obtain ⟨_, hhash, hpayload, _⟩ := enqueuedCallback_eq_some hcallback
  rcases hs.callbacks callback.payloadHash b hb with h | ⟨payload, hread, hroute⟩
  · exact h
  · rw [hhash, hsha, hpayload] at hread
    rw [← Except.ok.inj hread, cardRoute_of_clicksCard hclick] at hroute
    cases hroute

end Sound

open Transition

/-- In every run each card has one decision at most, further clicks on it are duplicates
that change nothing, and its task is dispatched exactly if the decision is to approve. -/
theorem taskStarts_iff_approved {settings : Settings} {crypto : Crypto}
    {preimage : String → ByteArray} {tr : List CardEvent} {db : Database}
    (hrun : exec (CardEvent.step settings crypto) {} tr = some db)
    (hsha : ∀ event ∈ tr, event.NoCollision crypto preimage) (sourceRef : String) :
    (db.cardActions.filter fun action =>
        action.idempotencyKey = taskConfirmKey sourceRef).length ≤ 1 ∧
      (Dispatched db sourceRef ↔
        ∃ action, RecordedFor db sourceRef action ∧ action.decision = .approve) ∧
      ∀ (row : RowDefaults) (authorizedAt : String) (request : Request) (decision : Decision)
        (callback : VerifiedFeishuCallback) (action : FeishuCardAction),
        (CardEvent.click row authorizedAt request sourceRef decision).NoCollision crypto preimage →
        enqueuedCallback settings crypto request = some callback →
        ClicksCard crypto sourceRef decision callback → RecordedFor db sourceRef action →
        enqueueTaskConfirmation crypto row authorizedAt callback db =
          .ok (⟨.duplicate, taskConfirmKey sourceRef, buildPayloadRef callback⟩, db) := by
  have hs : StartsSound settings crypto preimage db := by
    refine exec_invariant (StartsSound settings crypto preimage)
      (fun _ _ _ hs hsha h => hs.step hsha h) startsSound_empty
      (along_iff_forall.mpr ?_) hrun
    rintro pre event post u rfl _
    exact hsha event (by simp)
  refine ⟨?_, hs.started sourceRef, ?_⟩
  · refine hs.actionKeys.length_filter_le _ (taskConfirmKey sourceRef) ?_
    intro action _ haction
    exact of_decide_eq_true haction
  · intro row authorizedAt request decision callback action hsha hcallback hclick haction
    obtain ⟨_, _, _, rawText, htext⟩ := enqueuedCallback_eq_some hcallback
    obtain ⟨taskPayload, hget, hvalidate⟩ := hs.confirmable sourceRef action haction
    rw [enqueueTaskConfirmation_click hclick htext,
      confirmTask_of_recorded (hs.own_digest hcallback hclick hsha) hget (hvalidate _ _ _) haction.1
        haction.2]
    rfl

def oneDigest : Crypto := { Crypto.plain with sha256 := fun _ => ⟨#[1]⟩ }

def tokenSettings : Settings := { feishuVerificationToken := some "token" }

def approvePayload : Dict := Dict.ofList
  [("header", .obj (Dict.ofList
      [("event_type", .str "card.action.trigger"), ("event_id", .str "click"),
        ("token", .str "token")])),
    ("event", .obj (Dict.ofList
      [("action", .obj (Dict.ofList
        [("value", .obj ((taskCard oneDigest "task").value .approve))]))]))]

def approveText : String := dumps .compact (.obj approvePayload)

def approveRequest : Request := ⟨approveText.toUTF8, [], 0⟩

def sampleThread : GraphThread where
  id := feishuThreadId oneDigest "task"
  source := "feishu"
  sourceRef := "task"
  taskType := "task_intake"
  councilMode := none
  modeReason := none
  status := .queued
  stateSummary := []

def sampleTask : Dict := Dict.ofList
  [("thread_id", .str (feishuThreadId oneDigest "task").str),
    ("task_id", .str (feishuTaskId oneDigest "task").str), ("source", .str "feishu"),
    ("source_ref", .str "task"), ("user_input", .str "Mapping"), ("task_type", .str "report"),
    ("council_mode", .str "lite"), ("mode_reason", .str "routine"), ("model_profile_id", .str "m"),
    ("model_owner_user_id", .str "ou_1"), ("model_guild_id", .str "oc_1")]

def approveClick : CardEvent := .click ⟨.ofNat 1, 0⟩ "now" approveRequest "task" .approve

theorem textual_approvePayload : (Json.obj approvePayload).Textual := by
  refine textual_ofList ?_
  simp only [List.mem_cons, List.not_mem_nil, or_false, forall_eq_or_imp, forall_eq]
  refine ⟨textual_ofList (by simp), textual_ofList ?_⟩
  simp only [List.mem_cons, List.not_mem_nil, or_false, forall_eq]
  refine textual_ofList ?_
  simp only [List.mem_cons, List.not_mem_nil, or_false, forall_eq]
  exact textual_ofList (by simp)

theorem loads_approveText : loads approveText = .ok (.obj approvePayload) :=
  loads_dumps readable_compact textual_approvePayload

def approveCallback : VerifiedFeishuCallback where
  payload := approvePayload
  rawBody := approveText.toUTF8
  payloadHash := "01"
  isChallenge := false
  challenge := none
  eventId := some "click"
  eventType := "card.action.trigger"
  tenantKey := none
  appId := none
  messageId := none

theorem enqueuedCallback_approveRequest :
    enqueuedCallback tokenSettings oneDigest approveRequest = some approveCallback :=
  enqueuedCallback_of_token loads_approveText (by decide +kernel) (by decide +kernel)
    (by decide +kernel) (by decide +kernel)

theorem clicksCard_approveCallback : ClicksCard oneDigest "task" .approve approveCallback := by
  refine ⟨rfl, by decide, by decide, ?_⟩
  decide +kernel

theorem fromUTF8_approveCallback : String.fromUTF8? approveCallback.rawBody = some approveText :=
  fromUTF8_toUTF8 approveText

def preparedRun : List CardEvent :=
  [.background (.thread sampleThread),
    .background (.blob (taskCard oneDigest "task").taskPayloadRef sampleTask "" "sha")]

theorem confirm_preparedRun : ∃ db db',
    exec (CardEvent.step tokenSettings oneDigest) {} preparedRun = some db ∧
      confirmTask oneDigest ⟨.ofNat 1, 0⟩ "now" approveCallback approveText
        ((taskCard oneDigest "task").command .approve approveCallback
          (buildPayloadRef approveCallback)) db = .ok db' ∧ Dispatched db' "task" := by
  have hrun : (exec (CardEvent.step tokenSettings oneDigest) {} preparedRun).any (fun db =>
      (confirmTask oneDigest ⟨.ofNat 1, 0⟩ "now" approveCallback approveText
        ((taskCard oneDigest "task").command .approve approveCallback
          (buildPayloadRef approveCallback)) db).toOption.any fun db =>
            (db.outboxForKey? (graphDispatchKey (taskConfirmKey "task"))).isSome) = true := by
    decide +kernel
  obtain ⟨db, hdb, hconfirm⟩ := (Option.any_eq_true _ _).mp hrun
  obtain ⟨db', hdb', hdispatched⟩ := (Option.any_eq_true _ _).mp hconfirm
  exact ⟨db, db', hdb, Except.toOption_eq_some.mp hdb', hdispatched⟩

theorem step_approveClick {db db' : Database}
    (h : confirmTask oneDigest ⟨.ofNat 1, 0⟩ "now" approveCallback approveText
      ((taskCard oneDigest "task").command .approve approveCallback
        (buildPayloadRef approveCallback)) db = .ok db') :
    approveClick.step tokenSettings oneDigest db = some db' := by
  simp only [approveClick, CardEvent.step, enqueuedCallback_approveRequest, Option.filter_some,
    decide_eq_true clicksCard_approveCallback, if_true, Option.map_some,
    enqueueTaskConfirmation_click clicksCard_approveCallback fromUTF8_approveCallback, h]
  rfl

/-- The task is dispatched, and the click is a duplicate when it comes again. -/
theorem taskStarts_iff_approved_approveClick : ∃ db,
    exec (CardEvent.step tokenSettings oneDigest) {} (preparedRun ++ [approveClick]) = some db ∧
      Dispatched db "task" ∧
      (db.cardActions.filter fun action =>
        action.idempotencyKey = taskConfirmKey "task").length ≤ 1 ∧
      enqueueTaskConfirmation oneDigest ⟨.ofNat 2, 1⟩ "later" approveCallback db =
        .ok (⟨.duplicate, taskConfirmKey "task", buildPayloadRef approveCallback⟩, db) := by
  obtain ⟨db, db', hprepared, hconfirm, hdispatched⟩ := confirm_preparedRun
  have hrun : exec (CardEvent.step tokenSettings oneDigest) {} (preparedRun ++ [approveClick]) =
      some db' := by
    refine exec_append_eq_some.mpr ⟨db, hprepared, ?_⟩
    exact exec_cons_eq_some.mpr ⟨db', step_approveClick hconfirm, rfl⟩
  have hsha : ∀ event ∈ preparedRun ++ [approveClick],
      event.NoCollision oneDigest fun _ => approveText.toUTF8 := by
    intro event hevent
    simp only [preparedRun, List.cons_append, List.nil_append, List.mem_cons, List.not_mem_nil,
      or_false] at hevent
    rcases hevent with rfl | rfl | rfl
    · trivial
    · trivial
    · rfl
  obtain ⟨hone, hiff, hlater⟩ := taskStarts_iff_approved hrun hsha "task"
  obtain ⟨action, haction, _⟩ := hiff.mp hdispatched
  exact ⟨db', hrun, hdispatched, hone, hlater ⟨.ofNat 2, 1⟩ "later" approveRequest .approve
    approveCallback action rfl enqueuedCallback_approveRequest clicksCard_approveCallback haction⟩

end Headhunt.Runtime
