import Headhunt.Api.Authenticity
import Headhunt.Feishu.EventRuns

/-! Redelivered events: a second delivery of a message is a duplicate unless what it would store
under the refs of the message is not what is there. -/
namespace Headhunt.Feishu
open Headhunt.Api Headhunt.Core Headhunt.Gateways Headhunt.ModelProfiles Headhunt.Storage Py

def Verified (crypto : Crypto) (callback : VerifiedFeishuCallback) : Prop :=
  ∃ v now headers, FeishuCallbackVerifier.verifyEvent v crypto now callback.rawBody headers =
    .ok callback

/-- Two deliveries of one message: the chat, the sender and the text are those of one task. -/
structure SameMessage (crypto : Crypto) (first again : VerifiedFeishuCallback) : Prop where
  tenantKey : again.tenantKey = first.tenantKey
  eventType : again.eventType = first.eventType
  messageId : again.messageId = first.messageId
  named : (nonemptyText first.messageId).isSome = true
  intake : parseTaskIntake crypto again.payload again.tenantKey =
    parseTaskIntake crypto first.payload first.tenantKey

section Statement

variable (crypto : Crypto) (defaultChatId : Option String) (callback : VerifiedFeishuCallback)
  (db : IntakeDatabase)

/-- The delivery is answered as a duplicate and no table changes. -/
def KnownAsDuplicate (row : RowDefaults) : Prop :=
  ∃ result, enqueueEvent crypto defaultChatId row callback db = .ok (result, db) ∧
    result.status = .duplicate

/-- What is stored under the refs the delivery writes to carries the digests it would write: those
of its body, and of the payload made for the profile that is now the default. -/
structure StoredAlike : Prop where
  event : ∀ b, db.blob? (buildPayloadRef callback) = some b → b.sha256 = callback.payloadHash
  payload : ∀ intake chatId profile,
    parseTaskIntake crypto callback.payload callback.tenantKey = .ok intake →
    eventChatId defaultChatId intake = some chatId →
    defaultModelProfile intake db.profiles = .ok profile →
    ∀ b, db.blob? (eventPlan crypto intake chatId (buildPayloadRef callback) profile).ref = some b →
      b.sha256 = stableHash crypto
        (eventPlan crypto intake chatId (buildPayloadRef callback) profile).payload

end Statement

def RedeliveriesIdempotent : Prop :=
  ∀ crypto lib settings defaultChatId queued more (db db₁ db₂ : IntakeDatabase) row row' first again,
    IntakeRun crypto lib settings defaultChatId {} queued db →
    (∃ result, enqueueEvent crypto defaultChatId row first db = .ok (result, db₁) ∧
      result.status = .queued) →
    IntakeRun crypto lib settings defaultChatId db₁ more db₂ → Verified crypto again →
    SameMessage crypto first again → KnownAsDuplicate crypto defaultChatId again db₂ row'

section Redelivery

variable {crypto : Crypto} {lib : UrlLibrary} {settings : Settings} {defaultChatId : Option String}
  {row : RowDefaults} {callback first again : VerifiedFeishuCallback} {intake : FeishuTaskIntake}
  {chatId : String} {queued more : List VerifiedFeishuCallback} {db db₁ db₂ : IntakeDatabase}

theorem Verified.decodes (h : Verified crypto callback) :
    (String.fromUTF8? callback.rawBody).isSome = true := by
  obtain ⟨v, now, headers, h⟩ := h
  have hcarries := (@verifyEvent_eq_ok v crypto ⟨callback.rawBody, headers, now⟩ callback).mp h
  obtain ⟨payload, ⟨body, hbody, _⟩, _⟩ := hcarries
  unfold loadsJson at hbody
  cases htext : String.fromUTF8? callback.rawBody with
  | none => simp [htext] at hbody
  | some text => rfl

theorem SameMessage.dedupeKey (h : SameMessage crypto first again) :
    buildEventDedupeKey again = buildEventDedupeKey first := by
  obtain ⟨messageId, hmessage⟩ := Option.isSome_iff_exists.mp h.named
  unfold buildEventDedupeKey
  rw [h.tenantKey, h.eventType, h.messageId, hmessage, Option.some_or, Option.some_or]
  rfl

theorem SameMessage.clashes (h : SameMessage crypto first again) :
    (eventLog again).Clashes (eventLog first) :=
  .inr (.inl h.dedupeKey.symm)

/-- In a run the default profile of a user can be looked up. -/
theorem defaultModelProfile_ok (hinv : IntakeInv crypto defaultChatId queued db)
    (intake : FeishuTaskIntake) :
    ∃ profile, defaultModelProfile intake db.profiles = .ok profile := by
  unfold defaultModelProfile
  cases howner : nonemptyText intake.modelOwnerUserId with
  | none => exact ⟨none, rfl⟩
  | some userId =>
    have hle := length_defaultProfiles_le hinv.profiles.ids hinv.profiles.one intake.modelGuildId
      userId .chat
    dsimp only
    unfold ProfileTable.getDefaultProfile
    match hprofiles : ProfileTable.defaultProfiles db.profiles intake.modelGuildId userId .chat with
    | [] => exact ⟨none, rfl⟩
    | [profile] => exact ⟨_, rfl⟩
    | profile :: other :: rest =>
      rw [hprofiles] at hle
      simp only [List.length_cons] at hle
      omega

theorem buildPayloadRef_ne_planRef (profile : Option UserModelProfile) (ref : String) :
    buildPayloadRef callback ≠ (eventPlan crypto intake chatId ref profile).ref := by
  cases profile with
  | none =>
    intro h
    have hlist := congrArg String.toList h
    rw [buildPayloadRef_toList, eventPlan, modelSetupCardRef_toList] at hlist
    exact append_ne_append 21 (by decide) (by decide) (by decide) _ _ hlist
  | some profile => exact buildPayloadRef_ne_prepareRef _ _

theorem storeJsonPayload_ok_iff {ref text sha : String} {payload : Dict} {tables : Database} :
    (∃ stored, storeJsonPayload ref payload text sha tables = .ok stored) ↔
      ∀ b, tables.blob? ref = some b → b.sha256 = sha := by
  simp only [storeJsonPayload_eq_ok]
  cases hb : tables.blob? ref with
  | none => simp
  | some b => simp

/-- An event that is logged already is not recorded again, and it is known as a duplicate when the
payloads go through. -/
theorem recordEvent_of_clash (hdecodes : (String.fromUTF8? callback.rawBody).isSome = true)
    {profile : Option UserModelProfile}
    (hprofile : defaultModelProfile intake db.profiles = .ok profile)
    (hclash : ∃ other ∈ db.eventLogs, (eventLog callback).Clashes other) :
    recordEvent crypto row callback intake chatId db = .error .duplicateEvent ↔
      (∀ b, db.blob? (buildPayloadRef callback) = some b → b.sha256 = callback.payloadHash) ∧
        ∀ b, db.blob? (eventPlan crypto intake chatId (buildPayloadRef callback) profile).ref =
            some b → b.sha256 = stableHash crypto
              (eventPlan crypto intake chatId (buildPayloadRef callback) profile).payload := by
  obtain ⟨text, htext⟩ := Option.isSome_iff_exists.mp hdecodes
  obtain ⟨other, hother, hclash⟩ := hclash
  unfold recordEvent
  simp only [htext]
  constructor
  · intro h
    rcases Except.bind_eq_error.mp h with h | ⟨stored, hstored, h⟩
    · cases hstore : storeJsonPayload (buildPayloadRef callback) callback.payload text
        callback.payloadHash db.toDatabase <;> simp [hstore, Except.mapError] at h
    · have hstored := Except.mapError_eq_ok.mp hstored
      have hevent := storeJsonPayload_ok_iff.mp ⟨stored, hstored⟩
      refine ⟨hevent, ?_⟩
      simp only [hprofile, bind, Except.bind] at h
      cases hplan : storeEventPlan crypto
          (eventPlan crypto intake chatId (buildPayloadRef callback) profile) stored with
      | error exc => simp [hplan, Except.mapError] at h
      | ok planned =>
        have hpayload := storeJsonPayload_ok_iff.mp ⟨planned, hplan⟩
        intro b hb
        exact hpayload b ((storeJsonPayload_grows hstored).blobs hb)
  · rintro ⟨hevent, hpayload⟩
    obtain ⟨stored, hstored⟩ := (@storeJsonPayload_ok_iff _ text _ callback.payload _).mpr hevent
    have hplanFree : ∀ b, stored.blob? (eventPlan crypto intake chatId (buildPayloadRef callback)
        profile).ref = some b → b.sha256 = stableHash crypto
          (eventPlan crypto intake chatId (buildPayloadRef callback) profile).payload := by
      intro b hb
      rcases blob?_of_storeJsonPayload hstored hb with hb | ⟨href, _⟩
      · exact hpayload b hb
      · exact absurd href.symm (buildPayloadRef_ne_planRef profile _)
    obtain ⟨planned, hplanned⟩ := (@storeJsonPayload_ok_iff _ (dumps .compact (.obj
      (eventPlan crypto intake chatId (buildPayloadRef callback) profile).payload)) _
        (eventPlan crypto intake chatId (buildPayloadRef callback) profile).payload _).mpr hplanFree
    have hplan : storeEventPlan crypto
        (eventPlan crypto intake chatId (buildPayloadRef callback) profile) stored = .ok planned :=
      hplanned
    simp only [hstored, hprofile, hplan, Except.mapError, bind, Except.bind]
    cases hrecord : recordEventAndEnqueue row (eventLog callback)
        (eventPlan crypto intake chatId (buildPayloadRef callback) profile).kind
        (eventPlan crypto intake chatId (buildPayloadRef callback) profile).ref intake.threadId
        { db with toDatabase := upsertPendingIntakeThread intake (eventPlan crypto intake chatId
            (buildPayloadRef callback) profile).threadState planned } with
    | ok recorded =>
      obtain ⟨hfree, _⟩ := recordEventAndEnqueue_eq_ok.mp hrecord
      exact absurd hclash (hfree other hother)
    | error exc =>
      rw [recordEventAndEnqueue_error (hasThread_upsertPendingIntakeThread intake _ planned) hrecord]

/-- Logged events stay logged. -/
theorem IntakeRun.logs (h : IntakeRun crypto lib settings defaultChatId db more db₂) :
    db.eventLogs ⊆ db₂.eventLogs := by
  induction h with
  | refl => exact List.Subset.refl _
  | tail _ hstep ih =>
    obtain ⟨_, _, ⟨_, hlogs⟩ | ⟨callback, _, _, _, _, _, _, _, _, hrecorded⟩⟩ := hstep.cases
    · rw [hlogs]
      exact ih
    · rw [hrecorded.logs]
      exact List.Subset.trans ih (List.subset_append_left _ _)

/-- A redelivery is known as one exactly when nothing else is stored under the refs it writes to. -/
theorem knownAsDuplicate_iff (hrun : IntakeRun crypto lib settings defaultChatId {} queued db)
    (hfirst : ∃ result, enqueueEvent crypto defaultChatId row first db = .ok (result, db₁) ∧
      result.status = .queued)
    (hmore : IntakeRun crypto lib settings defaultChatId db₁ more db₂)
    (hverified : Verified crypto again) (hsame : SameMessage crypto first again)
    (row' : RowDefaults) :
    KnownAsDuplicate crypto defaultChatId again db₂ row' ↔
      StoredAlike crypto defaultChatId again db₂ := by
  obtain ⟨result, henqueue, hstatus⟩ := hfirst
  obtain ⟨intake, chatId, hintake, hchat, ⟨_, hrecord⟩ | ⟨hother, _⟩⟩ := enqueueEvent_eq_ok henqueue
  · obtain ⟨_, _, hrecorded⟩ := recordEvent_eq_ok hrecord
    have hstep : IntakeStep crypto lib settings defaultChatId db
        (if result.status = .queued then some first else none) db₁ := .event henqueue
    have hinv := ((intakeInv_init.run hrun).step hstep).run hmore
    obtain ⟨profile, hprofile⟩ := defaultModelProfile_ok hinv intake
    have hlogged : eventLog first ∈ db₂.eventLogs := by
      apply hmore.logs
      rw [hrecorded.logs]
      exact List.mem_append_right _ (List.mem_singleton_self _)
    have hintake' : parseTaskIntake crypto again.payload again.tenantKey = .ok intake :=
      hsame.intake.trans hintake
    have hrecordAgain := @recordEvent_of_clash crypto row' again intake chatId db₂
      hverified.decodes profile hprofile ⟨_, hlogged, hsame.clashes⟩
    have hknown : KnownAsDuplicate crypto defaultChatId again db₂ row' ↔
        recordEvent crypto row' again intake chatId db₂ = .error .duplicateEvent := by
      constructor
      · rintro ⟨result', hresult', hduplicate⟩
        obtain ⟨intake', chatId', hparse, hchat', ⟨hqueued, _⟩ | ⟨_, _, herror⟩⟩ :=
          enqueueEvent_eq_ok hresult'
        · rw [hduplicate] at hqueued
          cases hqueued
        · obtain rfl := Except.ok.inj (hintake'.symm.trans hparse)
          obtain rfl := Option.some.inj (hchat.symm.trans hchat')
          exact herror
      · intro herror
        refine ⟨⟨.duplicate, buildEventIdempotencyKey again, buildPayloadRef again⟩, ?_, rfl⟩
        unfold enqueueEvent
        simp only [hintake', hchat, herror, eventResult]
    rw [hknown, hrecordAgain]
    constructor
    · rintro ⟨hevent, hpayload⟩
      refine ⟨hevent, ?_⟩
      intro intake' chatId' profile' hparse hchat' hprofile'
      obtain rfl := Except.ok.inj (hintake'.symm.trans hparse)
      obtain rfl := Option.some.inj (hchat.symm.trans hchat')
      obtain rfl := Except.ok.inj (hprofile.symm.trans hprofile')
      exact hpayload
    · intro halike
      exact ⟨halike.event, halike.payload intake chatId profile hintake' hchat hprofile⟩
  · rw [hstatus] at hother
    cases hother

end Redelivery

def deliverySettings : FeishuCallbackVerifier := ⟨some "t", some "k"⟩

def deliveryHeaders (body : ByteArray) : Headers :=
  [("x-lark-request-timestamp", "0"), ("x-lark-request-nonce", "n"),
    ("x-lark-signature", calculateFeishuSignature byteSum "0" "n" "k" body)]

/-- The delivery is let through by the verifier. -/
theorem verified_delivery {eventId payloadHash : String} (hne : eventId ≠ "")
    (hloads : (loadsJson (deliveredBody eventId)).toOption = some (deliveredPayload eventId))
    (hhash : hexdigest (byteSum.sha256 (deliveredBody eventId)) = payloadHash)
    (hheaders : FeishuCallbackVerifier.signatureHeaders (deliveryHeaders (deliveredBody eventId)) =
      some ("0", "n", calculateFeishuSignature byteSum "0" "n" "k" (deliveredBody eventId))) :
    Verified byteSum (delivery eventId payloadHash) := by
  refine ⟨deliverySettings, 0, deliveryHeaders (deliveredBody eventId), ?_⟩
  refine (@verifyEvent_eq_ok deliverySettings byteSum
    ⟨deliveredBody eventId, deliveryHeaders (deliveredBody eventId), 0⟩ _).mpr
      ⟨deliveredPayload eventId, ⟨_, Except.toOption_eq_some.mp hloads, rfl⟩, .inl ?_, ?_, ?_⟩
  · exact ⟨"k", "0", "n", rfl, hheaders, 0, by decide, Nat.zero_le _⟩
  · refine verifyToken_eq_ok.mpr (.inr ⟨"t", rfl, rfl, ?_⟩)
    intro c hc
    simp only [String.reduceToList, List.mem_singleton] at hc
    rw [hc]
    decide
  · subst hhash
    simp [FeishuCallbackVerifier.verifiedCallback, deliveredPayload, payloadHeader, payloadEvent,
      eventTypeOf, extractMessageId, firstStr, Dict.get_cons, Json.asDict, Json.asStr, delivery,
      Option.filter, hne]

theorem verified_second : Verified byteSum (delivery "2" "74") := by
  have hevaluated : (loadsJson (deliveredBody "2")).toOption = some (deliveredPayload "2") ∧
      hexdigest (byteSum.sha256 (deliveredBody "2")) = "74" ∧
      FeishuCallbackVerifier.signatureHeaders (deliveryHeaders (deliveredBody "2")) =
        some ("0", "n", calculateFeishuSignature byteSum "0" "n" "k" (deliveredBody "2")) := by
    decide +kernel
  exact verified_delivery (by decide) hevaluated.1 hevaluated.2.1 hevaluated.2.2

def switchOp : ProfileOp :=
  .create (.ofNat 10) none "c" "u"
    { firstRequest with displayName := some "second", displayName_length := by decide } "key"

def switchedProfiles : ProfileTable := (switchOp.commit firstDelivered.profiles).getD []

def afterSwitch : IntakeDatabase := { firstDelivered with profiles := switchedProfiles }

theorem run_afterSwitch :
    IntakeRun byteSum deepseekUrls {} none firstDelivered [] afterSwitch := by
  have hcommit : switchOp.commit firstDelivered.profiles = some switchedProfiles := by
    have hsome : (switchOp.commit firstDelivered.profiles).isSome = true := by decide +kernel
    obtain ⟨profiles, hprofiles⟩ := Option.isSome_iff_exists.mp hsome
    rw [switchedProfiles, hprofiles]
    rfl
  exact .tail .refl (.profile hcommit)

/-- Another body is a duplicate once another profile is the default, and refused before. -/
theorem redeliveries_evaluated :
    ((enqueueEvent byteSum none deliveryRow (delivery "2" "74") afterSwitch).toOption.any
      fun answer => answer.1.status = .duplicate ∧ answer.2 = afterSwitch) = true ∧
    (enqueueEvent byteSum none deliveryRow (delivery "2" "74") firstDelivered).toOption.isNone =
      true := by
  decide +kernel

theorem sameMessage_delivery (eventId payloadHash : String) :
    SameMessage byteSum (delivery "1" "73") (delivery eventId payloadHash) where
  tenantKey := rfl
  eventType := rfl
  messageId := rfl
  named := rfl
  intake := by
    have hevent : (deliveredPayload eventId).get "event" = (deliveredPayload "1").get "event" := rfl
    have htenant : ((deliveredPayload eventId).get "header").asDict.get "tenant_key" =
        ((deliveredPayload "1").get "header").asDict.get "tenant_key" := rfl
    change parseTaskIntake byteSum (deliveredPayload eventId) none =
      parseTaskIntake byteSum (deliveredPayload "1") none
    unfold parseTaskIntake
    simp only [hevent, htenant]

/-- Another body of the message is known as a redelivery after the switch. -/
theorem knownAsDuplicate_iff_afterSwitch :
    StoredAlike byteSum none (delivery "2" "74") afterSwitch := by
  obtain ⟨⟨result, db⟩, hsome, hanswer⟩ := (Option.any_eq_true _ _).mp redeliveries_evaluated.1
  simp only [decide_eq_true_eq] at hanswer
  obtain ⟨hstatus, hdb⟩ := hanswer
  rw [hdb] at hsome
  exact (knownAsDuplicate_iff run_beforeDelivery enqueueEvent_first run_afterSwitch verified_second
    (sameMessage_delivery "2" "74") deliveryRow).mp
      ⟨result, Except.toOption_eq_some.mp hsome, hstatus⟩

/-- Another body of the same message is refused with a conflict. -/
theorem not_redeliveriesIdempotent : ¬RedeliveriesIdempotent := by
  intro hall
  obtain ⟨result, hknown, _⟩ := hall byteSum deepseekUrls {} none [] [] beforeDelivery firstDelivered
    firstDelivered deliveryRow deliveryRow (delivery "1" "73") (delivery "2" "74") run_beforeDelivery
    enqueueEvent_first .refl verified_second (sameMessage_delivery "2" "74")
  have hrefused := redeliveries_evaluated.2
  rw [hknown] at hrefused
  cases hrefused

end Headhunt.Feishu
