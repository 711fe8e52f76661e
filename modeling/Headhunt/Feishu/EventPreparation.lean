import Headhunt.Feishu.EventRuns

/-! From the callback to the worker: what `enqueue_event` and a model setup leave for the
preparation is the task that the preparation reads. -/
namespace Headhunt.Feishu
open Headhunt.Core Headhunt.Gateways Headhunt.ModelProfiles Headhunt.Storage Py

/-- The payload of an item makes the preparation read the task with the profile, and nothing is
left to go wrong before the model of its owner is asked. -/
def ReadsTask (crypto : Crypto) (db : Database) (payload : Dict) (intake : FeishuTaskIntake)
    (profileId : UUID) : Prop :=
  ∃ item, prepareItem payload = .ok item ∧ item.modelProfileId = profileId ∧
    item.threadId = intake.threadId ∧ item.chatId = intake.chatId ∧
    ∀ settings decryptGcm run,
      readTask settings crypto decryptGcm item payload run db =
        parseWithUserModel settings crypto decryptGcm intake profileId run

section Payload

variable {crypto : Crypto} {chatId ref : String} {profileId : UUID} {intake : FeishuTaskIntake}

structure PreparationSays (payload : Dict) (chatId ref : String) (profileId : UUID)
    (intake : FeishuTaskIntake) : Prop where
  chatId : payload.get "chat_id" = .str chatId
  eventPayloadRef : payload.get "event_payload_ref" = .str ref
  profileId : payload.get "model_profile_id" = .str profileId.str
  sourceRef : payload.get "source_ref" = .str intake.sourceRef
  tenantKey : payload.get "tenant_key" = optionalText intake.tenantKey
  ownerUserId : payload.get "model_owner_user_id" = optionalText intake.modelOwnerUserId
  ownerIdType : payload.get "model_owner_id_type" = optionalText intake.modelOwnerIdType
  guildId : payload.get "model_guild_id" = .str intake.modelGuildId
  threadId : payload.get "thread_id" = .str intake.threadId.str

theorem preparationSays_build : PreparationSays
    (buildTaskConfirmationPreparePayload chatId ref profileId intake) chatId ref profileId intake := by
  constructor
  all_goals simp [buildTaskConfirmationPreparePayload, Dict.get_ofList, Dict.get_cons]

theorem requiredPayloadStr_of_str {payload : Dict} {key value : String}
    (h : payload.get key = .str value) (hne : value ≠ "") :
    requiredPayloadStr payload key = .ok value := by
  unfold requiredPayloadStr
  rw [firstStr_singleton_eq_some.mpr ⟨h, hne⟩]

theorem uuid_str_ne (id : UUID) : id.str ≠ "" := by
  intro h
  have hparse := UUID.parse_str id
  rw [h] at hparse
  have hnone : UUID.parse "" = none := by decide +kernel
  rw [hnone] at hparse
  cases hparse

theorem requiredPayloadUuid_of_str {payload : Dict} {key : String} {id : UUID}
    (h : payload.get key = .str id.str) : requiredPayloadUuid payload key = .ok id := by
  unfold requiredPayloadUuid
  rw [requiredPayloadStr_of_str h (uuid_str_ne id)]
  simp only [bind, Except.bind, UUID.parse_str]

theorem PreparationSays.item {payload : Dict} (h : PreparationSays payload chatId ref profileId intake)
    (hchat : chatId ≠ "") (href : ref ≠ "") (hsource : intake.sourceRef ≠ "") :
    prepareItem payload = .ok ⟨chatId, ref, intake.sourceRef, profileId, intake.threadId⟩ := by
  unfold prepareItem
  rw [requiredPayloadStr_of_str h.chatId hchat, requiredPayloadStr_of_str h.eventPayloadRef href,
    requiredPayloadStr_of_str h.sourceRef hsource, requiredPayloadUuid_of_str h.profileId,
    requiredPayloadUuid_of_str h.threadId]
  rfl

theorem PreparationSays.valid {payload : Dict}
    (h : PreparationSays payload intake.chatId ref profileId intake) :
    validatePreparePayload intake payload profileId = .ok () := by
  unfold validatePreparePayload
  have hnone : (expectedPrepareFields intake profileId).find? (fun field =>
      payload.get field.1 ≠ field.2) = none := by
    simp [expectedPrepareFields, h.sourceRef, h.chatId, h.threadId, h.profileId, h.ownerUserId,
      h.ownerIdType, h.guildId]
  rw [hnone]

end Payload

section Parse

variable {crypto : Crypto} {payload : Dict} {tenantKey : Option String} {intake : FeishuTaskIntake}

theorem nonemptyText_of_ne {s : String} (h : s ≠ "") : nonemptyText (some s) = some s := by
  unfold nonemptyText
  simp [Option.filter, h]

/-- A task is read again with the tenant it was given. -/
theorem parseTaskIntake_again (h : parseTaskIntake crypto payload tenantKey = .ok intake) :
    parseTaskIntake crypto payload intake.tenantKey = .ok intake ∧ intake.chatId ≠ "" ∧
      intake.sourceRef ≠ "" ∧ nonemptyText intake.tenantKey = intake.tenantKey := by
  unfold parseTaskIntake at h ⊢
  cases hevent : dictOrNone (payload.get "event") with
  | none => simp [hevent] at h
  | some event =>
    simp only [hevent] at h ⊢
    cases hmessage : dictOrNone (event.get "message") with
    | none => simp [hmessage] at h
    | some message =>
      simp only [hmessage] at h ⊢
      cases hchat : firstStr [message.get "chat_id", event.get "open_chat_id"] with
      | none => simp [hchat] at h
      | some chatId =>
        simp only [hchat] at h ⊢
        obtain ⟨text, htext, h⟩ := Except.bind_eq_ok.mp h
        obtain rfl := Except.ok.inj h
        have htenant : ∀ candidates, nonemptyText ((nonemptyText tenantKey).or (firstStr candidates)) =
            (nonemptyText tenantKey).or (firstStr candidates) := by
          intro candidates
          cases hgiven : nonemptyText tenantKey with
          | some given =>
            rw [Option.some_or]
            exact nonemptyText_of_ne (of_decide_eq_true (Option.filter_eq_some_iff.mp hgiven).2)
          | none =>
            rw [Option.none_or]
            cases hfound : firstStr candidates with
            | none => rfl
            | some found => exact nonemptyText_of_ne (firstStr_ne hfound)
        refine ⟨?_, firstStr_ne hchat, buildSourceRef_ne crypto _ _ _ _, htenant _⟩
        refine Except.bind_eq_ok.mpr ⟨text, htext, ?_⟩
        simp only [htenant, Option.or_assoc, Option.or_self]

end Parse

section Contract

variable {crypto : Crypto} {lib : UrlLibrary} {settings : Settings} {defaultChatId : Option String}
  {preimage : String → Dict}

theorem buildPayloadRef_nonempty (callback : VerifiedFeishuCallback) :
    buildPayloadRef callback ≠ "" := by
  intro h
  have hlist := congrArg String.toList h
  rw [buildPayloadRef_toList] at hlist
  cases hlist

/-- A preparation of a stored message reads its task. -/
theorem readsTask_of_stored {db : Database} {ref : String} {original : Dict}
    {tenantKey : Option String} {intake : FeishuTaskIntake} {profileId : UUID}
    (hevent : getJsonPayload ref db = .ok original)
    (hparse : parseTaskIntake crypto original tenantKey = .ok intake) (href : ref ≠ "") :
    ReadsTask crypto db (buildTaskConfirmationPreparePayload intake.chatId ref profileId intake)
      intake profileId := by
  obtain ⟨hagain, hchat, hsource, htenant⟩ := parseTaskIntake_again hparse
  have hfields := @preparationSays_build intake.chatId ref profileId intake
  refine ⟨_, hfields.item hchat href hsource, rfl, rfl, rfl, ?_⟩
  intro settings decryptGcm run
  unfold readTask
  simp only [hevent, hfields.tenantKey, firstStr_optionalText, htenant, hagain, hfields.valid,
    Except.mapError, bind, Except.bind]

/-- The digests of what an event stores, with a profile of the table, are those of no other
payload. -/
structure DigestsOf (preimage : String → Dict) (crypto : Crypto)
    (callback : VerifiedFeishuCallback) (profiles : ProfileTable) : Prop where
  event : preimage callback.payloadHash = callback.payload
  preparation : ∀ intake profile,
    parseTaskIntake crypto callback.payload callback.tenantKey = .ok intake →
    profileIdent profile ∈ profiles.map profileIdent →
    let payload := buildTaskConfirmationPreparePayload intake.chatId (buildPayloadRef callback)
      profile.id intake
    preimage (stableHash crypto payload) = payload

/-- What is stored under a new ref is read back. -/
theorem getJsonPayload_of_absent {db db' : Database} {ref text sha : String} {payload : Dict}
    (h : storeJsonPayload ref payload text sha db = .ok db') (hnone : db.blob? ref = none) :
    getJsonPayload ref db' = .ok payload := by
  rcases storeJsonPayload_eq_ok.mp h with ⟨b, hb, _⟩ | ⟨_, rfl⟩
  · rw [hnone] at hb
    cases hb
  · unfold getJsonPayload
    rw [blob?_insertBlobOrIgnore, hnone]
    simp [jsonBlob]

theorem getJsonPayload_of_digest {db : Database} {ref sha : String} (hd : db.Digested preimage)
    (h : ∃ b, db.blob? ref = some b ∧ b.sha256 = sha) :
    getJsonPayload ref db = .ok (preimage sha) := by
  obtain ⟨b, hb, rfl⟩ := h
  simp [getJsonPayload, hb, hd ref b hb]

theorem eventChatId_of_parse {payload : Dict} {tenantKey : Option String} {intake : FeishuTaskIntake}
    {chatId : String} (hparse : parseTaskIntake crypto payload tenantKey = .ok intake)
    (hchat : eventChatId defaultChatId intake = some chatId) : chatId = intake.chatId := by
  obtain ⟨_, hne, _, _⟩ := parseTaskIntake_again hparse
  unfold eventChatId at hchat
  rw [nonemptyText_of_ne hne, Option.some_or] at hchat
  exact (Option.some.inj hchat).symm

/-- In every run the item of an event whose sender has a model is read by the preparation as the
task of the message, with a chat profile of the sender. -/
theorem readsTask_of_run {queued : List VerifiedFeishuCallback} {db : IntakeDatabase}
    (hrun : IntakeRun crypto lib settings defaultChatId {} queued db)
    (hd : db.toDatabase.Digested preimage) {callback : VerifiedFeishuCallback}
    (hcallback : callback ∈ queued) (hdigests : DigestsOf preimage crypto callback db.profiles)
    {item : FeishuOutbox} (hitem : item ∈ db.outbox)
    (hkey : item.idempotencyKey = buildEventIdempotencyKey callback)
    (hkind : item.kind = .taskConfirmationPrepare) :
    ∃ intake payload profile userId,
      parseTaskIntake crypto callback.payload callback.tenantKey = .ok intake ∧
      getJsonPayload item.payloadRef db.toDatabase = .ok payload ∧
      ReadsTask crypto db.toDatabase payload intake profile.id ∧ profile ∈ db.profiles ∧
      profile.slot = (intake.modelGuildId, userId, .chat) ∧
      nonemptyText intake.modelOwnerUserId = some userId := by
  obtain ⟨⟨item', _, _, hone, hgoes⟩, hevent⟩ := (queuedOnce_of_run hrun).kept callback hcallback
  obtain rfl := hone item hitem hkey
  obtain ⟨intake, chatId, profile, hparse, hchat, hprofile, hkind', href, hblob⟩ := hgoes
  cases profile with
  | none =>
    have hcard : (eventPlan crypto intake chatId (buildPayloadRef callback) none).kind = .cardSend :=
      rfl
    rw [hkind, hcard] at hkind'
    cases hkind'
  | some profile =>
    obtain rfl := eventChatId_of_parse hparse hchat
    obtain ⟨userId, howner, hslot, hident⟩ := hprofile profile rfl
    have hpayload := getJsonPayload_of_digest hd hblob
    have hplan : (eventPlan crypto intake intake.chatId (buildPayloadRef callback)
        (some profile)).payload = buildTaskConfirmationPreparePayload intake.chatId
          (buildPayloadRef callback) profile.id intake := by
      rw [eventPlan]
    rw [hplan, hdigests.preparation intake profile hparse hident] at hpayload
    have hstored := getJsonPayload_of_digest hd hevent
    rw [hdigests.event] at hstored
    have hreads := @readsTask_of_stored crypto _ _ _ _ _ profile.id hstored hparse
      (buildPayloadRef_nonempty callback)
    obtain ⟨kept, hkept, hsame⟩ := List.mem_map.mp hident
    obtain ⟨hid, hkeptSlot⟩ := Prod.mk.inj hsame
    refine ⟨intake, _, kept, userId, hparse, hpayload, ?_, hkept, hkeptSlot.trans hslot, howner⟩
    rw [hid]
    exact hreads

end Contract

def deliveryPreparation (intake : FeishuTaskIntake) : Dict :=
  buildTaskConfirmationPreparePayload intake.chatId (buildPayloadRef (delivery "1" "73")) (.ofNat 9)
    intake

def deliveryPreimage (sha : String) : Dict :=
  if sha = "73" then deliveredPayload "1"
  else ((parseTaskIntake byteSum (deliveredPayload "1") none).toOption.map deliveryPreparation).getD []

theorem firstDelivered_evaluated :
    (∀ b ∈ firstDelivered.artifactBlobs, b.contentJson = .obj (deliveryPreimage b.sha256)) ∧
    (∀ ident ∈ firstDelivered.profiles.map profileIdent, ident.1 = .ofNat 9) ∧
    (firstDelivered.outbox.any fun item =>
      item.idempotencyKey = buildEventIdempotencyKey (delivery "1" "73") ∧
        item.kind = .taskConfirmationPrepare) = true ∧
    ((parseTaskIntake byteSum (deliveredPayload "1") none).toOption.all fun intake =>
      deliveryPreimage (stableHash byteSum (deliveryPreparation intake)) =
        deliveryPreparation intake) = true := by
  decide +kernel

theorem digestsOf_delivery :
    DigestsOf deliveryPreimage byteSum (delivery "1" "73") firstDelivered.profiles where
  event := rfl
  preparation := by
    intro intake profile hparse hident
    have hid : profile.id = .ofNat 9 := firstDelivered_evaluated.2.1 _ hident
    have hall := firstDelivered_evaluated.2.2.2
    change parseTaskIntake byteSum (deliveredPayload "1") none = .ok intake at hparse
    rw [hparse] at hall
    simp only [Except.toOption, Option.all_some, decide_eq_true_eq] at hall
    dsimp only
    rw [hid]
    exact hall

/-- The item of the sample is read with the profile of its sender. -/
theorem readsTask_of_run_delivery : ∃ item ∈ firstDelivered.outbox,
    ∃ intake payload, ∃ profile ∈ firstDelivered.profiles,
      getJsonPayload item.payloadRef firstDelivered.toDatabase = .ok payload ∧
      ReadsTask byteSum firstDelivered.toDatabase payload intake profile.id := by
  obtain ⟨hblobs, _, hitems, _⟩ := firstDelivered_evaluated
  obtain ⟨item, hitem, hsays⟩ := List.any_eq_true.mp hitems
  obtain ⟨hkey, hkind⟩ := of_decide_eq_true hsays
  have hd : firstDelivered.toDatabase.Digested deliveryPreimage :=
    fun ref b hb => hblobs b (Table.find_mem hb)
  obtain ⟨intake, payload, profile, _, _, hpayload, hreads, hprofile, _⟩ :=
    readsTask_of_run run_firstDelivered hd (List.mem_singleton_self _) digestsOf_delivery hitem hkey
      hkind
  exact ⟨item, hitem, intake, payload, profile, hprofile, hpayload, hreads⟩

section Setup

variable {crypto : Crypto} {lib : UrlLibrary} {settings : Settings}

/-- A setup that is saved was sent by the owner and has gone through. -/
theorem setupModelProfile_of_saved {run : SetupRun} {callback : VerifiedFeishuCallback}
    {result : ModelSetupResult} {db db' : SetupDatabase}
    (h : enqueueModelProfileSetup crypto lib settings run callback db = .ok (result, db'))
    (hsaved : result.status = .modelSetupSaved) :
    ∃ command, parseModelProfileSetupCommand lib callback (buildPayloadRef callback) = .ok command ∧
      command.operatorMatchesModelOwner = true ∧
      setupModelProfile crypto run callback command db = .ok db' := by
  unfold enqueueModelProfileSetup at h
  cases hcommand : parseModelProfileSetupCommand lib callback (buildPayloadRef callback) with
  | error exc => simp [hcommand] at h
  | ok command =>
    refine ⟨command, rfl, ?_⟩
    simp only [hcommand] at h
    split_ifs at h with howner
    · obtain ⟨rfl, -⟩ := Prod.mk.inj (Except.ok.inj h)
      cases hsaved
    · refine ⟨by simpa using howner, ?_⟩
      split at h
      · obtain ⟨rfl, -⟩ := Prod.mk.inj (Except.ok.inj h)
        cases hsaved
      · split_ifs at h
        cases hsetup : setupModelProfile crypto run callback command db with
        | ok saved =>
          rw [hsetup] at h
          obtain ⟨-, rfl⟩ := Prod.mk.inj (Except.ok.inj h)
          rfl
        | error exc =>
          rw [hsetup] at h
          cases exc <;> (obtain ⟨rfl, -⟩ := Prod.mk.inj (Except.ok.inj h); cases hsaved)

theorem storeRedactedPayload_cases {callback : VerifiedFeishuCallback} {db db' : Database}
    (h : storeRedactedPayload crypto callback db = .ok db') :
    ∃ redacted, redactModelSetupPayload callback.payload = some redacted ∧
      storeJsonPayload (buildPayloadRef callback) redacted (dumps .compact (.obj redacted))
        (stableHash crypto redacted) db = .ok db' := by
  unfold storeRedactedPayload at h
  cases hredact : redactModelSetupPayload callback.payload with
  | none => simp [hredact] at h
  | some redacted =>
    rw [hredact] at h
    exact ⟨redacted, rfl, Except.mapError_eq_ok.mp h⟩

theorem eventPayloadRef_ne {callback : VerifiedFeishuCallback} {payloadRef : String}
    {command : FeishuModelProfileSetupCommand}
    (h : parseModelProfileSetupCommand lib callback payloadRef = .ok command) :
    command.eventPayloadRef ≠ "" := by
  unfold parseModelProfileSetupCommand at h
  obtain ⟨_, h⟩ := Except.ite_error_eq_ok.mp h
  obtain ⟨value, _, h⟩ := Except.bind_eq_ok.mp h
  split_ifs at h
  · cases h
  · simp only [Except.bind_eq_ok, Except.ok.injEq] at h
    obtain ⟨_, _, _, _, _, _, _, _, _, _, _, _, _, _, _, _, _, _, _, _, ref, href, _, _, _, _, _, _,
      rfl⟩ := h
    exact (requiredStr_eq_ok.mp href).2

theorem validateModelSetupIntake_eq_ok {intake : FeishuTaskIntake}
    {command : FeishuModelProfileSetupCommand} (h : validateModelSetupIntake intake command = .ok ()) :
    intake.chatId = command.chatId ∧ intake.modelOwnerUserId = some command.modelOwnerUserId := by
  unfold validateModelSetupIntake at h
  simp only [Except.ite_error_eq_ok, not_not] at h
  exact ⟨h.2.1, h.2.2.2.1⟩

/-- A saved model setup was sent by the owner of the model and stores the profile, and what it
queues is read by the preparation as the task of the message the card was sent for, with that
profile, now and at any later time. -/
theorem readsTask_of_setup {run : SetupRun} {callback : VerifiedFeishuCallback}
    {command : FeishuModelProfileSetupCommand} {result : ModelSetupResult} {db db' : SetupDatabase}
    {later : Database}
    (hcommand : parseModelProfileSetupCommand lib callback (buildPayloadRef callback) = .ok command)
    (h : enqueueModelProfileSetup crypto lib settings run callback db = .ok (result, db'))
    (hsaved : result.status = .modelSetupSaved)
    (hkey : db.outboxForKey? (prepareAfterSetupKey command.idempotencyKey) = none)
    (hnew : db.blob? (taskConfirmationPrepareRef crypto command.sourceRef run.profileId) = none)
    (hgrows : db'.toDatabase.Grows later) :
    command.operatorMatchesModelOwner = true ∧
    (∃ profile ∈ db'.profiles, profile.id = run.profileId ∧ command.Names profile ∧
      profile.provider = command.provider ∧ profile.modelName = command.modelName ∧
      profile.status = .active ∧ profile.encryptedApiKey = some run.encryptedApiKey) ∧
    ∃ intake item, originalIntake crypto callback command later = .ok intake ∧
      intake.modelOwnerUserId = some command.modelOwnerUserId ∧
      later.outboxForKey? (prepareAfterSetupKey command.idempotencyKey) = some item ∧
      getJsonPayload item.payloadRef later = .ok (setupPreparePayload run command intake) ∧
      ReadsTask crypto later (setupPreparePayload run command intake) intake run.profileId := by
  obtain ⟨command', hcommand', hoperator, hsetup⟩ := setupModelProfile_of_saved h hsaved
  obtain rfl := Except.ok.inj (hcommand.symm.trans hcommand')
  unfold setupModelProfile at hsetup
  simp only [Except.ite_error_eq_ok, Except.bind_eq_ok, Except.ok.injEq] at hsetup
  obtain ⟨_, stored, hstored, intake, hintake, profiles, hprofiles, recorded, hrecorded, queued,
    hqueued, answered, hanswered, rfl⟩ := hsetup
  have hanswering : queued.Grows later := (queueSavedCard_statements hanswered).grows.trans hgrows
  have hqueueing := (queuePreparation_statements hqueued).grows.trans hanswering
  have haction := (Database.Grows.insertCardAction (recordSetup_eq_ok.mp hrecorded)).trans hqueueing
  have hlater := originalIntake_grows haction hintake
  obtain ⟨original, horiginal, hparse, hvalid⟩ := originalIntake_eq_ok.mp hlater
  obtain ⟨hchat, howner⟩ := validateModelSetupIntake_eq_ok hvalid
  have hsource := sourceRef_of_validate hvalid
  obtain ⟨redacted, _, hwrite⟩ := storeRedactedPayload_cases hstored
  -- neither the redacted payload nor the card action takes the ref or the key of the preparation
  obtain ⟨_, _, _, rfl⟩ := Database.insertCardAction_eq_ok.mp (recordSetup_eq_ok.mp hrecorded)
  have hrefFree : stored.blob? (taskConfirmationPrepareRef crypto intake.sourceRef run.profileId) =
      none := by
    rw [hsource]
    cases hb : stored.blob? (taskConfirmationPrepareRef crypto command.sourceRef run.profileId) with
    | none => rfl
    | some b =>
      rcases blob?_of_storeJsonPayload hwrite hb with hb | ⟨href, _⟩
      · rw [hnew] at hb
        cases hb
      · exact absurd href.symm (buildPayloadRef_ne_prepareRef _ _)
  have hkeyFree : stored.outboxForKey? (prepareAfterSetupKey command.idempotencyKey) = none := by
    rw [storeJsonPayload_frame hwrite]
    exact hkey
  unfold queuePreparation at hqueued
  simp only [Except.mapError_eq_ok, Except.map_eq_ok, Except.bind_eq_ok] at hqueued
  obtain ⟨⟨ref, queued'⟩, ⟨preparing, hpreparing, payload, hreread, henqueued⟩, rfl⟩ := hqueued
  obtain ⟨hstoring, hframe⟩ : getJsonPayload (taskConfirmationPrepareRef crypto intake.sourceRef
      run.profileId) preparing = .ok (setupPreparePayload run command intake) ∧
        preparing.outboxForKey? (prepareAfterSetupKey command.idempotencyKey) = none := by
    refine ⟨getJsonPayload_of_absent hpreparing hrefFree, ?_⟩
    rw [storeJsonPayload_frame hpreparing]
    exact hkeyFree
  obtain rfl := Except.ok.inj (hstoring.symm.trans hreread)
  have hpreparingLater := (enqueueJson_grows henqueued).trans hanswering
  obtain ⟨item, hitem, href⟩ := outboxForKey?_enqueueJson henqueued
  obtain ⟨item', hitem', hsame⟩ := hanswering.outbox hitem
  refine ⟨hoperator, profile_of_createSetupProfile hprofiles, intake, item', hlater, howner, hitem',
    ?_, ?_⟩
  · rcases enqueueJson_cases henqueued with ⟨existing, hexisting, _⟩ | ⟨_, hresolved, _⟩
    · rw [hframe] at hexisting
      cases hexisting
    · rw [hsame.payloadRef, href, hresolved, resolvedContentRef_some _ _ (prepareRef_ne_empty _ _ _)]
      exact hpreparingLater.getJsonPayload hstoring
  · unfold setupPreparePayload
    rw [← hchat]
    exact readsTask_of_stored horiginal hparse (eventPayloadRef_ne hcommand)

end Setup

/-- The profile is set up and the task of the card is read with it. -/
theorem readsTask_of_setup_deepseek :
    ∃ result db' intake, ∃ item : FeishuOutbox, enqueueModelProfileSetup .plain deepseekUrls
        setupSettings setupRun setupCallback (setupDatabase []) = .ok (result, db') ∧
      (∃ profile ∈ db'.profiles, profile.id = setupRun.profileId ∧ setupCommand.Names profile) ∧
      originalIntake .plain setupCallback setupCommand db'.toDatabase = .ok intake ∧
      getJsonPayload item.payloadRef db'.toDatabase =
        .ok (setupPreparePayload setupRun setupCommand intake) ∧
      ReadsTask .plain db'.toDatabase (setupPreparePayload setupRun setupCommand intake) intake
        setupRun.profileId := by
  have hvalid := @validSetup_setupCommand [] rfl
  obtain ⟨result, db', h, hsaved, _⟩ := hvalid.completes (by decide +kernel) fun p hp => by cases hp
  obtain ⟨_, ⟨profile, hprofile, hid, hnames, _⟩, intake, item, hintake, _, _, hpayload, hreads⟩ :=
    readsTask_of_setup hvalid.parsed h hsaved hvalid.first.prepare hvalid.fresh.prepareRef (.refl _)
  exact ⟨result, db', intake, item, h, ⟨profile, hprofile, hid, hnames⟩, hintake, hpayload, hreads⟩

end Headhunt.Feishu
