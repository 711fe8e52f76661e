import Headhunt.Feishu.ModelSetup
import Headhunt.ModelProfiles.KeyIsolation

/-! Which setups of the original task's owner are completed: those whose profile gets a name
that no profile of the owner has, and none that was revoked either. -/
namespace Headhunt.Feishu
open Headhunt.Core Headhunt.Gateways Headhunt.ModelProfiles Headhunt.Storage Py Transition

def FeishuModelProfileSetupCommand.profileName (command : FeishuModelProfileSetupCommand) :
    String :=
  (command.displayName.filter (· ≠ "")).getD s!"chat:{command.provider.value}:{command.modelName}"

/-- The profile is one of the owner under the name the setup asks for. -/
def FeishuModelProfileSetupCommand.Names (command : FeishuModelProfileSetupCommand)
    (profile : UserModelProfile) : Prop :=
  profile.ownedBy command.chatId command.modelOwnerUserId = true ∧
    profile.displayName = command.profileName

/-- The text of an item under its own hash. -/
def ContentAddressed (crypto : Crypto) (db : Database) : Prop :=
  ∀ payload b, db.blob? (resolvedContentRef crypto payload none) = some b →
    b.sha256 = stableHash crypto payload

section Valid

variable (crypto : Crypto) (lib : UrlLibrary) (settings : Settings) (run : SetupRun)
  (callback : VerifiedFeishuCallback) (command : FeishuModelProfileSetupCommand)

/-- Nothing is kept of an earlier click on the card. -/
structure FirstSetup (db : Database) : Prop where
  event : Table.find FeishuCardAction.eventId command.eventId db.cardActions = none
  key : Table.find FeishuCardAction.idempotencyKey command.idempotencyKey db.cardActions = none
  payload : db.blob? (buildPayloadRef callback) = none
  prepare : db.outboxForKey? (prepareAfterSetupKey command.idempotencyKey) = none
  saved : db.outboxForKey? (setupCardSavedKey command.idempotencyKey) = none

structure FreshSetup (db : SetupDatabase) : Prop where
  profile : db.profiles.profile? run.profileId = none
  prepareRef : db.blob? (taskConfirmationPrepareRef crypto command.sourceRef run.profileId) = none
  prepareRow : Table.find FeishuOutbox.id run.prepareRow.id db.outbox = none
  cardRow : Table.find FeishuOutbox.id run.cardRow.id db.outbox = none
  rows : run.cardRow.id ≠ run.prepareRow.id

/-- A first submission by the owner of the task the card was sent for. -/
structure ValidSetup (db : SetupDatabase) : Prop where
  parsed : parseModelProfileSetupCommand lib callback (buildPayloadRef callback) = .ok command
  owner : command.operatorMatchesModelOwner = true
  configured : ∃ key ∈ settings.modelSecretEncryptionKey, strip key ≠ ""
  request : command.request?.isSome = true
  original : ∃ intake, originalIntake crypto callback command db.toDatabase = .ok intake
  thread : db.hasThread command.threadId = true
  first : FirstSetup callback command db.toDatabase
  fresh : FreshSetup crypto run command db
  addressed : ContentAddressed crypto db.toDatabase

/-- The profile is stored and the task of the card waits for its preparation. -/
structure SetupStored (db db' : SetupDatabase) : Prop where
  profile : ∃ profile ∈ db'.profiles, profile.id = run.profileId ∧ command.Names profile ∧
    profile.provider = command.provider ∧ profile.modelName = command.modelName ∧
    profile.status = .active ∧ profile.encryptedApiKey = some run.encryptedApiKey
  prepares : ∃ item ∈ db'.outbox, item.kind = .taskConfirmationPrepare ∧ item.status = .pending ∧
    ∃ intake, originalIntake crypto callback command db.toDatabase = .ok intake ∧
      getJsonPayload item.payloadRef db'.toDatabase =
        .ok (setupPreparePayload run command intake)

def SetupCompletes (db : SetupDatabase) : Prop :=
  ∃ result db', enqueueModelProfileSetup crypto lib settings run callback db = .ok (result, db') ∧
    result.status = .modelSetupSaved ∧ SetupStored crypto run callback command db db'

end Valid

def SetupsComplete : Prop :=
  ∀ crypto lib settings run callback command (db : SetupDatabase) ops,
    exec ProfileOp.commit [] ops = some db.profiles →
    ValidSetup crypto lib settings run callback command db →
    (∀ p ∈ db.profiles, p.status = .active → ¬command.Names p) →
    SetupCompletes crypto lib settings run callback command db

section Statements

variable {crypto : Crypto} {run : SetupRun} {callback : VerifiedFeishuCallback}
  {command : FeishuModelProfileSetupCommand} {intake : FeishuTaskIntake}
  {profiles profiles' : ProfileTable} {db db' : Database}

theorem storeRedactedPayload_eq_ok (hpayload : db.blob? (buildPayloadRef callback) = none) :
    storeRedactedPayload crypto callback db = .ok db' ↔
      ∃ redacted, redactModelSetupPayload callback.payload = some redacted ∧
        db' = db.insertBlobOrIgnore (jsonBlob (buildPayloadRef callback) redacted
          (dumps .compact (.obj redacted)) (stableHash crypto redacted)) := by
  unfold storeRedactedPayload
  cases redactModelSetupPayload callback.payload with
  | none => simp
  | some redacted =>
    simp only [Except.mapError_eq_ok, storeJsonPayload_eq_ok, hpayload, reduceCtorEq, false_and,
      exists_false, false_or, true_and, Option.some.injEq, exists_eq_left']
    rfl

theorem originalIntake_eq_ok : originalIntake crypto callback command db = .ok intake ↔
    ∃ payload, getJsonPayload command.eventPayloadRef db = .ok payload ∧
      parseTaskIntake crypto payload callback.tenantKey = .ok intake ∧
      validateModelSetupIntake intake command = .ok () := by
  simp only [originalIntake, Except.bind_eq_ok, Except.mapError_eq_ok, Except.ok.injEq]
  constructor
  · rintro ⟨payload, hpayload, _, hintake, ⟨⟩, hvalid, rfl⟩
    exact ⟨payload, hpayload, hintake, hvalid⟩
  · rintro ⟨payload, hpayload, hintake, hvalid⟩
    exact ⟨payload, hpayload, intake, hintake, (), hvalid, rfl⟩

theorem originalIntake_grows (hgrows : db.Grows db')
    (h : originalIntake crypto callback command db = .ok intake) :
    originalIntake crypto callback command db' = .ok intake := by
  obtain ⟨payload, hpayload, hrest⟩ := originalIntake_eq_ok.mp h
  exact originalIntake_eq_ok.mpr ⟨payload, hgrows.getJsonPayload hpayload, hrest⟩

theorem sourceRef_of_validate (h : validateModelSetupIntake intake command = .ok ()) :
    intake.sourceRef = command.sourceRef := by
  unfold validateModelSetupIntake at h
  simp only [Except.ite_error_eq_ok, not_not] at h
  exact h.1

/-- With a request that passes its schema the profile is created unless its name is taken. -/
theorem createSetupProfile_iff (hrequest : command.request?.isSome = true)
    (hid : profiles.profile? run.profileId = none) :
    (∃ profiles', createSetupProfile run callback command profiles = .ok profiles') ↔
      ∀ p ∈ profiles, ¬command.Names p := by
  obtain ⟨request, hrequest⟩ := Option.isSome_iff_exists.mp hrequest
  have hname : (profiles.newProfile run.profileId callback.tenantKey command.chatId
      command.modelOwnerUserId request run.encryptedApiKey).displayName = command.profileName := by
    unfold FeishuModelProfileSetupCommand.request? at hrequest
    split_ifs at hrequest
    obtain rfl := Option.some.inj hrequest
    rfl
  simp only [createSetupProfile, hrequest, Except.mapError_eq_ok, createProfile_iff, hid, true_and,
    hname, FeishuModelProfileSetupCommand.Names, not_and, ne_eq]

theorem profile_of_createSetupProfile
    (h : createSetupProfile run callback command profiles = .ok profiles') :
    ∃ profile ∈ profiles', profile.id = run.profileId ∧ command.Names profile ∧
      profile.provider = command.provider ∧ profile.modelName = command.modelName ∧
      profile.status = .active ∧ profile.encryptedApiKey = some run.encryptedApiKey := by
  unfold createSetupProfile at h
  cases hrequest : command.request? with
  | none => simp [hrequest] at h
  | some request =>
    rw [hrequest] at h
    have hmem := mem_createProfile (Except.mapError_eq_ok.mp h)
    unfold FeishuModelProfileSetupCommand.request? at hrequest
    split_ifs at hrequest
    obtain rfl := Option.some.inj hrequest
    refine ⟨_, hmem, rfl, ⟨?_, rfl⟩, rfl, rfl, rfl, rfl⟩
    simp [UserModelProfile.ownedBy, ProfileTable.newProfile]

theorem recordSetup_eq_ok : recordSetup run callback command db = .ok db' ↔
    db.insertCardAction (setupActionRow command run.profileId (buildPayloadRef callback)) =
      .ok db' :=
  Except.mapError_eq_ok

theorem prepareRef_toList (crypto : Crypto) (sourceRef : String) (id : UUID) :
    (taskConfirmationPrepareRef crypto sourceRef id).toList =
      "artifact://feishu-task-confirmation-prepare/".toList ++
        (profileRefId crypto sourceRef id).toList := by
  unfold taskConfirmationPrepareRef
  simp only [ToString.toString, String.toList_append]

theorem buildPayloadRef_toList (callback : VerifiedFeishuCallback) :
    (buildPayloadRef callback).toList =
      "artifact://feishu-callback/".toList ++ callback.payloadHash.toList := by
  unfold buildPayloadRef
  simp only [ToString.toString, String.toList_append]

theorem contentRef_toList (crypto : Crypto) (payload : Dict) :
    (resolvedContentRef crypto payload none).toList =
      "artifact://outbox/".toList ++ (stableHash crypto payload).toList := by
  unfold resolvedContentRef
  simp only [Option.filter_none, Option.getD_none, ToString.toString, String.toList_append]

theorem prepareRef_ne_empty (crypto : Crypto) (sourceRef : String) (id : UUID) :
    taskConfirmationPrepareRef crypto sourceRef id ≠ "" := by
  intro h
  have hlist := congrArg String.toList h
  rw [prepareRef_toList] at hlist
  cases hlist

theorem buildPayloadRef_ne_prepareRef (sourceRef : String) (id : UUID) :
    buildPayloadRef callback ≠ taskConfirmationPrepareRef crypto sourceRef id := by
  intro h
  have hlist := congrArg String.toList h
  rw [buildPayloadRef_toList, prepareRef_toList] at hlist
  exact append_ne_append 19 (by decide) (by decide) (by decide) _ _ hlist

theorem contentRef_ne_prepareRef (payload : Dict) (sourceRef : String) (id : UUID) :
    resolvedContentRef crypto payload none ≠ taskConfirmationPrepareRef crypto sourceRef id := by
  intro h
  have hlist := congrArg String.toList h
  rw [contentRef_toList, prepareRef_toList] at hlist
  exact append_ne_append 12 (by decide) (by decide) (by decide) _ _ hlist

theorem contentRef_ne_buildPayloadRef (payload : Dict) :
    resolvedContentRef crypto payload none ≠ buildPayloadRef callback := by
  intro h
  have hlist := congrArg String.toList h
  rw [contentRef_toList, buildPayloadRef_toList] at hlist
  exact append_ne_append 12 (by decide) (by decide) (by decide) _ _ hlist

theorem prepareAfterSetupKey_toList (key : String) : (prepareAfterSetupKey key).toList =
    "task_confirmation_prepare_after_model_setup:".toList ++ key.toList := by
  unfold prepareAfterSetupKey
  simp only [ToString.toString, String.toList_append]

theorem setupCardSavedKey_toList (key : String) : (setupCardSavedKey key).toList =
    "model_setup_card_saved:".toList ++ key.toList := by
  unfold setupCardSavedKey
  simp only [ToString.toString, String.toList_append]

theorem prepareAfterSetupKey_ne_saved (key key' : String) :
    prepareAfterSetupKey key ≠ setupCardSavedKey key' := by
  intro h
  have hlist := congrArg String.toList h
  rw [prepareAfterSetupKey_toList, setupCardSavedKey_toList] at hlist
  exact append_ne_append 1 (by decide) (by decide) (by decide) _ _ hlist

def prepareItemRow (crypto : Crypto) (run : SetupRun) (command : FeishuModelProfileSetupCommand)
    (sourceRef : String) : FeishuOutbox :=
  pendingOutbox run.prepareRow .taskConfirmationPrepare
    (prepareAfterSetupKey command.idempotencyKey) (some command.threadId)
    (taskConfirmationPrepareRef crypto sourceRef run.profileId)

structure QueuesPreparation (crypto : Crypto) (run : SetupRun)
    (command : FeishuModelProfileSetupCommand) (intake : FeishuTaskIntake) (db db' : Database) :
    Prop where
  outbox : db'.outbox = db.outbox ++ [prepareItemRow crypto run command intake.sourceRef]
  payload : getJsonPayload (taskConfirmationPrepareRef crypto intake.sourceRef run.profileId) db' =
    .ok (setupPreparePayload run command intake)
  blobs : ∀ r b, db'.blob? r = some b → db.blob? r = some b ∨
    r = taskConfirmationPrepareRef crypto intake.sourceRef run.profileId
  grows : db.Grows db'

theorem queuePreparation_new
    (hkey : db.outboxForKey? (prepareAfterSetupKey command.idempotencyKey) = none)
    (hblob : db.blob? (taskConfirmationPrepareRef crypto intake.sourceRef run.profileId) = none)
    (hid : Table.find FeishuOutbox.id run.prepareRow.id db.outbox = none)
    (hthread : db.hasThread command.threadId = true) :
    ∃ db', queuePreparation crypto run command intake db = .ok db' ∧
      QueuesPreparation crypto run command intake db db' := by
  have hresolved := resolvedContentRef_some crypto (setupPreparePayload run command intake)
    (prepareRef_ne_empty crypto intake.sourceRef run.profileId)
  obtain ⟨db₁, hstore, hdb₁⟩ : ∃ db₁, storeJsonPayload
      (taskConfirmationPrepareRef crypto intake.sourceRef run.profileId)
      (setupPreparePayload run command intake)
      (dumps .compact (.obj (setupPreparePayload run command intake)))
      (stableHash crypto (setupPreparePayload run command intake)) db = .ok db₁ ∧
      db₁ = db.insertBlobOrIgnore (jsonBlob
        (taskConfirmationPrepareRef crypto intake.sourceRef run.profileId)
        (setupPreparePayload run command intake)
        (dumps .compact (.obj (setupPreparePayload run command intake)))
        (stableHash crypto (setupPreparePayload run command intake))) :=
    ⟨_, storeJsonPayload_eq_ok.mpr (.inr ⟨hblob, rfl⟩), rfl⟩
  have hstored : getJsonPayload (taskConfirmationPrepareRef crypto intake.sourceRef run.profileId)
      db₁ = .ok (setupPreparePayload run command intake) := by
    simp [getJsonPayload, hdb₁, blob?_insertBlobOrIgnore, hblob, jsonBlob]
  obtain ⟨db₂, henqueue, houtbox⟩ := @enqueueJson_new db₁ crypto run.prepareRow
    .taskConfirmationPrepare (prepareAfterSetupKey command.idempotencyKey)
    (setupPreparePayload run command intake) (some command.threadId)
    (some (taskConfirmationPrepareRef crypto intake.sourceRef run.profileId))
    (by rw [hdb₁]; exact hkey)
    (by
      intro b hb
      rw [hresolved, hdb₁, blob?_insertBlobOrIgnore, hblob] at hb
      simp only [jsonBlob, if_true, Option.none_or, Option.some.injEq] at hb
      rw [← hb])
    (by rw [hdb₁]; exact hid)
    (by
      rintro id ⟨⟩
      rw [hdb₁]
      exact hthread)
  have hgrows := enqueueJson_grows henqueue
  refine ⟨db₂, ?_, ?_⟩
  · unfold queuePreparation
    simp only [hstore, bind, Except.bind, hstored, henqueue]
    rfl
  · constructor
    · rw [houtbox, hresolved, hdb₁]
      rfl
    · exact hgrows.getJsonPayload hstored
    · intro r b hb
      rcases blob?_of_enqueueJson henqueue hb with hb | hr
      · exact (blob?_of_storeJsonPayload hstore hb).imp_right And.left
      · exact .inr (hr.trans hresolved)
    · exact (storeJsonPayload_grows hstore).trans hgrows

theorem queueSavedCard_new
    (hkey : db.outboxForKey? (setupCardSavedKey command.idempotencyKey) = none)
    (hblob : ∀ payload b, db.blob? (resolvedContentRef crypto payload none) = some b →
      b.sha256 = stableHash crypto payload)
    (hid : Table.find FeishuOutbox.id run.cardRow.id db.outbox = none)
    (hthread : db.hasThread command.threadId = true) :
    ∃ db', queueSavedCard crypto run command db = .ok db' ∧ db.Grows db' ∧
      db.outbox ⊆ db'.outbox := by
  cases hmessage : command.openMessageId with
  | none =>
    refine ⟨db, ?_, .refl db, List.Subset.refl _⟩
    simp [queueSavedCard, hmessage]
  | some openMessageId =>
    obtain ⟨db₁, henqueue, houtbox⟩ := @enqueueJson_new db crypto run.cardRow .cardUpdate
      (setupCardSavedKey command.idempotencyKey) (savedCardUpdate command openMessageId)
      (some command.threadId) none hkey (hblob _) hid (by rintro id ⟨⟩; exact hthread)
    refine ⟨db₁, ?_, enqueueJson_grows henqueue, ?_⟩
    · simp [queueSavedCard, hmessage, henqueue, Except.map, Except.mapError]
    · rw [houtbox]
      exact List.subset_append_left _ _

end Statements

section Setup

variable {crypto : Crypto} {lib : UrlLibrary} {settings : Settings} {run : SetupRun}
  {callback : VerifiedFeishuCallback} {command : FeishuModelProfileSetupCommand}
  {db db' : SetupDatabase}

/-- What a setup that goes through has passed. -/
theorem setupModelProfile_passes
    (h : setupModelProfile crypto run callback command db = .ok db') :
    (∃ stored, storeRedactedPayload crypto callback db.toDatabase = .ok stored) ∧
      ∃ profiles, createSetupProfile run callback command db.profiles = .ok profiles := by
  unfold setupModelProfile at h
  rw [Except.ite_error_eq_ok] at h
  obtain ⟨_, h⟩ := h
  obtain ⟨stored, hstored, h⟩ := Except.bind_eq_ok.mp h
  obtain ⟨intake, _, h⟩ := Except.bind_eq_ok.mp h
  obtain ⟨profiles, hprofiles, _⟩ := Except.bind_eq_ok.mp h
  exact ⟨⟨stored, hstored⟩, profiles, hprofiles⟩

/-- A valid setup under a free name goes through. -/
theorem ValidSetup.stored (hvalid : ValidSetup crypto lib settings run callback command db)
    (hredact : (redactModelSetupPayload callback.payload).isSome = true)
    (hfree : ∀ p ∈ db.profiles, ¬command.Names p) :
    ∃ db', setupModelProfile crypto run callback command db = .ok db' ∧
      SetupStored crypto run callback command db db' := by
  obtain ⟨redacted, hredact⟩ := Option.isSome_iff_exists.mp hredact
  obtain ⟨intake, hintake⟩ := hvalid.original
  obtain ⟨_, _, _, hintakeValid⟩ := originalIntake_eq_ok.mp hintake
  have hsource := sourceRef_of_validate hintakeValid
  obtain ⟨stored, hstored, hdb⟩ : ∃ stored,
      storeRedactedPayload crypto callback db.toDatabase = .ok stored ∧
        stored = db.insertBlobOrIgnore (jsonBlob (buildPayloadRef callback) redacted
          (dumps .compact (.obj redacted)) (stableHash crypto redacted)) :=
    ⟨_, (storeRedactedPayload_eq_ok hvalid.first.payload).mpr ⟨redacted, hredact, rfl⟩, rfl⟩
  have hgrows : db.toDatabase.Grows stored := by
    rw [hdb]
    exact .insertBlobOrIgnore _
  have hblobs : ∀ r b, stored.blob? r = some b →
      db.blob? r = some b ∨ r = buildPayloadRef callback := by
    intro r b hb
    rw [hdb, blob?_insertBlobOrIgnore] at hb
    rcases Option.or_eq_some_iff.mp hb with hb | ⟨_, hb⟩
    · exact .inl hb
    · split_ifs at hb with hr
      exact .inr hr.symm
  obtain ⟨profiles, hprofiles⟩ :=
    (createSetupProfile_iff hvalid.request hvalid.fresh.profile).mpr hfree
  obtain ⟨recorded, hrecorded, hrow⟩ : ∃ recorded,
      recordSetup run callback command stored = .ok recorded ∧
        recorded = { stored with cardActions := stored.cardActions ++
          [setupActionRow command run.profileId (buildPayloadRef callback)] } := by
    refine ⟨_, recordSetup_eq_ok.mpr (Database.insertCardAction_eq_ok.mpr ⟨?_, ?_, ?_, rfl⟩), rfl⟩
    · rw [hdb]
      exact hvalid.first.event
    · rw [hdb]
      exact hvalid.first.key
    · exact hgrows.threads hvalid.thread
  have hprepareRef : recorded.blob?
      (taskConfirmationPrepareRef crypto intake.sourceRef run.profileId) = none := by
    cases hb : stored.blob? (taskConfirmationPrepareRef crypto intake.sourceRef run.profileId) with
    | none =>
      rw [hrow]
      exact hb
    | some b =>
      exfalso
      rcases hblobs _ b hb with hb | hr
      · rw [hsource, hvalid.fresh.prepareRef] at hb
        cases hb
      · exact buildPayloadRef_ne_prepareRef _ _ hr.symm
  have houtbox : recorded.outbox = db.outbox := by
    rw [hrow, hdb]
    rfl
  have hthread : recorded.hasThread command.threadId = true := by
    rw [hrow]
    exact hgrows.threads hvalid.thread
  obtain ⟨queued, hqueued, hadds⟩ := @queuePreparation_new crypto run command intake recorded
    (by
      unfold Database.outboxForKey?
      rw [houtbox]
      exact hvalid.first.prepare)
    hprepareRef
    (by
      rw [houtbox]
      exact hvalid.fresh.prepareRow)
    hthread
  have hsavedKey : queued.outboxForKey? (setupCardSavedKey command.idempotencyKey) = none := by
    have hnone := hvalid.first.saved
    unfold Database.outboxForKey? at hnone ⊢
    rw [hadds.outbox, houtbox, Table.find_append_singleton, hnone]
    simp [prepareItemRow, pendingOutbox, prepareAfterSetupKey_ne_saved]
  have haddressed : ∀ payload b, queued.blob? (resolvedContentRef crypto payload none) = some b →
      b.sha256 = stableHash crypto payload := by
    intro payload b hb
    rcases hadds.blobs _ b hb with hb | hr
    · rw [hrow] at hb
      rcases hblobs _ b hb with hb | hr
      · exact hvalid.addressed payload b hb
      · exact absurd hr (contentRef_ne_buildPayloadRef payload)
    · exact absurd hr (contentRef_ne_prepareRef payload _ _)
  have hcardRow : Table.find FeishuOutbox.id run.cardRow.id queued.outbox = none := by
    rw [hadds.outbox, houtbox, Table.find_append_singleton, hvalid.fresh.cardRow]
    simp [prepareItemRow, pendingOutbox, Ne.symm hvalid.fresh.rows]
  obtain ⟨answered, hanswered, hagrows, hsubset⟩ := queueSavedCard_new hsavedKey haddressed
    hcardRow (hadds.grows.threads hthread)
  refine ⟨{ answered with profiles := profiles }, ?_, ?_⟩
  · unfold setupModelProfile setupIsDuplicate
    rw [hvalid.first.key, Option.isSome_none, if_neg Bool.false_ne_true]
    refine Except.bind_eq_ok.mpr ⟨stored, hstored, ?_⟩
    refine Except.bind_eq_ok.mpr ⟨intake, originalIntake_grows hgrows hintake, ?_⟩
    refine Except.bind_eq_ok.mpr ⟨profiles, hprofiles, ?_⟩
    refine Except.bind_eq_ok.mpr ⟨recorded, hrecorded, ?_⟩
    refine Except.bind_eq_ok.mpr ⟨queued, hqueued, ?_⟩
    exact Except.bind_eq_ok.mpr ⟨answered, hanswered, rfl⟩
  · constructor
    · exact profile_of_createSetupProfile hprofiles
    · refine ⟨prepareItemRow crypto run command intake.sourceRef, ?_, rfl, rfl, intake, hintake, ?_⟩
      · apply hsubset
        rw [hadds.outbox]
        exact List.mem_append_right _ (List.mem_singleton_self _)
      · exact hagrows.getJsonPayload hadds.payload

theorem ValidSetup.enqueue_eq (hvalid : ValidSetup crypto lib settings run callback command db) :
    enqueueModelProfileSetup crypto lib settings run callback db =
      .ok (setupResult run callback command db
        (setupModelProfile crypto run callback command db)) := by
  obtain ⟨key, hkey, hblank⟩ := hvalid.configured
  unfold enqueueModelProfileSetup
  simp only [hvalid.parsed, hvalid.owner, Option.mem_def.mp hkey, hblank, Bool.true_eq_false,
    if_false]

theorem ValidSetup.completes (hvalid : ValidSetup crypto lib settings run callback command db)
    (hredact : (redactModelSetupPayload callback.payload).isSome = true)
    (hfree : ∀ p ∈ db.profiles, ¬command.Names p) :
    SetupCompletes crypto lib settings run callback command db := by
  obtain ⟨db', hrun, hstored⟩ := hvalid.stored hredact hfree
  refine ⟨_, _, hvalid.enqueue_eq, ?_, ?_⟩
  · rw [hrun]
  · rw [hrun]
    exact hstored

/-- A setup that is completed has found its name free. -/
theorem ValidSetup.of_completes (hvalid : ValidSetup crypto lib settings run callback command db)
    (h : SetupCompletes crypto lib settings run callback command db) :
    (redactModelSetupPayload callback.payload).isSome = true ∧
      ∀ p ∈ db.profiles, ¬command.Names p := by
  obtain ⟨result, db', hresult, hsaved, _⟩ := h
  rw [hvalid.enqueue_eq] at hresult
  have hpair := Except.ok.inj hresult
  cases hrun : setupModelProfile crypto run callback command db with
  | error exc =>
    rw [hrun] at hpair
    cases exc <;> (obtain ⟨rfl, rfl⟩ := Prod.mk.inj hpair; cases hsaved)
  | ok final =>
    obtain ⟨⟨stored, hstored⟩, hprofiles⟩ := setupModelProfile_passes hrun
    obtain ⟨redacted, hredacted, _⟩ :=
      (storeRedactedPayload_eq_ok hvalid.first.payload).mp hstored
    exact ⟨Option.isSome_iff_exists.mpr ⟨redacted, hredacted⟩,
      (createSetupProfile_iff hvalid.request hvalid.fresh.profile).mp hprofiles⟩

/-- A valid setup is stored exactly when its payload can be redacted and the name it asks for
was never that of a profile the owner has revoked. -/
theorem setupCompletes_iff (hvalid : ValidSetup crypto lib settings run callback command db)
    (hactive : ∀ p ∈ db.profiles, p.status = .active → ¬command.Names p) :
    SetupCompletes crypto lib settings run callback command db ↔
      (redactModelSetupPayload callback.payload).isSome = true ∧
        ∀ p ∈ db.profiles, p.status = .revoked → ¬command.Names p := by
  constructor
  · intro h
    obtain ⟨hredact, hfree⟩ := hvalid.of_completes h
    exact ⟨hredact, fun p hp _ => hfree p hp⟩
  · rintro ⟨hredact, hrevoked⟩
    apply hvalid.completes hredact
    intro p hp
    cases hstatus : p.status with
    | active => exact hactive p hp hstatus
    | revoked => exact hrevoked p hp hstatus

end Setup

def deepseekUrls : UrlLibrary where
  urlparse url :=
    if url = "https://api.deepseek.com/" then
      .ok ⟨"https", some "api.deepseek.com", none, none, "", ""⟩
    else .error "Invalid URL"
  ipAddress _ := none
  isLoopback _ := false
  isPrivate _ := false
  isLinkLocal _ := false
  isMulticast _ := false
  isUnspecified _ := false
  isReserved _ := false

def setupSettings : Settings := { modelSecretEncryptionKey := some "secret" }

def setupSourceRef : String := "feishu://message/unknown_tenant/oc_chat/om_1"

def setupEvent : Dict := Dict.ofList
  [("event", .obj (Dict.ofList
    [("message", .obj (Dict.ofList
        [("chat_id", .str "oc_chat"), ("message_id", .str "om_1"), ("content", .str "岗位")])),
      ("sender", .obj (Dict.ofList
        [("sender_id", .obj (Dict.ofList [("open_id", .str "ou_1")]))]))]))]

def setupThread : GraphThread where
  id := feishuThreadId .plain setupSourceRef
  source := "feishu"
  sourceRef := setupSourceRef
  taskType := "task_intake"
  councilMode := none
  modeReason := none
  status := .queued
  stateSummary := []

def setupForm : Dict := Dict.ofList
  [("api_key", .str "sk-1"), ("base_url", .str "https://api.deepseek.com/")]

def setupCallback : VerifiedFeishuCallback where
  payload := Dict.ofList
    [("event", .obj (Dict.ofList
      [("operator", .obj (Dict.ofList [("open_id", .str "ou_1")])),
        ("context", .obj (Dict.ofList [("open_message_id", .str "om_2")])),
        ("action", .obj (Dict.ofList
          [("value", .obj (modelSetupValue setupThread.id setupSourceRef "artifact://event"
              "oc_chat" (some "ou_1") (some "open_id") .deepseek)),
            ("form_value", .obj setupForm)]))]))]
  rawBody := ⟨#[]⟩
  payloadHash := "click"
  isChallenge := false
  challenge := none
  eventId := some "click"
  eventType := "card.action.trigger"
  tenantKey := none
  appId := none
  messageId := none

def setupCommand : FeishuModelProfileSetupCommand where
  eventId := "click"
  threadId := setupThread.id
  sourceRef := setupSourceRef
  eventPayloadRef := "artifact://event"
  chatId := "oc_chat"
  modelOwnerUserId := "ou_1"
  modelOwnerIdType := .openId
  provider := .deepseek
  modelName := "deepseek-v4-pro"
  apiKey := "sk-1"
  displayName := none
  baseUrl := some "https://api.deepseek.com"
  usage := .chat
  makeDefault := true
  idempotencyKey := modelSetupKey setupSourceRef
  openMessageId := some "om_2"
  openChatId := none
  cardUpdateTokenRef := "artifact://feishu-callback/click"
  operatorOpenId := some "ou_1"
  operatorUserId := none
  operatorUnionId := none

def setupRun : SetupRun where
  profileId := .ofNat 9
  encryptedApiKey := "v1:AA:AA:AA"
  prepareRow := ⟨.ofNat 1, 0⟩
  cardRow := ⟨.ofNat 2, 0⟩
  integrityText := ""
  validationText := ""

def setupDatabase (profiles : ProfileTable) : SetupDatabase where
  artifactBlobs := [jsonBlob "artifact://event" setupEvent "" "event"]
  graphThreads := [setupThread]
  profiles := profiles

theorem validSetup_setupCommand {profiles : ProfileTable}
    (hid : profiles.profile? setupRun.profileId = none) :
    ValidSetup .plain deepseekUrls setupSettings setupRun setupCallback setupCommand
      (setupDatabase profiles) where
  parsed := Except.toOption_eq_some.mp (by decide +kernel)
  owner := by decide
  configured := ⟨"secret", rfl, by decide +kernel⟩
  request := by decide +kernel
  original := by
    have hintake : (originalIntake .plain setupCallback setupCommand
        (setupDatabase []).toDatabase).toOption.isSome = true := by
      decide +kernel
    obtain ⟨intake, hintake⟩ := Option.isSome_iff_exists.mp hintake
    exact ⟨intake, Except.toOption_eq_some.mp hintake⟩
  thread := by
    have hthread : (setupDatabase []).hasThread setupCommand.threadId = true := by decide +kernel
    exact hthread
  first := by
    have hblob : (setupDatabase []).blob? (buildPayloadRef setupCallback) = none := by
      decide +kernel
    exact ⟨rfl, rfl, hblob, rfl, rfl⟩
  fresh := by
    have hblob : (setupDatabase []).blob? (taskConfirmationPrepareRef .plain
        setupCommand.sourceRef setupRun.profileId) = none := by
      decide +kernel
    exact ⟨hid, hblob, rfl, rfl, by decide +kernel⟩
  addressed := by
    intro payload b hb
    obtain rfl := List.mem_singleton.mp (Table.find_mem hb)
    have hlist : "artifact://event".toList ++ [] =
        "artifact://outbox/".toList ++ (stableHash .plain payload).toList := by
      rw [List.append_nil, ← contentRef_toList]
      exact congrArg String.toList (Table.find_key hb)
    exact absurd hlist (append_ne_append 12 (by decide) (by decide) (by decide) _ _)

/-- The first setup of the model is completed. -/
theorem setupCompletes_iff_deepseek :
    SetupCompletes .plain deepseekUrls setupSettings setupRun setupCallback setupCommand
      (setupDatabase []) :=
  (setupCompletes_iff (validSetup_setupCommand rfl) (fun p hp => by cases hp)).mpr
    ⟨by decide +kernel, fun p hp => by cases hp⟩

def firstRequest : CreateModelProfileRequest :=
  { sampleRequest .chat with
    provider := .deepseek
    modelName := "deepseek-v4-pro"
    modelName_length := by decide }

def revokedOps : List ProfileOp :=
  [.create (.ofNat 1) none "oc_chat" "ou_1" firstRequest "v1:AA:AA:AA",
    .revoke (.ofNat 1) "oc_chat" "ou_1"]

/-- The revoked profile keeps the name, and the second setup fails. -/
theorem not_setupsComplete : ¬SetupsComplete := by
  intro hall
  have hrun : exec ProfileOp.commit [] revokedOps =
      some ((exec ProfileOp.commit [] revokedOps).getD []) := rfl
  have hrevoked : ∀ p ∈ (exec ProfileOp.commit [] revokedOps).getD [], p.status = .revoked := by
    decide +kernel
  have hnamed : ∃ p ∈ (exec ProfileOp.commit [] revokedOps).getD [], setupCommand.Names p := by
    refine ⟨_, List.mem_cons_self, ?_, ?_⟩
    · decide +kernel
    · decide +kernel
  have hvalid := @validSetup_setupCommand ((exec ProfileOp.commit [] revokedOps).getD [])
    (by decide +kernel)
  have hcompletes := hall _ _ _ _ _ _ (setupDatabase _) revokedOps hrun hvalid
    (fun p hp hactive => by
      rw [hrevoked p hp] at hactive
      cases hactive)
  obtain ⟨p, hp, hnames⟩ := hnamed
  exact (hvalid.of_completes hcompletes).2 p hp hnames

end Headhunt.Feishu
