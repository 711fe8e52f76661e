import Headhunt.Feishu.EventIntake

/-! Runs of the callback service: every accepted event is kept once, and a redelivery is known
as one unless what it would store under a ref of the message has changed. -/
namespace Headhunt.Feishu
open Headhunt.Core Headhunt.Gateways Headhunt.ModelProfiles Headhunt.Storage Py Transition

section Setup

variable {crypto : Crypto} {lib : UrlLibrary} {settings : Settings} {run : SetupRun}
  {callback : VerifiedFeishuCallback} {command : FeishuModelProfileSetupCommand}
  {intake : FeishuTaskIntake} {db db' : Database}

theorem storeRedactedPayload_statements (h : storeRedactedPayload crypto callback db = .ok db') :
    Statements intakeScope db db' := by
  unfold storeRedactedPayload at h
  cases hredact : redactModelSetupPayload callback.payload with
  | none => simp [hredact] at h
  | some redacted =>
    rw [hredact] at h
    exact storeJsonPayload_statements (Except.mapError_eq_ok.mp h) trivial

theorem queuePreparation_statements (h : queuePreparation crypto run command intake db = .ok db') :
    Statements intakeScope db db' := by
  unfold queuePreparation at h
  simp only [Except.mapError_eq_ok, Except.map_eq_ok, Except.bind_eq_ok] at h
  obtain ⟨⟨ref, queued⟩, ⟨stored, hstored, payload, _, hqueued⟩, rfl⟩ := h
  exact (storeJsonPayload_statements hstored trivial).trans
    (enqueueJson_statements hqueued trivial fun _ => trivial)

theorem queueSavedCard_statements (h : queueSavedCard crypto run command db = .ok db') :
    Statements intakeScope db db' := by
  unfold queueSavedCard at h
  cases hmessage : command.openMessageId with
  | none =>
    rw [hmessage] at h
    obtain rfl := Except.ok.inj h
    exact .refl
  | some openMessageId =>
    rw [hmessage] at h
    simp only [Except.mapError_eq_ok, Except.map_eq_ok] at h
    obtain ⟨⟨ref, queued⟩, hqueued, rfl⟩ := h
    exact enqueueJson_statements hqueued trivial fun _ => trivial

theorem createSetupProfile_commit {profiles profiles' : ProfileTable}
    (h : createSetupProfile run callback command profiles = .ok profiles') :
    ∃ op : ProfileOp, op.commit profiles = some profiles' := by
  unfold createSetupProfile at h
  cases hrequest : command.request? with
  | none => simp [hrequest] at h
  | some request =>
    rw [hrequest] at h
    refine ⟨.create run.profileId callback.tenantKey command.chatId command.modelOwnerUserId request
      run.encryptedApiKey, ?_⟩
    simp [ProfileOp.commit, ProfileOp.run, Except.mapError_eq_ok.mp h, Except.toOption]

/-- A setup writes statements of the service, and at most one profile. -/
theorem setupModelProfile_statements {db db' : SetupDatabase}
    (h : setupModelProfile crypto run callback command db = .ok db') :
    Statements intakeScope db.toDatabase db'.toDatabase ∧
      ∃ op : ProfileOp, op.commit db.profiles = some db'.profiles := by
  unfold setupModelProfile at h
  simp only [Except.ite_error_eq_ok, Except.bind_eq_ok, Except.ok.injEq] at h
  obtain ⟨_, stored, hstored, intake, _, profiles, hprofiles, recorded, hrecorded, queued, hqueued,
    answered, hanswered, rfl⟩ := h
  refine ⟨?_, createSetupProfile_commit hprofiles⟩
  have haction : Statements intakeScope stored recorded :=
    .single (.cardAction (recordSetup_eq_ok.mp hrecorded))
  exact (((storeRedactedPayload_statements hstored).trans haction).trans
    (queuePreparation_statements hqueued)).trans (queueSavedCard_statements hanswered)

theorem enqueueModelProfileSetup_statements {result : ModelSetupResult} {db db' : SetupDatabase}
    (h : enqueueModelProfileSetup crypto lib settings run callback db = .ok (result, db')) :
    Statements intakeScope db.toDatabase db'.toDatabase ∧
      (db'.profiles = db.profiles ∨
        ∃ op : ProfileOp, op.commit db.profiles = some db'.profiles) := by
  have hsame : Statements intakeScope db.toDatabase db.toDatabase ∧
      (db.profiles = db.profiles ∨ ∃ op : ProfileOp, op.commit db.profiles = some db.profiles) :=
    ⟨.refl, .inl rfl⟩
  unfold enqueueModelProfileSetup at h
  split at h
  · cases h
  · rename_i command _
    split_ifs at h
    · obtain ⟨-, rfl⟩ := Prod.mk.inj (Except.ok.inj h)
      exact hsame
    · split at h
      · obtain ⟨-, rfl⟩ := Prod.mk.inj (Except.ok.inj h)
        exact hsame
      · split_ifs at h
        cases hsetup : setupModelProfile crypto run callback command db with
        | ok saved =>
          rw [hsetup] at h
          obtain ⟨-, rfl⟩ := Prod.mk.inj (Except.ok.inj h)
          obtain ⟨hstatements, hprofiles⟩ := setupModelProfile_statements hsetup
          exact ⟨hstatements, .inr hprofiles⟩
        | error exc =>
          rw [hsetup] at h
          cases exc <;> (obtain ⟨-, rfl⟩ := Prod.mk.inj (Except.ok.inj h); exact hsame)

end Setup

section Profiles

variable {profiles profiles' : ProfileTable}

def profileIdent (profile : UserModelProfile) : UUID × String × String × ModelUsage :=
  (profile.id, profile.slot)

theorem map_profileIdent_clear (slot : String × String × ModelUsage) (profiles : ProfileTable) :
    (profiles.map (UserModelProfile.clearedFor slot)).map profileIdent =
      profiles.map profileIdent := by
  rw [List.map_map]
  apply List.map_congr_left
  intro p _
  simp only [Function.comp_apply, profileIdent, id_clearedFor, slot_clearedFor]

theorem idents_commit {op : ProfileOp} (h : op.commit profiles = some profiles') :
    profiles.map profileIdent ⊆ profiles'.map profileIdent := by
  obtain rfl := Option.some.inj h
  cases hrun : op.run profiles with
  | error exc => exact List.Subset.refl _
  | ok committed =>
    change _ ⊆ committed.map profileIdent
    cases op with
    | create id tenantId guildId userId request encryptedApiKey =>
      obtain ⟨row, _, _, _, rfl⟩ := createProfile_eq_ok hrun
      rw [List.map_append]
      apply List.subset_append_of_subset_left
      split_ifs
      · rw [map_profileIdent_clear]
        exact List.Subset.refl _
      · exact List.Subset.refl _
    | setDefault profileId guildId userId usage =>
      simp only [ProfileOp.run, ProfileTable.setDefault, Except.bind_eq_ok, Except.ok.injEq,
        clearDefault_eq_map] at hrun
      obtain ⟨profile, _, rfl⟩ := hrun
      have hkept : ∀ p : UserModelProfile, profileIdent { p with isDefault := true } = profileIdent p :=
        fun _ => rfl
      rw [Table.map_modify hkept, map_profileIdent_clear]
      exact List.Subset.refl _
    | revoke profileId guildId userId =>
      simp only [ProfileOp.run, ProfileTable.revoke, Except.bind_eq_ok, Except.ok.injEq] at hrun
      obtain ⟨profile, _, rfl⟩ := hrun
      have hkept : ∀ p : UserModelProfile, profileIdent p.revoked = profileIdent p := fun _ => rfl
      rw [Table.map_modify hkept]
      exact List.Subset.refl _

theorem idents_step (h : profiles' = profiles ∨
    ∃ op : ProfileOp, op.commit profiles = some profiles') :
    profiles.map profileIdent ⊆ profiles'.map profileIdent := by
  rcases h with rfl | ⟨op, hop⟩
  · exact List.Subset.refl _
  · exact idents_commit hop

end Profiles

section Runs

variable (crypto : Crypto) (lib : UrlLibrary) (settings : Settings) (defaultChatId : Option String)

/-- One committed transaction, and the event it queued. The other transactions are those of the
graph runs, of the other cards and of the worker. -/
inductive IntakeStep : IntakeDatabase → Option VerifiedFeishuCallback → IntakeDatabase → Prop
  | event {row : RowDefaults} {callback : VerifiedFeishuCallback} {result : FeishuEnqueueResult}
    {db db' : IntakeDatabase}
    (h : enqueueEvent crypto defaultChatId row callback db = .ok (result, db')) :
    IntakeStep db (if result.status = .queued then some callback else none) db'
  | setup {run : SetupRun} {callback : VerifiedFeishuCallback} {result : ModelSetupResult}
    {db : IntakeDatabase} {tables : SetupDatabase}
    (h : enqueueModelProfileSetup crypto lib settings run callback db.toSetupDatabase =
      .ok (result, tables)) :
    IntakeStep db none { db with toSetupDatabase := tables }
  | profile {op : ProfileOp} {db : IntakeDatabase} {profiles : ProfileTable}
    (h : op.commit db.profiles = some profiles) : IntakeStep db none { db with profiles := profiles }
  | other {scope : Scope} {db : IntakeDatabase} {tables : Database}
    (h : Statements scope db.toDatabase tables) :
    IntakeStep db none { db with toDatabase := tables }

/-- A run, and the events it queued, in order. -/
inductive IntakeRun (db : IntakeDatabase) : List VerifiedFeishuCallback → IntakeDatabase → Prop
  | refl : IntakeRun db [] db
  | tail {queued : List VerifiedFeishuCallback} {event : Option VerifiedFeishuCallback}
    {db' db'' : IntakeDatabase} (h : IntakeRun db queued db')
    (step : IntakeStep crypto lib settings defaultChatId db' event db'') :
    IntakeRun db (queued ++ event.toList) db''

end Runs

section Step

variable {crypto : Crypto} {lib : UrlLibrary} {settings : Settings} {defaultChatId : Option String}
  {db db' : IntakeDatabase} {event : Option VerifiedFeishuCallback}

def Queues (crypto : Crypto) (defaultChatId : Option String) (callback : VerifiedFeishuCallback)
    (db db' : IntakeDatabase) : Prop :=
  ∃ row intake chatId profile, parseTaskIntake crypto callback.payload callback.tenantKey =
      .ok intake ∧ eventChatId defaultChatId intake = some chatId ∧
    defaultModelProfile intake db.profiles = .ok profile ∧
    Recorded crypto row callback intake
      (eventPlan crypto intake chatId (buildPayloadRef callback) profile) db db'

theorem queues_of_enqueueEvent {row : RowDefaults} {callback : VerifiedFeishuCallback}
    {result : FeishuEnqueueResult}
    (h : enqueueEvent crypto defaultChatId row callback db = .ok (result, db')) :
    result.status = .queued ∧ Queues crypto defaultChatId callback db db' ∨
      result.status = .duplicate ∧ db' = db := by
  obtain ⟨intake, chatId, hintake, hchat, ⟨hstatus, hrecord⟩ | ⟨hstatus, hsame, _⟩⟩ :=
    enqueueEvent_eq_ok h
  · obtain ⟨profile, hprofile, hrecorded⟩ := recordEvent_eq_ok hrecord
    exact .inl ⟨hstatus, row, intake, chatId, profile, hintake, hchat, hprofile, hrecorded⟩
  · exact .inr ⟨hstatus, hsame⟩

theorem IntakeStep.cases (h : IntakeStep crypto lib settings defaultChatId db event db') :
    (∃ scope, Statements scope db.toDatabase db'.toDatabase) ∧
      (db'.profiles = db.profiles ∨ ∃ op : ProfileOp, op.commit db.profiles = some db'.profiles) ∧
      (event = none ∧ db'.eventLogs = db.eventLogs ∨
        ∃ callback, event = some callback ∧ Queues crypto defaultChatId callback db db') := by
  cases h with
  | event henqueue =>
    rcases queues_of_enqueueEvent henqueue with ⟨hstatus, hqueues⟩ | ⟨hstatus, rfl⟩
    · have hrecorded := hqueues
      obtain ⟨_, _, _, _, _, _, _, hrecorded⟩ := hrecorded
      refine ⟨⟨_, hrecorded.statements⟩, .inl hrecorded.profiles, .inr ⟨_, ?_, hqueues⟩⟩
      rw [if_pos hstatus]
    · refine ⟨⟨intakeScope, .refl⟩, .inl rfl, .inl ⟨?_, rfl⟩⟩
      rw [hstatus]
      rfl
  | setup hsetup =>
    obtain ⟨hstatements, hprofiles⟩ := enqueueModelProfileSetup_statements hsetup
    exact ⟨⟨_, hstatements⟩, hprofiles, .inl ⟨rfl, rfl⟩⟩
  | profile hcommit => exact ⟨⟨intakeScope, .refl⟩, .inr ⟨_, hcommit⟩, .inl ⟨rfl, rfl⟩⟩
  | other hstatements => exact ⟨⟨_, hstatements⟩, .inl rfl, .inl ⟨rfl, rfl⟩⟩

end Step

/-- The item goes on with the event: it refers to the preparation with a chat profile of the
sender, or to the card that asks for one. -/
def GoesOn (crypto : Crypto) (defaultChatId : Option String) (callback : VerifiedFeishuCallback)
    (db : IntakeDatabase) (item : FeishuOutbox) : Prop :=
  ∃ intake chatId profile,
    parseTaskIntake crypto callback.payload callback.tenantKey = .ok intake ∧
    eventChatId defaultChatId intake = some chatId ∧
    (∀ p ∈ profile, ∃ userId, nonemptyText intake.modelOwnerUserId = some userId ∧
      p.slot = (intake.modelGuildId, userId, .chat) ∧
      profileIdent p ∈ db.profiles.map profileIdent) ∧
    item.kind = (eventPlan crypto intake chatId (buildPayloadRef callback) profile).kind ∧
    item.payloadRef = (eventPlan crypto intake chatId (buildPayloadRef callback) profile).ref ∧
    ∃ b, db.blob? item.payloadRef = some b ∧ b.sha256 = stableHash crypto
      (eventPlan crypto intake chatId (buildPayloadRef callback) profile).payload

/-- The event has one item, and what the item and the log refer to is stored. -/
structure KeptOnce (crypto : Crypto) (defaultChatId : Option String)
    (callback : VerifiedFeishuCallback) (db : IntakeDatabase) : Prop where
  item : ∃ item ∈ db.outbox, item.idempotencyKey = buildEventIdempotencyKey callback ∧
    (∀ r ∈ db.outbox, r.idempotencyKey = buildEventIdempotencyKey callback → r = item) ∧
    GoesOn crypto defaultChatId callback db item
  event : ∃ b, db.blob? (buildPayloadRef callback) = some b ∧ b.sha256 = callback.payloadHash

/-- Every queued event is logged and kept once, and no two of them are the same event or the same
message. -/
structure QueuedOnce (crypto : Crypto) (defaultChatId : Option String)
    (queued : List VerifiedFeishuCallback) (db : IntakeDatabase) : Prop where
  logs : db.eventLogs = queued.map eventLog
  distinct : queued.Pairwise fun earlier later => ¬(eventLog later).Clashes (eventLog earlier)
  kept : ∀ callback ∈ queued, KeptOnce crypto defaultChatId callback db

structure IntakeInv (crypto : Crypto) (defaultChatId : Option String)
    (queued : List VerifiedFeishuCallback) (db : IntakeDatabase) : Prop where
  constrained : db.toDatabase.Constrained
  profiles : Tidy db.profiles
  logs : db.eventLogs = queued.map eventLog
  distinct : queued.Pairwise fun earlier later => ¬(eventLog later).Clashes (eventLog earlier)
  items : ∀ callback ∈ queued,
    ∃ item, db.outboxForKey? (buildEventIdempotencyKey callback) = some item ∧
      GoesOn crypto defaultChatId callback db item
  events : ∀ callback ∈ queued,
    ∃ b, db.blob? (buildPayloadRef callback) = some b ∧ b.sha256 = callback.payloadHash

section Invariant

variable {crypto : Crypto} {lib : UrlLibrary} {settings : Settings} {defaultChatId : Option String}
  {queued : List VerifiedFeishuCallback} {db db' : IntakeDatabase}
  {event : Option VerifiedFeishuCallback}

theorem intakeInv_init : IntakeInv crypto defaultChatId [] {} where
  constrained := ⟨List.nodup_nil, List.nodup_nil, List.nodup_nil, List.nodup_nil, List.nodup_nil,
    fun p hp => by cases hp⟩
  profiles := tidy_nil
  logs := rfl
  distinct := .nil
  items callback h := by cases h
  events callback h := by cases h

theorem tidy_step {profiles profiles' : ProfileTable} (ht : Tidy profiles)
    (h : profiles' = profiles ∨ ∃ op : ProfileOp, op.commit profiles = some profiles') :
    Tidy profiles' := by
  rcases h with rfl | ⟨op, hop⟩
  · exact ht
  · exact ht.commit hop

theorem GoesOn.grows {callback : VerifiedFeishuCallback} {item item' : FeishuOutbox}
    (h : GoesOn crypto defaultChatId callback db item) (hgrows : db.toDatabase.Grows db'.toDatabase)
    (hidents : db.profiles.map profileIdent ⊆ db'.profiles.map profileIdent)
    (hsame : SameItem item item') : GoesOn crypto defaultChatId callback db' item' := by
  obtain ⟨intake, chatId, profile, hintake, hchat, hprofile, hkind, href, b, hb, hsha⟩ := h
  refine ⟨intake, chatId, profile, hintake, hchat, ?_, hsame.kind.trans hkind,
    hsame.payloadRef.trans href, b, ?_, hsha⟩
  · intro p hp
    obtain ⟨userId, howner, hslot, hident⟩ := hprofile p hp
    exact ⟨userId, howner, hslot, hidents hident⟩
  · rw [hsame.payloadRef]
    exact hgrows.blobs hb

/-- Items and payloads stay. -/
theorem IntakeInv.kept (hinv : IntakeInv crypto defaultChatId queued db)
    (hgrows : db.toDatabase.Grows db'.toDatabase)
    (hidents : db.profiles.map profileIdent ⊆ db'.profiles.map profileIdent) :
    (∀ callback ∈ queued,
      ∃ item, db'.outboxForKey? (buildEventIdempotencyKey callback) = some item ∧
        GoesOn crypto defaultChatId callback db' item) ∧
      ∀ callback ∈ queued,
        ∃ b, db'.blob? (buildPayloadRef callback) = some b ∧ b.sha256 = callback.payloadHash := by
  constructor
  · intro callback hcallback
    obtain ⟨item, hitem, hgoes⟩ := hinv.items callback hcallback
    obtain ⟨item', hitem', hsame⟩ := hgrows.outbox hitem
    exact ⟨item', hitem', hgoes.grows hgrows hidents hsame⟩
  · intro callback hcallback
    obtain ⟨b, hb, hsha⟩ := hinv.events callback hcallback
    exact ⟨b, hgrows.blobs hb, hsha⟩

/-- The profile an event goes on with is a chat profile of its sender. -/
theorem slot_of_defaultModelProfile {intake : FeishuTaskIntake} {profiles : ProfileTable}
    {p : UserModelProfile} (h : defaultModelProfile intake profiles = .ok (some p)) :
    ∃ userId, nonemptyText intake.modelOwnerUserId = some userId ∧
      p.slot = (intake.modelGuildId, userId, .chat) ∧
      profileIdent p ∈ profiles.map profileIdent := by
  unfold defaultModelProfile at h
  cases howner : nonemptyText intake.modelOwnerUserId with
  | none => simp [howner] at h
  | some userId =>
    simp only [howner] at h
    unfold ProfileTable.getDefaultProfile at h
    split at h
    · rename_i found hfound
      have hp : p = found := by
        split_ifs at h
        · exact (Option.some.inj (Except.ok.inj h)).symm
        · cases Except.ok.inj h
      obtain rfl := hp
      split at hfound
      · cases hfound
      · rename_i only honly
        obtain rfl := Except.ok.inj hfound
        have hmem : only ∈ ProfileTable.defaultProfiles profiles intake.modelGuildId userId .chat := by
          rw [honly]
          exact List.mem_singleton_self _
        obtain ⟨hin, hholds⟩ := mem_defaultProfiles.mp hmem
        exact ⟨userId, rfl, hholds.slot, List.mem_map_of_mem hin⟩
      · cases hfound
    · cases h
    · cases h

theorem IntakeInv.step (hinv : IntakeInv crypto defaultChatId queued db)
    (h : IntakeStep crypto lib settings defaultChatId db event db') :
    IntakeInv crypto defaultChatId (queued ++ event.toList) db' := by
  obtain ⟨⟨scope, hstatements⟩, hprofiles, hevent⟩ := h.cases
  have hgrows := hstatements.grows
  have hconstrained := hstatements.constrained hinv.constrained
  have htidy := tidy_step hinv.profiles hprofiles
  obtain ⟨hitems, hevents⟩ := hinv.kept hgrows (idents_step hprofiles)
  rcases hevent with ⟨rfl, hlogs⟩ | ⟨callback, rfl, row, intake, chatId, profile, hintake, hchat,
    hprofile, hrecorded⟩
  · rw [Option.toList_none, List.append_nil]
    exact ⟨hconstrained, htidy, hlogs.trans hinv.logs, hinv.distinct, hitems, hevents⟩
  · rw [Option.toList_some]
    constructor
    · exact hconstrained
    · exact htidy
    · rw [hrecorded.logs, hinv.logs, List.map_append, List.map_singleton]
    · refine List.pairwise_append.mpr ⟨hinv.distinct, List.pairwise_singleton _ _, ?_⟩
      intro earlier hearlier later hlater
      obtain rfl := List.mem_singleton.mp hlater
      apply hrecorded.fresh
      rw [hinv.logs]
      exact List.mem_map_of_mem hearlier
    · intro other hother
      rcases List.mem_append.mp hother with hother | hother
      · exact hitems other hother
      · obtain rfl := List.mem_singleton.mp hother
        refine ⟨eventItem row other intake (eventPlan crypto intake chatId (buildPayloadRef other)
          profile), ?_, intake, chatId, profile, hintake, hchat, ?_, rfl, rfl, hrecorded.payload⟩
        · have hnone := hrecorded.newKey
          unfold Database.outboxForKey? at hnone ⊢
          rw [hrecorded.outbox, Table.find_append_singleton, hnone, Option.none_or]
          exact if_pos rfl
        · intro p hp
          obtain rfl := Option.mem_def.mp hp
          obtain ⟨userId, howner, hslot, hident⟩ := slot_of_defaultModelProfile hprofile
          rw [hrecorded.profiles]
          exact ⟨userId, howner, hslot, hident⟩
    · intro other hother
      rcases List.mem_append.mp hother with hother | hother
      · exact hevents other hother
      · obtain rfl := List.mem_singleton.mp hother
        exact hrecorded.event

theorem IntakeInv.run {more : List VerifiedFeishuCallback}
    (hinv : IntakeInv crypto defaultChatId queued db)
    (h : IntakeRun crypto lib settings defaultChatId db more db') :
    IntakeInv crypto defaultChatId (queued ++ more) db' := by
  induction h with
  | refl =>
    rw [List.append_nil]
    exact hinv
  | tail _ hstep ih =>
    rw [← List.append_assoc]
    exact ih.step hstep

/-- No accepted event is lost, and none is accepted twice. -/
theorem queuedOnce_of_run (h : IntakeRun crypto lib settings defaultChatId {} queued db) :
    QueuedOnce crypto defaultChatId queued db := by
  have hinv : IntakeInv crypto defaultChatId queued db := intakeInv_init.run h
  refine ⟨hinv.logs, hinv.distinct, ?_⟩
  intro callback hcallback
  obtain ⟨item, hitem, hgoes⟩ := hinv.items callback hcallback
  obtain ⟨hmem, hkey⟩ := (Table.find_eq_some_iff hinv.constrained.outboxKeys).mp hitem
  refine ⟨⟨item, hmem, hkey, ?_, hgoes⟩, hinv.events callback hcallback⟩
  intro r hr hrkey
  exact hinv.constrained.outboxKeys.eq hr hmem (hrkey.trans hkey.symm)

end Invariant

def deliveredPayload (eventId : String) : Dict :=
  [("event", .obj
      [("message", .obj [("chat_id", .str "c"), ("content", .str "x"), ("message_id", .str "o")]),
        ("sender", .obj [("sender_id", .obj [("open_id", .str "u")])])]),
    ("header", .obj [("event_id", .str eventId), ("event_type", .str "m"), ("token", .str "t")])]

def deliveredBody (eventId : String) : ByteArray :=
  (dumps .compact (.obj (deliveredPayload eventId))).toUTF8

def delivery (eventId payloadHash : String) : VerifiedFeishuCallback where
  payload := deliveredPayload eventId
  rawBody := deliveredBody eventId
  payloadHash := payloadHash
  isChallenge := false
  challenge := none
  eventId := some eventId
  eventType := "m"
  tenantKey := none
  appId := none
  messageId := some "o"

def deliveryOp : ProfileOp := .create (.ofNat 9) none "c" "u" firstRequest "key"

def deliveryProfiles : ProfileTable := (deliveryOp.commit []).getD []

def deliveryRow : RowDefaults := ⟨.ofNat 1, 0⟩

def beforeDelivery : IntakeDatabase := { profiles := deliveryProfiles }

def afterEvent (row : RowDefaults) (callback : VerifiedFeishuCallback) (db : IntakeDatabase) :
    IntakeDatabase :=
  ((enqueueEvent byteSum none row callback db).toOption.map Prod.snd).getD {}

theorem enqueueEvent_queued {row : RowDefaults} {callback : VerifiedFeishuCallback}
    {db : IntakeDatabase} (h : (enqueueEvent byteSum none row callback db).toOption.any
      (fun answer => answer.1.status = .queued) = true) :
    ∃ result, enqueueEvent byteSum none row callback db = .ok (result, afterEvent row callback db) ∧
      result.status = .queued := by
  obtain ⟨⟨result, db'⟩, hsome, hstatus⟩ := (Option.any_eq_true _ _).mp h
  refine ⟨result, ?_, of_decide_eq_true hstatus⟩
  unfold afterEvent
  rw [hsome]
  exact Except.toOption_eq_some.mp hsome

theorem IntakeRun.queue {queued : List VerifiedFeishuCallback} {row : RowDefaults}
    {callback : VerifiedFeishuCallback} {db db' : IntakeDatabase}
    (hrun : IntakeRun byteSum deepseekUrls {} none db queued db')
    (h : ∃ result, enqueueEvent byteSum none row callback db' =
      .ok (result, afterEvent row callback db') ∧ result.status = .queued) :
    IntakeRun byteSum deepseekUrls {} none db (queued ++ [callback])
      (afterEvent row callback db') := by
  obtain ⟨result, henqueue, hstatus⟩ := h
  have hstep : IntakeStep byteSum deepseekUrls {} none db'
      (if result.status = .queued then some callback else none) (afterEvent row callback db') :=
    .event henqueue
  rw [if_pos hstatus] at hstep
  exact .tail hrun hstep

def firstDelivered : IntakeDatabase := afterEvent deliveryRow (delivery "1" "73") beforeDelivery

theorem enqueueEvent_first : ∃ result,
    enqueueEvent byteSum none deliveryRow (delivery "1" "73") beforeDelivery =
      .ok (result, firstDelivered) ∧ result.status = .queued :=
  enqueueEvent_queued (by decide +kernel)

theorem run_beforeDelivery : IntakeRun byteSum deepseekUrls {} none {} [] beforeDelivery := by
  have hcommit : deliveryOp.commit [] = some deliveryProfiles := rfl
  exact .tail .refl (.profile hcommit)

theorem run_firstDelivered :
    IntakeRun byteSum deepseekUrls {} none {} [delivery "1" "73"] firstDelivered :=
  run_beforeDelivery.queue enqueueEvent_first

def nextPayload : Dict :=
  [("event", .obj
      [("message", .obj [("chat_id", .str "c"), ("content", .str "y"), ("message_id", .str "p")]),
        ("sender", .obj [("sender_id", .obj [("open_id", .str "u")])])]),
    ("header", .obj [("event_id", .str "2"), ("event_type", .str "m"), ("token", .str "t")])]

def nextDelivery : VerifiedFeishuCallback :=
  { delivery "2" "76" with
    payload := nextPayload
    rawBody := (dumps .compact (.obj nextPayload)).toUTF8
    messageId := some "p" }

def nextRow : RowDefaults := ⟨.ofNat 2, 0⟩

theorem enqueueEvent_next : ∃ result,
    enqueueEvent byteSum none nextRow nextDelivery firstDelivered =
      .ok (result, afterEvent nextRow nextDelivery firstDelivered) ∧ result.status = .queued :=
  enqueueEvent_queued (by decide +kernel)

/-- Two messages of one chat, each with its own item. -/
theorem queuedOnce_of_run_next : QueuedOnce byteSum none [delivery "1" "73", nextDelivery]
    (afterEvent nextRow nextDelivery firstDelivered) :=
  queuedOnce_of_run (run_firstDelivered.queue enqueueEvent_next)

end Headhunt.Feishu
