import Headhunt.ModelProfiles.GatewayFactory

/-! The keys of the users stay apart: over every history of the profiles, a gateway is made
from a profile of the caller only, and from none after its revocation. -/
namespace Headhunt.ModelProfiles
open Headhunt.Core Headhunt.Harness Py Transition

/-- The gateway of a scope is made from the profile and its plain key. -/
structure BuiltFrom (ops : List ProfileOp) (service : ModelSecretService) (profiles : ProfileTable)
    (scope : ProfileScope) (usage : ModelUsage) (profile : UserModelProfile) (apiKey : String) :
    Prop where
  row : profiles.profile? scope.profileId = some profile
  guild : scope.guildId = some profile.guildId
  user : scope.userId = some profile.userId
  tenant : ∀ tenant ∈ scope.tenantId, profile.tenantId = none ∨ profile.tenantId = some tenant
  usage : profile.usage = usage
  active : profile.status = .active
  secret : ∃ encrypted, profile.encryptedApiKey = some encrypted ∧
    service.decryptApiKey encrypted = .ok apiKey
  created : CreatedBy ops profile

def embeddingScope (task : AgentTask) (profileId : UUID) : ProfileScope :=
  ⟨profileId, task.modelTenantId, task.modelGuildId, task.modelOwnerUserId⟩

def ModelArguments.scope (args : ModelArguments) (profileId : UUID) : ProfileScope :=
  ⟨profileId, args.modelTenantId, args.modelGuildId, args.modelOwnerUserId⟩

/-- The profile has been revoked and holds no key any more. -/
def Retired (id : UUID) (profiles : ProfileTable) : Prop :=
  ∃ p, profiles.profile? id = some p ∧ p.status = .revoked ∧ p.encryptedApiKey = none

/-- No gateway is made from the profile, by whatever way. -/
structure NeverUsed (id : UUID) (profiles : ProfileTable) : Prop where
  chat : ∀ factory scope gateway,
    UserModelGatewayFactory.buildChatGateway factory profiles scope = .ok gateway →
      scope.profileId ≠ id
  embedding : ∀ factory scope gateway,
    UserModelGatewayFactory.buildEmbeddingGateway factory profiles scope = .ok gateway →
      scope.profileId ≠ id
  endpoint : ∀ llm args gateway,
    UserModelLLMGateway.endpoint llm profiles args = .ok (.user gateway) →
      args.modelProfileId ≠ some id
  router : ∀ crypto decryptGcm settings hasFallback task gateway modelName,
    forTask crypto decryptGcm settings hasFallback profiles task =
      .ok (.postgres gateway modelName) → task.embeddingProfileId ≠ some id

section Build

variable {factory : UserModelGatewayFactory} {profiles : ProfileTable} {scope : ProfileScope}
  {usage : ModelUsage} {ops : List ProfileOp}

theorem truthyText_eq_true {text : Option String} (h : truthyText text = true) :
    ∃ s, text = some s := by
  cases text with
  | none => cases h
  | some s => exact ⟨s, rfl⟩

theorem getScopedProfile_eq_ok {profile : UserModelProfile}
    (h : getScopedProfile profiles scope usage = .ok profile) :
    truthyText scope.guildId = true ∧ truthyText scope.userId = true ∧
      profiles.profile? scope.profileId = some profile ∧
      UsableBy profile scope.guildId scope.userId scope.tenantId (some usage) := by
  simp only [getScopedProfile, Except.check_eq_ok, Except.mapError_eq_ok, getActiveProfile_eq_ok,
    requireOwnerScope] at h
  obtain ⟨howner, hprofile⟩ := h
  split_ifs at howner with htruthy
  obtain ⟨hguild, huser⟩ := Bool.and_eq_true_iff.mp htruthy
  exact ⟨hguild, huser, hprofile⟩

/-- A profile both builders accept belongs to the caller. -/
theorem builtFrom_of_scoped {profile : UserModelProfile} {apiKey : String}
    (hk : Kept ops profiles) (hprofile : getScopedProfile profiles scope usage = .ok profile)
    (hkey : factory.decrypt profile = .ok apiKey) :
    BuiltFrom ops factory.secretService profiles scope usage profile apiKey := by
  obtain ⟨hguild, huser, hrow, husable⟩ := getScopedProfile_eq_ok hprofile
  obtain ⟨guild, hguild⟩ := truthyText_eq_true hguild
  obtain ⟨user, huser⟩ := truthyText_eq_true huser
  have hsecret : ∃ encrypted, profile.encryptedApiKey = some encrypted := by
    obtain ⟨encrypted, hencrypted⟩ := Option.ne_none_iff_exists'.mp husable.secret
    exact ⟨encrypted, (Option.filter_eq_some_iff.mp hencrypted).1⟩
  obtain ⟨encrypted, hencrypted⟩ := hsecret
  have hdecrypt : factory.secretService.decryptApiKey encrypted = .ok apiKey := by
    simpa [UserModelGatewayFactory.decrypt, hencrypted] using hkey
  exact
    { row := hrow
      guild := by rw [hguild, husable.guild guild hguild]
      user := by rw [huser, husable.user user huser]
      tenant := husable.tenant
      usage := husable.usage usage rfl
      active := husable.active
      secret := ⟨encrypted, hencrypted, hdecrypt⟩
      created := hk.created profile (Table.find_mem hrow) }

theorem builtFrom_of_chatGateway {gateway : ChatGateway} (hk : Kept ops profiles)
    (h : factory.buildChatGateway profiles scope = .ok gateway) :
    ∃ profile apiKey,
      BuiltFrom ops factory.secretService profiles scope .chat profile apiKey ∧
      profile.provider.value ∈ factory.providerAllowlist ∧ gateway = profile.chatGateway apiKey := by
  simp only [UserModelGatewayFactory.buildChatGateway, Except.bind_eq_ok, Except.ite_error_eq_ok,
    not_not, Except.ok.injEq] at h
  obtain ⟨profile, hprofile, hallowed, apiKey, hkey, rfl⟩ := h
  exact ⟨profile, apiKey, builtFrom_of_scoped hk hprofile hkey, hallowed, rfl⟩

theorem builtFrom_of_embeddingGateway {gateway : EmbeddingGateway} (hk : Kept ops profiles)
    (h : factory.buildEmbeddingGateway profiles scope = .ok gateway) :
    ∃ profile apiKey,
      BuiltFrom ops factory.secretService profiles scope .embedding profile apiKey ∧
      profile.provider = .openai ∧ gateway = profile.embeddingGateway apiKey := by
  simp only [UserModelGatewayFactory.buildEmbeddingGateway, Except.bind_eq_ok,
    Except.ite_error_eq_ok, not_not, ne_eq, Except.ok.injEq] at h
  obtain ⟨profile, hprofile, hopenai, apiKey, hkey, rfl⟩ := h
  exact ⟨profile, apiKey, builtFrom_of_scoped hk hprofile hkey, hopenai, rfl⟩

theorem endpoint_eq_ok {llm : UserModelLLMGateway} {args : ModelArguments} {endpoint : LlmEndpoint}
    (h : llm.endpoint profiles args = .ok endpoint) :
    args.modelProfileId = none ∧ llm.hasFallback = true ∧ endpoint = .fallback ∨
      ∃ profileId gateway, args.modelProfileId = some profileId ∧
        llm.factory.buildChatGateway profiles (args.scope profileId) = .ok gateway ∧
        endpoint = .user gateway := by
  unfold UserModelLLMGateway.endpoint at h
  cases hid : args.modelProfileId with
  | none =>
    simp only [hid] at h
    split_ifs at h with hfallback
    exact .inl ⟨rfl, hfallback, (Except.ok.inj h).symm⟩
  | some profileId =>
    simp only [hid] at h
    split_ifs at h
    obtain ⟨gateway, hbuild, rfl⟩ := Except.map_eq_ok.mp h
    exact .inr ⟨profileId, gateway, rfl, hbuild, rfl⟩

variable {crypto : Crypto} {decryptGcm : DecryptGcm} {settings : Settings} {hasFallback : Bool}
  {task : AgentTask}

theorem forTask_eq_fallback
    (h : forTask crypto decryptGcm settings hasFallback profiles task = .ok .fallback) :
    task.embeddingProfileId = none := by
  unfold forTask at h
  cases hid : task.embeddingProfileId with
  | none => rfl
  | some profileId =>
    simp only [hid] at h
    split at h
    · cases h
    · split at h
      · cases h
      · simp only [Except.bind_eq_ok, Except.ok.injEq] at h
        obtain ⟨service, _, h⟩ := h
        unfold routedGateway at h
        split at h <;> cases h

theorem forTask_eq_postgres {gateway : EmbeddingGateway} {modelName : String}
    (h : forTask crypto decryptGcm settings hasFallback profiles task =
      .ok (.postgres gateway modelName)) :
    ∃ profileId encryptionKey service, task.embeddingProfileId = some profileId ∧
      settings.modelSecretEncryptionKey = some encryptionKey ∧
      modelSecretService crypto decryptGcm encryptionKey = .ok service ∧
      UserModelGatewayFactory.buildEmbeddingGateway ⟨service, providerAllowlist settings⟩ profiles
        (embeddingScope task profileId) = .ok gateway := by
  unfold forTask at h
  cases hid : task.embeddingProfileId with
  | none =>
    simp only [hid] at h
    split_ifs at h <;> cases h
  | some profileId =>
    simp only [hid] at h
    split at h
    · cases h
    · split at h
      · cases h
      · rename_i encryptionKey hkey
        simp only [Except.bind_eq_ok, Except.ok.injEq] at h
        obtain ⟨service, hservice, h⟩ := h
        unfold routedGateway at h
        split at h
        · cases h
        · rename_i built hbuild
          simp only [TaskMemoryGateway.postgres.injEq] at h
          obtain ⟨rfl, _⟩ := h
          exact ⟨profileId, encryptionKey, service, rfl, hkey, hservice, hbuild⟩

end Build

section Histories

variable {ops : List ProfileOp} {profiles profiles' : ProfileTable} {id : UUID}

theorem Kept.commit (hk : Kept ops profiles) {op : ProfileOp}
    (h : op.commit profiles = some profiles') : Kept (ops ++ [op]) profiles' := by
  obtain rfl := Option.some.inj h
  cases hrun : op.run profiles with
  | error exc => exact hk.mono op
  | ok committed =>
    cases op with
    | create id tenantId guildId userId request encryptedApiKey => exact hk.create hrun
    | setDefault profileId guildId userId usage => exact (hk.setDefault hrun).mono _
    | revoke profileId guildId userId => exact (hk.revoke hrun).mono _

/-- The calls of a history, one after the other. -/
theorem Kept.exec (hk : Kept ops profiles) {more : List ProfileOp}
    (h : exec ProfileOp.commit profiles more = some profiles') : Kept (ops ++ more) profiles' := by
  induction more generalizing ops profiles with
  | nil =>
    obtain rfl := Option.some.inj h
    simpa using hk
  | cons op more ih =>
    obtain ⟨next, hnext, h⟩ := exec_cons_eq_some.mp h
    simpa using ih (hk.commit hnext) h

theorem kept_nil : Kept [] [] where
  ids := List.nodup_nil
  created := by simp

/-- A row that is changed in place stays retired if it keeps its status and loses no more. -/
theorem Retired.map (hr : Retired id profiles) {f : UserModelProfile → UserModelProfile}
    (hid : ∀ p, (f p).id = p.id)
    (hkeeps : ∀ p, p.status = .revoked → p.encryptedApiKey = none →
      (f p).status = .revoked ∧ (f p).encryptedApiKey = none) : Retired id (profiles.map f) := by
  obtain ⟨p, hp, hstatus, hsecret⟩ := hr
  refine ⟨f p, ?_, hkeeps p hstatus hsecret⟩
  rw [find_map hid, hp]
  rfl

theorem Retired.clearDefault (hr : Retired id profiles) (guildId userId : String)
    (usage : ModelUsage) : Retired id (profiles.clearDefault guildId userId usage) := by
  refine hr.map (fun p => ?_) (fun p hstatus hsecret => ?_)
  · split <;> rfl
  · split <;> exact ⟨hstatus, hsecret⟩

theorem Retired.insert (hr : Retired id profiles) {row : UserModelProfile}
    (h : profiles.insert row = .ok profiles') : Retired id profiles' := by
  simp only [ProfileTable.insert, Except.ite_error_eq_ok, Except.ok.injEq] at h
  obtain ⟨_, rfl⟩ := h
  obtain ⟨p, hp, hretired⟩ := hr
  exact ⟨p, Table.find_append_of_some hp, hretired⟩

/-- No call brings a revoked profile back. -/
theorem Retired.commit (hr : Retired id profiles) {op : ProfileOp}
    (h : op.commit profiles = some profiles') : Retired id profiles' := by
  obtain rfl := Option.some.inj h
  cases hrun : op.run profiles with
  | error exc => exact hr
  | ok committed =>
    cases op with
    | create newId tenantId guildId userId request encryptedApiKey =>
      refine Retired.insert ?_ hrun
      split
      · exact hr.clearDefault guildId userId request.usage
      · exact hr
    | setDefault profileId guildId userId usage =>
      simp only [ProfileOp.run, ProfileTable.setDefault, Except.bind_eq_ok, Except.ok.injEq] at hrun
      obtain ⟨profile, _, rfl⟩ := hrun
      refine (hr.clearDefault guildId userId usage).map (fun p => ?_) (fun p hstatus hsecret => ?_)
      · split <;> rfl
      · split <;> exact ⟨hstatus, hsecret⟩
    | revoke profileId guildId userId =>
      simp only [ProfileOp.run, ProfileTable.revoke, Except.bind_eq_ok, Except.ok.injEq] at hrun
      obtain ⟨profile, _, rfl⟩ := hrun
      refine hr.map (fun p => ?_) (fun p hstatus hsecret => ?_)
      · split <;> rfl
      · split
        · exact ⟨rfl, rfl⟩
        · exact ⟨hstatus, hsecret⟩

theorem retired_of_revoke {guildId userId : String}
    (h : profiles.revoke id guildId userId = .ok profiles') : Retired id profiles' := by
  simp only [ProfileTable.revoke, Except.bind_eq_ok, getActiveProfile_eq_ok, Except.ok.injEq] at h
  obtain ⟨profile, ⟨hfind, _⟩, rfl⟩ := h
  have hid : profile.id = id := Table.find_key hfind
  refine ⟨profile.revoked, ?_, rfl, rfl⟩
  have hmodify : Table.find UserModelProfile.id id
      (Table.modify UserModelProfile.id id UserModelProfile.revoked profiles) =
        (profiles.profile? id).map UserModelProfile.revoked :=
    Table.find_modify_self UserModelProfile.id_revoked profiles
  rw [ProfileTable.profile?, hid, hmodify, hfind]
  rfl

theorem Retired.exec (hr : Retired id profiles) {more : List ProfileOp}
    (h : exec ProfileOp.commit profiles more = some profiles') : Retired id profiles' := by
  have hall : Along ProfileOp.commit (fun _ _ => True) profiles more :=
    along_iff_forall.mpr fun _ _ _ _ _ _ => trivial
  exact exec_invariant (Retired id) (fun _ _ _ hr _ h => hr.commit h) hr hall h

/-- Nothing is built from a profile without a key. -/
theorem Retired.not_builtFrom (hr : Retired id profiles) {service : ModelSecretService}
    {scope : ProfileScope} {usage : ModelUsage} {profile : UserModelProfile} {apiKey : String}
    (h : BuiltFrom ops service profiles scope usage profile apiKey) : scope.profileId ≠ id := by
  rintro rfl
  obtain ⟨p, hp, hstatus, _⟩ := hr
  obtain rfl := Option.some.inj (hp.symm.trans h.row)
  rw [h.active] at hstatus
  cases hstatus

theorem Retired.neverUsed (hr : Retired id profiles) (hk : Kept ops profiles) :
    NeverUsed id profiles := by
  have hchat : ∀ factory scope gateway,
      UserModelGatewayFactory.buildChatGateway factory profiles scope = .ok gateway →
        scope.profileId ≠ id := by
    intro factory scope gateway h
    obtain ⟨_, _, hbuilt, _⟩ := builtFrom_of_chatGateway hk h
    exact hr.not_builtFrom hbuilt
  have hembedding : ∀ factory scope gateway,
      UserModelGatewayFactory.buildEmbeddingGateway factory profiles scope = .ok gateway →
        scope.profileId ≠ id := by
    intro factory scope gateway h
    obtain ⟨_, _, hbuilt, _⟩ := builtFrom_of_embeddingGateway hk h
    exact hr.not_builtFrom hbuilt
  refine ⟨hchat, hembedding, ?_, ?_⟩
  · intro llm args gateway h hid
    rcases endpoint_eq_ok h with ⟨hnone, _⟩ | ⟨profileId, built, hsome, hbuild, _⟩
    · rw [hnone] at hid
      cases hid
    · obtain rfl := Option.some.inj (hsome.symm.trans hid)
      exact hchat _ _ _ hbuild rfl
  · intro crypto decryptGcm settings hasFallback task gateway modelName h hid
    obtain ⟨profileId, _, _, hsome, _, _, hbuild⟩ := forTask_eq_postgres h
    obtain rfl := Option.some.inj (hsome.symm.trans hid)
    exact hembedding _ _ _ hbuild rfl

end Histories

/-- What the router may answer a task with. -/
def Routed (crypto : Crypto) (decryptGcm : DecryptGcm) (settings : Settings) (ops : List ProfileOp)
    (profiles : ProfileTable) (task : AgentTask) : Except GatewayError TaskMemoryGateway → Prop
  | .error _ | .ok (.disabled _) => True
  | .ok .fallback => task.embeddingProfileId = none
  | .ok (.postgres gateway _) => ∃ profileId encryptionKey service profile apiKey,
    task.embeddingProfileId = some profileId ∧
      settings.modelSecretEncryptionKey = some encryptionKey ∧
      modelSecretService crypto decryptGcm encryptionKey = .ok service ∧
      BuiltFrom ops service profiles (embeddingScope task profileId) .embedding profile apiKey ∧
      gateway = profile.embeddingGateway apiKey

/-- After any history of the profiles the builders, the two wrappers around them and the
router make a gateway from a profile of the caller only, and from no revoked one. -/
theorem keys_isolated {ops : List ProfileOp} {profiles : ProfileTable}
    (hrun : exec ProfileOp.commit [] ops = some profiles) :
    (∀ factory scope gateway,
      UserModelGatewayFactory.buildChatGateway factory profiles scope = .ok gateway →
        ∃ profile apiKey, BuiltFrom ops factory.secretService profiles scope .chat profile apiKey ∧
          profile.provider.value ∈ factory.providerAllowlist ∧
          gateway = profile.chatGateway apiKey) ∧
    (∀ factory scope gateway,
      UserModelGatewayFactory.buildEmbeddingGateway factory profiles scope = .ok gateway →
        ∃ profile apiKey,
          BuiltFrom ops factory.secretService profiles scope .embedding profile apiKey ∧
          profile.provider = .openai ∧ gateway = profile.embeddingGateway apiKey) ∧
    (∀ llm args endpoint, UserModelLLMGateway.endpoint llm profiles args = .ok endpoint →
      args.modelProfileId = none ∧ llm.hasFallback = true ∧ endpoint = .fallback ∨
        ∃ profileId profile apiKey, args.modelProfileId = some profileId ∧
          BuiltFrom ops llm.factory.secretService profiles (args.scope profileId) .chat profile
            apiKey ∧
          endpoint = .user (profile.chatGateway apiKey)) ∧
    (∀ crypto decryptGcm settings hasFallback task,
      Routed crypto decryptGcm settings ops profiles task
        (forTask crypto decryptGcm settings hasFallback profiles task)) ∧
    ∀ before id guildId userId after, ops = before ++ .revoke id guildId userId :: after →
      (∃ old new, exec ProfileOp.commit [] before = some old ∧
        ProfileTable.revoke old id guildId userId = .ok new) →
      Retired id profiles ∧ NeverUsed id profiles := by
  have hk : Kept ops profiles := kept_nil.exec hrun
  refine ⟨fun factory scope gateway h => builtFrom_of_chatGateway hk h,
    fun factory scope gateway h => builtFrom_of_embeddingGateway hk h, ?_, ?_, ?_⟩
  · intro llm args endpoint h
    rcases endpoint_eq_ok h with hfallback | ⟨profileId, gateway, hid, hbuild, rfl⟩
    · exact .inl hfallback
    · obtain ⟨profile, apiKey, hbuilt, _, rfl⟩ := builtFrom_of_chatGateway hk hbuild
      exact .inr ⟨profileId, profile, apiKey, hid, hbuilt, rfl⟩
  · intro crypto decryptGcm settings hasFallback task
    cases h : forTask crypto decryptGcm settings hasFallback profiles task with
    | error exc => trivial
    | ok gateway =>
      cases gateway with
      | disabled reason => trivial
      | fallback => exact forTask_eq_fallback h
      | postgres gateway modelName =>
        obtain ⟨profileId, encryptionKey, service, hid, hkey, hservice, hbuild⟩ :=
          forTask_eq_postgres h
        obtain ⟨profile, apiKey, hbuilt, _, rfl⟩ := builtFrom_of_embeddingGateway hk hbuild
        exact ⟨profileId, encryptionKey, service, profile, apiKey, hid, hkey, hservice, hbuilt, rfl⟩
  · rintro before id guildId userId after rfl ⟨old, new, hold, hrevoke⟩
    obtain ⟨old', hold', hrest⟩ := exec_append_eq_some.mp hrun
    obtain rfl := Option.some.inj (hold.symm.trans hold')
    obtain ⟨next, hnext, hafter⟩ := exec_cons_eq_some.mp hrest
    have hcommit : next = new := by
      simpa [ProfileOp.commit, ProfileOp.run, hrevoke, Except.toOption, eq_comm] using hnext
    have hretired : Retired id profiles := (hcommit ▸ retired_of_revoke hrevoke : Retired id next).exec
      hafter
    exact ⟨hretired, hretired.neverUsed hk⟩

def sampleId (n : Nat) : UUID := .ofNat n

def sampleRequest (usage : ModelUsage) : CreateModelProfileRequest where
  provider := .openai
  modelName := "gpt"
  usage := usage
  modelName_length := by decide
  displayName_length := by simp
  baseUrl_length := by simp

def sampleOps : List ProfileOp :=
  [.create (sampleId 1) none "guild" "alice" (sampleRequest .chat) "v1:a:b:c",
    .create (sampleId 2) (some "tenant") "guild" "bob" (sampleRequest .embedding) "v1:d:e:f",
    .revoke (sampleId 2) "guild" "alice", .setDefault (sampleId 1) "guild" "alice" .chat,
    .revoke (sampleId 1) "guild" "alice"]

/-- The profile of the first user is gone, and that of the second one is not. -/
theorem keys_isolated_sampleOps :
    ∃ profiles, exec ProfileOp.commit [] sampleOps = some profiles ∧
      Retired (sampleId 1) profiles ∧ NeverUsed (sampleId 1) profiles ∧
      (profiles.profile? (sampleId 2)).map UserModelProfile.secret = some (some "v1:d:e:f") := by
  have hrun : exec ProfileOp.commit [] sampleOps =
      some ((exec ProfileOp.commit [] sampleOps).getD []) := rfl
  have hbefore : ∃ old new, exec ProfileOp.commit [] (sampleOps.take 4) = some old ∧
      ProfileTable.revoke old (sampleId 1) "guild" "alice" = .ok new := by
    have hrevoke : (ProfileTable.revoke ((exec ProfileOp.commit [] (sampleOps.take 4)).getD [])
        (sampleId 1) "guild" "alice").toOption.isSome = true := by decide +kernel
    obtain ⟨new, hnew⟩ := Option.isSome_iff_exists.mp hrevoke
    exact ⟨_, new, rfl, Except.toOption_eq_some.mp hnew⟩
  obtain ⟨hretired, hnever⟩ := (keys_isolated hrun).2.2.2.2 (sampleOps.take 4) _ _ _ [] rfl hbefore
  exact ⟨_, hrun, hretired, hnever, by decide +kernel⟩

end Headhunt.ModelProfiles
