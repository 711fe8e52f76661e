import Headhunt.Lib.PyJson
import Headhunt.Lib.Result
import Headhunt.Lib.Table
import Headhunt.Lib.Transition

/-! `ModelProfileRepository`: the model profiles of the users and the calls that change
them. The text columns under a CHECK constraint are enumerations. -/
namespace Headhunt.ModelProfiles
open Py

inductive ModelProvider
  | openai
  | deepseek
deriving DecidableEq, Repr

def ModelProvider.value : ModelProvider → String
  | .openai => "openai"
  | .deepseek => "deepseek"

inductive ModelUsage
  | chat
  | embedding
deriving DecidableEq, Repr

def ModelUsage.value : ModelUsage → String
  | .chat => "chat"
  | .embedding => "embedding"

inductive ModelProfileStatus
  | active
  | revoked
deriving DecidableEq, Repr

structure UserModelProfile where
  id : UUID
  tenantId : Option String
  guildId : String
  userId : String
  provider : ModelProvider
  modelName : String
  displayName : String
  encryptedApiKey : Option String
  baseUrl : Option String
  usage : ModelUsage
  status : ModelProfileStatus
  isDefault : Bool
deriving DecidableEq

abbrev ProfileTable := List UserModelProfile

/-- A request that has passed its schema, without the plain key. -/
structure CreateModelProfileRequest where
  provider : ModelProvider
  modelName : String
  displayName : Option String := none
  baseUrl : Option String := none
  usage : ModelUsage := .chat
  makeDefault : Bool := true
  modelName_length : 1 ≤ modelName.length ∧ modelName.length ≤ 200
  displayName_length : ∀ name ∈ displayName, name.length ≤ 120
  baseUrl_length : ∀ url ∈ baseUrl, url.length ≤ 500

inductive ModelProfileError
  | notFound (message : String)
  | access (message : String)
  | integrity
deriving DecidableEq

def ModelProfileError.message : ModelProfileError → String
  | .notFound message => message
  | .access message => message
  | .integrity => "IntegrityError"

namespace UserModelProfile

variable (profile : UserModelProfile)

def ownedBy (guildId userId : String) : Bool := profile.guildId = guildId ∧ profile.userId = userId

def revoked : UserModelProfile :=
  { profile with
    status := .revoked
    isDefault := false
    encryptedApiKey := none }

theorem id_revoked : profile.revoked.id = profile.id := rfl

/-- `not profile.encrypted_api_key`, the other way round. -/
def secret : Option String := profile.encryptedApiKey.filter (· ≠ "")

end UserModelProfile

namespace ProfileTable

variable (profiles : ProfileTable)

def profile? (id : UUID) : Option UserModelProfile := Table.find UserModelProfile.id id profiles

def hasActiveProfile (guildId userId : String) (usage : ModelUsage) : Bool :=
  profiles.any fun p => p.ownedBy guildId userId ∧ p.usage = usage ∧ p.status = .active

def clearDefault (guildId userId : String) (usage : ModelUsage) : ProfileTable :=
  profiles.map fun p =>
    if p.ownedBy guildId userId ∧ p.usage = usage then { p with isDefault := false } else p

def newProfile (id : UUID) (tenantId : Option String) (guildId userId : String)
    (request : CreateModelProfileRequest) (encryptedApiKey : String) : UserModelProfile where
  id := id
  tenantId := tenantId
  guildId := guildId
  userId := userId
  provider := request.provider
  modelName := request.modelName
  displayName := (request.displayName.filter (· ≠ "")).getD
    s!"{request.usage.value}:{request.provider.value}:{request.modelName}"
  encryptedApiKey := some encryptedApiKey
  baseUrl := request.baseUrl
  usage := request.usage
  status := .active
  isDefault := request.makeDefault || !hasActiveProfile profiles guildId userId request.usage

/-- `session.add` and `flush`. The default of the owner has been cleared before, so its
unique index does not come into play. -/
def insert (row : UserModelProfile) : Except ModelProfileError ProfileTable :=
  if (profiles.profile? row.id).isSome ∨
      (profiles.any fun p => p.ownedBy row.guildId row.userId ∧ p.displayName = row.displayName) then
    .error .integrity
  else .ok (profiles ++ [row])

def createProfile (id : UUID) (tenantId : Option String) (guildId userId : String)
    (request : CreateModelProfileRequest) (encryptedApiKey : String) :
    Except ModelProfileError ProfileTable :=
  let row := newProfile profiles id tenantId guildId userId request encryptedApiKey
  insert (if row.isDefault then clearDefault profiles guildId userId request.usage else profiles) row

/-- `get_active_profile`: a check is skipped when its argument is `None`. -/
def getActiveProfile (profileId : UUID) (guildId userId tenantId : Option String)
    (usage : Option ModelUsage) : Except ModelProfileError UserModelProfile :=
  match profiles.profile? profileId with
  | none => .error (.notFound s!"model profile not found: {profileId.str}")
  | some profile =>
    if profile.status ≠ .active then
      .error (.notFound s!"model profile not found: {profileId.str}")
    else if ∃ u ∈ usage, profile.usage ≠ u then
      .error (.notFound s!"model profile not found: {profileId.str}")
    else if ∃ guild ∈ guildId, profile.guildId ≠ guild then
      .error (.access "model profile guild_id does not match caller")
    else if ∃ user ∈ userId, profile.userId ≠ user then
      .error (.access "model profile user_id does not match caller")
    else if ∃ tenant ∈ tenantId, profile.tenantId ∉ [none, some tenant] then
      .error (.access "model profile tenant_id does not match caller")
    else if profile.secret = none then
      .error (.notFound s!"model profile secret was revoked: {profileId.str}")
    else .ok profile

def setDefault (profileId : UUID) (guildId userId : String) (usage : ModelUsage) :
    Except ModelProfileError ProfileTable := do
  let profile ← getActiveProfile profiles profileId (some guildId) (some userId) none (some usage)
  .ok (Table.modify UserModelProfile.id profile.id (fun p => { p with isDefault := true })
    (clearDefault profiles guildId userId usage))

def revoke (profileId : UUID) (guildId userId : String) :
    Except ModelProfileError ProfileTable := do
  let profile ← getActiveProfile profiles profileId (some guildId) (some userId) none none
  .ok (Table.modify UserModelProfile.id profile.id UserModelProfile.revoked profiles)

end ProfileTable

/-- One call that changes the profiles, by whatever user. -/
inductive ProfileOp
  | create (id : UUID) (tenantId : Option String) (guildId userId : String)
      (request : CreateModelProfileRequest) (encryptedApiKey : String)
  | setDefault (profileId : UUID) (guildId userId : String) (usage : ModelUsage)
  | revoke (profileId : UUID) (guildId userId : String)

def ProfileOp.run (profiles : ProfileTable) : ProfileOp → Except ModelProfileError ProfileTable
  | .create id tenantId guildId userId request encryptedApiKey =>
    profiles.createProfile id tenantId guildId userId request encryptedApiKey
  | .setDefault profileId guildId userId usage => profiles.setDefault profileId guildId userId usage
  | .revoke profileId guildId userId => profiles.revoke profileId guildId userId

/-- A call that raises is rolled back. -/
def ProfileOp.commit (profiles : ProfileTable) (op : ProfileOp) : Option ProfileTable :=
  some ((op.run profiles).toOption.getD profiles)

/-- The caller may use the profile. A missing argument is not compared. -/
structure UsableBy (profile : UserModelProfile) (guildId userId tenantId : Option String)
    (usage : Option ModelUsage) : Prop where
  active : profile.status = .active
  usage : ∀ u ∈ usage, profile.usage = u
  guild : ∀ guild ∈ guildId, profile.guildId = guild
  user : ∀ user ∈ userId, profile.userId = user
  tenant : ∀ tenant ∈ tenantId, profile.tenantId = none ∨ profile.tenantId = some tenant
  secret : profile.secret ≠ none

theorem getActiveProfile_eq_ok {profiles : ProfileTable} {profileId : UUID}
    {guildId userId tenantId : Option String} {usage : Option ModelUsage}
    {profile : UserModelProfile} :
    profiles.getActiveProfile profileId guildId userId tenantId usage = .ok profile ↔
      profiles.profile? profileId = some profile ∧
        UsableBy profile guildId userId tenantId usage := by
  unfold ProfileTable.getActiveProfile
  cases hfind : profiles.profile? profileId with
  | none => simp
  | some found =>
    simp only [Except.ite_error_eq_ok, not_not, not_exists, not_and, Except.ok.injEq,
      Option.some.injEq, List.mem_cons, List.not_mem_nil, or_false]
    constructor
    · rintro ⟨hactive, husage, hguild, huser, htenant, hsecret, rfl⟩
      exact ⟨rfl, hactive, husage, hguild, huser, htenant, hsecret⟩
    · rintro ⟨rfl, hactive, husage, hguild, huser, htenant, hsecret⟩
      exact ⟨hactive, husage, hguild, huser, htenant, hsecret, rfl⟩

section Create

variable {profiles profiles' : ProfileTable} {id : UUID} {tenantId : Option String}
  {guildId userId : String} {usage : ModelUsage} {request : CreateModelProfileRequest}
  {encryptedApiKey : String}

theorem find_map {f : UserModelProfile → UserModelProfile} (hid : ∀ p, (f p).id = p.id) :
    ProfileTable.profile? (profiles.map f) id = (profiles.profile? id).map f := by
  unfold ProfileTable.profile? Table.find
  rw [List.find?_map]
  simp only [Function.comp_def, hid]

theorem insert_eq_ok {row : UserModelProfile} : profiles.insert row = .ok profiles' ↔
    profiles.profile? row.id = none ∧
      (∀ p ∈ profiles, p.ownedBy row.guildId row.userId = true → p.displayName ≠ row.displayName) ∧
      profiles' = profiles ++ [row] := by
  unfold ProfileTable.insert
  rw [Except.ite_error_eq_ok, not_or, Bool.not_eq_true, Option.isSome_eq_false_iff,
    Option.isNone_iff_eq_none, Bool.not_eq_true, List.any_eq_false, and_assoc, Except.ok.injEq,
    @eq_comm _ profiles']
  simp only [decide_eq_true_eq, not_and, ne_eq]

/-- Clearing a default leaves the rows their ids, owners and names. -/
theorem insert_clearDefault_iff {row : UserModelProfile} :
    (∃ profiles', ProfileTable.insert (profiles.clearDefault guildId userId usage) row =
        .ok profiles') ↔
      ∃ profiles', profiles.insert row = .ok profiles' := by
  have hid : ∀ p : UserModelProfile, (if p.ownedBy guildId userId ∧ p.usage = usage then
      { p with isDefault := false } else p).id = p.id := by
    intro p
    split <;> rfl
  simp only [insert_eq_ok, ProfileTable.clearDefault, find_map hid, Option.map_eq_none_iff,
    List.forall_mem_map, exists_and_left, exists_eq, and_true]
  apply and_congr_right
  intro _
  apply forall₂_congr
  intro p _
  split <;> rfl

/-- The name is free among all profiles of the owner, whatever their status. -/
theorem createProfile_iff :
    (∃ profiles', profiles.createProfile id tenantId guildId userId request encryptedApiKey =
        .ok profiles') ↔
      profiles.profile? id = none ∧ ∀ p ∈ profiles, p.ownedBy guildId userId = true →
        p.displayName ≠
          (profiles.newProfile id tenantId guildId userId request encryptedApiKey).displayName := by
  have hinsert : (∃ profiles', profiles.createProfile id tenantId guildId userId request
      encryptedApiKey = .ok profiles') ↔ ∃ profiles', profiles.insert
        (profiles.newProfile id tenantId guildId userId request encryptedApiKey) =
          .ok profiles' := by
    unfold ProfileTable.createProfile
    dsimp only
    split
    · exact insert_clearDefault_iff
    · exact Iff.rfl
  rw [hinsert]
  simp only [insert_eq_ok, exists_and_left, exists_eq, and_true]
  exact Iff.rfl

theorem mem_createProfile (h : profiles.createProfile id tenantId guildId userId request
    encryptedApiKey = .ok profiles') :
    profiles.newProfile id tenantId guildId userId request encryptedApiKey ∈ profiles' := by
  obtain ⟨_, _, rfl⟩ := insert_eq_ok.mp h
  exact List.mem_append_right _ (List.mem_singleton_self _)

end Create

/-- The row is one the user has created, with the secret given then as long as it is active
and none after its revocation. -/
inductive CreatedBy (ops : List ProfileOp) (profile : UserModelProfile) : Prop
  | intro (request : CreateModelProfileRequest) (encryptedApiKey : String)
      (hop : .create profile.id profile.tenantId profile.guildId profile.userId request
        encryptedApiKey ∈ ops)
      (hsecret : profile.status = .active ∧ profile.encryptedApiKey = some encryptedApiKey ∨
        profile.status = .revoked ∧ profile.encryptedApiKey = none)

/-- The table as the calls so far have left it. -/
structure Kept (ops : List ProfileOp) (profiles : ProfileTable) : Prop where
  ids : Table.Unique UserModelProfile.id profiles
  created : ∀ p ∈ profiles, CreatedBy ops p

section Kept

variable {ops : List ProfileOp} {profiles profiles' : ProfileTable}

theorem CreatedBy.mono {p : UserModelProfile} (h : CreatedBy ops p) (op : ProfileOp) :
    CreatedBy (ops ++ [op]) p := by
  obtain ⟨request, encryptedApiKey, hop, hsecret⟩ := h
  exact ⟨request, encryptedApiKey, List.mem_append_left _ hop, hsecret⟩

/-- Rows are changed in place, and none loses its origin. -/
theorem Kept.map (hk : Kept ops profiles) {f : UserModelProfile → UserModelProfile}
    (hid : ∀ p, (f p).id = p.id) (hcreated : ∀ p, CreatedBy ops p → CreatedBy ops (f p)) :
    Kept ops (profiles.map f) where
  ids := by
    have hids : (profiles.map f).map UserModelProfile.id = profiles.map UserModelProfile.id := by
      rw [List.map_map]
      exact List.map_congr_left fun p _ => hid p
    rw [Table.Unique, hids]
    exact hk.ids
  created := by
    intro p hp
    obtain ⟨q, hq, rfl⟩ := List.mem_map.mp hp
    exact hcreated q (hk.created q hq)

theorem Kept.clearDefault (hk : Kept ops profiles) (guildId userId : String) (usage : ModelUsage) :
    Kept ops (profiles.clearDefault guildId userId usage) := by
  refine hk.map (fun p => ?_) (fun p hp => ?_)
  · split <;> rfl
  · obtain ⟨request, encryptedApiKey, hop, hsecret⟩ := hp
    split <;> exact ⟨request, encryptedApiKey, hop, hsecret⟩

theorem Kept.mono (hk : Kept ops profiles) (op : ProfileOp) : Kept (ops ++ [op]) profiles where
  ids := hk.ids
  created p hp := (hk.created p hp).mono op

theorem Kept.insert (hk : Kept ops profiles) {op : ProfileOp} {row : UserModelProfile}
    (h : profiles.insert row = .ok profiles') (hrow : CreatedBy (ops ++ [op]) row) :
    Kept (ops ++ [op]) profiles' := by
  simp only [ProfileTable.insert, Except.ite_error_eq_ok, not_or, Bool.not_eq_true,
    Option.isSome_eq_false_iff, Option.isNone_iff_eq_none, Except.ok.injEq] at h
  obtain ⟨⟨hnew, _⟩, rfl⟩ := h
  constructor
  · exact hk.ids.append_singleton hnew
  · intro p hp
    rcases List.mem_append.mp hp with hp | hp
    · exact (hk.created p hp).mono op
    · obtain rfl := List.mem_singleton.mp hp
      exact hrow

theorem Kept.create (hk : Kept ops profiles) {id : UUID} {tenantId : Option String}
    {guildId userId : String} {request : CreateModelProfileRequest} {encryptedApiKey : String}
    (h : profiles.createProfile id tenantId guildId userId request encryptedApiKey =
      .ok profiles') :
    Kept (ops ++ [.create id tenantId guildId userId request encryptedApiKey]) profiles' := by
  refine Kept.insert ?_ h ?_
  · split
    · exact hk.clearDefault guildId userId request.usage
    · exact hk
  · exact ⟨request, encryptedApiKey, List.mem_append_right _ (List.mem_singleton.mpr rfl),
      .inl ⟨rfl, rfl⟩⟩

theorem Kept.setDefault (hk : Kept ops profiles) {profileId : UUID} {guildId userId : String}
    {usage : ModelUsage} (h : profiles.setDefault profileId guildId userId usage = .ok profiles') :
    Kept ops profiles' := by
  simp only [ProfileTable.setDefault, Except.bind_eq_ok, Except.ok.injEq] at h
  obtain ⟨profile, _, rfl⟩ := h
  refine (hk.clearDefault guildId userId usage).map (fun p => ?_) (fun p hp => ?_)
  · split <;> rfl
  · obtain ⟨request, encryptedApiKey, hop, hsecret⟩ := hp
    split <;> exact ⟨request, encryptedApiKey, hop, hsecret⟩

theorem Kept.revoke (hk : Kept ops profiles) {profileId : UUID} {guildId userId : String}
    (h : profiles.revoke profileId guildId userId = .ok profiles') : Kept ops profiles' := by
  simp only [ProfileTable.revoke, Except.bind_eq_ok, Except.ok.injEq] at h
  obtain ⟨profile, _, rfl⟩ := h
  refine hk.map (fun p => ?_) (fun p hp => ?_)
  · split <;> rfl
  · obtain ⟨request, encryptedApiKey, hop, hsecret⟩ := hp
    split
    · exact ⟨request, encryptedApiKey, hop, .inr ⟨rfl, rfl⟩⟩
    · exact ⟨request, encryptedApiKey, hop, hsecret⟩

end Kept
end Headhunt.ModelProfiles
