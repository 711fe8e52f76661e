import Headhunt.ModelProfiles.KeyIsolation

/-! The default profiles: every user has at most one for each usage, and one as long as a
profile is active, unless the default is revoked before another one is chosen. -/
namespace Headhunt.ModelProfiles
open Py Transition

/-- What one default profile is kept for. -/
def UserModelProfile.slot (profile : UserModelProfile) : String × String × ModelUsage :=
  (profile.guildId, profile.userId, profile.usage)

structure UserModelProfile.Holds (profile : UserModelProfile)
    (slot : String × String × ModelUsage) : Prop where
  slot : profile.slot = slot
  active : profile.status = .active
  default : profile.isDefault = true

instance (profile : UserModelProfile) (slot : String × String × ModelUsage) :
    Decidable (profile.Holds slot) :=
  decidable_of_iff (profile.slot = slot ∧ profile.status = .active ∧ profile.isDefault = true)
    ⟨fun ⟨h, h', h''⟩ => ⟨h, h', h''⟩, fun ⟨h, h', h''⟩ => ⟨h, h', h''⟩⟩

inductive DefaultProfileError
  | multipleResults
  | profile (exc : ModelProfileError)

namespace ProfileTable

variable (profiles : ProfileTable)

def defaultProfiles (guildId userId : String) (usage : ModelUsage) : List UserModelProfile :=
  profiles.filter fun p => p.Holds (guildId, userId, usage)

def getDefaultProfile (guildId userId : String) (usage : ModelUsage) :
    Except DefaultProfileError UserModelProfile :=
  match defaultProfiles profiles guildId userId usage with
  | [] => .error (.profile (.notFound "default model profile not found"))
  | [profile] => .ok profile
  | _ => .error .multipleResults

end ProfileTable

/-- Every user has one default profile for each usage that has an active profile. -/
structure DefaultsHold (profiles : ProfileTable) : Prop where
  atMostOne : ∀ guildId userId usage,
    (profiles.defaultProfiles guildId userId usage).length ≤ 1
  present : ∀ guildId userId usage, profiles.hasActiveProfile guildId userId usage = true →
    (profiles.defaultProfiles guildId userId usage).length = 1
  found : ∀ guildId userId usage,
    (∃ profile, profiles.getDefaultProfile guildId userId usage = .ok profile) ↔
      profiles.hasActiveProfile guildId userId usage = true

/-- The call revokes the default profile of a user who has another active one. -/
def Strands (profiles : ProfileTable) (op : ProfileOp) : Prop :=
  ∃ id guildId userId profile other, op = .revoke id guildId userId ∧
    profiles.profile? id = some profile ∧
    UsableBy profile (some guildId) (some userId) none none ∧ profile.isDefault = true ∧
    other ∈ profiles ∧ other.id ≠ id ∧ other.slot = profile.slot ∧ other.status = .active

def OneHolder (profiles : ProfileTable) : Prop :=
  ∀ slot, ∀ p ∈ profiles, ∀ q ∈ profiles, p.Holds slot → q.Holds slot → p.id = q.id

/-- The slot of every active profile has a default. -/
def SomeHolder (profiles : ProfileTable) : Prop :=
  ∀ p ∈ profiles, p.status = .active → ∃ q ∈ profiles, q.Holds p.slot

section Tables

variable {profiles : ProfileTable} {guildId userId : String} {usage : ModelUsage}

theorem hasActiveProfile_iff : profiles.hasActiveProfile guildId userId usage = true ↔
    ∃ p ∈ profiles, p.slot = (guildId, userId, usage) ∧ p.status = .active := by
  simp only [ProfileTable.hasActiveProfile, List.any_eq_true, decide_eq_true_eq,
    UserModelProfile.ownedBy, UserModelProfile.slot, Prod.mk.injEq, and_assoc]

theorem mem_defaultProfiles {p : UserModelProfile} :
    p ∈ profiles.defaultProfiles guildId userId usage ↔
      p ∈ profiles ∧ p.Holds (guildId, userId, usage) := by
  simp [ProfileTable.defaultProfiles, List.mem_filter]

theorem getDefaultProfile_iff :
    (∃ profile, profiles.getDefaultProfile guildId userId usage = .ok profile) ↔
      (profiles.defaultProfiles guildId userId usage).length = 1 := by
  unfold ProfileTable.getDefaultProfile
  split
  · rename_i h
    simp [h]
  · rename_i profile h
    simp [h]
  · rename_i hnil hone
    constructor
    · rintro ⟨profile, hprofile⟩
      cases hprofile
    · intro hlength
      obtain ⟨profile, hprofile⟩ := List.length_eq_one_iff.mp hlength
      exact absurd hprofile (hone profile)

theorem length_defaultProfiles_le (hids : Table.Unique UserModelProfile.id profiles)
    (hone : OneHolder profiles) (guildId userId : String) (usage : ModelUsage) :
    (profiles.defaultProfiles guildId userId usage).length ≤ 1 := by
  by_cases hsome : ∃ p ∈ profiles, p.Holds (guildId, userId, usage)
  · obtain ⟨p, hp, hholds⟩ := hsome
    apply hids.length_filter_le _ p.id
    intro q hq hq'
    exact hone _ q hq p hp (of_decide_eq_true hq') hholds
  · have hnil : profiles.defaultProfiles guildId userId usage = [] := by
      apply List.filter_eq_nil_iff.mpr
      intro p hp hholds
      exact hsome ⟨p, hp, of_decide_eq_true hholds⟩
    rw [hnil]
    exact Nat.zero_le 1

theorem length_defaultProfiles_eq (hids : Table.Unique UserModelProfile.id profiles)
    (hone : OneHolder profiles) (hsome : SomeHolder profiles)
    (h : profiles.hasActiveProfile guildId userId usage = true) :
    (profiles.defaultProfiles guildId userId usage).length = 1 := by
  obtain ⟨p, hp, hslot, hactive⟩ := hasActiveProfile_iff.mp h
  obtain ⟨q, hq, hholds⟩ := hsome p hp hactive
  rw [hslot] at hholds
  have hmem : q ∈ profiles.defaultProfiles guildId userId usage :=
    mem_defaultProfiles.mpr ⟨hq, hholds⟩
  have hpos : 0 < (profiles.defaultProfiles guildId userId usage).length :=
    List.length_pos_of_mem hmem
  have hle := length_defaultProfiles_le hids hone guildId userId usage
  omega

theorem defaultsHold (hids : Table.Unique UserModelProfile.id profiles)
    (hone : OneHolder profiles) (hsome : SomeHolder profiles) : DefaultsHold profiles where
  atMostOne := length_defaultProfiles_le hids hone
  present _ _ _ h := length_defaultProfiles_eq hids hone hsome h
  found guildId userId usage := by
    rw [getDefaultProfile_iff]
    constructor
    · intro hlength
      obtain ⟨p, hp⟩ := List.length_pos_iff_exists_mem.mp (by rw [hlength]; exact Nat.one_pos)
      obtain ⟨hmem, hholds⟩ := mem_defaultProfiles.mp hp
      exact hasActiveProfile_iff.mpr ⟨p, hmem, hholds.slot, hholds.active⟩
    · exact length_defaultProfiles_eq hids hone hsome

theorem DefaultsHold.someHolder (h : DefaultsHold profiles) : SomeHolder profiles := by
  intro p hp hactive
  have hlength := h.present p.guildId p.userId p.usage
    (hasActiveProfile_iff.mpr ⟨p, hp, rfl, hactive⟩)
  obtain ⟨q, hq⟩ := List.length_pos_iff_exists_mem.mp (by rw [hlength]; exact Nat.one_pos)
  obtain ⟨hmem, hholds⟩ := mem_defaultProfiles.mp hq
  exact ⟨q, hmem, hholds⟩

end Tables

section Calls

variable {profiles profiles' : ProfileTable} {guildId userId : String} {usage : ModelUsage}

def UserModelProfile.clearedFor (slot : String × String × ModelUsage) (p : UserModelProfile) :
    UserModelProfile :=
  if p.slot = slot then { p with isDefault := false } else p

theorem clearDefault_eq_map : profiles.clearDefault guildId userId usage =
    profiles.map (UserModelProfile.clearedFor (guildId, userId, usage)) := by
  unfold ProfileTable.clearDefault
  apply List.map_congr_left
  intro p _
  simp only [UserModelProfile.clearedFor, UserModelProfile.slot, UserModelProfile.ownedBy,
    Prod.mk.injEq, decide_eq_true_eq, and_assoc]

/-- Of the slot that is cleared no row is the default, the other slots keep theirs. -/
theorem holds_clearedFor {slot slot' : String × String × ModelUsage} {p : UserModelProfile} :
    (p.clearedFor slot).Holds slot' ↔ p.Holds slot' ∧ slot' ≠ slot := by
  unfold UserModelProfile.clearedFor
  constructor
  · intro h
    split_ifs at h with hslot
    · cases h.default
    · exact ⟨h, fun heq => hslot (h.slot.trans heq)⟩
  · rintro ⟨h, hne⟩
    rw [if_neg fun heq => hne (h.slot.symm.trans heq)]
    exact h

theorem id_clearedFor (slot : String × String × ModelUsage) (p : UserModelProfile) :
    (p.clearedFor slot).id = p.id := by
  unfold UserModelProfile.clearedFor
  split <;> rfl

theorem slot_clearedFor (slot : String × String × ModelUsage) (p : UserModelProfile) :
    (p.clearedFor slot).slot = p.slot := by
  unfold UserModelProfile.clearedFor
  split <;> rfl

theorem status_clearedFor (slot : String × String × ModelUsage) (p : UserModelProfile) :
    (p.clearedFor slot).status = p.status := by
  unfold UserModelProfile.clearedFor
  split <;> rfl

theorem OneHolder.clear (h : OneHolder profiles) (slot : String × String × ModelUsage) :
    OneHolder (profiles.map (UserModelProfile.clearedFor slot)) := by
  intro slot' p' hp' q' hq' hp hq
  obtain ⟨p, hpmem, rfl⟩ := List.mem_map.mp hp'
  obtain ⟨q, hqmem, rfl⟩ := List.mem_map.mp hq'
  rw [id_clearedFor, id_clearedFor]
  exact h slot' p hpmem q hqmem (holds_clearedFor.mp hp).1 (holds_clearedFor.mp hq).1

theorem OneHolder.append (h : OneHolder profiles) {row : UserModelProfile}
    (hrow : row.isDefault = true → ∀ p ∈ profiles, ¬p.Holds row.slot) :
    OneHolder (profiles ++ [row]) := by
  intro slot p hp q hq hpslot hqslot
  rcases List.mem_append.mp hp with hpmem | hprow <;>
    rcases List.mem_append.mp hq with hqmem | hqrow
  · exact h slot p hpmem q hqmem hpslot hqslot
  · obtain rfl := List.mem_singleton.mp hqrow
    obtain rfl := hqslot.slot
    exact absurd hpslot (hrow hqslot.default p hpmem)
  · obtain rfl := List.mem_singleton.mp hprow
    obtain rfl := hpslot.slot
    exact absurd hqslot (hrow hpslot.default q hqmem)
  · rw [List.mem_singleton.mp hprow, List.mem_singleton.mp hqrow]

theorem createProfile_eq_ok {id : UUID} {tenantId : Option String}
    {request : CreateModelProfileRequest} {encryptedApiKey : String}
    (h : profiles.createProfile id tenantId guildId userId request encryptedApiKey =
      .ok profiles') :
    ∃ row : UserModelProfile, row.slot = (guildId, userId, request.usage) ∧ row.status = .active ∧
      row.isDefault =
        (request.makeDefault || !profiles.hasActiveProfile guildId userId request.usage) ∧
      profiles' = (if row.isDefault then profiles.map (UserModelProfile.clearedFor row.slot)
        else profiles) ++ [row] := by
  simp only [ProfileTable.createProfile, ProfileTable.insert, Except.ite_error_eq_ok,
    Except.ok.injEq, clearDefault_eq_map] at h
  exact ⟨_, rfl, rfl, rfl, h.2.symm⟩

theorem oneHolder_create {id : UUID} {tenantId : Option String}
    {request : CreateModelProfileRequest} {encryptedApiKey : String} (hone : OneHolder profiles)
    (h : profiles.createProfile id tenantId guildId userId request encryptedApiKey =
      .ok profiles') : OneHolder profiles' := by
  obtain ⟨row, hslot, hactive, hdefault, rfl⟩ := createProfile_eq_ok h
  cases hrow : row.isDefault with
  | true =>
    rw [if_pos rfl]
    apply (hone.clear row.slot).append
    intro _ p hp hholds
    obtain ⟨q, _, rfl⟩ := List.mem_map.mp hp
    exact (holds_clearedFor.mp hholds).2 rfl
  | false =>
    rw [if_neg Bool.false_ne_true]
    apply hone.append
    intro htrue
    rw [hrow] at htrue
    cases htrue

theorem someHolder_create {id : UUID} {tenantId : Option String}
    {request : CreateModelProfileRequest} {encryptedApiKey : String}
    (hsome : SomeHolder profiles)
    (h : profiles.createProfile id tenantId guildId userId request encryptedApiKey =
      .ok profiles') : SomeHolder profiles' := by
  obtain ⟨row, hslot, hactive, hdefault, rfl⟩ := createProfile_eq_ok h
  cases hrow : row.isDefault with
  | true =>
    rw [if_pos rfl]
    have hholds : row.Holds row.slot := ⟨rfl, hactive, hrow⟩
    intro p hp hpactive
    by_cases hpslot : p.slot = row.slot
    · rw [hpslot]
      exact ⟨row, List.mem_append_right _ (List.mem_singleton_self row), hholds⟩
    · rcases List.mem_append.mp hp with hp | hp
      · obtain ⟨old, hold, rfl⟩ := List.mem_map.mp hp
        rw [status_clearedFor] at hpactive
        rw [slot_clearedFor] at hpslot ⊢
        obtain ⟨q, hq, hqholds⟩ := hsome old hold hpactive
        exact ⟨q.clearedFor row.slot, List.mem_append_left _ (List.mem_map_of_mem hq),
          holds_clearedFor.mpr ⟨hqholds, hpslot⟩⟩
      · rw [List.mem_singleton.mp hp] at hpslot
        exact absurd rfl hpslot
  | false =>
    rw [if_neg Bool.false_ne_true]
    rw [hrow] at hdefault
    -- the first active profile of a slot is made its default
    have hhas : profiles.hasActiveProfile guildId userId request.usage = true := by
      cases hhas : profiles.hasActiveProfile guildId userId request.usage with
      | true => rfl
      | false => simp [hhas] at hdefault
    intro p hp hpactive
    rcases List.mem_append.mp hp with hp | hp
    · obtain ⟨q, hq, hqholds⟩ := hsome p hp hpactive
      exact ⟨q, List.mem_append_left _ hq, hqholds⟩
    · obtain rfl := List.mem_singleton.mp hp
      obtain ⟨old, hold, holdslot, holdactive⟩ := hasActiveProfile_iff.mp hhas
      obtain ⟨q, hq, hqholds⟩ := hsome old hold holdactive
      rw [holdslot, ← hslot] at hqholds
      exact ⟨q, List.mem_append_left _ hq, hqholds⟩

/-- The row that is made the default of its slot, and the others. -/
theorem setDefault_eq_ok {profileId : UUID} (hids : Table.Unique UserModelProfile.id profiles)
    (h : profiles.setDefault profileId guildId userId usage = .ok profiles') :
    ∃ profile ∈ profiles, profile.slot = (guildId, userId, usage) ∧ profile.status = .active ∧
      ∀ p', p' ∈ profiles' ↔
        p' = { profile with isDefault := true } ∨
          ∃ p ∈ profiles, p.id ≠ profile.id ∧ p' = p.clearedFor profile.slot := by
  simp only [ProfileTable.setDefault, Except.bind_eq_ok, Except.ok.injEq, getActiveProfile_eq_ok,
    clearDefault_eq_map] at h
  obtain ⟨profile, ⟨hfind, husable⟩, rfl⟩ := h
  have hmem : profile ∈ profiles := Table.find_mem hfind
  have hslot : profile.slot = (guildId, userId, usage) := by
    simp only [UserModelProfile.slot, husable.guild guildId rfl, husable.user userId rfl,
      husable.usage usage rfl]
  refine ⟨profile, hmem, hslot, husable.active, ?_⟩
  intro p'
  rw [← hslot, Table.mem_modify]
  have hset : ∀ p ∈ profiles, p.id = profile.id →
      { p.clearedFor profile.slot with isDefault := true } = { profile with isDefault := true } := by
    intro p hp hid
    obtain rfl := hids.eq hp hmem hid
    simp [UserModelProfile.clearedFor]
  constructor
  · rintro ⟨cleared, hcleared, rfl⟩
    obtain ⟨p, hp, rfl⟩ := List.mem_map.mp hcleared
    by_cases hid : (p.clearedFor profile.slot).id = profile.id
    · rw [if_pos hid]
      rw [id_clearedFor] at hid
      exact Or.inl (hset p hp hid)
    · rw [if_neg hid]
      rw [id_clearedFor] at hid
      exact Or.inr ⟨p, hp, hid, rfl⟩
  · rintro (rfl | ⟨p, hp, hid, rfl⟩)
    · refine ⟨profile.clearedFor profile.slot, List.mem_map_of_mem hmem, ?_⟩
      rw [if_pos (id_clearedFor _ _), hset profile hmem rfl]
    · refine ⟨p.clearedFor profile.slot, List.mem_map_of_mem hp, ?_⟩
      rw [if_neg (by rwa [id_clearedFor])]

theorem oneHolder_setDefault {profileId : UUID} (hids : Table.Unique UserModelProfile.id profiles)
    (hone : OneHolder profiles)
    (h : profiles.setDefault profileId guildId userId usage = .ok profiles') :
    OneHolder profiles' := by
  obtain ⟨profile, hmem, hslot, hactive, hrows⟩ := setDefault_eq_ok hids h
  -- another default of the same slot has been cleared
  have hother : ∀ p : UserModelProfile, ¬(p.clearedFor profile.slot).Holds profile.slot :=
    fun p hholds => (holds_clearedFor.mp hholds).2 rfl
  intro slot p' hp' q' hq' hp hq
  rcases (hrows p').mp hp' with rfl | ⟨p, hpmem, _, rfl⟩ <;>
    rcases (hrows q').mp hq' with rfl | ⟨q, hqmem, _, rfl⟩
  · rfl
  · obtain rfl : profile.slot = slot := hp.slot
    exact absurd hq (hother q)
  · obtain rfl : profile.slot = slot := hq.slot
    exact absurd hp (hother p)
  · rw [id_clearedFor, id_clearedFor]
    exact hone slot p hpmem q hqmem (holds_clearedFor.mp hp).1 (holds_clearedFor.mp hq).1

theorem someHolder_setDefault {profileId : UUID}
    (hids : Table.Unique UserModelProfile.id profiles) (hsome : SomeHolder profiles)
    (h : profiles.setDefault profileId guildId userId usage = .ok profiles') :
    SomeHolder profiles' := by
  obtain ⟨profile, hmem, hslot, hactive, hrows⟩ := setDefault_eq_ok hids h
  have hprofile : { profile with isDefault := true }.Holds profile.slot := ⟨rfl, hactive, rfl⟩
  intro p' hp' hp'active
  by_cases hp'slot : p'.slot = profile.slot
  · rw [hp'slot]
    exact ⟨_, (hrows _).mpr (Or.inl rfl), hprofile⟩
  · rcases (hrows p').mp hp' with rfl | ⟨p, hp, _, rfl⟩
    · exact absurd rfl hp'slot
    · rw [status_clearedFor] at hp'active
      rw [slot_clearedFor] at hp'slot ⊢
      obtain ⟨q, hq, hqholds⟩ := hsome p hp hp'active
      refine ⟨q.clearedFor profile.slot, (hrows _).mpr (Or.inr ⟨q, hq, ?_, rfl⟩),
        holds_clearedFor.mpr ⟨hqholds, hp'slot⟩⟩
      intro hid
      rw [hids.eq hq hmem hid] at hqholds
      exact hp'slot hqholds.slot.symm

/-- A revoked row is no default, the others are as they were. -/
theorem revoke_eq_ok {profileId : UUID} (h : profiles.revoke profileId guildId userId =
    .ok profiles') :
    ∃ profile, profiles.profile? profileId = some profile ∧
      UsableBy profile (some guildId) (some userId) none none ∧
      (∀ p ∈ profiles, p.id ≠ profileId → p ∈ profiles') ∧
      ∀ p ∈ profiles', p.status = .active → p ∈ profiles ∧ p.id ≠ profileId := by
  simp only [ProfileTable.revoke, Except.bind_eq_ok, Except.ok.injEq, getActiveProfile_eq_ok] at h
  obtain ⟨profile, ⟨hfind, husable⟩, rfl⟩ := h
  have hid : profile.id = profileId := Table.find_key hfind
  refine ⟨profile, hfind, husable, ?_, ?_⟩
  · intro p hp hne
    exact Table.mem_modify.mpr ⟨p, hp, if_neg (hid ▸ hne)⟩
  · intro p' hp' hactive
    obtain ⟨p, hp, rfl⟩ := Table.mem_modify.mp hp'
    by_cases hpid : p.id = profile.id
    · rw [if_pos hpid] at hactive
      cases hactive
    · rw [if_neg hpid]
      exact ⟨hp, hid ▸ hpid⟩

theorem oneHolder_revoke {profileId : UUID} (hone : OneHolder profiles)
    (h : profiles.revoke profileId guildId userId = .ok profiles') : OneHolder profiles' := by
  obtain ⟨profile, _, _, _, hrows⟩ := revoke_eq_ok h
  intro slot p hp q hq hpholds hqholds
  exact hone slot p (hrows p hp hpholds.active).1 q (hrows q hq hqholds.active).1 hpholds hqholds

theorem someHolder_revoke {profileId : UUID} (hids : Table.Unique UserModelProfile.id profiles)
    (hsome : SomeHolder profiles) (hstrands : ¬Strands profiles (.revoke profileId guildId userId))
    (h : profiles.revoke profileId guildId userId = .ok profiles') : SomeHolder profiles' := by
  obtain ⟨profile, hfind, husable, hkept, hrows⟩ := revoke_eq_ok h
  intro p hp hactive
  obtain ⟨hpmem, hpid⟩ := hrows p hp hactive
  obtain ⟨q, hq, hqholds⟩ := hsome p hpmem hactive
  refine ⟨q, hkept q hq ?_, hqholds⟩
  intro hqid
  have hprofile : q = profile :=
    hids.eq hq (Table.find_mem hfind) (hqid.trans (Table.find_key hfind).symm)
  subst hprofile
  exact hstrands ⟨profileId, guildId, userId, q, p, rfl, hfind, husable, hqholds.default, hpmem,
    hpid, hqholds.slot.symm, hactive⟩

/-- A call that strands a user leaves an active profile without a default. -/
theorem not_someHolder_of_strands {op : ProfileOp} (hone : OneHolder profiles)
    (hstrands : Strands profiles op) (h : op.commit profiles = some profiles') :
    ¬SomeHolder profiles' := by
  obtain ⟨id, guildId, userId, profile, other, rfl, hfind, husable, hdefault, hother, hid, hslot,
    hactive⟩ := hstrands
  have hrevoke : ∃ revoked, profiles.revoke id guildId userId = .ok revoked := by
    refine ⟨_, Except.bind_eq_ok.mpr ⟨profile, ?_, rfl⟩⟩
    exact getActiveProfile_eq_ok.mpr ⟨hfind, husable⟩
  obtain ⟨revoked, hrevoke⟩ := hrevoke
  have heq : revoked = profiles' := by
    simpa [ProfileOp.commit, ProfileOp.run, hrevoke, Except.toOption] using h
  subst heq
  obtain ⟨_, _, _, hkept, hrows⟩ := revoke_eq_ok hrevoke
  intro hsome
  obtain ⟨q, hq, hqholds⟩ := hsome other (hkept other hother hid) hactive
  obtain ⟨hqmem, hqid⟩ := hrows q hq hqholds.active
  have hprofile : profile.Holds other.slot := ⟨hslot.symm, husable.active, hdefault⟩
  have hsame := hone other.slot q hqmem profile (Table.find_mem hfind) hqholds hprofile
  exact hqid (hsame.trans (Table.find_key hfind))

end Calls

/-- What every history keeps, whatever is revoked. -/
structure Tidy (profiles : ProfileTable) : Prop where
  kept : ∃ ops, Kept ops profiles
  one : OneHolder profiles

section Histories

variable {profiles profiles' : ProfileTable} {op : ProfileOp}

theorem Tidy.ids (h : Tidy profiles) : Table.Unique UserModelProfile.id profiles := by
  obtain ⟨ops, hkept⟩ := h.kept
  exact hkept.ids

theorem tidy_nil : Tidy [] := ⟨⟨[], kept_nil⟩, fun _ p hp => by cases hp⟩

theorem Tidy.commit (ht : Tidy profiles) (h : op.commit profiles = some profiles') :
    Tidy profiles' := by
  obtain ⟨ops, hkept⟩ := ht.kept
  refine ⟨⟨_, hkept.commit h⟩, ?_⟩
  obtain rfl := Option.some.inj h
  cases hrun : op.run profiles with
  | error exc => exact ht.one
  | ok committed =>
    cases op with
    | create id tenantId guildId userId request encryptedApiKey =>
      exact oneHolder_create ht.one hrun
    | setDefault profileId guildId userId usage => exact oneHolder_setDefault ht.ids ht.one hrun
    | revoke profileId guildId userId => exact oneHolder_revoke ht.one hrun

theorem someHolder_commit (ht : Tidy profiles) (hsome : SomeHolder profiles)
    (hstrands : ¬Strands profiles op) (h : op.commit profiles = some profiles') :
    SomeHolder profiles' := by
  obtain rfl := Option.some.inj h
  cases hrun : op.run profiles with
  | error exc => exact hsome
  | ok committed =>
    cases op with
    | create id tenantId guildId userId request encryptedApiKey =>
      exact someHolder_create hsome hrun
    | setDefault profileId guildId userId usage => exact someHolder_setDefault ht.ids hsome hrun
    | revoke profileId guildId userId => exact someHolder_revoke ht.ids hsome hstrands hrun

theorem tidy_exec {ops : List ProfileOp} (h : exec ProfileOp.commit [] ops = some profiles) :
    Tidy profiles := by
  have htrue : Along ProfileOp.commit (fun _ _ => True) [] ops :=
    along_iff_forall.mpr fun _ _ _ _ _ _ => trivial
  exact exec_invariant Tidy (fun _ _ _ ht _ hstep => ht.commit hstep) tidy_nil htrue h

/-- In a history every state has its defaults exactly when no call revokes the default of a
user who has another active profile. -/
theorem defaultsHold_iff (ops : List ProfileOp) :
    (∀ pre post profiles, ops = pre ++ post → exec ProfileOp.commit [] pre = some profiles →
      DefaultsHold profiles) ↔
      Along ProfileOp.commit (fun profiles op => ¬Strands profiles op) [] ops := by
  constructor
  · intro hall
    apply along_iff_forall.mpr
    rintro pre op post profiles rfl hpre hstrands
    have hnext : op.commit profiles = some ((op.run profiles).toOption.getD profiles) := rfl
    have hafter : exec ProfileOp.commit [] (pre ++ [op]) =
        some ((op.run profiles).toOption.getD profiles) :=
      exec_append_eq_some.mpr ⟨profiles, hpre, hnext⟩
    have hholds : DefaultsHold ((op.run profiles).toOption.getD profiles) :=
      hall (pre ++ [op]) post _ (by simp) hafter
    exact not_someHolder_of_strands (tidy_exec hpre).one hstrands hnext hholds.someHolder
  · rintro hnone pre post profiles rfl hpre
    have hnonePre : Along ProfileOp.commit (fun profiles op => ¬Strands profiles op) [] pre :=
      ((along_append hpre).mp hnone).1
    have hinv : Tidy profiles ∧ SomeHolder profiles := by
      apply exec_invariant (fun profiles => Tidy profiles ∧ SomeHolder profiles) _ _ hnonePre hpre
      · rintro profiles op profiles' ⟨ht, hsome⟩ hstrands hstep
        exact ⟨ht.commit hstep, someHolder_commit ht hsome hstrands hstep⟩
      · exact ⟨tidy_nil, fun p hp => by cases hp⟩
    exact defaultsHold hinv.1.ids hinv.1.one hinv.2

end Histories

def spareRequest : CreateModelProfileRequest :=
  { sampleRequest .chat with
    displayName := some "spare"
    makeDefault := false
    displayName_length := by decide }

def strandingOps : List ProfileOp :=
  [.create (sampleId 1) none "guild" "alice" (sampleRequest .chat) "v1:a:b:c",
    .create (sampleId 2) none "guild" "alice" spareRequest "v1:d:e:f",
    .revoke (sampleId 1) "guild" "alice"]

/-- The other profile stays active, and no profile is the default. -/
theorem not_defaultsHold :
    ∃ profiles, exec ProfileOp.commit [] strandingOps = some profiles ∧ ¬DefaultsHold profiles := by
  refine ⟨(exec ProfileOp.commit [] strandingOps).getD [], rfl, ?_⟩
  intro hholds
  have hactive : ProfileTable.hasActiveProfile
      ((exec ProfileOp.commit [] strandingOps).getD []) "guild" "alice" .chat = true := by
    decide +kernel
  have hlength := hholds.present "guild" "alice" .chat hactive
  revert hlength
  decide +kernel

end Headhunt.ModelProfiles
