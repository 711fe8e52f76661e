import Headhunt.Lib.Transition
import Headhunt.Memory.Isolation
import Headhunt.Memory.Updates

/-! Which calls make a memory active. An approval does, and so does a run memory that is
written over the row of its content: the scope of the row stays what it was. -/
namespace Headhunt.Memory
open Headhunt.Storage Py Transition

def Approves (id : UUID) (tables : MemoryTables) : MemoryCall → Prop
  | .approve proposalId _ _ => ∃ pid p, UUID.parse proposalId = some pid ∧
    tables.proposal? pid = some p ∧ p.memoryId = id
  | _ => False

/-- A `propose_update` that goes through and writes the content of the row. -/
def WritesContent (id : UUID) (tables : MemoryTables) : MemoryCall → Prop
  | .propose agentName item proposalId now aborts =>
    (∃ t, (MemoryCall.propose agentName item proposalId now aborts).run tables = .ok t) ∧
      ∃ t, upsert (storedItem agentName item now) now tables = .ok (id, t)
  | _ => False

/-- A run memory is written over a row of another scope. -/
def RunMemoryOverwrites (tables : MemoryTables) : MemoryCall → Prop
  | .propose _ item _ _ aborts => aborts = false ∧ item.scope = .run ∧
    ∃ row, tables.memoryForContent? item.contentKey = some row ∧ row.scope ≠ .run
  | _ => False

structure MemoryTables.Keyed (tables : MemoryTables) : Prop where
  memories : Table.Unique (fun r : MemoryRecord => r.id) tables.memories
  proposals : Table.Unique MemoryUpdateProposal.id tables.proposals

section Calls

variable {tables t : MemoryTables} {call : MemoryCall}

theorem MemoryTables.step_eq_some (h : tables.step call = some t) :
    (∃ exc, call.run tables = .error exc ∧ t = tables) ∨ call.run tables = .ok t := by
  unfold MemoryTables.step at h
  cases hrun : call.run tables with
  | ok t' =>
    simp only [hrun, Option.some.injEq] at h
    exact .inr (by rw [h])
  | error exc =>
    simp only [hrun, Option.some.injEq] at h
    exact .inl ⟨exc, rfl, h.symm⟩

theorem memory?_key {id : UUID} {memory : MemoryRecord} (h : tables.memory? id = some memory) :
    memory.id = id := by
  unfold MemoryTables.memory? at h
  simpa using List.find?_some h

theorem upsert_eq_ok {item : MemoryItemSchema} {now : Time} {id : UUID}
    (h : upsert item now tables = .ok (id, t)) :
    (∃ row, tables.memoryForContent? item.contentKey = some row ∧ id = row.id ∧
        t = tables.updateMemory row.id (overwrittenRow item)) ∨
      (tables.memoryForContent? item.contentKey = none ∧ id = item.memoryId ∧
        tables.memory? item.memoryId = none ∧
        t = { tables with memories := tables.memories ++ [insertedRow item now] }) := by
  unfold upsert at h
  cases hrow : tables.memoryForContent? item.contentKey with
  | some row =>
    simp only [hrow, Except.ok.injEq, Prod.mk.injEq] at h
    exact .inl ⟨row, rfl, h.1.symm, h.2.symm⟩
  | none =>
    simp only [hrow, Except.ite_error_eq_ok, Except.ok.injEq, Prod.mk.injEq, Bool.not_eq_true,
      Option.isSome_eq_false_iff, Option.isNone_iff_eq_none] at h
    exact .inr ⟨rfl, h.2.1.symm, h.1, h.2.2.symm⟩

theorem insertProposal_eq_ok {row : MemoryUpdateProposal} :
    tables.insertProposal row = .ok t ↔ tables.proposal? row.id = none ∧
      (tables.memory? row.memoryId).isSome ∧
      t = { tables with proposals := tables.proposals ++ [row] } := by
  unfold MemoryTables.insertProposal
  simp only [Except.ite_error_eq_ok, not_or, Bool.not_eq_true, Option.isSome_eq_false_iff,
    Option.isNone_iff_eq_none, ← ne_eq, Option.ne_none_iff_isSome, Except.ok.injEq, and_assoc,
    @eq_comm _ t]

/-- A proposal writes its row, and unless it is a run memory a `create` proposal. -/
theorem proposeUpdate_eq_ok {agentName : String} {item : MemoryItemSchema} {proposalId : UUID}
    {now : Time} {result : String}
    (h : proposeUpdate agentName item proposalId now tables = .ok (result, t)) :
    ∃ id t₁, upsert (storedItem agentName item now) now tables = .ok (id, t₁) ∧
      t.memories = t₁.memories ∧
      (item.scope = .run ∧ t.proposals = tables.proposals ∨
        item.scope ≠ .run ∧ tables.proposal? proposalId = none ∧
          t.proposals = tables.proposals ++ [createProposal item proposalId]) := by
  simp only [proposeUpdate, Except.bind_eq_ok, Prod.exists] at h
  obtain ⟨id, t₁, hupsert, h⟩ := h
  have hsame : t₁.proposals = tables.proposals := by
    rcases upsert_eq_ok hupsert with ⟨_, _, _, rfl⟩ | ⟨_, _, _, rfl⟩ <;> rfl
  refine ⟨id, t₁, hupsert, ?_⟩
  by_cases hscope : item.scope = .run
  · simp only [hscope, if_true, Except.ok.injEq, Prod.mk.injEq] at h
    obtain ⟨_, rfl⟩ := h
    exact ⟨rfl, .inl ⟨hscope, hsame⟩⟩
  · simp only [hscope, if_false, Except.bind_eq_ok, Except.ok.injEq, Prod.mk.injEq] at h
    obtain ⟨t₂, hinsert, _, rfl⟩ := h
    obtain ⟨hid, _, rfl⟩ := insertProposal_eq_ok.mp hinsert
    refine ⟨rfl, .inr ⟨hscope, ?_, by rw [hsame]⟩⟩
    rw [MemoryTables.proposal?, ← hsame]
    exact hid

theorem approveUpdate_eq_ok {proposalId reviewer : String} {now : Time}
    (h : approveUpdate proposalId reviewer now tables = .ok t) :
    ∃ pid p memory, UUID.parse proposalId = some pid ∧ tables.proposal? pid = some p ∧
      tables.memory? p.memoryId = some memory ∧
      t.memories = (tables.updateMemory memory.id (approvedRow now)).memories ∧
      t.proposals = Table.modify MemoryUpdateProposal.id pid (fun p =>
        { p with
          status := .approved
          approver := some (Dict.ofList [("reviewer", .str reviewer)])
          decidedAt := some now }) tables.proposals := by
  unfold approveUpdate at h
  cases hpid : UUID.parse proposalId with
  | none => simp [hpid] at h
  | some pid =>
    cases hp : tables.proposal? pid with
    | none => simp [hpid, hp] at h
    | some p =>
      cases hm : tables.memory? p.memoryId with
      | none => simp [hpid, hp, hm] at h
      | some memory =>
        simp only [hpid, hp, hm, Except.ok.injEq] at h
        subst h
        exact ⟨pid, p, memory, rfl, hp, hm, rfl, rfl⟩

theorem revokeUpdate_eq_ok {memoryId reviewer reason : String} {proposalId : UUID} {now : Time}
    (h : revokeUpdate memoryId reviewer reason proposalId now tables = .ok t) :
    ∃ id memory, UUID.parse memoryId = some id ∧ tables.memory? id = some memory ∧
      tables.proposal? proposalId = none ∧
      t.memories =
        (tables.updateMemory memory.id fun row => row.withLife .revoked row.expiresAt).memories ∧
      t.proposals = tables.proposals ++ [revokeProposal memory proposalId reviewer reason now] := by
  unfold revokeUpdate at h
  cases hid : UUID.parse memoryId with
  | none => simp [hid] at h
  | some id =>
    cases hm : tables.memory? id with
    | none => simp [hid, hm] at h
    | some memory =>
      simp only [hid, hm] at h
      obtain ⟨hnew, _, rfl⟩ := insertProposal_eq_ok.mp h
      exact ⟨id, memory, rfl, hm, hnew, rfl, rfl⟩

/-- Retention keeps the rows and never makes one active. -/
theorem mem_runRetention {now : Time} {dryRun : Bool} {memories : List MemoryRecord}
    {row' : MemoryRecord} (h : row' ∈ runRetention now dryRun memories) :
    ∃ row ∈ memories, row'.id = row.id ∧ row'.scope = row.scope ∧
      (row'.status = .active → row.status = .active) := by
  unfold runRetention at h
  by_cases hdry : dryRun = true
  · rw [if_pos hdry] at h
    exact ⟨row', h, rfl, rfl, id⟩
  · rw [if_neg hdry] at h
    obtain ⟨row, hrow, rfl⟩ := List.mem_map.mp h
    refine ⟨row, hrow, ?_⟩
    split_ifs
    · unfold retainRow
      split_ifs
      · exact ⟨rfl, rfl, id⟩
      · refine ⟨rfl, rfl, ?_⟩
        dsimp only
        split_ifs
        · intro h
          cases h
        · exact id
    · exact ⟨rfl, rfl, id⟩

inductive RowOrigin (tables : MemoryTables) (call : MemoryCall) (row' : MemoryRecord) : Prop
  | kept {row : MemoryRecord} (hrow : row ∈ tables.memories) (hid : row'.id = row.id)
    (hscope : row'.scope = row.scope) (hactive : row'.status = .active → row.status = .active)
    (hwrites : ¬WritesContent row.id tables call)
  | approved {row : MemoryRecord} (hrow : row ∈ tables.memories) (hid : row'.id = row.id)
    (happroves : Approves row.id tables call)
  | written {row : MemoryRecord} {agentName : String} {item : MemoryItemSchema} {proposalId : UUID}
    {now : Time} (hcall : call = .propose agentName item proposalId now false)
    (hfind : tables.memoryForContent? item.contentKey = some row) (hid : row'.id = row.id)
    (hscope : row'.scope = row.scope)
    (hstatus : row'.status = if item.scope = .run then .active else .pendingReview)
    (hwrites : WritesContent row.id tables call)
  | inserted {agentName : String} {item : MemoryItemSchema} {proposalId : UUID} {now : Time}
    (hcall : call = .propose agentName item proposalId now false)
    (hnew : tables.memory? item.memoryId = none) (hid : row'.id = item.memoryId)
    (hscope : row'.scope = item.scope)
    (hstatus : row'.status = if item.scope = .run then .active else .pendingReview)

theorem rowOrigin (hk : tables.Keyed) (h : call.run tables = .ok t) {row' : MemoryRecord}
    (hrow' : row' ∈ t.memories) : RowOrigin tables call row' := by
  cases call with
  | propose agentName item proposalId now aborts =>
    cases aborts with
    | true => simp [MemoryCall.run] at h
    | false =>
      have hrun := h
      simp only [MemoryCall.run, Bool.false_eq_true, if_false, Except.map_eq_ok, Prod.exists] at h
      obtain ⟨result, t', hpropose, rfl⟩ := h
      obtain ⟨id, t₁, hupsert, hmemories, _⟩ := proposeUpdate_eq_ok hpropose
      rw [hmemories] at hrow'
      have hwrites : WritesContent id tables (.propose agentName item proposalId now false) :=
        ⟨⟨_, hrun⟩, t₁, hupsert⟩
      have hother : ∀ {row : MemoryRecord}, row.id ≠ id →
          ¬WritesContent row.id tables (.propose agentName item proposalId now false) := by
        rintro row hne ⟨_, t₂, hupsert'⟩
        have heq := Except.ok.inj (hupsert.symm.trans hupsert')
        exact hne (congrArg Prod.fst heq).symm
      rcases upsert_eq_ok hupsert with ⟨row, hfind, rfl, rfl⟩ | ⟨_, rfl, hnew, rfl⟩
      · obtain ⟨old, hold, rfl⟩ := Table.mem_modify.mp hrow'
        by_cases hid : old.id = row.id
        · obtain rfl := hk.memories.eq hold (Table.find_mem hfind) hid
          rw [if_pos rfl]
          exact .written rfl hfind rfl rfl rfl hwrites
        · rw [if_neg hid]
          exact .kept hold rfl rfl id (hother hid)
      · rcases List.mem_append.mp hrow' with hold | hnewrow
        · refine .kept hold rfl rfl id (hother ?_)
          exact Table.find_eq_none_iff.mp hnew row' hold
        · obtain rfl := List.mem_singleton.mp hnewrow
          exact .inserted rfl hnew rfl rfl rfl
  | approve proposalId reviewer now =>
    have happrove : approveUpdate proposalId reviewer now tables = .ok t := h
    obtain ⟨pid, p, memory, hpid, hp, hm, hmemories, _⟩ := approveUpdate_eq_ok happrove
    rw [hmemories] at hrow'
    obtain ⟨old, hold, rfl⟩ := Table.mem_modify.mp hrow'
    by_cases hid : old.id = memory.id
    · rw [if_pos hid]
      refine .approved hold rfl ⟨pid, p, hpid, hp, ?_⟩
      exact (Table.find_key hm).symm.trans hid.symm
    · rw [if_neg hid]
      exact .kept hold rfl rfl id (fun h => h)
  | revoke memoryId reviewer reason proposalId now =>
    have hrevoke : revokeUpdate memoryId reviewer reason proposalId now tables = .ok t := h
    obtain ⟨id', memory, _, _, _, hmemories, _⟩ := revokeUpdate_eq_ok hrevoke
    rw [hmemories] at hrow'
    obtain ⟨old, hold, rfl⟩ := Table.mem_modify.mp hrow'
    refine .kept hold ?_ ?_ ?_ (fun h => h)
    · split_ifs <;> rfl
    · split_ifs <;> rfl
    · split_ifs
      · intro h
        cases h
      · exact id
  | retention now dryRun =>
    obtain rfl := Except.ok.inj h
    obtain ⟨row, hrow, hid, hscope, hactive⟩ := mem_runRetention hrow'
    exact .kept hrow hid hscope hactive (fun h => h)

/-- The parts of a proposal that no call changes; an approval is not taken back. -/
structure SameProposal (p p' : MemoryUpdateProposal) : Prop where
  id : p'.id = p.id
  memoryId : p'.memoryId = p.memoryId
  proposalType : p'.proposalType = p.proposalType
  approved : p.status = .approved → p'.status = .approved

def ApprovesProposal (pid : UUID) : MemoryCall → Prop
  | .approve proposalId _ _ => UUID.parse proposalId = some pid
  | _ => False

structure ProposalsAfter (tables t : MemoryTables) (call : MemoryCall)
    (f : MemoryUpdateProposal → MemoryUpdateProposal) (added : List MemoryUpdateProposal) :
    Prop where
  proposals : t.proposals = tables.proposals.map f ++ added
  same : ∀ p, SameProposal p (f p)
  approved : ∀ p, ApprovesProposal p.id call → (f p).status = .approved
  new : ∀ p ∈ added, tables.proposal? p.id = none
  length_le : added.length ≤ 1

theorem proposalsAfter (h : call.run tables = .ok t) :
    ∃ f added, ProposalsAfter tables t call f added := by
  have hid : ∀ p : MemoryUpdateProposal, SameProposal p (id p) := fun p => ⟨rfl, rfl, rfl, id⟩
  cases call with
  | propose agentName item proposalId now aborts =>
    cases aborts with
    | true => simp [MemoryCall.run] at h
    | false =>
      simp only [MemoryCall.run, Bool.false_eq_true, if_false, Except.map_eq_ok, Prod.exists] at h
      obtain ⟨result, t', hpropose, rfl⟩ := h
      obtain ⟨_, _, _, _, ⟨_, hsame⟩ | ⟨_, hnew, happend⟩⟩ := proposeUpdate_eq_ok hpropose
      · exact ⟨id, [], by simp [hsame], hid, fun _ h => h.elim, by simp, by simp⟩
      · exact ⟨id, [createProposal item proposalId], by simp [happend], hid, fun _ h => h.elim,
          by simpa [createProposal] using hnew, by simp⟩
  | approve proposalId reviewer now =>
    have happrove : approveUpdate proposalId reviewer now tables = .ok t := h
    obtain ⟨pid, p, memory, hpid, _, _, _, hproposals⟩ := approveUpdate_eq_ok happrove
    refine ⟨_, [], by rw [hproposals, List.append_nil]; rfl, ?_, ?_, by simp, by simp⟩
    · intro p
      split_ifs
      · exact ⟨rfl, rfl, rfl, fun _ => rfl⟩
      · exact ⟨rfl, rfl, rfl, id⟩
    · intro p hp
      have hp : pid = p.id := Option.some.inj (hpid.symm.trans hp)
      rw [if_pos hp.symm]
  | revoke memoryId reviewer reason proposalId now =>
    have hrevoke : revokeUpdate memoryId reviewer reason proposalId now tables = .ok t := h
    obtain ⟨_, memory, _, _, hnew, _, happend⟩ := revokeUpdate_eq_ok hrevoke
    exact ⟨id, [revokeProposal memory proposalId reviewer reason now], by simp [happend], hid,
      fun _ h => h.elim, by simpa [revokeProposal] using hnew, by simp⟩
  | retention now dryRun =>
    obtain rfl := Except.ok.inj h
    exact ⟨id, [], by simp, hid, fun _ h => h.elim, by simp, by simp⟩

theorem ProposalsAfter.unique {f : MemoryUpdateProposal → MemoryUpdateProposal}
    {added : List MemoryUpdateProposal} (h : ProposalsAfter tables t call f added)
    (hk : Table.Unique MemoryUpdateProposal.id tables.proposals) :
    Table.Unique MemoryUpdateProposal.id t.proposals := by
  have hids : (tables.proposals.map f).map MemoryUpdateProposal.id =
      tables.proposals.map MemoryUpdateProposal.id := by
    rw [List.map_map]
    exact List.map_congr_left fun p _ => (h.same p).id
  have hmap : Table.Unique MemoryUpdateProposal.id (tables.proposals.map f) := by
    rw [Table.Unique, hids]
    exact hk
  rw [h.proposals]
  have hnew := h.new
  have hlength := h.length_le
  rcases added with _ | ⟨p, _ | ⟨q, rest⟩⟩
  · simpa using hmap
  · refine hmap.append_singleton (Table.find_eq_none_iff.mpr ?_)
    intro q hq heq
    have hmem : q.id ∈ tables.proposals.map MemoryUpdateProposal.id :=
      hids ▸ List.mem_map_of_mem hq
    obtain ⟨r, hr, hrq⟩ := List.mem_map.mp hmem
    exact Table.find_eq_none_iff.mp (hnew p (by simp)) r hr (hrq.trans heq)
  · simp at hlength

/-- Rows stay, and a new one has a new id. -/
theorem memoryIds_run (h : call.run tables = .ok t) :
    t.memories.map (fun r : MemoryRecord => r.id) =
        tables.memories.map (fun r : MemoryRecord => r.id) ∨
      ∃ row, tables.memory? row.id = none ∧ t.memories = tables.memories ++ [row] := by
  have hmodify : ∀ {id : UUID} {f : MemoryRecord → MemoryRecord}, (∀ r, (f r).id = r.id) →
      (Table.modify (fun r : MemoryRecord => r.id) id f tables.memories).map
        (fun r : MemoryRecord => r.id) = tables.memories.map fun r : MemoryRecord => r.id :=
    fun hf => Table.map_modify hf _
  cases call with
  | propose agentName item proposalId now aborts =>
    cases aborts with
    | true => simp [MemoryCall.run] at h
    | false =>
      simp only [MemoryCall.run, Bool.false_eq_true, if_false, Except.map_eq_ok, Prod.exists] at h
      obtain ⟨result, t', hpropose, rfl⟩ := h
      obtain ⟨id, t₁, hupsert, hmemories, _⟩ := proposeUpdate_eq_ok hpropose
      rw [hmemories]
      rcases upsert_eq_ok hupsert with ⟨row, _, _, rfl⟩ | ⟨_, _, hnew, rfl⟩
      · exact .inl (hmodify fun _ => rfl)
      · exact .inr ⟨_, hnew, rfl⟩
  | approve proposalId reviewer now =>
    have happrove : approveUpdate proposalId reviewer now tables = .ok t := h
    obtain ⟨_, _, _, _, _, _, hmemories, _⟩ := approveUpdate_eq_ok happrove
    rw [hmemories]
    exact .inl (hmodify fun _ => rfl)
  | revoke memoryId reviewer reason proposalId now =>
    have hrevoke : revokeUpdate memoryId reviewer reason proposalId now tables = .ok t := h
    obtain ⟨_, _, _, _, _, hmemories, _⟩ := revokeUpdate_eq_ok hrevoke
    rw [hmemories]
    exact .inl (hmodify fun _ => rfl)
  | retention now dryRun =>
    obtain rfl := Except.ok.inj h
    left
    unfold runRetention
    split_ifs
    · rfl
    · rw [List.map_map]
      refine List.map_congr_left fun r _ => ?_
      simp only [Function.comp_apply, retainRow]
      split_ifs <;> rfl

theorem MemoryTables.Keyed.run (hk : tables.Keyed) (h : call.run tables = .ok t) : t.Keyed := by
  refine ⟨?_, ?_⟩
  · rcases memoryIds_run h with hsame | ⟨row, hnew, happend⟩
    · change List.Nodup _
      rw [hsame]
      exact hk.memories
    · rw [happend]
      exact hk.memories.append_singleton hnew
  · obtain ⟨f, added, hafter⟩ := proposalsAfter h
    exact hafter.unique hk.proposals

theorem MemoryTables.Keyed.step (hk : tables.Keyed) (h : tables.step call = some t) : t.Keyed := by
  rcases MemoryTables.step_eq_some h with ⟨_, _, rfl⟩ | hrun
  · exact hk
  · exact hk.run hrun

theorem MemoryTables.Keyed.empty : MemoryTables.Keyed {} :=
  ⟨List.nodup_nil, List.nodup_nil⟩

def LongTermActive (id : UUID) (tables : MemoryTables) : Prop :=
  ∃ row ∈ tables.memories, row.id = id ∧ row.scope ≠ .run ∧ row.status = .active

/-- A call that does not write a run memory over it makes a long-term memory active only
by approving it. -/
theorem longTermActive_step {id : UUID} (hk : tables.Keyed) (hn : ¬RunMemoryOverwrites tables call)
    (h : tables.step call = some t) (ht : LongTermActive id t) :
    Approves id tables call ∨ LongTermActive id tables ∧ ¬WritesContent id tables call := by
  obtain ⟨row', hrow', rfl, hscope', hactive'⟩ := ht
  rcases MemoryTables.step_eq_some h with ⟨exc, herr, rfl⟩ | hrun
  · refine .inr ⟨⟨row', hrow', rfl, hscope', hactive'⟩, ?_⟩
    intro hwrites
    cases call with
    | propose agentName item proposalId now aborts =>
      obtain ⟨⟨t, ht⟩, _⟩ := hwrites
      simp [herr] at ht
    | _ => exact hwrites
  · cases rowOrigin hk hrun hrow' with
    | kept hrow hid hscope hactive hwrites =>
      exact .inr ⟨⟨_, hrow, hid.symm, hscope ▸ hscope', hactive hactive'⟩, hid ▸ hwrites⟩
    | approved _ hid happroves => exact .inl (hid ▸ happroves)
    | @written row agentName item proposalId now hcall hfind hid hscope hstatus hwrites =>
      -- the status it gets is active only from a run memory
      subst hcall
      have hitem : item.scope = .run := by
        by_contra hne
        rw [if_neg hne, hactive'] at hstatus
        cases hstatus
      exact absurd ⟨rfl, hitem, row, hfind, hscope ▸ hscope'⟩ hn
    | @inserted agentName item proposalId now hcall hnew hid hscope hstatus =>
      exfalso
      have hitem : item.scope = .run := by
        by_contra hne
        rw [if_neg hne, hactive'] at hstatus
        cases hstatus
      exact hscope' (hscope.trans hitem)

/-- After a run every active long-term memory has been approved since its content was
last written. -/
def ActiveByApproval (run : List MemoryCall) (tables : MemoryTables) : Prop :=
  ∀ id, LongTermActive id tables →
    Since MemoryTables.step (Approves id) (WritesContent id) {} run

/-- Long-term memories are active by approval in every state of a run exactly when no run
memory is written over one. -/
theorem activeByApproval_iff {run : List MemoryCall} :
    (∀ pre post u, run = pre ++ post → exec MemoryTables.step {} pre = some u →
        ActiveByApproval pre u) ↔
      Along MemoryTables.step (fun tables call => ¬RunMemoryOverwrites tables call) {} run := by
  constructor
  · intro hall
    refine along_iff_forall.mpr ?_
    intro pre call post u heq hpre hover
    cases call with
    | propose agentName item proposalId now aborts =>
      obtain ⟨rfl, hitem, row, hfind, hscope⟩ := hover
      have hupsert : upsert (storedItem agentName item now) now u = .ok (row.id,
          u.updateMemory row.id (overwrittenRow (storedItem agentName item now))) := by
        have hfind' : u.memoryForContent? (storedItem agentName item now).contentKey = some row :=
          hfind
        simp only [upsert, hfind']
      have hcall : (MemoryCall.propose agentName item proposalId now false).run u = .ok
          (u.updateMemory row.id (overwrittenRow (storedItem agentName item now))) := by
        simp [MemoryCall.run, proposeUpdate, hupsert, hitem, bind, Except.bind, Except.map]
      have hstep : u.step (.propose agentName item proposalId now false) = some
          (u.updateMemory row.id (overwrittenRow (storedItem agentName item now))) := by
        simp only [MemoryTables.step, hcall]
      have hactive : LongTermActive row.id
          (u.updateMemory row.id (overwrittenRow (storedItem agentName item now))) := by
        refine ⟨overwrittenRow (storedItem agentName item now) row, ?_, rfl, hscope, ?_⟩
        · exact Table.mem_modify.mpr ⟨row, Table.find_mem hfind, by simp⟩
        · simp [overwrittenRow, storedItem, hitem]
      have hwrites : WritesContent row.id u (.propose agentName item proposalId now false) :=
        ⟨⟨_, hcall⟩, _, hupsert⟩
      have hsince := hall (pre ++ [.propose agentName item proposalId now false]) post _
        (by simp [heq]) (exec_append_eq_some.mpr ⟨u, hpre, by simp [exec, hstep]⟩) row.id hactive
      exact not_since_append_singleton hpre (fun h => h) hwrites hsince
    | _ => exact hover
  · rintro hn pre post u rfl hpre id hactive
    have hcond := ((along_append hpre).mp hn).1
    refine (since_or_initially (LongTermActive id) MemoryTables.Keyed ?_ ?_ .empty hcond hpre
      hactive).resolve_right ?_
    · exact fun _ _ _ hk _ h => hk.step h
    · exact fun _ _ _ hk hn h => longTermActive_step hk hn h
    · rintro ⟨⟨row, hrow, _⟩, _⟩
      simp at hrow

/-- Long-term memories become active only by approval of their content. -/
def ActivatedByApprovalOnly : Prop :=
  ∀ run t, exec MemoryTables.step {} run = some t → ActiveByApproval run t

end Calls

def projectItem : MemoryItemSchema where
  memoryId := UUID.ofNat 1
  scope := .project
  summary := "compensation band"
  contentRef := "memory://project/1"

def runItem : MemoryItemSchema where
  memoryId := UUID.ofNat 2
  scope := .run
  summary := "run note"
  contentRef := "memory://project/1"

def overwritingRun : List MemoryCall :=
  [.propose "SalesBDAgent" projectItem (UUID.ofNat 3) 0 false,
    .propose "SalesBDAgent" runItem (UUID.ofNat 4) 0 false]

/-- The project memory is active and nobody has approved anything. -/
theorem not_activatedByApprovalOnly : ¬ActivatedByApprovalOnly := by
  intro hall
  have hend : (exec MemoryTables.step {} overwritingRun).any (fun t =>
      t.memories.any fun row => row.id = UUID.ofNat 1 ∧ row.scope = .project ∧
        row.status = .active) = true := by
    decide +kernel
  obtain ⟨t, ht, hany⟩ := (Option.any_eq_true _ _).mp hend
  obtain ⟨row, hrow, hdec⟩ := List.any_eq_true.mp hany
  obtain ⟨hid, hscope, hactive⟩ := of_decide_eq_true hdec
  obtain ⟨pre, call, post, u, v, heq, _, _, happroves, _⟩ := hall overwritingRun t ht
    (UUID.ofNat 1) ⟨row, hrow, hid, by simp [hscope], hactive⟩
  -- no call of the run is an approval
  have hmem : call ∈ overwritingRun := by simp [heq]
  simp only [overwritingRun, List.mem_cons, List.not_mem_nil, or_false] at hmem
  rcases hmem with rfl | rfl <;> exact happroves

end Headhunt.Memory
