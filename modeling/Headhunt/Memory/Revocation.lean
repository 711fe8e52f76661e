import Headhunt.Memory.Activation

/-! What a revocation lasts against. No call looks at it: an approval of any older
proposal, or a run memory with the same content, makes the memory active again. -/
namespace Headhunt.Memory
open Headhunt.Storage Py Transition

/-- The memory was revoked, and no `create` proposal made since has been approved. -/
def Revoked (proposals : List MemoryUpdateProposal) (id : UUID) : Prop :=
  ∃ before revocation after, proposals = before ++ revocation :: after ∧
    revocation.proposalType = .revoke ∧ revocation.memoryId = id ∧
    ∀ p ∈ after, p.memoryId = id → p.proposalType = .create → p.status ≠ .approved

/-- The proposal is a revocation, or it was made before one of its memory. -/
def Stale (proposals : List MemoryUpdateProposal) (p : MemoryUpdateProposal) : Prop :=
  p.proposalType = .revoke ∨ ∃ before after, proposals = before ++ p :: after ∧
    ∃ revocation ∈ after, revocation.proposalType = .revoke ∧ revocation.memoryId = p.memoryId

/-- The call approves a stale proposal for a revoked memory, or writes a run memory over
one. -/
def Reactivates (tables : MemoryTables) : MemoryCall → Prop
  | .approve proposalId _ _ => ∃ pid p, UUID.parse proposalId = some pid ∧
    tables.proposal? pid = some p ∧ Revoked tables.proposals p.memoryId ∧ Stale tables.proposals p
  | .propose _ item _ _ aborts => aborts = false ∧ item.scope = .run ∧
    ∃ row, tables.memoryForContent? item.contentKey = some row ∧ Revoked tables.proposals row.id
  | _ => False

def Active (id : UUID) (tables : MemoryTables) : Prop :=
  ∃ row ∈ tables.memories, row.id = id ∧ row.status = .active

/-- A `create` proposal for the memory that is not among the old ones is approved. -/
def Reopened (id : UUID) (old : List MemoryUpdateProposal) (tables : MemoryTables) : Prop :=
  ∃ p ∈ tables.proposals, p.memoryId = id ∧ p.proposalType = .create ∧ p.status = .approved ∧
    ∀ q ∈ old, q.id ≠ p.id

/-- The revocation stands where the list of the old proposals ends, and the memory is not
active unless something after it has reopened it. -/
structure RevokedSince (id : UUID) (old : List UUID) (tables : MemoryTables) : Prop where
  keyed : tables.Keyed
  exists_row : id ∈ tables.memories.map fun r : MemoryRecord => r.id
  final : ∃ before revocation after, tables.proposals = before ++ revocation :: after ∧
    (before ++ [revocation]).map MemoryUpdateProposal.id = old ∧
    revocation.proposalType = .revoke ∧ revocation.memoryId = id ∧
    (Active id tables → ∃ p ∈ after, p.memoryId = id ∧ p.proposalType = .create ∧
      p.status = .approved)

section Calls

variable {tables t : MemoryTables} {call : MemoryCall} {id : UUID} {old : List UUID}

/-- A call makes a memory active by approving a proposal for it or by writing it. -/
theorem active_step (hk : tables.Keyed) (h : call.run tables = .ok t) (ht : Active id t) :
    Active id tables ∨ (∃ row ∈ tables.memories, row.id = id ∧ Approves id tables call) ∨
      (∃ agentName item proposalId now,
        call = .propose agentName item proposalId now false ∧ item.scope = .run ∧
          (tables.memory? id = none ∨ ∃ row,
            tables.memoryForContent? item.contentKey = some row ∧ row.id = id)) := by
  obtain ⟨row', hrow', rfl, hactive'⟩ := ht
  have hrunScope : ∀ {item : MemoryItemSchema},
      row'.status = (if item.scope = .run then .active else .pendingReview) → item.scope = .run := by
    intro item hstatus
    by_contra hne
    rw [if_neg hne, hactive'] at hstatus
    cases hstatus
  cases rowOrigin hk h hrow' with
  | kept hrow hid _ hactive _ => exact .inl ⟨_, hrow, hid.symm, hactive hactive'⟩
  | approved hrow hid happroves =>
    exact .inr (.inl ⟨_, hrow, hid.symm, hid ▸ happroves⟩)
  | written hcall hfind hid _ hstatus _ =>
    exact .inr (.inr ⟨_, _, _, _, hcall, hrunScope hstatus, .inr ⟨_, hfind, hid.symm⟩⟩)
  | inserted hcall hnew hid _ hstatus =>
    exact .inr (.inr ⟨_, _, _, _, hcall, hrunScope hstatus, .inl (hid ▸ hnew)⟩)

theorem RevokedSince.run (hr : RevokedSince id old tables) (hn : ¬Reactivates tables call)
    (h : call.run tables = .ok t) : RevokedSince id old t := by
  obtain ⟨before, revocation, after, hproposals, hold, htype, hid, hactive⟩ := hr.final
  obtain ⟨f, added, hafter⟩ := proposalsAfter h
  have hrow : id ∈ t.memories.map fun r : MemoryRecord => r.id := by
    rcases memoryIds_run h with hsame | ⟨row, _, happend⟩
    · rw [hsame]
      exact hr.exists_row
    · rw [happend, List.map_append]
      exact List.mem_append_left _ hr.exists_row
  refine ⟨hr.keyed.run h, hrow, before.map f, f revocation, after.map f ++ added, ?_, ?_, ?_, ?_, ?_⟩
  · rw [hafter.proposals, hproposals]
    simp
  · rw [← hold]
    simp only [List.map_append, List.map_map, List.map_cons, List.map_nil, (hafter.same _).id]
    congr 1
    exact List.map_congr_left fun p _ => (hafter.same p).id
  · exact (hafter.same revocation).proposalType.trans htype
  · exact (hafter.same revocation).memoryId.trans hid
  · intro ht
    -- what is approved after the revocation stays so
    have hkeep : (∃ p ∈ after, p.memoryId = id ∧ p.proposalType = .create ∧
        p.status = .approved) → ∃ p ∈ after.map f ++ added, p.memoryId = id ∧
          p.proposalType = .create ∧ p.status = .approved := by
      rintro ⟨p, hp, hpid, hptype, hpstatus⟩
      refine ⟨f p, List.mem_append_left _ (List.mem_map_of_mem hp), ?_, ?_, ?_⟩
      · exact (hafter.same p).memoryId.trans hpid
      · exact (hafter.same p).proposalType.trans hptype
      · exact (hafter.same p).approved hpstatus
    have hrevoked : (¬∃ p ∈ after, p.memoryId = id ∧ p.proposalType = .create ∧
        p.status = .approved) → Revoked tables.proposals id := by
      intro hnone
      refine ⟨before, revocation, after, hproposals, htype, hid, ?_⟩
      exact fun p hp hpid hptype hpstatus => hnone ⟨p, hp, hpid, hptype, hpstatus⟩
    by_cases hopen : ∃ p ∈ after, p.memoryId = id ∧ p.proposalType = .create ∧
        p.status = .approved
    · exact hkeep hopen
    · rcases active_step hr.keyed h ht with hwas | ⟨_, _, _, happroves⟩ |
        ⟨agentName, item, proposalId, now, rfl, hscope, hwhere⟩
      · exact absurd (hactive hwas) hopen
      · cases call with
        | approve proposalId reviewer now =>
          obtain ⟨pid, p, hpid, hp, rfl⟩ := happroves
          have hfresh : ¬Stale tables.proposals p :=
            fun hs => hn ⟨pid, p, hpid, hp, hrevoked hopen, hs⟩
          have hcreate : p.proposalType = .create := by
            cases hpt : p.proposalType with
            | create => rfl
            | revoke => exact absurd (.inl hpt) hfresh
          have hmemp : p ∈ before ++ revocation :: after := hproposals ▸ Table.find_mem hp
          have hpafter : p ∈ after := by
            rcases List.mem_append.mp hmemp with hb | hb
            · obtain ⟨l, r, rfl⟩ := List.append_of_mem hb
              refine absurd (.inr ⟨l, r ++ revocation :: after, ?_, revocation, by simp, htype, hid⟩)
                hfresh
              rw [hproposals]
              simp
            · rcases List.mem_cons.mp hb with rfl | hb
              · rw [htype] at hcreate
                cases hcreate
              · exact hb
          refine ⟨f p, List.mem_append_left _ (List.mem_map_of_mem hpafter), ?_, ?_, ?_⟩
          · exact (hafter.same p).memoryId
          · exact (hafter.same p).proposalType.trans hcreate
          · refine hafter.approved p ?_
            rw [Table.find_key hp]
            exact hpid
        | _ => exact happroves.elim
      · obtain ⟨row, hrow, hrowid⟩ := List.mem_map.mp hr.exists_row
        rcases hwhere with hnone | ⟨row', hfind, hrow'⟩
        · exact absurd hrowid (Table.find_eq_none_iff.mp hnone row hrow)
        · refine absurd ⟨rfl, hscope, row', hfind, ?_⟩ hn
          rw [hrow']
          exact hrevoked hopen

/-- Right after the revocation the memory is not active. -/
theorem RevokedSince.of_revoke {memoryId reviewer reason : String} {proposalId : UUID} {now : Time}
    (hk : tables.Keyed) (hid : UUID.parse memoryId = some id)
    (h : revokeUpdate memoryId reviewer reason proposalId now tables = .ok t) :
    RevokedSince id (t.proposals.map MemoryUpdateProposal.id) t := by
  have hrun : (MemoryCall.revoke memoryId reviewer reason proposalId now).run tables = .ok t := h
  obtain ⟨id', memory, hid', hm, _, hmemories, hproposals⟩ := revokeUpdate_eq_ok h
  obtain rfl := Option.some.inj (hid.symm.trans hid')
  have hkey : memory.id = id := memory?_key hm
  refine ⟨hk.run hrun, ?_, tables.proposals, _, [], hproposals, by rw [hproposals], rfl, hkey, ?_⟩
  · rw [hmemories]
    refine List.mem_map.mpr ⟨_, Table.mem_modify.mpr ⟨memory, Table.find_mem hm, rfl⟩, ?_⟩
    rw [if_pos rfl]
    exact hkey
  · rintro ⟨row', hrow', hid', hactive⟩
    rw [hmemories] at hrow'
    obtain ⟨row, hrow, rfl⟩ := Table.mem_modify.mp hrow'
    by_cases hsame : row.id = memory.id
    · rw [if_pos hsame] at hactive
      cases hactive
    · rw [if_neg hsame] at hid'
      exact absurd (hid'.trans hkey.symm) hsame

theorem RevokedSince.step (hr : RevokedSince id old tables) (hn : ¬Reactivates tables call)
    (h : tables.step call = some t) : RevokedSince id old t := by
  rcases MemoryTables.step_eq_some h with ⟨_, _, rfl⟩ | hrun
  · exact hr
  · exact hr.run hn hrun

/-- An active memory has been reopened. -/
theorem RevokedSince.reopened {before : List MemoryUpdateProposal}
    (hr : RevokedSince id (before.map MemoryUpdateProposal.id) tables) (ha : Active id tables) :
    Reopened id before tables := by
  obtain ⟨l, revocation, after, hproposals, hold, _, _, hactive⟩ := hr.final
  obtain ⟨p, hp, hpid, hptype, hpstatus⟩ := hactive ha
  refine ⟨p, by simp [hproposals, hp], hpid, hptype, hpstatus, ?_⟩
  intro q hq heq
  have hnodup := hr.keyed.proposals
  rw [Table.Unique, hproposals, List.append_cons, List.map_append, hold] at hnodup
  have hdisjoint := List.disjoint_of_nodup_append hnodup
  exact hdisjoint (List.mem_map_of_mem hq) (heq ▸ List.mem_map_of_mem hp)

end Calls

/-- A retrieval returns active memories only. -/
theorem active_of_retrieve {V : Type} {gateway : Gateway V} {request : RetrieveRequest}
    {now : Time} {tables : MemoryTables} {embeddings : List (MemoryEmbedding V)} {ref : MemoryRef}
    (h : ref ∈ (retrieve gateway request now (tables.memories.map MemoryRecord.toMemoryItem)
      embeddings).1) : Active ref.memoryId tables := by
  rw [retrieve_eq] at h
  split_ifs at h with hno
  · cases h
  · have htopK : 0 < request.effectiveTopK := by omega
    obtain ⟨hcandidate, _⟩ := (selectRefs_taken _ _ _ _ htopK).1.mem ref h
    obtain ⟨item, hitem, hmatch, d, rfl⟩ := mem_search hcandidate
    obtain ⟨row, hrow, rfl⟩ := List.mem_map.mp hitem
    refine ⟨row, hrow, rfl, ?_⟩
    simp only [matchesQuery, Bool.and_eq_true, decide_eq_true_eq] at hmatch
    exact hmatch.1.1.1.1.1.1.1.1.1

/-- The memory is active, or some retrieval returns it. -/
def InUse (id : UUID) (tables : MemoryTables) : Prop :=
  Active id tables ∨ ∃ (V : Type) (gateway : Gateway V) (request : RetrieveRequest) (now : Time)
    (embeddings : List (MemoryEmbedding V)),
    ∃ ref ∈ (retrieve gateway request now (tables.memories.map MemoryRecord.toMemoryItem)
      embeddings).1, ref.memoryId = id

/-- After a revocation, a run that neither approves stale proposals of revoked memories nor
writes run memories over them uses the memory again only when it has been reopened. -/
theorem revocation_final {pre post : List MemoryCall} {u v t : MemoryTables} {id : UUID}
    {memoryId reviewer reason : String} {proposalId : UUID} {now : Time}
    (hpre : exec MemoryTables.step {} pre = some u) (hid : UUID.parse memoryId = some id)
    (hrevoke : revokeUpdate memoryId reviewer reason proposalId now u = .ok v)
    (hpost : exec MemoryTables.step v post = some t)
    (hcond : Along MemoryTables.step (fun tables call => ¬Reactivates tables call) v post)
    (huse : InUse id t) : Reopened id v.proposals t := by
  have hkeyed : u.Keyed := by
    have hall : Along MemoryTables.step (fun _ _ => True) {} pre :=
      along_iff_forall.mpr fun _ _ _ _ _ _ => trivial
    exact exec_invariant MemoryTables.Keyed (fun _ _ _ hk _ h => hk.step h) .empty hall hpre
  have hrevoked := RevokedSince.of_revoke hkeyed hid hrevoke
  have hend := exec_invariant (RevokedSince id (v.proposals.map MemoryUpdateProposal.id))
    (fun _ _ _ hr hn h => hr.step hn h) hrevoked hcond hpost
  refine hend.reopened ?_
  rcases huse with hactive | ⟨V, gateway, request, now, embeddings, ref, href, rfl⟩
  · exact hactive
  · exact active_of_retrieve href

/-- Whatever follows a revocation, the memory is in use only when it has been reopened. -/
def RevocationFinal : Prop :=
  ∀ (pre post : List MemoryCall) (u v t : MemoryTables) (id : UUID)
    (memoryId reviewer reason : String) (proposalId : UUID) (now : Time),
    exec MemoryTables.step {} pre = some u → UUID.parse memoryId = some id →
    revokeUpdate memoryId reviewer reason proposalId now u = .ok v →
    exec MemoryTables.step v post = some t → InUse id t → Reopened id v.proposals t

def proposedOnce : List MemoryCall :=
  [.propose "SalesBDAgent" projectItem (UUID.ofNat 3) 0 false]

def projectId : String := (UUID.ofNat 1).str

def secondProposal : MemoryCall := .propose "SalesBDAgent" projectItem (UUID.ofNat 5) 2 false

def secondApproval : MemoryCall := .approve (UUID.ofNat 5).str "reviewer" 3

def staleApproval : List MemoryCall := [.approve (UUID.ofNat 3).str "reviewer" 2]

def revokedOnce (u : MemoryTables) : Except MemoryError MemoryTables :=
  revokeUpdate projectId "reviewer" "wrong" (UUID.ofNat 4) 1 u

/-- Proposed anew and approved, the memory is in use by right. -/
theorem revocation_final_secondRound : ∃ u v t,
    exec MemoryTables.step {} proposedOnce = some u ∧ revokedOnce u = .ok v ∧
      exec MemoryTables.step v [secondProposal, secondApproval] = some t ∧
      Reopened (UUID.ofNat 1) v.proposals t := by
  have hend : ((exec MemoryTables.step {} proposedOnce).any fun u =>
      (revokedOnce u).toOption.any fun v => (v.step secondProposal).any fun w =>
        decide (w.proposals.map MemoryUpdateProposal.id =
            [UUID.ofNat 3, UUID.ofNat 4, UUID.ofNat 5]) &&
          ((w.proposal? (UUID.ofNat 5)).all fun p => p.proposalType = .create) &&
          (w.step secondApproval).any fun t =>
            t.memories.any fun row => row.id = UUID.ofNat 1 ∧ row.status = .active) = true := by
    decide +kernel
  obtain ⟨u, hu, hend⟩ := (Option.any_eq_true _ _).mp hend
  obtain ⟨v, hv, hend⟩ := (Option.any_eq_true _ _).mp hend
  obtain ⟨w, hw, hend⟩ := (Option.any_eq_true _ _).mp hend
  simp only [Bool.and_eq_true, decide_eq_true_eq] at hend
  obtain ⟨⟨hids, hcreate⟩, hend⟩ := hend
  obtain ⟨t, ht, hactive⟩ := (Option.any_eq_true _ _).mp hend
  obtain ⟨row, hrow, hdec⟩ := List.any_eq_true.mp hactive
  have hrevoke : revokedOnce u = .ok v := Except.toOption_eq_some.mp hv
  have hrun : exec MemoryTables.step v [secondProposal, secondApproval] = some t :=
    exec_cons_eq_some.mpr ⟨w, hw, exec_cons_eq_some.mpr ⟨t, ht, rfl⟩⟩
  have hcond : Along MemoryTables.step (fun tables call => ¬Reactivates tables call) v
      [secondProposal, secondApproval] := by
    refine ⟨?_, fun w' hw' => ⟨?_, fun _ _ => trivial⟩⟩
    · rintro ⟨_, hscope, _⟩
      cases hscope
    · obtain rfl := Option.some.inj (hw.symm.trans hw')
      rintro ⟨pid, p, hpid, hp, _, hstale⟩
      obtain rfl := Option.some.inj ((UUID.parse_str _).symm.trans hpid)
      have hpcreate : p.proposalType = .create :=
        of_decide_eq_true ((Option.all_eq_true _ _).mp hcreate p hp)
      rcases hstale with hrevoke | ⟨before, after, hsplit, r, hr, _⟩
      · rw [hpcreate] at hrevoke
        cases hrevoke
      · -- the proposal approved is the last of the three
        have hlast : before.map MemoryUpdateProposal.id ++ UUID.ofNat 5 ::
            after.map MemoryUpdateProposal.id = [UUID.ofNat 3, UUID.ofNat 4, UUID.ofNat 5] := by
          rw [← hids, hsplit, List.map_append, List.map_cons, Table.find_key hp]
        have hafter : after = [] := by
          rcases before with _ | ⟨a, _ | ⟨b, _ | ⟨c, l⟩⟩⟩ <;> simp [UUID.ofNat] at hlast
          exact hlast.2.2
        rw [hafter] at hr
        cases hr
  exact ⟨u, v, t, hu, hrevoke, hrun, revocation_final hu (UUID.parse_str _) hrevoke hrun hcond
    (.inl ⟨row, hrow, of_decide_eq_true hdec⟩)⟩

/-- Approving the old proposal undoes the revocation. -/
theorem not_revocationFinal : ¬RevocationFinal := by
  intro hall
  have hend : ((exec MemoryTables.step {} proposedOnce).any fun u =>
      (revokedOnce u).toOption.any fun v =>
        (exec MemoryTables.step v staleApproval).any fun t =>
          (t.memories.any fun row => row.id = UUID.ofNat 1 ∧ row.status = .active) &&
            t.proposals.all fun p => p.proposalType = .create → (v.proposals.any fun q =>
              q.id = p.id)) = true := by
    decide +kernel
  obtain ⟨u, hu, hend⟩ := (Option.any_eq_true _ _).mp hend
  obtain ⟨v, hv, hend⟩ := (Option.any_eq_true _ _).mp hend
  obtain ⟨t, ht, hend⟩ := (Option.any_eq_true _ _).mp hend
  obtain ⟨hactive, hold⟩ := Bool.and_eq_true_iff.mp hend
  obtain ⟨row, hrow, hdec⟩ := List.any_eq_true.mp hactive
  obtain ⟨hid, hstatus⟩ := of_decide_eq_true hdec
  have hrevoke : revokedOnce u = .ok v := Except.toOption_eq_some.mp hv
  obtain ⟨p, hp, _, hcreate, _, hnew⟩ := hall proposedOnce staleApproval u v t (UUID.ofNat 1)
    projectId "reviewer" "wrong" (UUID.ofNat 4) 1 hu (UUID.parse_str _) hrevoke ht
    (.inl ⟨row, hrow, hid, hstatus⟩)
  obtain ⟨q, hq, hqp⟩ := List.any_eq_true.mp
    (of_decide_eq_true (List.all_eq_true.mp hold p hp) hcreate)
  exact hnew q hq (of_decide_eq_true hqp)

end Headhunt.Memory
