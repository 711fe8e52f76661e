import Headhunt.Memory.Activation

/-! What the id that `propose_update` returns names. The store keeps the row it finds under
a content, and the gateway goes on with the id of the item it was given. -/
namespace Headhunt.Memory
open Headhunt.Storage Py

variable {tables t : MemoryTables}

/-- One memory becomes active, and the others stay as they are. -/
structure Activates (id : UUID) (tables t : MemoryTables) : Prop where
  active : ∃ row, t.memory? id = some row ∧ row.status = .active
  others : ∀ other, other ≠ id → t.memory? other = tables.memory? other

/-- The returned id, for the row that holds the content of the item. -/
structure NamesRow (item : MemoryItemSchema) (returned : String) (row : MemoryRecord)
    (t : MemoryTables) : Prop where
  run : item.scope = .run → returned = row.id.str
  proposal : item.scope ≠ .run → ∃ pid p, UUID.parse returned = some pid ∧
    t.proposal? pid = some p ∧ p.status = .pending ∧ p.memoryId = row.id
  approval : item.scope ≠ .run → ∀ reviewer now, ∃ t', approveUpdate returned reviewer now t = .ok t' ∧
    Activates row.id t t'

/-- The id that was returned is real: it names the stored row of the content. -/
def ReturnsRealId (item : MemoryItemSchema) (returned : String) (t : MemoryTables) : Prop :=
  ∃ row, t.memoryForContent? item.contentKey = some row ∧ NamesRow item returned row t

/-- An update that leaves the contents leaves where they are found. -/
theorem memoryForContent?_updateMemory (values : MemoryRecord → MemoryRecord)
    (hvalues : ∀ r, (values r).contentKey = r.contentKey) (tables : MemoryTables) (id : UUID)
    (key : String × Int) : (tables.updateMemory id values).memoryForContent? key =
      (tables.memoryForContent? key).map fun r => if r.id = id then values r else r := by
  unfold MemoryTables.memoryForContent? MemoryTables.updateMemory Table.find Table.modify
  have hkey : ∀ r : MemoryRecord,
      (if r.id = id then values r else r).contentKey = r.contentKey := by
    intro r
    by_cases hid : r.id = id
    · rw [if_pos hid, hvalues]
    · rw [if_neg hid]
  dsimp only
  rw [List.find?_map]
  simp only [Function.comp_def, hkey]

/-- After `upsert` the content is held by the row whose id it returns. -/
theorem memoryForContent?_upsert {item : MemoryItemSchema} {now : Time} {id : UUID}
    (h : upsert item now tables = .ok (id, t)) :
    ∃ row, t.memoryForContent? item.contentKey = some row ∧ row.id = id := by
  rcases upsert_eq_ok h with ⟨row, hrow, rfl, rfl⟩ | ⟨hnone, rfl, _, rfl⟩
  · refine ⟨overwrittenRow item row, ?_, rfl⟩
    rw [memoryForContent?_updateMemory (overwrittenRow item) (fun _ => rfl), hrow,
      Option.map_some, if_pos rfl]
  · refine ⟨insertedRow item now, ?_, rfl⟩
    unfold MemoryTables.memoryForContent? at hnone ⊢
    rw [Table.find_append_singleton, hnone, Option.none_or]
    exact if_pos rfl

/-- A content that has a row keeps it. -/
theorem memoryForContent?_upsert_of_some {item : MemoryItemSchema} {now : Time} {id : UUID}
    {key : String × Int} {row : MemoryRecord} (h : upsert item now tables = .ok (id, t))
    (hrow : tables.memoryForContent? key = some row) :
    ∃ row', t.memoryForContent? key = some row' ∧ row'.id = row.id := by
  rcases upsert_eq_ok h with ⟨held, _, _, rfl⟩ | ⟨_, _, _, rfl⟩
  · refine ⟨if row.id = held.id then overwrittenRow item row else row, ?_, ?_⟩
    · rw [memoryForContent?_updateMemory (overwrittenRow item) (fun _ => rfl), hrow,
        Option.map_some]
    · by_cases hid : row.id = held.id
      · rw [if_pos hid]
        rfl
      · rw [if_neg hid]
  · unfold MemoryTables.memoryForContent? at hrow ⊢
    exact ⟨row, by rw [Table.find_append_singleton, hrow, Option.some_or], rfl⟩

/-- `upsert` gives no id twice. -/
theorem unique_upsert {item : MemoryItemSchema} {now : Time} {id : UUID}
    (h : upsert item now tables = .ok (id, t))
    (hu : Table.Unique (fun r : MemoryRecord => r.id) tables.memories) :
    Table.Unique (fun r : MemoryRecord => r.id) t.memories := by
  rcases upsert_eq_ok h with ⟨_, _, _, rfl⟩ | ⟨_, _, hnew, rfl⟩
  · have hsame : ∀ r, (overwrittenRow item r).id = r.id := fun _ => rfl
    exact Table.Unique.modify hsame hu
  · exact hu.append_singleton hnew

/-- What the caller of `propose_update` gets to know: the id it chose itself. -/
theorem proposeUpdate_returned {agentName : String} {item : MemoryItemSchema} {proposalId : UUID}
    {now : Time} {returned : String}
    (h : proposeUpdate agentName item proposalId now tables = .ok (returned, t)) :
    returned = if item.scope = .run then item.memoryId.str else proposalId.str := by
  simp only [proposeUpdate, Except.bind_eq_ok, Prod.exists] at h
  obtain ⟨id, t₁, _, h⟩ := h
  by_cases hscope : item.scope = .run
  · simp only [hscope, if_true, Except.ok.injEq, Prod.mk.injEq] at h ⊢
    exact h.1.symm
  · simp only [hscope, if_false, Except.bind_eq_ok, Except.ok.injEq, Prod.mk.injEq] at h ⊢
    obtain ⟨_, _, hreturned, _⟩ := h
    exact hreturned.symm

theorem approveUpdate_activates {proposalId reviewer : String} {now : Time} {pid : UUID}
    {p : MemoryUpdateProposal} {memory : MemoryRecord} (hpid : UUID.parse proposalId = some pid)
    (hp : tables.proposal? pid = some p) (hm : tables.memory? p.memoryId = some memory) :
    ∃ t, approveUpdate proposalId reviewer now tables = .ok t ∧ Activates p.memoryId tables t := by
  obtain ⟨t, ht⟩ : ∃ t, approveUpdate proposalId reviewer now tables = .ok t := by
    simp [approveUpdate, hpid, hp, hm]
  obtain ⟨pid', p', memory', hpid', hp', hm', hmemories, _⟩ := approveUpdate_eq_ok ht
  obtain rfl := Option.some.inj (hpid.symm.trans hpid')
  obtain rfl := Option.some.inj (hp.symm.trans hp')
  obtain rfl := Option.some.inj (hm.symm.trans hm')
  have hid : memory.id = p.memoryId := memory?_key hm
  have hsame : ∀ r : MemoryRecord, (approvedRow now r).id = r.id := fun _ => rfl
  have hfind : ∀ other, t.memory? other = Table.find (fun r : MemoryRecord => r.id) other
      (Table.modify (fun r : MemoryRecord => r.id) p.memoryId (approvedRow now)
        tables.memories) := by
    intro other
    rw [MemoryTables.memory?, hmemories, MemoryTables.updateMemory, hid]
  refine ⟨t, ht, ⟨approvedRow now memory, ?_, rfl⟩, ?_⟩
  · rw [hfind, Table.find_modify_self hsame]
    exact congrArg (Option.map (approvedRow now)) hm
  · intro other hne
    rw [hfind, Table.find_modify_ne hsame _ hne]
    rfl

/-- The proposal a long-term item is stored with. -/
theorem proposal?_proposeUpdate {item : MemoryItemSchema} {proposalId : UUID}
    (hnew : tables.proposal? proposalId = none)
    (ht : t.proposals = tables.proposals ++ [createProposal item proposalId]) :
    t.proposal? proposalId = some (createProposal item proposalId) := by
  unfold MemoryTables.proposal? at hnew ⊢
  rw [ht, Table.find_append_singleton, hnew, Option.none_or]
  exact if_pos rfl

/-- The returned id is real exactly when the content was not held by a row of another id. -/
theorem returnsRealId_iff (hk : tables.Keyed) {agentName : String} {item : MemoryItemSchema}
    {proposalId : UUID} {now : Time} {returned : String}
    (h : proposeUpdate agentName item proposalId now tables = .ok (returned, t)) :
    ReturnsRealId item returned t ↔
      ∀ row, tables.memoryForContent? item.contentKey = some row → row.id = item.memoryId := by
  obtain ⟨id, t₁, hupsert, hmemories, hproposals⟩ := proposeUpdate_eq_ok h
  have hreturned := proposeUpdate_returned h
  obtain ⟨stored, hstored, hid⟩ := memoryForContent?_upsert hupsert
  replace hstored : t.memoryForContent? item.contentKey = some stored := by
    unfold MemoryTables.memoryForContent?
    rw [hmemories]
    exact hstored
  have hsame : id = item.memoryId ↔
      ∀ row, tables.memoryForContent? item.contentKey = some row → row.id = item.memoryId := by
    rcases upsert_eq_ok hupsert with ⟨row, hrow, rfl, _⟩ | ⟨hnone, rfl, _, _⟩
    · constructor
      · intro heq row' hrow'
        obtain rfl := Option.some.inj (hrow.symm.trans hrow')
        exact heq
      · intro hall
        exact hall row hrow
    · refine ⟨?_, fun _ => rfl⟩
      intro _ row hrow
      rw [show tables.memoryForContent? item.contentKey = none from hnone] at hrow
      cases hrow
  rw [← hsame]
  constructor
  · rintro ⟨row, hrow, hnames⟩
    obtain rfl := Option.some.inj (hstored.symm.trans hrow)
    rw [← hid]
    rcases hproposals with ⟨hscope, _⟩ | ⟨hscope, hnew, hrows⟩
    · rw [if_pos hscope] at hreturned
      exact (UUID.str_injective (hreturned.symm.trans (hnames.run hscope))).symm
    · rw [if_neg hscope] at hreturned
      obtain ⟨pid, p, hpid, hp, _, hmemory⟩ := hnames.proposal hscope
      rw [hreturned, UUID.parse_str] at hpid
      obtain rfl := Option.some.inj hpid
      rw [proposal?_proposeUpdate hnew hrows] at hp
      obtain rfl := Option.some.inj hp
      exact hmemory.symm
  · intro heq
    refine ⟨stored, hstored, ?_, ?_, ?_⟩
    · intro hscope
      rw [hreturned, if_pos hscope, hid, heq]
    · intro hscope
      rcases hproposals with ⟨hrun, _⟩ | ⟨_, hnew, hrows⟩
      · exact absurd hrun hscope
      · refine ⟨proposalId, createProposal item proposalId, ?_,
          proposal?_proposeUpdate hnew hrows, rfl, heq.symm.trans hid.symm⟩
        rw [hreturned, if_neg hscope, UUID.parse_str]
    · intro hscope reviewer later
      rcases hproposals with ⟨hrun, _⟩ | ⟨_, hnew, hrows⟩
      · exact absurd hrun hscope
      · have hcall : (MemoryCall.propose agentName item proposalId now false).run tables =
            .ok t := by
          simp [MemoryCall.run, h, Except.map]
        have hkt : t.Keyed := hk.run hcall
        have hmemory : t.memory? item.memoryId = some stored :=
          (Table.find_eq_some_iff hkt.memories).mpr ⟨Table.find_mem hstored, hid.trans heq⟩
        rw [hid, heq]
        refine approveUpdate_activates (p := createProposal item proposalId) ?_
          (proposal?_proposeUpdate hnew hrows) hmemory
        rw [hreturned, if_neg hscope, UUID.parse_str]

def RealIds : Prop :=
  ∀ (tables t : MemoryTables) (agentName : String) (item : MemoryItemSchema) (proposalId : UUID)
    (now : Time) (returned : String), tables.Keyed →
    proposeUpdate agentName item proposalId now tables = .ok (returned, t) →
    ReturnsRealId item returned t

def runNote (n : Nat) : MemoryItemSchema where
  memoryId := UUID.ofNat n
  scope := .run
  summary := "run note"
  contentRef := "memory://run/1"
  confidence_le := defaultConfidence_le

def notedOnce : MemoryTables where
  memories := [insertedRow (storedItem "SalesBDAgent" (runNote 1) 0) 0]

theorem notedOnce_keyed : notedOnce.Keyed where
  memories := by simp [notedOnce, Table.Unique]
  proposals := by simp [notedOnce, Table.Unique]

/-- The second note gets the id two, and the row of the content has the id one. -/
theorem not_realIds : ¬RealIds := by
  intro hall
  let t := notedOnce.updateMemory (UUID.ofNat 1)
    (overwrittenRow (storedItem "SalesBDAgent" (runNote 2) 1))
  have hpropose : proposeUpdate "SalesBDAgent" (runNote 2) (UUID.ofNat 3) 1 notedOnce =
      .ok ((UUID.ofNat 2).str, t) := rfl
  obtain ⟨row, hrow, hnames⟩ := hall notedOnce t "SalesBDAgent" (runNote 2) (UUID.ofNat 3) 1 _
    notedOnce_keyed hpropose
  have hid : (t.memoryForContent? (runNote 2).contentKey).map (fun r => r.id) =
      some (UUID.ofNat 1) := by
    decide +kernel
  rw [hrow, Option.map_some, Option.some.injEq] at hid
  have hstr := UUID.str_injective (hnames.run rfl)
  rw [hid] at hstr
  revert hstr
  decide

def projectMemory (n : Nat) (contentRef : String) : MemoryItemSchema where
  memoryId := UUID.ofNat n
  scope := .project
  summary := "project memory"
  contentRef := contentRef
  confidence_le := defaultConfidence_le

def twoProjects : MemoryTables where
  memories := [insertedRow (storedItem "SalesBDAgent" (projectMemory 1 "memory://project/1") 0) 0,
    insertedRow (storedItem "SalesBDAgent" (projectMemory 2 "memory://project/2") 0) 0]

theorem twoProjects_keyed : twoProjects.Keyed where
  memories := by
    unfold twoProjects Table.Unique
    decide
  proposals := by simp [twoProjects, Table.Unique]

/-- The content of the first memory is proposed again, under its own id and under the id of the
second memory. -/
theorem returnsRealId_iff_longTerm :
    (∃ t, proposeUpdate "SalesBDAgent" (projectMemory 1 "memory://project/1") (UUID.ofNat 4) 1
        twoProjects = .ok ((UUID.ofNat 4).str, t) ∧
      ReturnsRealId (projectMemory 1 "memory://project/1") (UUID.ofNat 4).str t) ∧
    ∃ t, proposeUpdate "SalesBDAgent" (projectMemory 2 "memory://project/1") (UUID.ofNat 4) 1
        twoProjects = .ok ((UUID.ofNat 4).str, t) ∧
      ¬ReturnsRealId (projectMemory 2 "memory://project/1") (UUID.ofNat 4).str t := by
  have hheld : ∀ n, (twoProjects.memoryForContent?
      (projectMemory n "memory://project/1").contentKey).map (fun r => r.id) =
        some (UUID.ofNat 1) := by
    intro n
    change (twoProjects.memoryForContent? ("memory://project/1", 1)).map _ = _
    decide +kernel
  constructor
  · refine ⟨_, rfl, (returnsRealId_iff twoProjects_keyed rfl).mpr ?_⟩
    intro row hrow
    have hid := hheld 1
    rw [hrow] at hid
    exact Option.some.inj hid
  · refine ⟨_, rfl, fun hreal => ?_⟩
    obtain ⟨row, hrow, hid⟩ := Option.map_eq_some_iff.mp (hheld 2)
    have hsame := (returnsRealId_iff twoProjects_keyed rfl).mp hreal row hrow
    rw [hid] at hsame
    revert hsame
    decide

end Headhunt.Memory
