import Headhunt.Lib.PyBytes
import Headhunt.Memory.ProposalIds

/-! Embeddings of several models in one table. `upsert` keeps one embedding of a memory for
each model and version, and `search` joins a memory with all of them. -/
namespace Headhunt.Memory
open Headhunt.Storage Py Transition

/-- A row of `memory_embeddings`; the embedding version is always one. -/
structure EmbeddingRow (V : Type) extends MemoryEmbedding V where
  embeddingRef : String
  model : String
  modelVersion : String

def EmbeddingRow.versionKey {V : Type} (e : EmbeddingRow V) : UUID × String × String :=
  (e.memoryId, e.model, e.modelVersion)

structure VectorTables (V : Type) where
  rows : MemoryTables := {}
  embeddings : List (EmbeddingRow V) := []

@[ext]
structure PostgresVectorMemoryStore where
  model : String := "unknown"
  modelVersion : String := "unknown"
deriving DecidableEq

/-- A call of `upsert`; `embeddingRef` is the argument or else the one of the item. -/
structure UpsertCall (V : Type) where
  store : PostgresVectorMemoryStore
  item : MemoryItemSchema
  embedding : V
  embeddingRef : Option String
  now : Time

def defaultEmbeddingRef (crypto : Crypto) (item : MemoryItemSchema) (model modelVersion : String) :
    String :=
  let identity := s!"{item.contentRef}:{item.version}:{model}:{modelVersion}"
  let digest := String.ofList ((hexdigest (crypto.sha256 identity.toUTF8)).toList.take 24)
  s!"memory-embedding://{digest}/1"

/-- `INSERT ... ON CONFLICT (memory_id, model, model_version, embedding_version) DO UPDATE`;
the primary key is checked only where that key is new. -/
def upsertEmbedding {V : Type} (e : EmbeddingRow V) (embeddings : List (EmbeddingRow V)) :
    Except MemoryError (List (EmbeddingRow V)) :=
  if (Table.find EmbeddingRow.versionKey e.versionKey embeddings).isSome then
    .ok (Table.modify EmbeddingRow.versionKey e.versionKey
      (fun row => { row with embedding := e.embedding }) embeddings)
  else if (Table.find EmbeddingRow.embeddingRef e.embeddingRef embeddings).isSome then
    .error .integrity
  else .ok (embeddings ++ [e])

namespace UpsertCall

variable {V : Type} (crypto : Crypto) (call : UpsertCall V)

def resolvedEmbeddingRef : String :=
  orText call.embeddingRef
    (defaultEmbeddingRef crypto call.item call.store.model call.store.modelVersion)

def embeddingRow (memoryId : UUID) : EmbeddingRow V where
  memoryId := memoryId
  embedding := call.embedding
  embeddingRef := call.resolvedEmbeddingRef crypto
  model := call.store.model
  modelVersion := call.store.modelVersion

def run (tables : VectorTables V) : Except MemoryError (VectorTables V) := do
  let (persistedMemoryId, rows) ← upsert call.item call.now tables.rows
  let embeddings ← upsertEmbedding (call.embeddingRow crypto persistedMemoryId) tables.embeddings
  .ok ⟨rows, embeddings⟩

end UpsertCall

/-- One upsert that goes through. One that raises is rolled back and is no step. -/
def VectorTables.step {V : Type} (crypto : Crypto) (tables : VectorTables V)
    (call : UpsertCall V) : Option (VectorTables V) :=
  (call.run crypto tables).toOption

/-- `PostgresVectorMemoryStore.search`. The model of the store is not looked at. -/
def PostgresVectorMemoryStore.search {V : Type} (_store : PostgresVectorMemoryStore)
    (cosineDistance : V → V → Rat) (queryEmbedding : V) (filters : StoreFilters) (topK : Nat)
    (tables : VectorTables V) : List MemoryRef :=
  Memory.search cosineDistance queryEmbedding filters topK
    (tables.rows.memories.map MemoryRecord.toMemoryItem)
    (tables.embeddings.map EmbeddingRow.toMemoryEmbedding)

/-- What is asked of the candidates of one search. -/
structure ComparesLikeWithLike {V : Type} (store : PostgresVectorMemoryStore)
    (cosineDistance : V → V → Rat) (queryEmbedding : V) (tables : VectorTables V)
    (refs : List MemoryRef) : Prop where
  scored : ∀ ref ∈ refs, ∃ e ∈ tables.embeddings, e.memoryId = ref.memoryId ∧
    e.model = store.model ∧ e.modelVersion = store.modelVersion ∧
    ref.relevanceScore = clampScore (1 - cosineDistance e.embedding queryEmbedding)
  once : (refs.map MemoryRef.memoryId).Nodup

def SearchesAlike {V : Type} (store : PostgresVectorMemoryStore) (cosineDistance : V → V → Rat)
    (filters : StoreFilters) (tables : VectorTables V) : Prop :=
  ∀ queryEmbedding topK, ComparesLikeWithLike store cosineDistance queryEmbedding tables
    (store.search cosineDistance queryEmbedding filters topK tables)

/-- Every upsert whose memory the filters let through was made by a store of this model. -/
def WrittenByModel {V : Type} (store : PostgresVectorMemoryStore) (filters : StoreFilters)
    (history : List (UpsertCall V)) (tables : VectorTables V) : Prop :=
  ∀ call ∈ history, ∀ row, tables.rows.memoryForContent? call.item.contentKey = some row →
    matchesQuery filters row.toMemoryItem = true → call.store = store

section History

variable {V : Type} {crypto : Crypto} {cosineDistance : V → V → Rat}

theorem upsertEmbedding_keys {e : EmbeddingRow V} {embeddings out : List (EmbeddingRow V)}
    (h : upsertEmbedding e embeddings = .ok out) :
    e.versionKey ∈ embeddings.map EmbeddingRow.versionKey ∧
        out.map EmbeddingRow.versionKey = embeddings.map EmbeddingRow.versionKey ∨
      e.versionKey ∉ embeddings.map EmbeddingRow.versionKey ∧
        out.map EmbeddingRow.versionKey =
          embeddings.map EmbeddingRow.versionKey ++ [e.versionKey] := by
  unfold upsertEmbedding at h
  by_cases hfound : (Table.find EmbeddingRow.versionKey e.versionKey embeddings).isSome = true
  · rw [if_pos hfound] at h
    obtain rfl := Except.ok.inj h
    obtain ⟨r, hr⟩ := Option.isSome_iff_exists.mp hfound
    refine .inl ⟨?_, Table.map_modify ?_ _⟩
    · exact List.mem_map.mpr ⟨r, Table.find_mem hr, Table.find_key hr⟩
    · exact fun _ => rfl
  · rw [if_neg hfound] at h
    obtain ⟨_, hout⟩ := Except.ite_error_eq_ok.mp h
    obtain rfl := Except.ok.inj hout
    refine .inr ⟨?_, by simp⟩
    intro hmem
    obtain ⟨r, hr, hkey⟩ := List.mem_map.mp hmem
    refine Table.find_eq_none_iff.mp ?_ r hr hkey
    simpa using hfound

/-- Every upsert has its embedding on the row of its content, and no embedding is another's. -/
structure Embedded (history : List (UpsertCall V)) (tables : VectorTables V) : Prop where
  memories : Table.Unique (fun r : MemoryRecord => r.id) tables.rows.memories
  versions : (tables.embeddings.map EmbeddingRow.versionKey).Nodup
  written : ∀ call ∈ history, ∃ row, tables.rows.memoryForContent? call.item.contentKey = some row ∧
    (row.id, call.store.model, call.store.modelVersion) ∈
      tables.embeddings.map EmbeddingRow.versionKey
  origin : ∀ key ∈ tables.embeddings.map EmbeddingRow.versionKey, ∃ call ∈ history, ∃ row,
    tables.rows.memoryForContent? call.item.contentKey = some row ∧
      key = (row.id, call.store.model, call.store.modelVersion)

theorem Embedded.run {history : List (UpsertCall V)} {tables t : VectorTables V}
    {call : UpsertCall V} (hs : Embedded history tables) (h : call.run crypto tables = .ok t) :
    Embedded (history ++ [call]) t := by
  simp only [UpsertCall.run, Except.bind_eq_ok, Prod.exists, Except.ok.injEq] at h
  obtain ⟨id, rows, hupsert, embeddings, hembed, rfl⟩ := h
  obtain ⟨stored, hstored, rfl⟩ := memoryForContent?_upsert hupsert
  have hkept : ∀ {key : String × Int} {row : MemoryRecord},
      tables.rows.memoryForContent? key = some row →
      ∃ row', rows.memoryForContent? key = some row' ∧ row'.id = row.id := fun hrow =>
    memoryForContent?_upsert_of_some hupsert hrow
  have hmem : ∀ key, key ∈ embeddings.map EmbeddingRow.versionKey ↔
      key ∈ tables.embeddings.map EmbeddingRow.versionKey ∨
        key = (stored.id, call.store.model, call.store.modelVersion) := by
    intro key
    rcases upsertEmbedding_keys hembed with ⟨hin, hkeys⟩ | ⟨_, hkeys⟩
    · rw [hkeys]
      constructor
      · exact .inl
      · rintro (hold | rfl)
        · exact hold
        · exact hin
    · rw [hkeys, List.mem_append, List.mem_singleton]
      rfl
  refine ⟨unique_upsert hupsert hs.memories, ?_, ?_, ?_⟩
  · rcases upsertEmbedding_keys hembed with ⟨_, hkeys⟩ | ⟨hnew, hkeys⟩
    · rw [hkeys]
      exact hs.versions
    · rw [hkeys]
      exact List.nodup_append.mpr ⟨hs.versions, List.nodup_singleton _, by
        rintro a ha b hb rfl
        rw [List.mem_singleton] at hb
        exact hnew (hb ▸ ha)⟩
  · intro done hdone
    rcases List.mem_append.mp hdone with hold | hnew
    · obtain ⟨row, hrow, hkey⟩ := hs.written done hold
      obtain ⟨row', hrow', hid⟩ := hkept hrow
      exact ⟨row', hrow', (hmem _).mpr (.inl (hid ▸ hkey))⟩
    · obtain rfl := List.mem_singleton.mp hnew
      exact ⟨stored, hstored, (hmem _).mpr (.inr rfl)⟩
  · intro key hkey
    rcases (hmem key).mp hkey with hold | rfl
    · obtain ⟨done, hdone, row, hrow, rfl⟩ := hs.origin key hold
      obtain ⟨row', hrow', hid⟩ := hkept hrow
      exact ⟨done, List.mem_append_left _ hdone, row', hrow', by rw [hid]⟩
    · exact ⟨call, List.mem_append_right _ (List.mem_singleton_self call), stored, hstored, rfl⟩

theorem Embedded.exec {history more : List (UpsertCall V)} {tables t : VectorTables V}
    (hs : Embedded history tables) (h : exec (VectorTables.step crypto) tables more = some t) :
    Embedded (history ++ more) t := by
  induction more generalizing history tables with
  | nil =>
    obtain rfl := Option.some.inj h
    rwa [List.append_nil]
  | cons call more ih =>
    obtain ⟨u, hu, ht⟩ := exec_cons_eq_some.mp h
    rw [List.append_cons]
    exact ih (hs.run (Except.toOption_eq_some.mp hu)) ht

theorem Embedded.empty : Embedded (V := V) [] {} where
  memories := List.nodup_nil
  versions := List.nodup_nil
  written := by simp
  origin := by simp

theorem nodup_map_const {α β : Type*} {c : β} {l : List α} :
    (l.map fun _ => c).Nodup ↔ l.length ≤ 1 := by
  rw [List.map_const', List.nodup_replicate]

/-- The ids of the join, block by block. -/
theorem joinEmbeddings_ids (queryEmbedding : V) (filters : StoreFilters)
    (memories : List MemoryItem) (embeddings : List (MemoryEmbedding V)) :
    (joinEmbeddings cosineDistance queryEmbedding filters memories embeddings).map
        (fun hit => hit.1.id) =
      (memories.filter (matchesQuery filters)).flatMap fun row =>
        (embeddings.filter fun e => e.memoryId = row.id).map fun _ => row.id := by
  unfold joinEmbeddings
  simp only [List.map_flatMap, List.map_map]
  rfl

/-- The join has each memory once exactly when each matching one has one embedding at most. -/
theorem joinEmbeddings_nodup_iff (cosineDistance : V → V → Rat) (queryEmbedding : V)
    {filters : StoreFilters} {memories : List MemoryItem} {embeddings : List (MemoryEmbedding V)}
    (hu : (memories.map MemoryItem.id).Nodup) :
    ((joinEmbeddings cosineDistance queryEmbedding filters memories embeddings).map
        fun hit => hit.1.id).Nodup ↔
      ∀ row ∈ memories, matchesQuery filters row = true →
        (embeddings.filter fun e => e.memoryId = row.id).length ≤ 1 := by
  have hids : ((memories.filter (matchesQuery filters)).map MemoryItem.id).Nodup :=
    hu.sublist (List.filter_sublist.map _)
  rw [joinEmbeddings_ids, List.nodup_flatMap]
  simp only [nodup_map_const, List.mem_filter, and_imp]
  refine and_iff_left (List.Pairwise.imp ?_ (List.pairwise_map.mp hids))
  intro row row' hne id hid hid'
  obtain ⟨_, _, rfl⟩ := List.mem_map.mp hid
  obtain ⟨_, _, heq⟩ := List.mem_map.mp hid'
  exact hne heq.symm

/-- A search that is long enough returns the whole join. -/
theorem search_perm (cosineDistance : V → V → Rat) (queryEmbedding : V) (filters : StoreFilters)
    (memories : List MemoryItem) (embeddings : List (MemoryEmbedding V)) :
    let hits := joinEmbeddings cosineDistance queryEmbedding filters memories embeddings
    (search cosineDistance queryEmbedding filters hits.length memories embeddings).Perm
      (hits.map fun hit => toRef hit.1 hit.2) := by
  intro hits
  show (((hits.insertionSort fun a b => a.2 ≤ b.2).take hits.length).map
    fun hit => toRef hit.1 hit.2).Perm _
  have hlength : (hits.insertionSort fun a b => a.2 ≤ b.2).length = hits.length :=
    List.length_insertionSort _ hits
  rw [List.take_of_length_le (le_of_eq hlength)]
  exact (List.perm_insertionSort _ hits).map _

/-- The ids of any search are a part of those of the join. -/
theorem search_ids_subperm (cosineDistance : V → V → Rat) (queryEmbedding : V)
    (filters : StoreFilters) (topK : Nat) (memories : List MemoryItem)
    (embeddings : List (MemoryEmbedding V)) :
    ((search cosineDistance queryEmbedding filters topK memories embeddings).map
      MemoryRef.memoryId).Subperm
      ((joinEmbeddings cosineDistance queryEmbedding filters memories embeddings).map
        fun hit => hit.1.id) := by
  unfold search
  rw [List.map_map]
  refine List.Subperm.trans ((List.take_sublist _ _).map _).subperm ?_
  exact ((List.perm_insertionSort _ _).map _).subperm

/-- A hit is scored with one of the embeddings of its memory. -/
theorem mem_search_scored {queryEmbedding : V} {filters : StoreFilters} {topK : Nat}
    {memories : List MemoryItem} {embeddings : List (MemoryEmbedding V)} {ref : MemoryRef}
    (h : ref ∈ search cosineDistance queryEmbedding filters topK memories embeddings) :
    ∃ row ∈ memories, matchesQuery filters row = true ∧ ∃ e ∈ embeddings, e.memoryId = row.id ∧
      ref = toRef row (cosineDistance e.embedding queryEmbedding) := by
  obtain ⟨hit, hhit, rfl⟩ := List.mem_map.mp h
  have hjoin := (List.mem_insertionSort _).mp (List.mem_of_mem_take hhit)
  obtain ⟨row, hrow, hpair⟩ := List.mem_flatMap.mp hjoin
  obtain ⟨e, he, rfl⟩ := List.mem_map.mp hpair
  obtain ⟨hmem, hmatch⟩ := List.mem_filter.mp hrow
  obtain ⟨hemb, hid⟩ := List.mem_filter.mp he
  exact ⟨row, hmem, hmatch, e, hemb, of_decide_eq_true hid, rfl⟩

theorem eq_of_length_le_one {α : Type*} {l : List α} {a b : α} (h : l.length ≤ 1) (ha : a ∈ l)
    (hb : b ∈ l) : a = b := by
  match l with
  | [] => cases ha
  | [c] => rw [List.mem_singleton.mp ha, List.mem_singleton.mp hb]
  | _ :: _ :: l => simp at h

/-- The embeddings of one memory that are of one model are at most one. -/
theorem Embedded.length_le {history : List (UpsertCall V)} {tables : VectorTables V}
    {store : PostgresVectorMemoryStore} {id : UUID} (hs : Embedded history tables)
    (hmodel : ∀ e ∈ tables.embeddings, e.memoryId = id →
      e.model = store.model ∧ e.modelVersion = store.modelVersion) :
    ((tables.embeddings.map EmbeddingRow.toMemoryEmbedding).filter fun e =>
      e.memoryId = id).length ≤ 1 := by
  rw [List.filter_map, List.length_map]
  have hu : Table.Unique EmbeddingRow.versionKey tables.embeddings := hs.versions
  refine hu.length_filter_le _ (id, store.model, store.modelVersion) ?_
  intro e he hid
  have hid : e.memoryId = id := by simpa using hid
  obtain ⟨hm, hv⟩ := hmodel e he hid
  rw [EmbeddingRow.versionKey, hid, hm, hv]

/-- The searches of a store compare like with like exactly when all upserts of the memories
they can see were made with its own model. -/
theorem searchesAlike_iff {history : List (UpsertCall V)} {tables : VectorTables V}
    {store : PostgresVectorMemoryStore} {filters : StoreFilters}
    (h : exec (VectorTables.step crypto) {} history = some tables) :
    SearchesAlike store cosineDistance filters tables ↔
      WrittenByModel store filters history tables := by
  have hs : Embedded history tables := Embedded.empty.exec h
  have hids : ((tables.rows.memories.map MemoryRecord.toMemoryItem).map MemoryItem.id).Nodup := by
    rw [List.map_map]
    exact hs.memories
  constructor
  · intro halike call hcall row hrow hmatch
    obtain ⟨row', hrow', hkey⟩ := hs.written call hcall
    obtain rfl := Option.some.inj (hrow.symm.trans hrow')
    obtain ⟨own, hown, hownKey⟩ := List.mem_map.mp hkey
    obtain ⟨hownId, hownModel⟩ := Prod.mk.inj hownKey
    obtain ⟨hownModel, hownVersion⟩ := Prod.mk.inj hownModel
    -- a search by the embedding of this very upsert, long enough to return the whole join
    let memories := tables.rows.memories.map MemoryRecord.toMemoryItem
    let embeddings := tables.embeddings.map EmbeddingRow.toMemoryEmbedding
    let hits := joinEmbeddings cosineDistance own.embedding filters memories embeddings
    have hperm := search_perm cosineDistance own.embedding filters memories embeddings
    have hfound : row.toMemoryItem ∈ memories := List.mem_map_of_mem (Table.find_mem hrow)
    have hhit : (row.toMemoryItem, cosineDistance own.embedding own.embedding) ∈ hits := by
      refine List.mem_flatMap.mpr ⟨row.toMemoryItem, List.mem_filter.mpr ⟨hfound, hmatch⟩, ?_⟩
      refine List.mem_map.mpr ⟨own.toMemoryEmbedding, List.mem_filter.mpr ⟨?_, ?_⟩, rfl⟩
      · exact List.mem_map_of_mem hown
      · exact decide_eq_true hownId
    have hcompares := halike own.embedding hits.length
    obtain ⟨e, he, hid, hmodel, hversion, _⟩ :=
      hcompares.scored _ (hperm.mem_iff.mpr (List.mem_map_of_mem hhit))
    have honce : (hits.map fun hit => hit.1.id).Nodup := by
      have hids := (hperm.map MemoryRef.memoryId).nodup_iff.mp hcompares.once
      rwa [List.map_map] at hids
    have hblock := (joinEmbeddings_nodup_iff cosineDistance own.embedding hids).mp honce
      row.toMemoryItem hfound hmatch
    rw [List.filter_map, List.length_map] at hblock
    obtain rfl : own = e := by
      refine eq_of_length_le_one hblock ?_ ?_
      · exact List.mem_filter.mpr ⟨hown, decide_eq_true hownId⟩
      · exact List.mem_filter.mpr ⟨he, decide_eq_true hid⟩
    have hsameModel : call.store.model = store.model := hownModel.symm.trans hmodel
    have hsameVersion : call.store.modelVersion = store.modelVersion :=
      hownVersion.symm.trans hversion
    exact PostgresVectorMemoryStore.ext hsameModel hsameVersion
  · intro hwritten queryEmbedding topK
    have hmodels : ∀ row ∈ tables.rows.memories.map MemoryRecord.toMemoryItem,
        matchesQuery filters row = true → ∀ e ∈ tables.embeddings, e.memoryId = row.id →
          e.model = store.model ∧ e.modelVersion = store.modelVersion := by
      intro row hrow hmatch e he hid
      obtain ⟨r, hr, rfl⟩ := List.mem_map.mp hrow
      obtain ⟨call, hcall, held, hheld, hkey⟩ := hs.origin e.versionKey (List.mem_map_of_mem he)
      obtain ⟨hheldId, hmodel⟩ := Prod.mk.inj hkey
      obtain ⟨hmodel, hversion⟩ := Prod.mk.inj hmodel
      obtain rfl : held = r :=
        hs.memories.eq (Table.find_mem hheld) hr (hheldId.symm.trans hid)
      have hstore := hwritten call hcall held hheld hmatch
      rw [hmodel, hversion, hstore]
      exact ⟨rfl, rfl⟩
    constructor
    · intro ref href
      obtain ⟨row, hrow, hmatch, e, he, hid, rfl⟩ := mem_search_scored href
      obtain ⟨own, hown, rfl⟩ := List.mem_map.mp he
      obtain ⟨hmodel, hversion⟩ := hmodels row hrow hmatch own hown hid
      exact ⟨own, hown, hid, hmodel, hversion, rfl⟩
    · have hjoin := (joinEmbeddings_nodup_iff cosineDistance queryEmbedding hids).mpr
        fun row hrow hmatch => hs.length_le (hmodels row hrow hmatch)
      obtain ⟨l, hperm, hsub⟩ := search_ids_subperm cosineDistance queryEmbedding filters topK
        (tables.rows.memories.map MemoryRecord.toMemoryItem)
        (tables.embeddings.map EmbeddingRow.toMemoryEmbedding)
      exact hperm.nodup_iff.mp (hjoin.sublist hsub)

end History

def LikeWithLike {V : Type} (crypto : Crypto) (cosineDistance : V → V → Rat) : Prop :=
  ∀ (history : List (UpsertCall V)) (tables : VectorTables V) (store : PostgresVectorMemoryStore)
    (filters : StoreFilters), exec (VectorTables.step crypto) {} history = some tables →
    SearchesAlike store cosineDistance filters tables

def firstStore : PostgresVectorMemoryStore := ⟨"text-embedding-3-small", "text-embedding-3-small"⟩

def secondStore : PostgresVectorMemoryStore := ⟨"text-embedding-3-large", "text-embedding-3-large"⟩

def sharedItem : MemoryItemSchema where
  memoryId := UUID.ofNat 1
  scope := .agent
  summary := "compensation band"
  contentRef := "memory://agent/1"
  status := .active
  confidence_le := defaultConfidence_le

/-- The vectors are single numbers here, their distance is the difference. -/
def sharedUpsert (store : PostgresVectorMemoryStore) (ref : String) : UpsertCall Rat where
  store := store
  item := sharedItem
  embedding := 1
  embeddingRef := some ref
  now := 0

def anyFilters : StoreFilters where
  allowedScopes := []
  maxPiiLevel := ""
  agentMemoryOwner := ""
  queryNow := 0

/-- A search of the second store returns the memory by an embedding of the first. -/
theorem not_likeWithLike : ¬LikeWithLike Crypto.plain (fun a b : Rat => a - b) := by
  intro hall
  let history := [sharedUpsert firstStore "memory-embedding://a/1"]
  have hsome : (exec (VectorTables.step Crypto.plain) {} history).map (fun tables =>
      (tables.embeddings.map EmbeddingRow.model,
        (secondStore.search (fun a b : Rat => a - b) 1 anyFilters 1 tables).length)) =
          some (["text-embedding-3-small"], 1) := by
    decide +kernel
  obtain ⟨tables, htables, hproj⟩ := Option.map_eq_some_iff.mp hsome
  obtain ⟨hmodels, hlength⟩ := Prod.mk.inj hproj
  have hcompares := hall history tables secondStore anyFilters htables 1 1
  obtain ⟨ref, href⟩ := List.exists_mem_of_length_pos (hlength ▸ Nat.one_pos)
  obtain ⟨e, he, _, hmodel, _⟩ := hcompares.scored ref href
  have hmem : e.model ∈ tables.embeddings.map EmbeddingRow.model := List.mem_map_of_mem he
  rw [hmodels, hmodel] at hmem
  revert hmem
  decide

def tenantItem (tenant ref : String) (n : Nat) : MemoryItemSchema where
  memoryId := UUID.ofNat n
  scope := .project
  summary := "band"
  contentRef := ref
  boundary := fun b => if b = .tenantId then some tenant else none
  status := .active
  confidence_le := defaultConfidence_le

def tenantUpsert (store : PostgresVectorMemoryStore) (tenant ref : String) (n : Nat)
    (embedding : Rat) : UpsertCall Rat where
  store := store
  item := tenantItem tenant ref n
  embedding := embedding
  embeddingRef := some ref
  now := 0

def tenantFilters (tenant : String) : StoreFilters :=
  { anyFilters with boundary := fun b => if b = .tenantId then some tenant else none }

/-- The first store writes for one tenant, one memory twice, and the second for another. -/
def twoTenants : List (UpsertCall Rat) :=
  [tenantUpsert firstStore "a" "r" 1 1, tenantUpsert secondStore "b" "s" 2 1,
    tenantUpsert firstStore "a" "t" 3 0, tenantUpsert firstStore "a" "r" 1 (1 / 2)]

def foreignUpserts (store : PostgresVectorMemoryStore) (filters : StoreFilters)
    (history : List (UpsertCall Rat)) (tables : VectorTables Rat) : List (UpsertCall Rat) :=
  history.filter fun call => (tables.rows.memoryForContent? call.item.contentKey).any fun row =>
    matchesQuery filters row.toMemoryItem && decide (call.store ≠ store)

theorem writtenByModel_iff {store : PostgresVectorMemoryStore} {filters : StoreFilters}
    {history : List (UpsertCall Rat)} {tables : VectorTables Rat} :
    WrittenByModel store filters history tables ↔
      foreignUpserts store filters history tables = [] := by
  unfold WrittenByModel foreignUpserts
  rw [List.filter_eq_nil_iff]
  refine forall_congr' fun call => forall_congr' fun _ => ?_
  cases tables.rows.memoryForContent? call.item.contentKey with
  | none => simp
  | some row => simp

/-- Each store compares like with like for its own tenant, and the first does not for the other. -/
theorem searchesAlike_iff_twoTenants : ∃ tables,
    exec (VectorTables.step Crypto.plain) {} twoTenants = some tables ∧
      SearchesAlike firstStore (fun a b : Rat => a - b) (tenantFilters "a") tables ∧
      SearchesAlike secondStore (fun a b : Rat => a - b) (tenantFilters "b") tables ∧
      ¬SearchesAlike firstStore (fun a b : Rat => a - b) (tenantFilters "b") tables := by
  have hevaluated : (exec (VectorTables.step Crypto.plain) {} twoTenants).map (fun tables =>
      ((foreignUpserts firstStore (tenantFilters "a") twoTenants tables).length,
        (foreignUpserts secondStore (tenantFilters "b") twoTenants tables).length,
        (foreignUpserts firstStore (tenantFilters "b") twoTenants tables).length)) =
      some (0, 0, 1) := by
    decide +kernel
  obtain ⟨tables, htables, hforeign⟩ := Option.map_eq_some_iff.mp hevaluated
  obtain ⟨hfirst, hforeign⟩ := Prod.mk.inj hforeign
  obtain ⟨hsecond, hother⟩ := Prod.mk.inj hforeign
  refine ⟨tables, htables, (searchesAlike_iff htables).mpr ?_, (searchesAlike_iff htables).mpr ?_,
    fun halike => ?_⟩
  · exact writtenByModel_iff.mpr (List.length_eq_zero_iff.mp hfirst)
  · exact writtenByModel_iff.mpr (List.length_eq_zero_iff.mp hsecond)
  · rw [writtenByModel_iff.mp ((searchesAlike_iff htables).mp halike)] at hother
    cases hother

end Headhunt.Memory
