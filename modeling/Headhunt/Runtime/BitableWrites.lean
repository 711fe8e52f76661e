import Headhunt.Runtime.Worker
import Headhunt.Storage.ChunkHistories

/-! Bitable payloads: which defects are found before the gateway is called, and which only
when its answer is recorded. -/
namespace Headhunt.Runtime
open Headhunt.Feishu Headhunt.Storage Py

def entityRefs (payload : Dict) : List Json := listOrEmpty (payload.get "entity_refs")

structure ValidRecords (payload : Dict) (records : List Json) : Prop where
  list : payload.get "records" = .arr records
  objects : ∀ record ∈ records, ∃ fields, record = .obj fields
  nonempty : records ≠ []
  bounded : records.length ≤ bitableBatchCreateMaxRecords

def HasText (payload : Dict) (key text : String) : Prop := payload.get key = .str text ∧ text ≠ ""

def NamesEntity (ref : Json) : Prop :=
  ∃ fields entityType entityId id, ref = .obj fields ∧ HasText fields "entity_type" entityType ∧
    HasText fields "entity_id" entityId ∧ UUID.parse entityId = some id

/-- What the handler asks of a payload before it calls the gateway. -/
structure Callable (payload : Dict) (call : BatchCreate) : Prop where
  appToken : HasText payload "app_token" call.appToken
  tableId : HasText payload "table_id" call.tableId
  clientToken : HasText payload "client_token" call.clientToken
  records : ValidRecords payload call.records

def payloadHash (crypto : Crypto) (payload : Dict) (records : List Json) : String :=
  ((payload.get "payload_hash").asStr.filter (· ≠ "")).getD
    (sha256Hex crypto (dumps .compact (.arr records)))

inductive PayloadDefect (crypto : Crypto) (payload : Dict) (db : WorkerDatabase) : Prop
  | records (h : ∀ records, ¬ValidRecords payload records)
  | length {records : List Json} (hrecords : ValidRecords payload records)
    (hrefs : entityRefs payload ≠ []) (h : (entityRefs payload).length ≠ records.length)
  | entity {ref : Json} (href : ref ∈ entityRefs payload) (h : ¬NamesEntity ref)
  | token {records : List Json} {token : String} {chunk : FeishuBitableWriteChunk}
    (hrecords : ValidRecords payload records) (htoken : HasText payload "client_token" token)
    (hchunk : db.chunk? token = some chunk)
    (h : chunk.payloadHash ≠ payloadHash crypto payload records)

theorem requiredPayloadStr_eq_ok {payload : Dict} {key text : String} :
    requiredPayloadStr payload key = .ok text ↔ HasText payload key text := by
  unfold requiredPayloadStr HasText
  rw [← firstStr_singleton_eq_some]
  cases firstStr [payload.get key] <;> simp

theorem dictOrNone_isSome {record : Json} :
    (dictOrNone record).isSome = true ↔ ∃ fields, record = .obj fields := by
  cases record <;> simp [dictOrNone]

section Call

variable {payload : Dict} {db : Database} {call : BatchCreate} {actionId : UUID}

/-- Of an approved action the gateway is called exactly for the callable payloads. -/
theorem writeBitable_eq_ok (hid : optionalUuid (payload.get "action_id") = .ok (some actionId))
    (happroved : ensureActionApproved actionId db = .ok ()) :
    writeBitable payload db = .ok call ↔ Callable payload call := by
  unfold writeBitable
  simp only [hid, happroved, Except.bind_eq_ok, requiredPayloadStr_eq_ok, Except.ok.injEq,
    exists_eq_left']
  constructor
  · rintro ⟨appToken, happ, tableId, htable, clientToken, htoken, hrecords⟩
    cases hget : payload.get "records" with
    | arr records =>
      simp only [hget, Except.ite_error_eq_ok, Except.ok.injEq, Bool.not_eq_false, List.all_eq_true,
        dictOrNone_isSome, not_or, not_lt] at hrecords
      obtain ⟨hobjects, ⟨hnonempty, hbounded⟩, rfl⟩ := hrecords
      exact ⟨happ, htable, htoken, hget, hobjects, hnonempty, hbounded⟩
    | null => simp [hget] at hrecords
    | bool b => simp [hget] at hrecords
    | int n => simp [hget] at hrecords
    | float x => simp [hget] at hrecords
    | str s => simp [hget] at hrecords
    | obj items => simp [hget] at hrecords
  · rintro ⟨happ, htable, htoken, hlist, hobjects, hnonempty, hbounded⟩
    refine ⟨_, happ, _, htable, _, htoken, ?_⟩
    simp only [hlist, Except.ite_error_eq_ok, Bool.not_eq_false, List.all_eq_true,
      dictOrNone_isSome, not_or, not_lt]
    exact ⟨hobjects, ⟨hnonempty, hbounded⟩, trivial⟩

end Call

theorem entityField_eq_ok {ref : Json} {key value : String} :
    entityField ref key = .ok value ↔ ∃ fields, ref = .obj fields ∧ HasText fields key value := by
  unfold entityField HasText
  cases ref with
  | obj fields =>
    simp only [Json.obj.injEq, exists_eq_left', ← firstStr_singleton_eq_some]
    cases firstStr [Dict.get fields key] <;> simp
  | _ => simp

/-- A ref that is recorded names an entity. -/
theorem namesEntity_of_row {appToken tableId recordId : String} {ref : Json}
    {row : FeishuBitableRecordMap}
    (h : recordMapRow appToken tableId (ref, recordId) = .ok row) : NamesEntity ref := by
  unfold recordMapRow at h
  cases hid : entityField ref "entity_id" with
  | error exc => simp [hid] at h
  | ok entityId =>
    cases htype : entityField ref "entity_type" with
    | error exc => simp [hid, htype] at h
    | ok entityType =>
      cases hparse : UUID.parse entityId with
      | none => simp [hid, htype, hparse] at h
      | some id =>
        obtain ⟨fields, rfl, hidText⟩ := entityField_eq_ok.mp hid
        obtain ⟨_, heq, htypeText⟩ := entityField_eq_ok.mp htype
        obtain rfl := Json.obj.inj heq
        exact ⟨_, entityType, entityId, id, rfl, htypeText, hidText, hparse⟩

theorem eq_ok_of_mem_mapM {α β ε : Type} {f : α → Except ε β} {xs : List α} {ys : List β}
    (h : xs.mapM f = .ok ys) {x : α} (hx : x ∈ xs) : ∃ y, f x = .ok y := by
  induction xs generalizing ys with
  | nil => cases hx
  | cons first xs ih =>
    rw [List.mapM_cons] at h
    obtain ⟨y, hy, hrest⟩ := Except.bind_eq_ok.mp h
    rcases List.mem_cons.mp hx with rfl | hmem
    · exact ⟨y, hy⟩
    · obtain ⟨ys', hys', _⟩ := Except.bind_eq_ok.mp hrest
      exact ih hys' hmem

/-- The lengths a recorded success has been checked for. -/
theorem lengths_of_validate {records : List Json} {recordIds : List String} {refs : List Json}
    (h : validateBitableResultLengths records recordIds refs = .ok ()) :
    recordIds.length = records.length ∧ (refs ≠ [] → refs.length = records.length) := by
  unfold validateBitableResultLengths at h
  simp only [Except.ite_error_eq_ok, not_not, not_and] at h
  exact ⟨h.1, h.2.1⟩

theorem exists_mem_zip {α β : Type} {xs : List α} {ys : List β} (h : xs.length = ys.length) {x : α}
    (hx : x ∈ xs) : ∃ y, (x, y) ∈ xs.zip ys := by
  have hmap : (xs.zip ys).map Prod.fst = xs := List.map_fst_zip (le_of_eq h)
  rw [← hmap] at hx
  obtain ⟨pair, hpair, rfl⟩ := List.mem_map.mp hx
  exact ⟨pair.2, hpair⟩

section Handler

variable {crypto : Crypto} {env : HandlerEnv} {item : FeishuOutbox} {payload : Dict}
  {db view : WorkerDatabase} {call : BatchCreate}

/-- A Bitable item whose handler returns has called the gateway and recorded its answer. -/
theorem handle_returns (hkind : item.kind = .bitableWrite)
    (hpayload : getJsonPayload item.payloadRef db.toDatabase = .ok payload)
    (h : Session.ReturnsAt (handle crypto env item) db () view) :
    ∃ call recordIds, writeBitable payload db.toDatabase = .ok call ∧
      env.batchCreate call = .ok recordIds ∧
      Session.ReturnsAt (recordChunkSuccess crypto (chunkWrite item payload call) recordIds
        (entityRefs payload)) db () view := by
  simp only [handle, Session.returnsAt_bind, Session.returnsAt_get] at h
  obtain ⟨_, _, ⟨rfl, rfl⟩, h⟩ := h
  simp only [hpayload, hkind, Session.returnsAt_bind, returnsAt_external,
    Session.returnsAt_adaptExcept] at h
  obtain ⟨call, _, ⟨hcall, rfl⟩, recordIds, _, ⟨hcreated, rfl⟩, hsuccess⟩ := h
  exact ⟨call, recordIds, hcall, hcreated, hsuccess⟩

/-- An item the handler refuses before the call ends alike whatever the gateway is. -/
theorem handle_refused {exc : HandlerError} (hkind : item.kind = .bitableWrite)
    (hpayload : getJsonPayload item.payloadRef db.toDatabase = .ok payload)
    (h : writeBitable payload db.toDatabase = .error exc) :
    Session.RaisesAt (handle crypto env item) db exc db := by
  unfold handle
  refine Session.raisesAt_bind.mpr (Or.inr ⟨db, db, by simp, ?_⟩)
  simp only [hpayload, hkind, h]
  exact Session.raisesAt_bind.mpr (Or.inl (by simp [external]))

/-- What a payload must be like for its answer to be recorded. -/
structure Recordable (crypto : Crypto) (payload : Dict) (db : WorkerDatabase) : Prop where
  aligned : entityRefs payload ≠ [] → ∀ records, payload.get "records" = .arr records →
    (entityRefs payload).length = records.length
  entities : ∀ ref ∈ entityRefs payload, NamesEntity ref
  token : ∀ token records chunk, HasText payload "client_token" token →
    payload.get "records" = .arr records → db.chunk? token = some chunk →
    chunk.payloadHash = payloadHash crypto payload records

theorem recordable_of_returns {recordIds : List String} (hcallable : Callable payload call)
    (h : Session.ReturnsAt (recordChunkSuccess crypto (chunkWrite item payload call) recordIds
      (entityRefs payload)) db () view) : Recordable crypto payload db := by
  obtain ⟨hvalid, hreason, rows, hrows, _⟩ := recordChunkSuccess_returns h
  obtain ⟨hids, hrefs⟩ := lengths_of_validate hvalid
  have hlist : ∀ {records}, payload.get "records" = .arr records → records = call.records := by
    intro records hrecords
    rw [hcallable.records.list] at hrecords
    exact (Json.arr.inj hrecords).symm
  refine ⟨?_, ?_, ?_⟩
  · intro hne records hrecords
    rw [hlist hrecords]
    exact hrefs hne
  · intro ref href
    have hlengths : (entityRefs payload).length = recordIds.length :=
      (hrefs (List.ne_nil_of_mem href)).trans hids.symm
    obtain ⟨recordId, hmem⟩ := exists_mem_zip hlengths href
    obtain ⟨row, hrow⟩ := eq_ok_of_mem_mapM hrows hmem
    exact namesEntity_of_row hrow
  · intro token records chunk htoken hrecords hchunk
    have htokens : token = call.clientToken := by
      have hget := htoken.1
      rw [hcallable.clientToken.1] at hget
      exact (Json.str.inj hget).symm
    subst htokens
    rw [hlist hrecords]
    by_contra hne
    have hclash : Clashes crypto (chunkWrite item payload call) recordIds chunk := Or.inl hne
    obtain ⟨reason, hsome⟩ := exists_conflictReason hchunk hclash
    rw [hreason] at hsome
    cases hsome

/-- A callable payload has no defect but those that are found when its answer is recorded. -/
theorem recordable_iff (hcallable : Callable payload call) :
    Recordable crypto payload db ↔ ¬PayloadDefect crypto payload db := by
  constructor
  · rintro hrecordable (hrecords | ⟨hrecords, hrefs, hlength⟩ | ⟨href, hnot⟩ |
      ⟨hrecords, htoken, hchunk, hhash⟩)
    · exact hrecords call.records hcallable.records
    · exact hlength (hrecordable.aligned hrefs _ hrecords.list)
    · exact hnot (hrecordable.entities _ href)
    · exact hhash (hrecordable.token _ _ _ htoken hrecords.list hchunk)
  · intro hsound
    have hlist : ∀ {records}, payload.get "records" = .arr records →
        ValidRecords payload records := by
      intro records hrecords
      have heq := hcallable.records.list
      rw [hrecords] at heq
      rw [Json.arr.inj heq]
      exact hcallable.records
    refine ⟨?_, ?_, ?_⟩
    · intro hrefs records hrecords
      by_contra hlength
      exact hsound (.length (hlist hrecords) hrefs hlength)
    · intro ref href
      by_contra hnot
      exact hsound (.entity href hnot)
    · intro token records chunk htoken hrecords hchunk
      by_contra hhash
      exact hsound (.token (hlist hrecords) htoken hchunk hhash)

/-- The gateway has not been called when the handler raises over a defect of the payload. -/
def RefusedBeforehand (crypto : Crypto) (env : HandlerEnv) (item : FeishuOutbox) (payload : Dict)
    (db : WorkerDatabase) : Prop :=
  ∀ exc view, Session.RaisesAt (handle crypto env item) db exc view →
    PayloadDefect crypto payload db → ∀ call, writeBitable payload db.toDatabase ≠ .ok call

/-- Once the gateway is called a defect makes the handler raise. -/
theorem raises_of_defect (hkind : item.kind = .bitableWrite)
    (hpayload : getJsonPayload item.payloadRef db.toDatabase = .ok payload)
    (hcall : writeBitable payload db.toDatabase = .ok call) (hcallable : Callable payload call)
    (hdefect : PayloadDefect crypto payload db) :
    ∃ exc view, Session.RaisesAt (handle crypto env item) db exc view := by
  apply Session.exists_raisesAt
  intro _ view hreturns
  obtain ⟨call', recordIds, hcall', _, hsuccess⟩ := handle_returns hkind hpayload hreturns
  rw [hcall] at hcall'
  obtain rfl := Except.ok.inj hcall'
  exact (recordable_iff hcallable).mp (recordable_of_returns hcallable hsuccess) hdefect

end Handler

def strayPayload : Dict := Dict.ofList
  [("action_id", .str syncProposal.id.str), ("app_token", .str "app"), ("table_id", .str "table"),
    ("client_token", .str "token"), ("records", .arr [.obj []]),
    ("entity_refs", .arr [.obj [("entity_id", .str "42"), ("entity_type", .str "candidate")]])]

def strayDatabase : WorkerDatabase where
  artifactBlobs := [⟨"artifact://item/1", .obj strayPayload, "", ""⟩]
  graphThreads := [syncThread]
  actionProposals := [syncProposal]

def strayCall : BatchCreate := ⟨"app", "table", [.obj []], "token"⟩

theorem strayPayload_stored :
    getJsonPayload (syncItem .bitableWrite).payloadRef strayDatabase.toDatabase =
      .ok strayPayload := by
  rfl

theorem strayPayload_actionId :
    optionalUuid (strayPayload.get "action_id") = .ok (some syncProposal.id) := by
  have hget : strayPayload.get "action_id" = .str syncProposal.id.str := by
    simp [strayPayload, Dict.get_ofList, Dict.get_cons]
  have hne : syncProposal.id.str ≠ "" := by
    intro h
    have hlength := UUID.length_str syncProposal.id
    rw [h] at hlength
    cases hlength
  have hfirst : firstStr [Json.str syncProposal.id.str] = some syncProposal.id.str :=
    firstStr_singleton_eq_some.mpr ⟨rfl, hne⟩
  rw [hget, optionalUuid, hfirst]
  simp only [UUID.parse_str]

theorem strayPayload_approved :
    ensureActionApproved syncProposal.id strayDatabase.toDatabase = .ok () := by
  rfl

theorem strayPayload_callable : Callable strayPayload strayCall where
  appToken := ⟨by simp [strayPayload, strayCall, Dict.get_ofList, Dict.get_cons], by decide⟩
  tableId := ⟨by simp [strayPayload, strayCall, Dict.get_ofList, Dict.get_cons], by decide⟩
  clientToken := ⟨by simp [strayPayload, strayCall, Dict.get_ofList, Dict.get_cons], by decide⟩
  records :=
    { list := by simp [strayPayload, strayCall, Dict.get_ofList, Dict.get_cons]
      objects := by simp [strayCall]
      nonempty := by simp [strayCall]
      bounded := by decide }

theorem strayPayload_defect : PayloadDefect Crypto.plain strayPayload strayDatabase := by
  have hrefs : entityRefs strayPayload =
      [.obj [("entity_id", .str "42"), ("entity_type", .str "candidate")]] := by
    simp [entityRefs, listOrEmpty, strayPayload, Dict.get_ofList, Dict.get_cons]
  apply PayloadDefect.entity (hrefs ▸ List.mem_singleton_self _)
  rintro ⟨fields, entityType, entityId, id, hfields, _, hid, hparse⟩
  obtain rfl := Json.obj.inj hfields
  obtain rfl : "42" = entityId := Json.str.inj hid.1
  have hnone : UUID.parse "42" = none := by decide +kernel
  rw [hnone] at hparse
  cases hparse

end Headhunt.Runtime
