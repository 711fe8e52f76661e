import Headhunt.Runtime.ProposalSessions

/-! The proposals and their payloads in the tables: only the writes of the calls add to them, and
nothing takes from them. -/
namespace Headhunt.Runtime
open Headhunt.Storage Py ReadCommitted

def rowsOf (db : Database) : List ProposedAction := db.actionProposals.map proposedAction

def Write.rows : Write → List ProposedAction
  | .proposal row => [proposedAction row]
  | _ => []

def Write.blobAt (ref : String) : Write → Option ArtifactBlob
  | .blob row => if row.contentRef = ref then some row else none
  | _ => none

section Rows

variable {crypto : Crypto} {db db' : Database}

theorem enqueueJson_frame {row : RowDefaults} {kind : OutboxKind} {key ref : String}
    {payload : Dict} {threadId : Option UUID} {contentRef : Option String}
    (h : enqueueJson crypto row kind key payload threadId contentRef db = .ok (ref, db')) :
    db'.actionProposals = db.actionProposals := by
  rcases enqueueJson_cases h with ⟨_, _, _, rfl⟩ | ⟨_, _, db₁, hstore, hinsert⟩
  · rfl
  · obtain ⟨_, _, _, rfl⟩ := Database.insertOutbox_eq_ok.mp hinsert
    rw [storeJsonPayload_frame hstore]

/-- A write adds its rows; what else it does to a proposal no call returns. -/
theorem rowsOf_applyWrite (crypto : Crypto) (db : Database) (w : Write) :
    rowsOf (applyWrite crypto db w) = rowsOf db ++ w.rows := by
  cases w with
  | proposal row => simp [applyWrite, rowsOf, Write.rows]
  | handle id status =>
    have hkept : ∀ row : ActionProposal,
        proposedAction { row with status := status } = proposedAction row := fun _ => rfl
    simpa [applyWrite, rowsOf, Write.rows, Database.updateProposal] using
      Table.map_modify hkept db.actionProposals
  | card row send =>
    simp only [applyWrite, Write.rows, List.append_nil]
    split
    · rename_i hqueued
      rw [rowsOf, enqueueJson_frame hqueued, rowsOf]
    · rfl
  | _ => simp [applyWrite, rowsOf, Write.rows, Database.insertBlobOrIgnore, Database.updateThread]

theorem clash_of_key {w w' : Write} {x x' : ProposedAction} (hx : x ∈ w.rows) (hx' : x' ∈ w'.rows)
    (h : x.idempotencyKey = x'.idempotencyKey) : Clash w w' := by
  cases w <;> simp only [Write.rows, List.mem_singleton, List.not_mem_nil] at hx
  cases w' <;> simp only [Write.rows, List.mem_singleton, List.not_mem_nil] at hx'
  subst hx hx'
  exact .inl h

theorem Clash.symm : ∀ w w' : Write, Clash w w' → Clash w' w := by
  intro w w' h
  cases w <;> cases w' <;> first | exact h.elim | exact Eq.symm h | exact h.imp Eq.symm Eq.symm

/-- The key is free where the lookup finds nothing. -/
theorem forall_rowsOf_of_none {key : String} (h : db.proposalForKey? key = none) :
    ∀ x ∈ rowsOf db, x.idempotencyKey ≠ key := by
  intro x hx
  obtain ⟨p, hp, rfl⟩ := List.mem_map.mp hx
  exact Table.find_eq_none_iff.mp h p hp

theorem mem_rowsOf_of_some {key : String} {p : ActionProposal}
    (h : db.proposalForKey? key = some p) :
    proposedAction p ∈ rowsOf db ∧ p.idempotencyKey = key :=
  ⟨List.mem_map_of_mem (Table.find_mem h), Table.find_key h⟩

theorem actionPayloadRef_toList (id : UUID) : (actionPayloadRef id).toList =
    proposalRefPrefix.toList ++ (id.str.toList ++ "/payload/v1".toList) := by
  unfold actionPayloadRef proposalRefPrefix
  simp only [ToString.toString, String.toList_append, List.append_assoc]

theorem actionPayloadRef_injective {id id' : UUID} (h : actionPayloadRef id = actionPayloadRef id') :
    id = id' := by
  have hlist := congrArg String.toList h
  rw [actionPayloadRef_toList, actionPayloadRef_toList] at hlist
  have hstr := List.append_cancel_right (List.append_cancel_left hlist)
  have hparse := congrArg UUID.parse (String.toList_inj.mp hstr)
  rw [UUID.parse_str, UUID.parse_str] at hparse
  exact Option.some.inj hparse

/-- The payloads of the outbox are kept elsewhere. -/
theorem resolvedContentRef_ne (crypto : Crypto) (payload : Dict) (id : UUID) :
    actionPayloadRef id ≠ resolvedContentRef crypto payload none := by
  intro h
  have houtbox : (resolvedContentRef crypto payload none).toList =
      "artifact://outbox/".toList ++ (stableHash crypto payload).toList := by
    simp [resolvedContentRef, ToString.toString]
  have hlist := congrArg (List.take 12 ∘ String.toList) h
  simp only [Function.comp_apply, houtbox, actionPayloadRef_toList] at hlist
  rw [List.take_append_of_le_length (by decide), List.take_append_of_le_length (by decide)] at hlist
  revert hlist
  decide

theorem contentRef_ne_of_foreign {row : ArtifactBlob} (h : (Write.blob row).isForeign = true)
    (id : UUID) : row.contentRef ≠ actionPayloadRef id := by
  intro heq
  have hprefix : proposalRefPrefix.toList.isPrefixOf row.contentRef.toList = true := by
    rw [heq, actionPayloadRef_toList]
    exact List.isPrefixOf_iff_prefix.mpr (List.prefix_append _ _)
  simp [Write.isForeign, hprefix] at h

theorem blob?_applyWrite (crypto : Crypto) (db : Database) (id : UUID) (w : Write) :
    (applyWrite crypto db w).blob? (actionPayloadRef id) =
      (db.blob? (actionPayloadRef id)).or (w.blobAt (actionPayloadRef id)) := by
  cases w with
  | blob row => exact blob?_insertBlobOrIgnore row _
  | card row send =>
    simp only [applyWrite, Write.blobAt, Option.or_none]
    split
    · rename_i hqueued
      rcases enqueueJson_cases hqueued with ⟨_, _, _, rfl⟩ | ⟨_, href, db₁, hstore, hinsert⟩
      · rfl
      · obtain ⟨_, _, _, rfl⟩ := Database.insertOutbox_eq_ok.mp hinsert
        have hne := resolvedContentRef_ne crypto send.payload id
        rcases storeJsonPayload_eq_ok.mp hstore with ⟨_, _, _, rfl⟩ | ⟨_, rfl⟩
        · rfl
        · change (db.insertBlobOrIgnore _).blob? _ = _
          rw [blob?_insertBlobOrIgnore, href]
          simp [jsonBlob, hne.symm]
    · rfl
  | _ => simp [applyWrite, Write.blobAt, Database.blob?, Database.updateProposal,
      Database.updateThread]

end Rows

structure Grows (db db' : Database) : Prop where
  rows : rowsOf db ⊆ rowsOf db'
  blobs : ∀ id b, db.blob? (actionPayloadRef id) = some b → db'.blob? (actionPayloadRef id) = some b

section Grows

variable {crypto : Crypto} {store : Store Nat Database Write}

theorem rowsOf_foldl (db : Database) (ws : List Write) :
    rowsOf (ws.foldl (applyWrite crypto) db) = rowsOf db ++ ws.flatMap Write.rows :=
  Store.rows_foldl (rowsOf_applyWrite crypto) db ws

theorem blob?_foldl (id : UUID) (db : Database) (ws : List Write) :
    (ws.foldl (applyWrite crypto) db).blob? (actionPayloadRef id) =
      (db.blob? (actionPayloadRef id)).or (ws.findSome? (Write.blobAt (actionPayloadRef id))) :=
  @Store.look_foldl _ _ _ _ (fun db => db.blob? (actionPayloadRef id)) _
    (fun db w => blob?_applyWrite crypto db id w) db ws

theorem grows_foldl (db : Database) (ws : List Write) :
    Grows db (ws.foldl (applyWrite crypto) db) := by
  constructor
  · rw [rowsOf_foldl]
    exact List.subset_append_left _ _
  · intro id b hb
    simp [blob?_foldl, hb]

theorem grows_view (i : Nat) : Grows store.committed (store.view (applyWrite crypto) i) :=
  grows_foldl _ _

theorem rowsOf_view (i : Nat) : rowsOf (store.view (applyWrite crypto) i) =
    rowsOf store.committed ++ (ofSession i store.pending).flatMap Write.rows :=
  rowsOf_foldl _ _

theorem grows_writeAll {store' : Store Nat Database Write} {i : Nat} {ws : List Write}
    (hwrite : store.writeAll Clash i ws = some store') (j : Nat) :
    Grows (store.view (applyWrite crypto) j) (store'.view (applyWrite crypto) j) := by
  by_cases hj : j = i
  · subst hj
    rw [Store.view_writeAll_self hwrite]
    exact grows_foldl _ _
  · rw [Store.view_writeAll_ne hwrite hj]
    exact ⟨List.Subset.refl _, fun _ _ hb => hb⟩

theorem clash_of_blobAt {w w' : Write} {ref : String} (hw : (w.blobAt ref).isSome)
    (hw' : (w'.blobAt ref).isSome) : Clash w w' := by
  cases w <;> simp only [Write.blobAt, Option.isSome_none, Bool.false_eq_true] at hw
  cases w' <;> simp only [Write.blobAt, Option.isSome_none, Bool.false_eq_true] at hw'
  split_ifs at hw with hrow
  · split_ifs at hw' with hrow'
    · exact hrow.trans hrow'.symm
    · simp at hw'
  · simp at hw

theorem grows_commit {i j : Nat} (hfree : store.NoClash Clash) (hij : i ≠ j) :
    Grows (store.view (applyWrite crypto) i)
      ((store.commit (applyWrite crypto) j).view (applyWrite crypto) i) := by
  constructor
  · rw [rowsOf_view, rowsOf_view, Store.commit, ofSession_without_ne hij]
    intro x hx
    rcases List.mem_append.mp hx with hx | hx
    · exact List.mem_append_left _ ((grows_view j).rows hx)
    · exact List.mem_append_right _ hx
  · intro id b hb
    exact @Store.look_commit_ne _ _ _ _ _ _ _ _ _ _ (fun db => db.blob? (actionPayloadRef id)) _
      (fun db w => blob?_applyWrite crypto db id w) (fun w w' => clash_of_blobAt) hfree hij _ hb

end Grows

end Headhunt.Runtime
