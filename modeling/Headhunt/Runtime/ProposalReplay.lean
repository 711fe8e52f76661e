import Headhunt.Runtime.ProposalRows

/-! What holds between the sessions that propose actions, at every point of every run. -/
namespace Headhunt.Runtime
open Headhunt.Storage History Py ReadCommitted Transition

namespace Answer

/-- The one who made the proposal announces it: the thread is interrupted once, and the card goes
out once where there is one. -/
structure Creates (notifier : Option WarRoomNotifier) (answer : Answer) : Prop where
  created : answer.created = true
  proposed : answer.proposed = proposedAction answer.call.proposal
  interrupts : answer.writes.filter Write.isInterrupt = [answer.call.interruptWrite]
  cards : answer.writes.filter Write.isCard =
    (answer.call.card notifier).toList.map (Write.card answer.call.row)

/-- The proposal was made before, and nothing is announced again. -/
structure Repeats (pre : List Answer) (answer : Answer) : Prop where
  created : answer.created = false
  earlier : ∃ first ∈ pre, first.created = true ∧ first.proposed = answer.proposed
  interrupts : answer.writes.filter Write.isInterrupt = []
  cards : answer.writes.filter Write.isCard = []

def FollowsFrom (notifier : Option WarRoomNotifier) (pre : List Answer) (answer : Answer) : Prop :=
  answer.proposed.idempotencyKey = answer.call.key ∧
    (answer.Creates notifier ∨ answer.Repeats pre)

theorem FollowsFrom.mono {notifier : Option WarRoomNotifier} (pre pre' : List Answer)
    (answer : Answer) (hsub : pre ⊆ pre') (h : answer.FollowsFrom notifier pre) :
    answer.FollowsFrom notifier pre' := by
  refine ⟨h.1, h.2.imp id ?_⟩
  intro hrepeats
  obtain ⟨first, hfirst, hsame⟩ := hrepeats.earlier
  exact { hrepeats with earlier := ⟨first, hsub hfirst, hsame⟩ }

end Answer

structure PendingCall.Ready (crypto : Crypto) (db : Database) (pending : PendingCall) : Prop where
  interrupts : pending.writes.filter Write.isInterrupt = []
  cards : pending.writes.filter Write.isCard = []
  stored : pending.stage ≠ .looked →
    db.blob? pending.call.payloadRef = some (pending.call.payloadBlob crypto)
  inserted : pending.stage = .inserted →
    ∃ x ∈ rowsOf db, x.idempotencyKey = pending.call.key

theorem PendingCall.Ready.mono {crypto : Crypto} {db db' : Database} {pending : PendingCall}
    (hgrows : Grows db db') (h : pending.Ready crypto db) : pending.Ready crypto db' := by
  refine ⟨h.interrupts, h.cards, fun hstage => hgrows.blobs _ _ (h.stored hstage), ?_⟩
  intro hstage
  obtain ⟨x, hx, hkey⟩ := h.inserted hstage
  exact ⟨x, hgrows.rows hx, hkey⟩

namespace GateRun

def callsOf (run : GateRun) : List (Nat × ProposeCall) := run.calls.map fun q => (q.1, q.2.call)

/-- Whose call it is, answered or not. -/
def allCalls (run : GateRun) : List ProposeCall :=
  run.answers.map (·.call) ++ run.callsOf.map (·.2)

def Unused (run : GateRun) (id : UUID) : Prop :=
  id ∉ run.drawn ∨ ∃ q ∈ run.calls, q.2.stage = .looked ∧ q.2.call.fresh.actionId = id

structure Inv (crypto : Crypto) (notifier : Option WarRoomNotifier) (run : GateRun) : Prop where
  noClash : run.store.NoClash Clash
  keys : Store.UniqueRows (applyWrite crypto) rowsOf (·.idempotencyKey) run.store
  ids : (run.allCalls.map (·.fresh.actionId)).Nodup
  drawn : ∀ call ∈ run.allCalls, call.fresh.actionId ∈ run.drawn
  oneCall : (run.callsOf.map (·.1)).Nodup
  ready : ∀ q ∈ run.calls, q.2.Ready crypto (run.view crypto q.1)
  unused : ∀ id, run.Unused id → ∀ i, (run.view crypto i).blob? (actionPayloadRef id) = none
  justified : ∀ i,
    EachAfter (Answer.FollowsFrom notifier) (run.history ++ ofSession i run.returned)
  committed : ∀ x ∈ rowsOf run.store.committed, ∃ a ∈ run.history, a.created ∧ a.proposed = x
  pending : ∀ i, ∀ w ∈ ofSession i run.store.pending, ∀ x ∈ w.rows,
    (∃ a ∈ ofSession i run.returned, a.created ∧ a.proposed = x) ∨
      ∃ call, (i, call) ∈ run.callsOf ∧ proposedAction call.proposal = x
  keptRows : ∀ a ∈ run.history, a.created → a.proposed ∈ rowsOf run.store.committed
  ownRows : ∀ i, ∀ a ∈ ofSession i run.returned, a.created →
    a.proposed ∈ (ofSession i run.store.pending).flatMap Write.rows
  keptBlobs : ∀ a ∈ run.history, a.created →
    run.store.committed.blob? a.call.payloadRef = some (a.call.payloadBlob crypto)
  ownBlobs : ∀ i, ∀ a ∈ ofSession i run.returned, a.created →
    (run.view crypto i).blob? a.call.payloadRef = some (a.call.payloadBlob crypto)

variable {crypto : Crypto} {notifier : Option WarRoomNotifier} {run : GateRun} {i : Nat}

/-- A session writes, and its call goes on. -/
theorem Inv.wrote {store : Store Nat Database Write} {calls : List (Nat × PendingCall)}
    {ws : List Write} (h : run.Inv crypto notifier)
    (hwrite : run.store.writeAll Clash i ws = some store)
    (hcalls : (calls.map fun q => (q.1, q.2.call)).Perm run.callsOf)
    (hkeys : Store.UniqueRows (applyWrite crypto) rowsOf (·.idempotencyKey) store)
    (hready : ∀ q ∈ calls, q.2.Ready crypto (store.view (applyWrite crypto) q.1))
    (hunused : ∀ id, Unused { run with calls := calls } id →
      run.Unused id ∧ ∀ w ∈ ws, w.blobAt (actionPayloadRef id) = none)
    (hown : ∀ w ∈ ws, ∀ x ∈ w.rows,
      ∃ call, (i, call) ∈ run.callsOf ∧ proposedAction call.proposal = x) :
    Inv crypto notifier { run with store := store, calls := calls } := by
  have hall : (({ run with store := store, calls := calls } : GateRun).allCalls).Perm
      run.allCalls := (hcalls.map (·.2)).append_left _
  have hcommitted : store.committed = run.store.committed := by
    rw [Store.writeAll_eq_some hwrite]
  have hviews : ∀ j, Grows (run.view crypto j) (store.view (applyWrite crypto) j) :=
    grows_writeAll hwrite
  have hpending : ∀ j, ofSession j run.store.pending ⊆ ofSession j store.pending ∧
      ∀ w ∈ ofSession j store.pending, w ∈ ofSession j run.store.pending ∨ j = i ∧ w ∈ ws := by
    intro j
    rw [Store.writeAll_eq_some hwrite, ofSession_append]
    refine ⟨List.subset_append_left _ _, ?_⟩
    intro w hw
    refine (List.mem_append.mp hw).imp id ?_
    intro hw
    have hmem := mem_ofSession.mp hw
    simp only [List.mem_map, Prod.mk.injEq] at hmem
    obtain ⟨w', hw', rfl, rfl⟩ := hmem
    exact ⟨rfl, hw'⟩
  exact {
    noClash := h.noClash.writeAll Clash.symm hwrite
    keys := hkeys
    ids := (hall.map _).nodup_iff.mpr h.ids
    drawn := fun call hcall => h.drawn call (hall.subset hcall)
    oneCall := (hcalls.map (·.1)).nodup_iff.mpr h.oneCall
    ready := hready
    unused := by
      intro id hid j
      obtain ⟨hid, hnone⟩ := hunused id hid
      by_cases hj : j = i
      · subst hj
        change (store.view (applyWrite crypto) j).blob? _ = none
        rw [Store.view_writeAll_self hwrite, blob?_foldl, List.findSome?_eq_none_iff.mpr hnone,
          Option.or_none]
        exact h.unused id hid j
      · change (store.view (applyWrite crypto) j).blob? _ = none
        rw [Store.view_writeAll_ne hwrite hj]
        exact h.unused id hid j
    justified := h.justified
    committed := by
      rw [hcommitted]
      exact h.committed
    pending := by
      intro j w hw x hx
      rcases (hpending j).2 w hw with hw | ⟨rfl, hw⟩
      · refine (h.pending j w hw x hx).imp id ?_
        rintro ⟨call, hcall, hx⟩
        exact ⟨call, hcalls.mem_iff.mpr hcall, hx⟩
      · obtain ⟨call, hcall, hx⟩ := hown w hw x hx
        exact .inr ⟨call, hcalls.mem_iff.mpr hcall, hx⟩
    keptRows := by
      rw [hcommitted]
      exact h.keptRows
    ownRows := by
      intro j a ha hcreated
      obtain ⟨w, hw, hx⟩ := List.mem_flatMap.mp (h.ownRows j a ha hcreated)
      exact List.mem_flatMap.mpr ⟨w, (hpending j).1 hw, hx⟩
    keptBlobs := by
      rw [hcommitted]
      exact h.keptBlobs
    ownBlobs := by
      intro j a ha hcreated
      exact (hviews j).blobs _ _ (h.ownBlobs j a ha hcreated) }

theorem mem_callsOf {p : PendingCall} (h : (i, p) ∈ run.calls) : (i, p.call) ∈ run.callsOf :=
  List.mem_map.mpr ⟨(i, p), h, rfl⟩

theorem callsOf_without (run : GateRun) (i : Nat) :
    ((without i run.calls).map fun q => (q.1, q.2.call)) = without i run.callsOf := by
  rw [callsOf, without, without, List.filter_map]
  rfl

theorem Inv.ofSession_callsOf (h : run.Inv crypto notifier) {p : PendingCall}
    (hcall : (i, p) ∈ run.calls) : ofSession i run.callsOf = [p.call] :=
  ofSession_eq_singleton h.oneCall (mem_callsOf hcall)

/-- The call of a session, and those of the others. -/
theorem Inv.perm_callsOf (h : run.Inv crypto notifier) {p : PendingCall}
    (hcall : (i, p) ∈ run.calls) : run.callsOf.Perm ((i, p.call) :: without i run.callsOf) :=
  perm_cons_without h.oneCall (mem_callsOf hcall)

theorem Inv.call_eq (h : run.Inv crypto notifier) {p : PendingCall} {call : ProposeCall}
    (hcall : (i, p) ∈ run.calls) (hmem : (i, call) ∈ run.callsOf) : call = p.call := by
  have hone := mem_ofSession.mpr hmem
  rw [h.ofSession_callsOf hcall] at hone
  exact List.mem_singleton.mp hone

/-- What has been answered is not the call of a session. -/
theorem Inv.answered_ne (h : run.Inv crypto notifier) {p : PendingCall} {a : Answer}
    (hcall : (i, p) ∈ run.calls) (ha : a ∈ run.answers) :
    a.call.fresh.actionId ≠ p.call.fresh.actionId := by
  intro heq
  have hids := h.ids
  rw [allCalls, List.map_append] at hids
  refine (List.disjoint_of_nodup_append hids) (a := a.call.fresh.actionId) ?_ ?_
  · exact List.mem_map_of_mem (List.mem_map_of_mem ha)
  · rw [heq]
    exact List.mem_map_of_mem (List.mem_map_of_mem (mem_callsOf hcall))

theorem mem_answers {j : Nat} {a : Answer}
    (ha : a ∈ run.history ++ ofSession j run.returned) : a ∈ run.answers := by
  refine List.mem_append.mpr ((List.mem_append.mp ha).imp id ?_)
  intro ha
  exact List.mem_map.mpr ⟨(j, a), mem_ofSession.mp ha, rfl⟩

theorem Inv.creates (h : run.Inv crypto notifier) {j : Nat} {a : Answer}
    (ha : a ∈ run.history ++ ofSession j run.returned) (hcreated : a.created = true) :
    a.Creates notifier := by
  obtain ⟨_, _, _, _, hcreates | hrepeats⟩ := (h.justified j).of_mem ha
  · exact hcreates
  · exact absurd hcreated (by simp [hrepeats.created])

/-- Where the proposals that a session sees come from. -/
theorem Inv.row_origin (h : run.Inv crypto notifier) {x : ProposedAction}
    (hx : x ∈ rowsOf (run.view crypto i)) :
    (∃ a ∈ run.history ++ ofSession i run.returned, a.created = true ∧ a.proposed = x) ∨
      ∃ call, (i, call) ∈ run.callsOf ∧ proposedAction call.proposal = x ∧
        x ∈ (ofSession i run.store.pending).flatMap Write.rows := by
  rw [view, rowsOf_view] at hx
  rcases List.mem_append.mp hx with hx | hx
  · obtain ⟨a, ha, hcreated⟩ := h.committed x hx
    exact .inl ⟨a, List.mem_append_left _ ha, hcreated⟩
  · obtain ⟨w, hw, hxw⟩ := List.mem_flatMap.mp hx
    rcases h.pending i w hw x hxw with ⟨a, ha, hcreated⟩ | ⟨call, hcall, heq⟩
    · exact .inl ⟨a, List.mem_append_right _ ha, hcreated⟩
    · exact .inr ⟨call, hcall, heq, hx⟩

/-- A proposal with the id of the call is its own. -/
theorem Inv.own_row (h : run.Inv crypto notifier) {p : PendingCall} {x : ProposedAction}
    (hcall : (i, p) ∈ run.calls) (hx : x ∈ rowsOf (run.view crypto i))
    (hid : x.actionId = p.call.fresh.actionId) :
    x = proposedAction p.call.proposal ∧
      x ∈ (ofSession i run.store.pending).flatMap Write.rows := by
  rcases h.row_origin hx with ⟨a, ha, hcreated, rfl⟩ | ⟨call, hmem, rfl, hown⟩
  · refine absurd ?_ (h.answered_ne hcall (mem_answers ha))
    rw [(h.creates ha hcreated).proposed] at hid
    exact hid
  · obtain rfl := h.call_eq hcall hmem
    exact ⟨rfl, hown⟩

/-- A proposal with another id was made before. -/
theorem Inv.earlier_row (h : run.Inv crypto notifier) {x : ProposedAction}
    (hcall : ∀ p, (i, p) ∈ run.calls → x.actionId ≠ p.call.fresh.actionId)
    (hx : x ∈ rowsOf (run.view crypto i)) :
    ∃ a ∈ run.history ++ ofSession i run.returned, a.created = true ∧ a.proposed = x := by
  rcases h.row_origin hx with hbefore | ⟨call, hmem, rfl, _⟩
  · exact hbefore
  · obtain ⟨⟨j, p⟩, hp, heq⟩ := List.mem_map.mp hmem
    obtain ⟨rfl, rfl⟩ := Prod.mk.inj heq
    exact absurd rfl (hcall p hp)

theorem Unused.of_subset {run' : GateRun} {id : UUID} (hdrawn : run'.drawn = run.drawn)
    (hcalls : run'.calls ⊆ run.calls) (h : run'.Unused id) : run.Unused id := by
  rcases h with h | ⟨q, hq, hlooked⟩
  · exact .inl (hdrawn ▸ h)
  · exact .inr ⟨q, hcalls hq, hlooked⟩

/-- A call begins; its ids are new. -/
theorem Inv.began (h : run.Inv crypto notifier) {call : ProposeCall}
    (hidle : ofSession i run.calls = []) (hfresh : call.fresh.actionId ∉ run.drawn) :
    Inv crypto notifier { run with
      drawn := call.fresh.actionId :: run.drawn
      calls := run.calls ++ [(i, ⟨call, .looked, []⟩)] } := by
  have hcalls : (({ run with
      drawn := call.fresh.actionId :: run.drawn
      calls := run.calls ++ [(i, ⟨call, .looked, []⟩)] } : GateRun).callsOf) =
      run.callsOf ++ [(i, call)] := List.map_append
  have hall : (({ run with
      drawn := call.fresh.actionId :: run.drawn
      calls := run.calls ++ [(i, ⟨call, .looked, []⟩)] } : GateRun).allCalls) =
      run.allCalls ++ [call] := by
    rw [allCalls, hcalls, List.map_append, ← List.append_assoc]
    rfl
  exact { h with
    ids := by
      rw [hall, List.map_append]
      refine List.Nodup.append h.ids (List.nodup_singleton _) ?_
      intro id hid hnew
      obtain ⟨call', hcall', rfl⟩ := List.mem_map.mp hid
      have hdrawn := h.drawn call' hcall'
      simp only [List.map_cons, List.map_nil, List.mem_singleton] at hnew
      exact hfresh (hnew ▸ hdrawn)
    drawn := by
      rw [hall]
      intro call' hcall'
      rcases List.mem_append.mp hcall' with hcall' | hcall'
      · exact List.mem_cons_of_mem _ (h.drawn call' hcall')
      · obtain rfl := List.mem_singleton.mp hcall'
        exact List.mem_cons_self
    oneCall := by
      rw [hcalls, List.map_append]
      refine List.Nodup.append h.oneCall (List.nodup_singleton _) ?_
      intro j hj hnew
      obtain rfl := List.mem_singleton.mp hnew
      obtain ⟨⟨_, _⟩, hmem, rfl⟩ := List.mem_map.mp hj
      obtain ⟨⟨_, p⟩, hp, heq⟩ := List.mem_map.mp hmem
      obtain ⟨rfl, rfl⟩ := Prod.mk.inj heq
      have hnone := mem_ofSession.mpr hp
      rw [hidle] at hnone
      exact List.not_mem_nil hnone
    ready := by
      intro q hq
      rcases List.mem_append.mp hq with hq | hq
      · exact h.ready q hq
      · obtain rfl := List.mem_singleton.mp hq
        exact ⟨rfl, rfl, fun hstage => absurd rfl hstage, fun hstage => by cases hstage⟩
    unused := by
      intro id hid
      refine h.unused id ?_
      rcases hid with hid | ⟨q, hq, hlooked, rfl⟩
      · exact .inl fun hdrawn => hid (List.mem_cons_of_mem _ hdrawn)
      · rcases List.mem_append.mp hq with hq | hq
        · exact .inr ⟨q, hq, hlooked, rfl⟩
        · obtain rfl := List.mem_singleton.mp hq
          exact .inl hfresh
    pending := by
      intro j w hw x hx
      refine (h.pending j w hw x hx).imp id ?_
      rintro ⟨call', hcall', hrow⟩
      refine ⟨call', ?_, hrow⟩
      rw [hcalls]
      exact List.mem_append_left _ hcall' }

/-- A call returns, and its proposal is no longer under way. -/
theorem Inv.answered (h : run.Inv crypto notifier) {p : PendingCall} {a : Answer}
    (hcall : (i, p) ∈ run.calls) (ha : a.call = p.call)
    (hfollows : a.FollowsFrom notifier (run.history ++ ofSession i run.returned))
    (hcreated : a.created = true → a.proposed ∈ (ofSession i run.store.pending).flatMap Write.rows ∧
      (run.view crypto i).blob? a.call.payloadRef = some (a.call.payloadBlob crypto))
    (hrepeats : a.created = false →
      proposedAction p.call.proposal ∉ (ofSession i run.store.pending).flatMap Write.rows) :
    (run.answer i a).Inv crypto notifier := by
  have hcalls : (run.answer i a).callsOf = without i run.callsOf := callsOf_without run i
  have hall : (run.answer i a).allCalls.Perm run.allCalls := by
    have hanswers : (run.answer i a).answers = run.answers ++ [a] := by
      simp [answers, answer]
    rw [allCalls, hanswers, hcalls, List.map_append, List.append_assoc, allCalls]
    refine List.Perm.append_left _ ?_
    rw [List.map_singleton, ha]
    exact ((h.perm_callsOf hcall).map (·.2)).symm
  have hself : ofSession i (run.answer i a).returned = ofSession i run.returned ++ [a] := by
    rw [answer, ofSession_append, ofSession_singleton_self]
  have hother : ∀ j, j ≠ i → ofSession j (run.answer i a).returned = ofSession j run.returned := by
    intro j hj
    rw [answer, ofSession_append, ofSession_singleton_ne (Ne.symm hj), List.append_nil]
  exact { h with
    ids := (hall.map _).nodup_iff.mpr h.ids
    drawn := fun call hmem => h.drawn call (hall.subset hmem)
    oneCall := by
      rw [hcalls]
      exact h.oneCall.sublist ((without_sublist i run.callsOf).map _)
    ready := fun q hq => h.ready q (mem_without.mp hq).1
    unused := by
      intro id hid
      exact h.unused id
        (hid.of_subset (show (run.answer i a).drawn = _ from rfl) (without_sublist i _).subset)
    justified := by
      intro j
      by_cases hj : j = i
      · subst hj
        rw [hself, ← List.append_assoc]
        exact eachAfter_append_singleton.mpr ⟨h.justified j, hfollows⟩
      · rw [hother j hj]
        exact h.justified j
    pending := by
      intro j w hw x hx
      rw [hcalls]
      by_cases hj : j = i
      · subst hj
        rw [hself]
        refine .inl ?_
        rcases h.pending j w hw x hx with ⟨b, hb, hrow⟩ | ⟨call, hmem, rfl⟩
        · exact ⟨b, List.mem_append_left _ hb, hrow⟩
        · obtain rfl := h.call_eq hcall hmem
          refine ⟨a, by simp, ?_⟩
          cases hmade : a.created with
          | false => exact absurd (List.mem_flatMap.mpr ⟨w, hw, hx⟩) (hrepeats hmade)
          | true =>
            rcases hfollows.2 with hcreates | hrep
            · exact ⟨rfl, by rw [hcreates.proposed, ha]⟩
            · simp [hrep.created] at hmade
      · rw [hother j hj]
        refine (h.pending j w hw x hx).imp id ?_
        rintro ⟨call, hmem, hrow⟩
        exact ⟨call, mem_without.mpr ⟨hmem, hj⟩, hrow⟩
    ownRows := by
      intro j b hb hmade
      by_cases hj : j = i
      · subst hj
        rw [hself] at hb
        rcases List.mem_append.mp hb with hb | hb
        · exact h.ownRows j b hb hmade
        · obtain rfl := List.mem_singleton.mp hb
          exact (hcreated hmade).1
      · rw [hother j hj] at hb
        exact h.ownRows j b hb hmade
    ownBlobs := by
      intro j b hb hmade
      by_cases hj : j = i
      · subst hj
        rw [hself] at hb
        rcases List.mem_append.mp hb with hb | hb
        · exact h.ownBlobs j b hb hmade
        · obtain rfl := List.mem_singleton.mp hb
          exact (hcreated hmade).2
      · rw [hother j hj] at hb
        exact h.ownBlobs j b hb hmade }

/-- A session is rolled back, and nothing of it is left. -/
theorem Inv.rolledBack (h : run.Inv crypto notifier) (i : Nat) :
    (run.rollback i).Inv crypto notifier := by
  have hcalls : (run.rollback i).callsOf = without i run.callsOf := callsOf_without run i
  have hall : (run.rollback i).allCalls.Sublist run.allCalls := by
    rw [allCalls, hcalls]
    refine List.Sublist.append (List.Sublist.map _ ?_) ((without_sublist i _).map _)
    exact List.Sublist.append (List.Sublist.refl _) ((without_sublist i _).map _)
  have hviews : ∀ j, j ≠ i → (run.rollback i).view crypto j = run.view crypto j :=
    fun j hj => Store.view_rollback_ne hj
  have hself : (run.rollback i).view crypto i = run.store.committed := by
    rw [view, rollback, Store.rollback, Store.view, ofSession_without_self]
    rfl
  exact {
    noClash := h.noClash.without
    keys := h.keys.rollback (rowsOf_applyWrite crypto) i
    ids := h.ids.sublist (hall.map _)
    drawn := fun call hmem => h.drawn call (hall.subset hmem)
    oneCall := by
      rw [hcalls]
      exact h.oneCall.sublist ((without_sublist i run.callsOf).map _)
    ready := by
      intro q hq
      obtain ⟨hq, hne⟩ := mem_without.mp hq
      rw [hviews q.1 hne]
      exact h.ready q hq
    unused := by
      intro id hid j
      have hnone := h.unused id
        (hid.of_subset (show (run.rollback i).drawn = _ from rfl) (without_sublist i _).subset) j
      by_cases hj : j = i
      · subst hj
        rw [hself]
        rw [view, Store.view, blob?_foldl] at hnone
        exact (Option.or_eq_none_iff.mp hnone).1
      · rw [hviews j hj]
        exact hnone
    justified := by
      intro j
      by_cases hj : j = i
      · subst hj
        rw [rollback, ofSession_without_self, List.append_nil]
        exact (eachAfter_append.mp (h.justified j)).1
      · rw [rollback, ofSession_without_ne hj]
        exact h.justified j
    committed := h.committed
    pending := by
      intro j w hw x hx
      by_cases hj : j = i
      · subst hj
        rw [rollback, Store.rollback, ofSession_without_self] at hw
        cases hw
      · rw [rollback, Store.rollback, ofSession_without_ne hj] at hw
        rw [hcalls, rollback, ofSession_without_ne hj]
        refine (h.pending j w hw x hx).imp id ?_
        rintro ⟨call, hmem, hrow⟩
        exact ⟨call, mem_without.mpr ⟨hmem, hj⟩, hrow⟩
    keptRows := h.keptRows
    ownRows := by
      intro j a ha hcreated
      by_cases hj : j = i
      · subst hj
        rw [rollback, ofSession_without_self] at ha
        cases ha
      · rw [rollback, ofSession_without_ne hj] at ha
        rw [rollback, Store.rollback, ofSession_without_ne hj]
        exact h.ownRows j a ha hcreated
    keptBlobs := h.keptBlobs
    ownBlobs := by
      intro j a ha hcreated
      by_cases hj : j = i
      · subst hj
        rw [rollback, ofSession_without_self] at ha
        cases ha
      · rw [rollback, ofSession_without_ne hj] at ha
        rw [hviews j hj]
        exact h.ownBlobs j a ha hcreated }

/-- A session without a call commits what it has written and answered. -/
theorem Inv.committed_session (h : run.Inv crypto notifier) (hidle : ofSession i run.calls = []) :
    (run.commit crypto i).Inv crypto notifier := by
  have hnocall : ∀ call, (i, call) ∉ run.callsOf := by
    intro call hmem
    obtain ⟨⟨j, p⟩, hp, heq⟩ := List.mem_map.mp hmem
    obtain ⟨rfl, _⟩ := Prod.mk.inj heq
    have hnone := mem_ofSession.mpr hp
    rw [hidle] at hnone
    exact List.not_mem_nil hnone
  have hall : (run.commit crypto i).allCalls.Perm run.allCalls := by
    refine List.Perm.append_right _ (List.Perm.map _ ?_)
    rw [commit, answers, List.append_assoc]
    exact List.Perm.append_left _ (perm_ofSession i run.returned).symm
  have hgrows : ∀ j, j ≠ i → Grows (run.view crypto j) ((run.commit crypto i).view crypto j) :=
    fun j hj => grows_commit h.noClash hj
  have hself : (run.commit crypto i).view crypto i = run.view crypto i := by
    rw [view, commit, Store.commit, Store.view, ofSession_without_self]
    rfl
  have hrows : ∀ x ∈ rowsOf (run.view crypto i),
      ∃ a ∈ run.history ++ ofSession i run.returned, a.created = true ∧ a.proposed = x := by
    intro x hx
    refine h.earlier_row ?_ hx
    intro p hp
    exact absurd (mem_callsOf hp) (hnocall p.call)
  exact {
    noClash := h.noClash.without
    keys := h.keys.commit (rowsOf_applyWrite crypto) (fun _ _ _ _ => clash_of_key) h.noClash i
    ids := (hall.map _).nodup_iff.mpr h.ids
    drawn := fun call hmem => h.drawn call (hall.subset hmem)
    oneCall := h.oneCall
    ready := by
      intro q hq
      refine (h.ready q hq).mono (hgrows q.1 ?_)
      intro heq
      exact hnocall q.2.call (heq ▸ mem_callsOf (p := q.2) hq)
    unused := by
      intro id hid j
      by_cases hj : j = i
      · subst hj
        rw [hself]
        exact h.unused id hid j
      · have hcommitted := h.unused id hid i
        have hown := h.unused id hid j
        rw [view, Store.view, blob?_foldl] at hown
        rw [view, commit, Store.commit, Store.view, blob?_foldl, ofSession_without_ne hj]
        exact Option.or_eq_none_iff.mpr ⟨hcommitted, (Option.or_eq_none_iff.mp hown).2⟩
    justified := by
      intro j
      by_cases hj : j = i
      · subst hj
        rw [commit, ofSession_without_self, List.append_nil]
        exact h.justified j
      · rw [commit, ofSession_without_ne hj]
        exact EachAfter.insert Answer.FollowsFrom.mono (h.justified i) (h.justified j)
    committed := hrows
    pending := by
      intro j w hw x hx
      by_cases hj : j = i
      · subst hj
        rw [commit, Store.commit, ofSession_without_self] at hw
        cases hw
      · rw [commit, Store.commit, ofSession_without_ne hj] at hw
        rw [commit, ofSession_without_ne hj]
        exact h.pending j w hw x hx
    keptRows := by
      intro a ha hcreated
      change a.proposed ∈ rowsOf (run.view crypto i)
      rcases List.mem_append.mp ha with ha | ha
      · exact (grows_view i).rows (h.keptRows a ha hcreated)
      · rw [view, rowsOf_view]
        exact List.mem_append_right _ (h.ownRows i a ha hcreated)
    ownRows := by
      intro j a ha hcreated
      by_cases hj : j = i
      · subst hj
        rw [commit, ofSession_without_self] at ha
        cases ha
      · rw [commit, ofSession_without_ne hj] at ha
        rw [commit, Store.commit, ofSession_without_ne hj]
        exact h.ownRows j a ha hcreated
    keptBlobs := by
      intro a ha hcreated
      rcases List.mem_append.mp ha with ha | ha
      · exact (grows_view i).blobs _ _ (h.keptBlobs a ha hcreated)
      · exact h.ownBlobs i a ha hcreated
    ownBlobs := by
      intro j a ha hcreated
      by_cases hj : j = i
      · subst hj
        rw [commit, ofSession_without_self] at ha
        cases ha
      · rw [commit, ofSession_without_ne hj] at ha
        exact (hgrows j hj).blobs _ _ (h.ownBlobs j a ha hcreated) }

theorem uniqueRows_writeAll {store : Store Nat Database Write} {ws : List Write}
    (h : Store.UniqueRows (applyWrite crypto) rowsOf (·.idempotencyKey) run.store)
    (hwrite : run.store.writeAll Clash i ws = some store)
    (hnew : ((rowsOf (run.view crypto i) ++ ws.flatMap Write.rows).map (·.idempotencyKey)).Nodup) :
    Store.UniqueRows (applyWrite crypto) rowsOf (·.idempotencyKey) store := by
  intro j
  by_cases hj : j = i
  · subst hj
    rw [Store.view_writeAll_self hwrite, rowsOf_foldl]
    exact hnew
  · rw [Store.view_writeAll_ne hwrite hj]
    exact h j

/-- The call of a session goes on to its next statement. -/
theorem Inv.advanced (h : run.Inv crypto notifier) {p next : PendingCall} {ws : List Write}
    {run' : GateRun} (hcall : (i, p) ∈ run.calls) (hrun : run.advance i next ws = some run')
    (hnext : next.call = p.call) (hstage : next.stage ≠ .looked)
    (hnew : ((rowsOf (run.view crypto i) ++ ws.flatMap Write.rows).map (·.idempotencyKey)).Nodup)
    (hready : PendingCall.Ready crypto (ws.foldl (applyWrite crypto) (run.view crypto i))
      { next with writes := next.writes ++ ws })
    (hblobs : ∀ id, id ≠ p.call.fresh.actionId → ∀ w ∈ ws, w.blobAt (actionPayloadRef id) = none)
    (hown : ∀ w ∈ ws, ∀ x ∈ w.rows, x = proposedAction p.call.proposal) :
    run'.Inv crypto notifier := by
  obtain ⟨store, hwrite, rfl⟩ := Option.map_eq_some_iff.mp hrun
  refine h.wrote hwrite ?_ (uniqueRows_writeAll h.keys hwrite hnew) ?_ ?_ ?_
  · rw [List.map_append, callsOf_without, List.map_singleton, hnext]
    exact List.perm_append_comm.trans (h.perm_callsOf hcall).symm
  · intro q hq
    rcases List.mem_append.mp hq with hq | hq
    · obtain ⟨hq, hne⟩ := mem_without.mp hq
      rw [Store.view_writeAll_ne hwrite hne]
      exact h.ready q hq
    · obtain rfl := List.mem_singleton.mp hq
      rw [Store.view_writeAll_self hwrite]
      exact hready
  · intro id hid
    have hother : run.Unused id ∧ id ≠ p.call.fresh.actionId := by
      rcases hid with hid | ⟨q, hq, hlooked, rfl⟩
      · refine ⟨.inl hid, ?_⟩
        rintro rfl
        exact hid (h.drawn p.call (List.mem_append_right _
          (List.mem_map_of_mem (mem_callsOf hcall))))
      · rcases List.mem_append.mp hq with hq | hq
        · have hids := h.ids
          rw [allCalls, List.map_append] at hids
          have hnodup := (((h.perm_callsOf hcall).map (·.2)).map (·.fresh.actionId)).nodup_iff.mp
            hids.of_append_right
          refine ⟨.inr ⟨q, (mem_without.mp hq).1, hlooked, rfl⟩, ?_⟩
          intro heq
          refine (List.nodup_cons.mp hnodup).1 (List.mem_map.mpr ⟨q.2.call, ?_, heq⟩)
          refine List.mem_map.mpr ⟨(q.1, q.2.call), ?_, rfl⟩
          rw [← callsOf_without]
          exact List.mem_map.mpr ⟨q, hq, rfl⟩
        · obtain rfl := List.mem_singleton.mp hq
          exact absurd hlooked hstage
    exact ⟨hother.1, hblobs id hother.2⟩
  · intro w hw x hx
    exact ⟨p.call, mem_callsOf hcall, (hown w hw x hx).symm⟩

theorem mem_calls_of_current {p : PendingCall} (h : run.current i = some p) :
    (i, p) ∈ run.calls :=
  mem_ofSession.mp (List.mem_of_mem_head? h)

theorem ofSession_calls_of_idle (h : ¬(run.current i).isSome) : ofSession i run.calls = [] := by
  rw [current, List.isSome_head?] at h
  simpa using h

theorem Inv.storePayload (h : run.Inv crypto notifier) {p : PendingCall} {run' : GateRun}
    (hcall : (i, p) ∈ run.calls) (hstage : p.stage = .looked)
    (hrun : run.storePayload crypto i p = some run') : run'.Inv crypto notifier := by
  have hnone : (run.view crypto i).blob? p.call.payloadRef = none :=
    h.unused _ (.inr ⟨(i, p), hcall, hstage, rfl⟩) i
  have hready := h.ready (i, p) hcall
  rw [GateRun.storePayload, ProposeCall.storeWrites, hnone] at hrun
  dsimp only at hrun
  refine h.advanced hcall hrun rfl (by simp) ?_ ?_ ?_ ?_
  · have hkeys : ((rowsOf (run.view crypto i)).map (·.idempotencyKey)).Nodup := h.keys i
    simpa [Write.rows] using hkeys
  · refine ⟨?_, ?_, ?_, ?_⟩
    · simp [hready.interrupts, Write.isInterrupt]
    · simp [hready.cards, Write.isCard]
    · intro _
      refine (blob?_foldl p.call.fresh.actionId _ _).trans ?_
      rw [show (run.view crypto i).blob? (actionPayloadRef p.call.fresh.actionId) = none from hnone]
      simp [Write.blobAt, ProposeCall.payloadBlob, proposalBlob, jsonBlob]
    · intro hinserted
      cases hinserted
  · intro id hid w hw
    obtain rfl := List.mem_singleton.mp hw
    rw [Write.blobAt, if_neg]
    exact fun heq => hid (actionPayloadRef_injective heq).symm
  · intro w hw x hx
    obtain rfl := List.mem_singleton.mp hw
    cases hx

theorem Inv.insertProposal (h : run.Inv crypto notifier) {p : PendingCall} {run' : GateRun}
    (hcall : (i, p) ∈ run.calls) (hstage : p.stage = .stored)
    (hrun : run.insertProposal crypto i p = some run') : run'.Inv crypto notifier := by
  have hready := h.ready (i, p) hcall
  have hkeys : ((rowsOf (run.view crypto i)).map (·.idempotencyKey)).Nodup := h.keys i
  have hstored := hready.stored (by simp [hstage])
  rw [GateRun.insertProposal, ProposeCall.insertWrites] at hrun
  cases hinsert : (run.view crypto i).insertProposalOrIgnore p.call.proposal with
  | error e =>
    simp only [hinsert, Except.map, Option.some.injEq] at hrun
    subst hrun
    exact h.rolledBack i
  | ok db =>
    simp only [hinsert, Except.map] at hrun
    cases hfound : (run.view crypto i).proposalForKey? p.call.key with
    | some existing =>
      simp only [hfound, Option.isSome_some, if_true] at hrun
      obtain ⟨hmem, hkey⟩ := mem_rowsOf_of_some hfound
      refine h.advanced hcall hrun rfl (by simp) ?_ ?_ (by simp) (by simp)
      · simpa using hkeys
      · exact ⟨by simpa using hready.interrupts, by simpa using hready.cards,
          fun _ => hstored, fun _ => ⟨_, hmem, hkey⟩⟩
    | none =>
      simp only [hfound, Option.isSome_none, Bool.false_eq_true, if_false] at hrun
      have hfree := forall_rowsOf_of_none hfound
      refine h.advanced hcall hrun rfl (by simp) ?_ ?_ ?_ ?_
      · simp only [List.flatMap_cons, List.flatMap_nil, Write.rows, List.append_nil, List.map_append]
        refine List.Nodup.append hkeys (List.nodup_singleton _) ?_
        intro key hmem hnew
        obtain ⟨x, hx, heq⟩ := List.mem_map.mp hmem
        exact hfree x hx (heq.trans (List.mem_singleton.mp hnew))
      · refine ⟨?_, ?_, ?_, ?_⟩
        · simp [hready.interrupts, Write.isInterrupt]
        · simp [hready.cards, Write.isCard]
        · exact fun _ => (grows_foldl _ _).blobs _ _ hstored
        · intro _
          refine ⟨proposedAction p.call.proposal, ?_, rfl⟩
          rw [rowsOf_foldl]
          exact List.mem_append_right _ (by simp [Write.rows])
      · intro id _ w hw
        obtain rfl := List.mem_singleton.mp hw
        rfl
      · intro w hw x hx
        obtain rfl := List.mem_singleton.mp hw
        exact List.mem_singleton.mp hx

/-- The writes that announce a proposal. -/
theorem cardWrites_eq_ok {call : ProposeCall} {db : Database} {cards : List Write}
    (h : call.cardWrites crypto notifier db = .ok cards) :
    cards = (call.card notifier).toList.map (Write.card call.row) := by
  unfold ProposeCall.cardWrites at h
  cases hcard : call.card notifier with
  | none =>
    simp only [hcard, Except.ok.injEq] at h
    simp [← h]
  | some send =>
    simp only [hcard] at h
    cases hqueued : enqueueJson crypto call.row send.kind send.idempotencyKey send.payload
        (some send.threadId) none db with
    | error e => simp [hqueued, Except.map] at h
    | ok result =>
      simp only [hqueued, Except.map, Except.ok.injEq] at h
      simp [← h]

/-- The row of a call that has tried its insert, where none with another id is under its key. -/
theorem Inv.announced_row (h : run.Inv crypto notifier) {p : PendingCall}
    (hcall : (i, p) ∈ run.calls) (hstage : p.stage = .inserted)
    (hfound : ((run.view crypto i).proposalForKey? p.call.key).filter
      (·.id ≠ p.call.fresh.actionId) = none) :
    proposedAction p.call.proposal ∈ (ofSession i run.store.pending).flatMap Write.rows := by
  obtain ⟨x, hx, hkey⟩ := (h.ready (i, p) hcall).inserted hstage
  cases hrow : (run.view crypto i).proposalForKey? p.call.key with
  | none => exact absurd hkey (forall_rowsOf_of_none hrow x hx)
  | some row =>
    obtain ⟨hmem, _⟩ := mem_rowsOf_of_some hrow
    have hid : row.id = p.call.fresh.actionId := by
      by_contra hne
      simp [hrow, hne] at hfound
    obtain ⟨heq, hown⟩ := h.own_row hcall hmem hid
    rwa [heq] at hown

theorem Inv.announce (h : run.Inv crypto notifier) {p : PendingCall} {run' : GateRun}
    (hcall : (i, p) ∈ run.calls) (hstage : p.stage = .inserted)
    (hrow : proposedAction p.call.proposal ∈ (ofSession i run.store.pending).flatMap Write.rows)
    (hrun : run.announce crypto notifier i p = some run') : run'.Inv crypto notifier := by
  have hready := h.ready (i, p) hcall
  unfold GateRun.announce at hrun
  dsimp only at hrun
  cases hcards : p.call.cardWrites crypto notifier
      (applyWrite crypto (run.view crypto i) p.call.interruptWrite) with
  | error e =>
    simp only [hcards, Option.some.injEq] at hrun
    subst hrun
    exact h.rolledBack i
  | ok cards =>
    simp only [hcards] at hrun
    obtain ⟨store, hwrite, rfl⟩ := Option.map_eq_some_iff.mp hrun
    have hshape := cardWrites_eq_ok hcards
    have hquiet : ∀ w ∈ p.call.interruptWrite :: cards,
        w.rows = [] ∧ ∀ ref, w.blobAt ref = none := by
      intro w hw
      rcases List.mem_cons.mp hw with rfl | hw
      · exact ⟨rfl, fun _ => rfl⟩
      · rw [hshape] at hw
        obtain ⟨send, _, rfl⟩ := List.mem_map.mp hw
        exact ⟨rfl, fun _ => rfl⟩
    have hnorows : (p.call.interruptWrite :: cards).flatMap Write.rows = [] :=
      List.flatMap_eq_nil_iff.mpr fun w hw => (hquiet w hw).1
    have hkeys : ((rowsOf (run.view crypto i)).map (·.idempotencyKey)).Nodup := h.keys i
    have hview : ∀ j, Grows (run.view crypto j) (store.view (applyWrite crypto) j) :=
      grows_writeAll hwrite
    have hwrote : Inv crypto notifier { run with store := store } := by
      refine h.wrote hwrite (show (run.calls.map fun q => (q.1, q.2.call)).Perm run.callsOf from
        List.Perm.refl _) ?_ ?_ ?_ ?_
      · refine uniqueRows_writeAll h.keys hwrite ?_
        rwa [hnorows, List.append_nil]
      · exact fun q hq => (h.ready q hq).mono (hview q.1)
      · exact fun id hid => ⟨hid, fun w hw => (hquiet w hw).2 _⟩
      · intro w hw x hx
        rw [(hquiet w hw).1] at hx
        cases hx
    refine hwrote.answered hcall rfl ⟨rfl, .inl ⟨rfl, rfl, ?_, ?_⟩⟩ ?_ ?_
    · rw [List.filter_append, hready.interrupts, hshape, List.nil_append,
        List.filter_cons_of_pos (by rfl)]
      refine congrArg _ (List.filter_eq_nil_iff.mpr ?_)
      intro w hw
      obtain ⟨send, _, rfl⟩ := List.mem_map.mp hw
      exact Bool.false_ne_true
    · rw [List.filter_append, hready.cards, hshape, List.nil_append,
        List.filter_cons_of_neg (by simp [ProposeCall.interruptWrite, Write.isCard])]
      refine List.filter_eq_self.mpr ?_
      intro w hw
      obtain ⟨send, _, rfl⟩ := List.mem_map.mp hw
      rfl
    · intro _
      refine ⟨?_, (hview i).blobs _ _ (hready.stored (by simp [hstage]))⟩
      rw [Store.writeAll_eq_some hwrite, ofSession_append, List.flatMap_append]
      exact List.mem_append_left _ hrow
    · intro hmade
      cases hmade

theorem Inv.finishCall (h : run.Inv crypto notifier) {p : PendingCall} {run' : GateRun}
    (hcall : (i, p) ∈ run.calls) (hstage : p.stage = .inserted)
    (hrun : run.finishCall crypto notifier i p = some run') : run'.Inv crypto notifier := by
  have hready := h.ready (i, p) hcall
  unfold GateRun.finishCall at hrun
  cases hfound : ((run.view crypto i).proposalForKey? p.call.key).filter
      (·.id ≠ p.call.fresh.actionId) with
  | none =>
    simp only [hfound] at hrun
    exact h.announce hcall hstage (h.announced_row hcall hstage hfound) hrun
  | some persisted =>
    simp only [hfound, Option.some.injEq] at hrun
    subst hrun
    obtain ⟨hlookup, hother⟩ := Option.filter_eq_some_iff.mp hfound
    obtain ⟨hmem, hkey⟩ := mem_rowsOf_of_some hlookup
    have hne : persisted.id ≠ p.call.fresh.actionId := by simpa using hother
    refine h.answered hcall rfl ⟨hkey, .inr ⟨rfl, ?_, hready.interrupts, hready.cards⟩⟩ ?_ ?_
    · refine h.earlier_row ?_ hmem
      intro q hq
      rw [h.call_eq hcall (mem_callsOf hq)]
      exact hne
    · intro hmade
      cases hmade
    · intro _ hown
      have hseen : proposedAction p.call.proposal ∈ rowsOf (run.view crypto i) := by
        rw [view, rowsOf_view]
        exact List.mem_append_right _ hown
      have hsame := List.inj_on_of_nodup_map (h.keys i) hseen hmem hkey.symm
      exact hne (congrArg ProposedAction.actionId hsame).symm

theorem Inv.beginCall (h : run.Inv crypto notifier) {call : ProposeCall} {run' : GateRun}
    (hrun : run.beginCall crypto i call = some run') : run'.Inv crypto notifier := by
  unfold GateRun.beginCall at hrun
  split_ifs at hrun with hguard
  obtain ⟨hidle, hfresh⟩ := not_or.mp hguard
  have hnone := ofSession_calls_of_idle hidle
  have hbegan := h.began hnone hfresh
  cases hfound : (run.view crypto i).proposalForKey? call.key with
  | none =>
    simp only [hfound, Option.some.injEq] at hrun
    subst hrun
    exact hbegan
  | some existing =>
    simp only [hfound, Option.some.injEq] at hrun
    obtain ⟨hmem, hkey⟩ := mem_rowsOf_of_some hfound
    have hnocall : ∀ q, (i, q) ∉ run.calls := by
      intro q hq
      have hmem := mem_ofSession.mpr hq
      rw [hnone] at hmem
      cases hmem
    have hearlier := h.earlier_row (fun q hq => absurd hq (hnocall q)) hmem
    have hnew : proposedAction call.proposal ∉
        (ofSession i run.store.pending).flatMap Write.rows := by
      intro hown
      have hseen : proposedAction call.proposal ∈ rowsOf (run.view crypto i) := by
        rw [view, rowsOf_view]
        exact List.mem_append_right _ hown
      obtain ⟨a, ha, hmade, heq⟩ := h.earlier_row (fun q hq => absurd hq (hnocall q)) hseen
      rw [(h.creates ha hmade).proposed] at heq
      refine hfresh ?_
      rw [← show a.call.fresh.actionId = call.fresh.actionId from
        congrArg ProposedAction.actionId heq]
      exact h.drawn a.call (List.mem_append_left _ (List.mem_map_of_mem (mem_answers ha)))
    have hanswered := hbegan.answered (p := ⟨call, .looked, []⟩)
      (a := ⟨call, proposedAction existing, false, []⟩) (by simp) rfl
      ⟨hkey, .inr ⟨rfl, hearlier, rfl, rfl⟩⟩ (by simp) (fun _ => hnew)
    have hcalls : without i (run.calls ++ [(i, (⟨call, .looked, []⟩ : PendingCall))]) =
        without i run.calls := by
      simp [without]
    unfold GateRun.answer at hanswered
    rw [hcalls] at hanswered
    rw [← hrun]
    exact hanswered

/-- What a session does besides its calls makes no proposal. -/
theorem Inv.other (h : run.Inv crypto notifier) {w : Write} {store : Store Nat Database Write}
    (hforeign : w.isForeign = true) (hwrite : run.store.write Clash i w = some store) :
    Inv crypto notifier { run with store := store } := by
  have hall : run.store.writeAll Clash i [w] = some store := by
    simp [Store.writeAll, hwrite]
  have hrows : w.rows = [] := by
    cases w <;> first | rfl | cases hforeign
  have hview : ∀ j, Grows (run.view crypto j) (store.view (applyWrite crypto) j) :=
    grows_writeAll hall
  refine h.wrote hall (show (run.calls.map fun q => (q.1, q.2.call)).Perm run.callsOf from
    List.Perm.refl _) ?_ ?_ ?_ ?_
  · refine uniqueRows_writeAll h.keys hall ?_
    have hkeys : ((rowsOf (run.view crypto i)).map (·.idempotencyKey)).Nodup := h.keys i
    simpa [hrows] using hkeys
  · exact fun q hq => (h.ready q hq).mono (hview q.1)
  · intro id hid
    refine ⟨hid, ?_⟩
    intro w' hw'
    obtain rfl := List.mem_singleton.mp hw'
    cases w' with
    | blob row => exact if_neg (contentRef_ne_of_foreign hforeign id)
    | _ => rfl
  · intro w' hw' x hx
    obtain rfl := List.mem_singleton.mp hw'
    rw [hrows] at hx
    cases hx

theorem inv_start : Inv crypto notifier start := by
  have hview : ∀ i, start.view crypto i = {} := fun _ => rfl
  refine ⟨?_, ?_, List.nodup_nil, ?_, List.nodup_nil, ?_, ?_, fun _ => eachAfter_nil _,
    ?_, ?_, ?_, ?_, ?_, ?_⟩
  · intro p hp
    cases hp
  · exact fun i => List.nodup_nil
  · intro call hcall
    cases hcall
  · intro q hq
    cases hq
  · intro id _ i
    rfl
  · intro x hx
    cases hx
  · intro i w hw
    cases hw
  · intro a ha
    cases ha
  · intro i a ha
    cases ha
  · intro a ha
    cases ha
  · intro i a ha
    cases ha

theorem mem_calls_of_atStage {stage : Stage} {p : PendingCall} (h : run.atStage i stage = some p) :
    (i, p) ∈ run.calls ∧ p.stage = stage := by
  obtain ⟨hcurrent, hstage⟩ := Option.filter_eq_some_iff.mp h
  exact ⟨mem_calls_of_current hcurrent, by simpa using hstage⟩

theorem Inv.step {run' : GateRun} {label : GateLabel} (h : run.Inv crypto notifier)
    (hstep : run.step crypto notifier label = some run') : run'.Inv crypto notifier := by
  cases label with
  | call i call => exact h.beginCall hstep
  | store i =>
    obtain ⟨p, hp, hrun⟩ := Option.bind_eq_some_iff.mp hstep
    obtain ⟨hcall, hstage⟩ := mem_calls_of_atStage hp
    exact h.storePayload hcall hstage hrun
  | insert i =>
    obtain ⟨p, hp, hrun⟩ := Option.bind_eq_some_iff.mp hstep
    obtain ⟨hcall, hstage⟩ := mem_calls_of_atStage hp
    exact h.insertProposal hcall hstage hrun
  | finish i =>
    obtain ⟨p, hp, hrun⟩ := Option.bind_eq_some_iff.mp hstep
    obtain ⟨hcall, hstage⟩ := mem_calls_of_atStage hp
    exact h.finishCall hcall hstage hrun
  | other i w =>
    unfold GateRun.step at hstep
    dsimp only at hstep
    split_ifs at hstep with hguard
    obtain ⟨store, hwrite, rfl⟩ := Option.map_eq_some_iff.mp hstep
    exact h.other (by simpa using (not_or.mp hguard).1) hwrite
  | commit i =>
    unfold GateRun.step at hstep
    dsimp only at hstep
    split_ifs at hstep with hguard
    obtain rfl := Option.some.inj hstep
    exact h.committed_session (ofSession_calls_of_idle hguard)
  | rollback i =>
    obtain rfl := Option.some.inj hstep
    exact h.rolledBack i

theorem inv_exec {labels : List GateLabel} {run' : GateRun} (h : run.Inv crypto notifier)
    (hrun : exec (GateRun.step crypto notifier) run labels = some run') :
    run'.Inv crypto notifier :=
  exec_invariant (Inv crypto notifier) (P := fun _ _ => True)
    (fun _ _ _ hinv _ hstep => hinv.step hstep) h (Along.mono (fun _ _ _ => trivial)
      (along_iff_forall.mpr fun _ _ _ _ _ _ => trivial)) hrun

end GateRun
end Headhunt.Runtime
