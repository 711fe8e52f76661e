import Headhunt.Runtime.ProposalReplay

/-! What the callers of `propose_action` are told: one proposal for each key, made and announced by
one of them. -/
namespace Headhunt.Runtime
open Headhunt.Storage History Py ReadCommitted Transition

/-- Where the other elements have nothing, all there is comes from one. -/
theorem flatMap_eq_of_alone {α β κ : Type*} {l : List α} {f : α → List β} (key : α → κ) {a : α}
    (ha : a ∈ l) (hkeys : (l.map key).Nodup) (hnone : ∀ b ∈ l, key b ≠ key a → f b = []) :
    l.flatMap f = f a := by
  obtain ⟨pre, post, rfl⟩ := List.append_of_mem ha
  rw [List.map_append, List.map_cons] at hkeys
  have hpre : pre.flatMap f = [] := by
    refine List.flatMap_eq_nil_iff.mpr ?_
    intro b hb
    refine hnone b (List.mem_append_left _ hb) ?_
    intro heq
    refine (List.disjoint_of_nodup_append hkeys) (List.mem_map_of_mem hb) ?_
    exact heq ▸ List.mem_cons_self
  have hpost : post.flatMap f = [] := by
    refine List.flatMap_eq_nil_iff.mpr ?_
    intro b hb
    refine hnone b (List.mem_append_right _ (List.mem_cons_of_mem _ hb)) ?_
    intro heq
    refine (List.nodup_cons.mp hkeys.of_append_right).1 ?_
    exact heq ▸ List.mem_map_of_mem hb
  rw [List.flatMap_append, List.flatMap_cons, hpre, hpost, List.nil_append, List.append_nil]

namespace GateRun

def writesUnder (run : GateRun) (key : String) : List Write :=
  (run.answers.filter (·.call.key = key)).flatMap (·.writes)

/-- The proposal of a key has been made once: by this call, which told the others. -/
structure ProposedOnce (notifier : Option WarRoomNotifier) (run : GateRun) (key : String)
    (first : Answer) : Prop where
  mem : first ∈ run.answers
  created : first.created = true
  key_eq : first.call.key = key
  same : ∀ a ∈ run.answers, a.call.key = key → a.proposed = proposedAction first.call.proposal
  interrupts : (run.writesUnder key).filter Write.isInterrupt = [first.call.interruptWrite]
  cards : (run.writesUnder key).filter Write.isCard =
    (first.call.card notifier).toList.map (Write.card first.call.row)

variable {crypto : Crypto} {notifier : Option WarRoomNotifier} {run : GateRun}

/-- A row that is committed, or that a session has written. -/
def Written (run : GateRun) (x : ProposedAction) : Prop :=
  x ∈ rowsOf run.store.committed ∨ ∃ i w, (i, w) ∈ run.store.pending ∧ x ∈ w.rows

theorem mem_view_of_pending {i : Nat} {w : Write} {x : ProposedAction}
    (hw : (i, w) ∈ run.store.pending) (hx : x ∈ w.rows) : x ∈ rowsOf (run.view crypto i) := by
  rw [view, rowsOf_view]
  exact List.mem_append_right _ (List.mem_flatMap.mpr ⟨w, mem_ofSession.mpr hw, hx⟩)

/-- Two rows with one key are the same row, in whatever sessions. -/
theorem Inv.written_eq (h : run.Inv crypto notifier) {x y : ProposedAction} (hx : run.Written x)
    (hy : run.Written y) (hkey : x.idempotencyKey = y.idempotencyKey) : x = y := by
  have hview : ∀ i, x ∈ rowsOf (run.view crypto i) → y ∈ rowsOf (run.view crypto i) → x = y :=
    fun i hxi hyi => List.inj_on_of_nodup_map (h.keys i) hxi hyi hkey
  have hkept : ∀ i {z}, z ∈ rowsOf run.store.committed → z ∈ rowsOf (run.view crypto i) :=
    fun i z hz => (grows_view i).rows hz
  rcases hx with hx | ⟨i, w, hw, hxw⟩
  · rcases hy with hy | ⟨j, w', hw', hyw⟩
    · exact hview 0 (hkept 0 hx) (hkept 0 hy)
    · exact hview j (hkept j hx) (mem_view_of_pending hw' hyw)
  · rcases hy with hy | ⟨j, w', hw', hyw⟩
    · exact hview i (mem_view_of_pending hw hxw) (hkept i hy)
    · by_cases hij : i = j
      · subst hij
        exact hview i (mem_view_of_pending hw hxw) (mem_view_of_pending hw' hyw)
      · exact absurd (clash_of_key hxw hyw hkey) (h.noClash _ hw _ hw' hij)

theorem mem_session_of_answers {a : Answer} (ha : a ∈ run.answers) :
    ∃ i, a ∈ run.history ++ ofSession i run.returned := by
  rcases List.mem_append.mp ha with ha | ha
  · exact ⟨0, List.mem_append_left _ ha⟩
  · obtain ⟨⟨i, _⟩, hmem, rfl⟩ := List.mem_map.mp ha
    exact ⟨i, List.mem_append_right _ (mem_ofSession.mpr hmem)⟩

theorem Inv.written_of_created (h : run.Inv crypto notifier) {a : Answer} (ha : a ∈ run.answers)
    (hcreated : a.created = true) : run.Written a.proposed := by
  obtain ⟨i, hi⟩ := mem_session_of_answers ha
  rcases List.mem_append.mp hi with hi | hi
  · exact .inl (h.keptRows a hi hcreated)
  · obtain ⟨w, hw, hx⟩ := List.mem_flatMap.mp (h.ownRows i a hi hcreated)
    exact .inr ⟨i, w, mem_ofSession.mp hw, hx⟩

/-- Every answer has a call that made its proposal. -/
theorem Inv.creator (h : run.Inv crypto notifier) {a : Answer} (ha : a ∈ run.answers) :
    ∃ first ∈ run.answers, first.created = true ∧ first.proposed = a.proposed ∧
      first.proposed = proposedAction first.call.proposal ∧ first.call.key = a.call.key := by
  obtain ⟨i, hi⟩ := mem_session_of_answers ha
  obtain ⟨pre, post, hsplit, hkey, hcreates | hrepeats⟩ := (h.justified i).of_mem hi
  · exact ⟨a, ha, hcreates.created, rfl, hcreates.proposed, rfl⟩
  · obtain ⟨first, hfirst, hmade, hsame⟩ := hrepeats.earlier
    have hmem : first ∈ run.history ++ ofSession i run.returned := by
      rw [hsplit]
      exact List.mem_append_left _ hfirst
    obtain ⟨_, _, _, hfirstKey, _⟩ := (h.justified i).of_mem hmem
    refine ⟨first, mem_answers hmem, hmade, hsame, (h.creates hmem hmade).proposed, ?_⟩
    rw [← hfirstKey, hsame, hkey]

theorem Inv.proposed_eq (h : run.Inv crypto notifier) {a b : Answer} (ha : a ∈ run.answers)
    (hb : b ∈ run.answers) (hkey : a.call.key = b.call.key) : a.proposed = b.proposed := by
  obtain ⟨first, hfirst, hmade, hsame, hrow, hfirstKey⟩ := h.creator ha
  obtain ⟨first', hfirst', hmade', hsame', hrow', hfirstKey'⟩ := h.creator hb
  rw [← hsame, ← hsame']
  refine h.written_eq (h.written_of_created hfirst hmade) (h.written_of_created hfirst' hmade') ?_
  rw [hrow, hrow']
  exact (hfirstKey.trans hkey).trans hfirstKey'.symm

theorem Inv.answers_ids (h : run.Inv crypto notifier) :
    (run.answers.map (·.call.fresh.actionId)).Nodup := by
  have hids := h.ids
  rw [allCalls, List.map_append, List.map_map] at hids
  exact hids.of_append_left

/-- Only the call that made the proposal announced it. -/
theorem Inv.quiet (h : run.Inv crypto notifier) {first b : Answer} (hfirst : first ∈ run.answers)
    (hb : b ∈ run.answers) (hrow : first.proposed = proposedAction first.call.proposal)
    (hkey : b.call.key = first.call.key)
    (hne : b.call.fresh.actionId ≠ first.call.fresh.actionId) :
    b.writes.filter Write.isInterrupt = [] ∧ b.writes.filter Write.isCard = [] := by
  obtain ⟨i, hi⟩ := mem_session_of_answers hb
  obtain ⟨_, _, _, _, hcreates | hrepeats⟩ := (h.justified i).of_mem hi
  · have hsame := h.proposed_eq hb hfirst hkey
    rw [hcreates.proposed, hrow] at hsame
    exact absurd (congrArg ProposedAction.actionId hsame) hne
  · exact ⟨hrepeats.interrupts, hrepeats.cards⟩

theorem Inv.proposedOnce (h : run.Inv crypto notifier) {a : Answer} (ha : a ∈ run.answers) :
    ∃ first, run.ProposedOnce notifier a.call.key first := by
  obtain ⟨first, hfirst, hmade, _, hrow, hkey⟩ := h.creator ha
  obtain ⟨i, hi⟩ := mem_session_of_answers hfirst
  have hcreates := h.creates hi hmade
  have hunder : ∀ p : Write → Bool,
      (∀ b ∈ run.answers, b.call.key = first.call.key →
        b.call.fresh.actionId ≠ first.call.fresh.actionId → b.writes.filter p = []) →
      (run.writesUnder a.call.key).filter p = first.writes.filter p := by
    intro p hquiet
    rw [writesUnder, List.filter_flatMap, ← hkey]
    refine flatMap_eq_of_alone (·.call.fresh.actionId) ?_ ?_ ?_
    · exact List.mem_filter.mpr ⟨hfirst, by simp⟩
    · exact h.answers_ids.sublist (List.filter_sublist.map _)
    · intro b hb hne
      obtain ⟨hb, hbkey⟩ := List.mem_filter.mp hb
      exact hquiet b hb (by simpa using hbkey) hne
  refine ⟨first, hfirst, hmade, hkey, ?_, ?_, ?_⟩
  · intro b hb hbkey
    rw [← hrow]
    exact h.proposed_eq hb hfirst (hbkey.trans hkey.symm)
  · rw [hunder _ fun b hb hbkey hne => (h.quiet hfirst hb hrow hbkey hne).1]
    exact hcreates.interrupts
  · rw [hunder _ fun b hb hbkey hne => (h.quiet hfirst hb hrow hbkey hne).2]
    exact hcreates.cards

/-- The first answer under a key, in the order of the commits, is that of its maker. -/
theorem Inv.first_creates (h : run.Inv crypto notifier) {pre post : List Answer} {a : Answer}
    (hsplit : run.history = pre ++ a :: post) (hfirst : ∀ b ∈ pre, b.call.key ≠ a.call.key) :
    a.created = true := by
  have hjustified := (eachAfter_append.mp (h.justified 0)).1
  obtain ⟨hkey, hcreates | hrepeats⟩ := hjustified pre a post hsplit
  · exact hcreates.created
  · obtain ⟨first, hmem, _, hsame⟩ := hrepeats.earlier
    have hhistory : first ∈ run.history := by
      rw [hsplit]
      exact List.mem_append_left _ hmem
    obtain ⟨_, _, _, hfirstKey, _⟩ := hjustified.of_mem hhistory
    exact absurd (by rw [← hfirstKey, hsame, hkey]) (hfirst first hmem)

theorem history_advance {i : Nat} {next : PendingCall} {ws : List Write} {run' : GateRun}
    (h : run.advance i next ws = some run') : run'.history = run.history := by
  obtain ⟨store, _, rfl⟩ := Option.map_eq_some_iff.mp h
  rfl

theorem history_beginCall {i : Nat} {call : ProposeCall} {run' : GateRun}
    (h : run.beginCall crypto i call = some run') : run'.history = run.history := by
  unfold beginCall at h
  split_ifs at h
  cases hfound : (run.view crypto i).proposalForKey? call.key <;>
    simp only [hfound, Option.some.injEq] at h <;> subst h <;> rfl

theorem history_storePayload {i : Nat} {p : PendingCall} {run' : GateRun}
    (h : run.storePayload crypto i p = some run') : run'.history = run.history := by
  unfold storePayload at h
  cases hws : p.call.storeWrites crypto (run.view crypto i) with
  | error e =>
    simp only [hws, Option.some.injEq] at h
    subst h
    rfl
  | ok ws =>
    simp only [hws] at h
    exact history_advance h

theorem history_insertProposal {i : Nat} {p : PendingCall} {run' : GateRun}
    (h : run.insertProposal crypto i p = some run') : run'.history = run.history := by
  unfold insertProposal at h
  cases hws : p.call.insertWrites (run.view crypto i) with
  | error e =>
    simp only [hws, Option.some.injEq] at h
    subst h
    rfl
  | ok ws =>
    simp only [hws] at h
    exact history_advance h

theorem history_finishCall {i : Nat} {p : PendingCall} {run' : GateRun}
    (h : run.finishCall crypto notifier i p = some run') : run'.history = run.history := by
  unfold finishCall at h
  split at h
  · obtain rfl := Option.some.inj h
    rfl
  · unfold announce at h
    dsimp only at h
    split at h
    · obtain rfl := Option.some.inj h
      rfl
    · obtain ⟨store, _, rfl⟩ := Option.map_eq_some_iff.mp h
      rfl

/-- Only a commit adds to the history. -/
theorem history_step {run' : GateRun} {label : GateLabel}
    (h : run.step crypto notifier label = some run') : run.history ⊆ run'.history := by
  cases label with
  | call i call =>
    rw [history_beginCall h]
    exact List.Subset.refl _
  | store i =>
    obtain ⟨p, _, hrun⟩ := Option.bind_eq_some_iff.mp h
    rw [history_storePayload hrun]
    exact List.Subset.refl _
  | insert i =>
    obtain ⟨p, _, hrun⟩ := Option.bind_eq_some_iff.mp h
    rw [history_insertProposal hrun]
    exact List.Subset.refl _
  | finish i =>
    obtain ⟨p, _, hrun⟩ := Option.bind_eq_some_iff.mp h
    rw [history_finishCall hrun]
    exact List.Subset.refl _
  | other i w =>
    unfold GateRun.step at h
    dsimp only at h
    split_ifs at h
    obtain ⟨store, _, rfl⟩ := Option.map_eq_some_iff.mp h
    exact List.Subset.refl _
  | commit i =>
    unfold GateRun.step at h
    dsimp only at h
    split_ifs at h
    obtain rfl := Option.some.inj h
    exact List.subset_append_left _ _
  | rollback i =>
    obtain rfl := Option.some.inj h
    exact List.Subset.refl _

theorem history_exec {labels : List GateLabel} {run' : GateRun}
    (h : exec (GateRun.step crypto notifier) run labels = some run') :
    run.history ⊆ run'.history := by
  induction labels generalizing run with
  | nil =>
    obtain rfl := Option.some.inj h
    exact List.Subset.refl _
  | cons label labels ih =>
    obtain ⟨next, hnext, hrest⟩ := exec_cons_eq_some.mp h
    exact List.Subset.trans (history_step hnext) (ih hrest)

/-- The payload of a proposal is that of its maker, in every later state. -/
theorem Inv.payload_kept (h : run.Inv crypto notifier) {first : Answer}
    (hfirst : first ∈ run.history) (hcreated : first.created = true) {labels : List GateLabel}
    {later : GateRun} (hrun : exec (GateRun.step crypto notifier) run labels = some later) :
    later.store.committed.blob? first.proposed.payloadRef =
      some (first.call.payloadBlob crypto) := by
  have hlater := inv_exec h hrun
  have hmem := history_exec hrun hfirst
  have hproposed := (hlater.creates (j := 0) (List.mem_append_left _ hmem) hcreated).proposed
  rw [hproposed]
  exact hlater.keptBlobs first hmem hcreated

/-- What a committed session was told is in the table. -/
theorem Inv.persisted (h : run.Inv crypto notifier) {a : Answer} (ha : a ∈ run.history) :
    ∃ row ∈ run.store.committed.actionProposals, proposedAction row = a.proposed := by
  obtain ⟨pre, post, hsplit, _, hcreates | hrepeats⟩ :=
    (eachAfter_append.mp (h.justified 0)).1.of_mem ha
  · exact List.mem_map.mp (h.keptRows a ha hcreates.created)
  · obtain ⟨first, hfirst, hmade, hsame⟩ := hrepeats.earlier
    have hmem : first ∈ run.history := by
      rw [hsplit]
      exact List.mem_append_left _ hfirst
    rw [← hsame]
    exact List.mem_map.mp (h.keptRows first hmem hmade)

end GateRun
end Headhunt.Runtime
