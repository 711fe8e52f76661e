import Headhunt.Graphs.RunSafety
import Headhunt.Runtime.ApprovalCard
import Headhunt.Runtime.ProposalAnswers

/-! The node that asks for an approval is run again when it is resumed. It proposes again, with a
new client token, and it is told of the same proposal, so what its card sends back is accepted. -/
namespace Headhunt.Graphs
open Headhunt.Feishu Headhunt.Runtime Headhunt.Storage History Py Transition

/-- The node that comes next in this state, in a run of the graph, makes this call. -/
structure AskedBy (wiring : Wiring) (state : RecruitmentState) (call : ProposeCall) : Prop where
  reached : ∃ labels log, exec (GraphRun.step wiring) GraphRun.fresh labels =
    some ⟨some .interruptHumanApproval, state, log⟩
  request : ∃ clientToken, proposeBusinessAction wiring clientToken state = .ok call.request

def buttonValue (call : ProposeCall) (decision : Decision) : Dict :=
  approvalCardValue call.request.threadId call.fresh.interruptId call.fresh.actionId
    call.request.idempotencyKey (some call.payloadRef) decision

/-- A click on a button of the card, which has no approval of its own beside the value. -/
structure ClickOn (call : ProposeCall) (decision : Decision) (payload : Dict) : Prop where
  button : decision = .approve ∨ decision = .reject
  value : extractCardActionValue payload = .ok (buttonValue call decision)
  plain : (payload.get "human_approval").asDict = []

/-- The resume value of the click is accepted by a node that was told of this proposal. -/
def PassesAt (payload : Dict) (threadId : String) (proposed : ProposedAction) : Prop :=
  ∃ approval, feishuCardPayloadToHumanApproval payload = .ok approval ∧
    ∃ normalized, normalizeHumanApproval (.obj approval) threadId proposed.actionId.str
      proposed.interruptId.str proposed.idempotencyKey = .ok normalized

/-- What holds between all the calls, whatever their order. -/
structure ReplaySafe (crypto : Crypto) (notifier : Option WarRoomNotifier) (run : GateRun) :
    Prop where
  oneProposal : (run.store.committed.actionProposals.map (·.idempotencyKey)).Nodup
  persisted : ∀ a ∈ run.history, ∃ row ∈ run.store.committed.actionProposals,
    row.idempotencyKey = a.call.key ∧ proposedAction row = a.proposed
  once : ∀ a ∈ run.answers, ∃ first, run.ProposedOnce notifier a.call.key first
  first : ∀ pre a post, run.history = pre ++ a :: post →
    (∀ b ∈ pre, b.call.key ≠ a.call.key) → a.created = true
  payload : ∀ first ∈ run.history, first.created = true → ∀ labels later,
    exec (GateRun.step crypto notifier) run labels = some later →
    later.store.committed.blob? first.proposed.payloadRef = some (first.call.payloadBlob crypto)
  replayed : ∀ wiring state, ∀ a ∈ run.answers, ∀ b ∈ run.answers,
    AskedBy wiring state a.call → AskedBy wiring state b.call → a.proposed = b.proposed
  resumed : ∀ wiring state wiring' state', ∀ first ∈ run.answers, ∀ again ∈ run.answers,
    AskedBy wiring state first.call → AskedBy wiring' state' again.call →
    first.created = true → first.call.key = again.call.key →
    ∀ decision payload, ClickOn first.call decision payload →
    PassesAt payload state'.threadId again.proposed

section Key

variable {wiring : Wiring} {state : RecruitmentState} {clientToken : UUID}
  {request : ProposeRequest}

theorem actionIdempotencyKey_toList (actionType : String) (artifact : Dict) (artifactId : Json) :
    ∃ rest, (actionIdempotencyKey state actionType artifact artifactId).toList =
      "action:".toList ++ (state.threadId.toList ++ rest) := by
  unfold actionIdempotencyKey
  simp only [ToString.toString, String.toList_append, List.append_assoc]
  exact ⟨_, rfl⟩

/-- The key is made from the state alone, and begins with its thread. -/
theorem proposeBusinessAction_key
    (h : proposeBusinessAction wiring clientToken state = .ok request) :
    (∀ clientToken' request', proposeBusinessAction wiring clientToken' state = .ok request' →
      request'.idempotencyKey = request.idempotencyKey) ∧
    ∃ rest, request.idempotencyKey.toList =
      "action:".toList ++ (state.threadId.toList ++ rest) := by
  have hkey : ∀ {clientToken request},
      proposeBusinessAction wiring clientToken state = .ok request →
      ∃ kind artifactId,
        requiredField (latestBusinessArtifact wiring.crypto state) "kind" = .ok kind ∧
        requiredField (latestBusinessArtifact wiring.crypto state) "artifact_id" = .ok artifactId ∧
        request.idempotencyKey = actionIdempotencyKey state (actionTypeForBusinessKind kind)
          (latestBusinessArtifact wiring.crypto state) artifactId := by
    intro clientToken request h
    simp only [proposeBusinessAction, Except.bind_eq_ok] at h
    obtain ⟨kind, hkind, summary, _, artifactId, hartifactId, h⟩ := h
    cases hparse : UUID.parse state.threadId with
    | none =>
      simp only [hparse, Except.bind_eq_ok] at h
      obtain ⟨_, hid, _⟩ := h
      cases hid
    | some id =>
      simp only [hparse, Except.bind_eq_ok] at h
      obtain ⟨_, _, h⟩ := h
      obtain rfl := Except.ok.inj h
      exact ⟨kind, artifactId, hkind, hartifactId, rfl⟩
  obtain ⟨kind, artifactId, hkind, hartifactId, heq⟩ := hkey h
  constructor
  · intro clientToken' request' h'
    obtain ⟨kind', artifactId', hkind', hartifactId', heq'⟩ := hkey h'
    obtain rfl := Except.ok.inj (hkind.symm.trans hkind')
    obtain rfl := Except.ok.inj (hartifactId.symm.trans hartifactId')
    rw [heq, heq']
  · rw [heq]
    exact actionIdempotencyKey_toList _ _ _

theorem proposeBusinessAction_key_ne
    (h : proposeBusinessAction wiring clientToken state = .ok request) :
    request.idempotencyKey ≠ "" := by
  obtain ⟨rest, hlist⟩ := (proposeBusinessAction_key h).2
  intro hempty
  rw [hempty] at hlist
  cases hlist

/-- Two threads with one key are one. -/
theorem threadId_eq_of_key {state' : RecruitmentState} {wiring' : Wiring} {clientToken' : UUID}
    {request' : ProposeRequest} (hid : ∃ id : UUID, state.threadId = id.str)
    (hid' : ∃ id : UUID, state'.threadId = id.str)
    (h : proposeBusinessAction wiring clientToken state = .ok request)
    (h' : proposeBusinessAction wiring' clientToken' state' = .ok request')
    (hkey : request.idempotencyKey = request'.idempotencyKey) :
    state.threadId = state'.threadId := by
  obtain ⟨id, hid⟩ := hid
  obtain ⟨id', hid'⟩ := hid'
  obtain ⟨rest, hlist⟩ := (proposeBusinessAction_key h).2
  obtain ⟨rest', hlist'⟩ := (proposeBusinessAction_key h').2
  rw [hkey, hlist'] at hlist
  have hthreads := List.append_cancel_left hlist
  refine String.toList_inj.mp (List.append_inj_left hthreads ?_).symm
  rw [hid, hid', String.length_toList, String.length_toList, UUID.length_str, UUID.length_str]

end Key

section Click

variable {call : ProposeCall} {decision : Decision} {payload : Dict}

/-- What a button of an approval card says, and what it leaves out. -/
theorem approvalCardValue_get (threadId interruptId actionId : UUID) (idempotencyKey : String)
    (payloadRef : Option String) (decision : Decision) :
    let value := approvalCardValue threadId interruptId actionId idempotencyKey payloadRef decision
    value.get "thread_id" = .str threadId.str ∧ value.get "action_id" = .str actionId.str ∧
      value.get "interrupt_id" = .str interruptId.str ∧
      value.get "idempotency_key" = .str idempotencyKey ∧
      value.get "decision" = .str decision.value ∧ value.get "action_kind" = .null ∧
      value.get "edited_payload" = .null ∧ value.get "form_value" = .null := by
  unfold approvalCardValue
  dsimp only
  split <;> simp [Dict.get_set, Dict.get_ofList, Dict.get_cons]

/-- Both buttons can be read. -/
theorem buttonValue_get (call : ProposeCall) (decision : Decision) :
    (buttonValue call decision).get "thread_id" = .str call.request.threadId.str ∧
    (buttonValue call decision).get "action_id" = .str call.fresh.actionId.str ∧
    (buttonValue call decision).get "interrupt_id" = .str call.fresh.interruptId.str ∧
    (buttonValue call decision).get "idempotency_key" = .str call.request.idempotencyKey ∧
    (buttonValue call decision).get "decision" = .str decision.value := by
  obtain ⟨hthread, haction, hinterrupt, hkey, hdecision, _⟩ := approvalCardValue_get
    call.request.threadId call.fresh.interruptId call.fresh.actionId call.request.idempotencyKey
    (some call.payloadRef) decision
  exact ⟨hthread, haction, hinterrupt, hkey, hdecision⟩

/-- A node that was told of the proposal of the card accepts what a button sends. -/
theorem passesAt_of_click (hclick : ClickOn call decision payload)
    (hkey : call.request.idempotencyKey ≠ "") :
    PassesAt payload call.request.threadId.str (proposedAction call.proposal) := by
  obtain ⟨hthread, haction, hinterrupt, hidempotency, hdecision⟩ := buttonValue_get call decision
  have hfields : (resumeFields payload (buttonValue call decision)).1 =
      buttonValue call decision := by
    simp [resumeFields, hclick.plain]
  have hedit : decision.value ≠ "edit" := by
    rcases hclick.button with rfl | rfl <;> decide
  obtain ⟨hread, hexists⟩ := feishuCardPayloadToHumanApproval_eq_ok hclick.value
  obtain ⟨approval, hok⟩ := hexists
    { threadId := ⟨_, by rw [hfields, hthread], str_ne_empty _⟩
      actionId := ⟨_, by rw [hfields, haction], str_ne_empty _⟩
      interruptId := ⟨_, by rw [hfields, hinterrupt], str_ne_empty _⟩
      idempotencyKey := ⟨_, by rw [hfields, hidempotency], hkey⟩
      decision := ⟨_, by rw [hfields, hdecision], Decision.value_ne_empty _,
        fun h => absurd h hedit⟩ }
  have h := hread approval hok
  rw [hfields] at h
  refine ⟨approval, hok, normalizedApproval _ _ _ _ decision approval,
    normalizeHumanApproval_eq_ok.mpr ⟨approval, decision, rfl, ?_, ?_, ?_, rfl⟩⟩
  · exact
      { threadId := ⟨by rw [h.threadId, hthread], str_ne_empty _⟩
        actionId := ⟨by rw [h.actionId, haction]; rfl, str_ne_empty _⟩
        interruptId := ⟨by rw [h.interruptId, hinterrupt]; rfl, str_ne_empty _⟩
        idempotencyKey := ⟨by rw [h.idempotencyKey, hidempotency]; rfl, hkey⟩ }
  · rw [h.decision, hdecision]
  · intro he
    exact absurd (congrArg Decision.value he) hedit

end Click

/-- At the node the thread is spelled as the graph spells its ids. -/
theorem AskedBy.canonical {wiring : Wiring} {state : RecruitmentState} {call : ProposeCall}
    (h : AskedBy wiring state call) : ∃ id : UUID, state.threadId = id.str := by
  obtain ⟨labels, log, hrun⟩ := h.reached
  have hinv : Invariant wiring ⟨some .interruptHumanApproval, state, log⟩ := by
    refine exec_invariant (Invariant wiring) (P := fun _ _ => True) ?_ (invariant_fresh wiring) ?_
      hrun
    · intro run label next hinv _ hstep
      exact hinv.step hstep
    · exact along_iff_forall.mpr fun _ _ _ _ _ _ => trivial
  exact hinv.ready.1

/-- Proposing is safe under any interleaving of the sessions, and so is the node that is run
again. -/
theorem propose_replay_safe {crypto : Crypto} {notifier : Option WarRoomNotifier}
    {labels : List GateLabel} {run : GateRun}
    (h : exec (GateRun.step crypto notifier) GateRun.start labels = some run) :
    ReplaySafe crypto notifier run := by
  have hinv : run.Inv crypto notifier := GateRun.inv_exec GateRun.inv_start h
  have hkeyed : ∀ a ∈ run.answers, a.proposed.idempotencyKey = a.call.key := by
    intro a ha
    obtain ⟨first, hfirst, _, hsame, hrow, hkey⟩ := hinv.creator ha
    rw [← hsame, hrow, ← hkey]
    rfl
  refine ⟨?_, ?_, fun a ha => hinv.proposedOnce ha, ?_, ?_, ?_, ?_⟩
  · have hkeys := ReadCommitted.Store.UniqueRows.committed (rowsOf_applyWrite crypto) 0 hinv.keys
    rw [rowsOf, List.map_map] at hkeys
    exact hkeys
  · intro a ha
    obtain ⟨row, hrow, hsame⟩ := hinv.persisted ha
    refine ⟨row, hrow, ?_, hsame⟩
    rw [← hkeyed a (List.mem_append_left _ ha), ← hsame]
    rfl
  · intro pre a post hsplit hfirst
    exact hinv.first_creates hsplit hfirst
  · intro first hfirst hcreated labels later hrun
    exact hinv.payload_kept hfirst hcreated hrun
  · intro wiring state a ha b hb haskedA haskedB
    obtain ⟨token, hrequest⟩ := haskedA.request
    obtain ⟨token', hrequest'⟩ := haskedB.request
    exact hinv.proposed_eq ha hb ((proposeBusinessAction_key hrequest').1 _ _ hrequest)
  · intro wiring state wiring' state' first hfirst again hagain hasked hasked' hcreated hkey
      decision payload hclick
    obtain ⟨token, hrequest⟩ := hasked.request
    obtain ⟨token', hrequest'⟩ := hasked'.request
    have hne := proposeBusinessAction_key_ne hrequest
    have hthread := threadId_eq_of_key hasked.canonical hasked'.canonical hrequest hrequest' hkey
    have hcanonical : first.call.request.threadId.str = state.threadId := by
      obtain ⟨id, hid⟩ := hasked.canonical
      have hparse := (proposeBusinessAction_eq_ok hrequest).1
      rw [hid, UUID.parse_str] at hparse
      rw [hid, ← Option.some.inj hparse]
    obtain ⟨i, hi⟩ := GateRun.mem_session_of_answers hfirst
    have hpasses := passesAt_of_click hclick hne
    rw [hcanonical, hthread, ← (hinv.creates hi hcreated).proposed,
      hinv.proposed_eq hfirst hagain hkey] at hpasses
    exact hpasses

def askedThread : GraphThread where
  id := .ofNat 1
  source := "runtime"
  sourceRef := ""
  taskType := ""
  councilMode := none
  modeReason := none
  status := .running
  stateSummary := []

def askedCall (n : Nat) : ProposeCall where
  fresh := ⟨.ofNat (10 * n), .ofNat (10 * n + 1), 0⟩
  request := ⟨.ofNat 1, "talent_map_write", "summary", [("client_token", .int n)], "action:1", []⟩
  chatId := .null
  councilMode := "standard"
  modeReason := ""
  row := ⟨.ofNat (10 * n + 2), 0⟩

/-- The second session waits for the first one, and is told of its proposal. -/
def askedTwice : List GateLabel :=
  [.other 0 (.thread askedThread), .commit 0, .call 1 (askedCall 1), .call 2 (askedCall 2),
    .store 1, .store 2, .insert 1, .finish 1, .commit 1, .insert 2, .finish 2, .commit 2]

def warRoomNotifier : WarRoomNotifier := ⟨some "chat-1"⟩

/-- One proposal and one approval card. -/
theorem propose_replay_safe_askedTwice : ∃ run,
    exec (GateRun.step byteSum (some warRoomNotifier)) GateRun.start askedTwice = some run ∧
    run.history.map (·.created) = [true, false] ∧
    run.store.committed.outbox.map (·.kind) = [.cardSend] ∧
    ReplaySafe byteSum (some warRoomNotifier) run := by
  have hevaluated : (exec (GateRun.step byteSum (some warRoomNotifier)) GateRun.start
      askedTwice).map (fun run =>
        (run.history.map (·.created), run.store.committed.outbox.map (·.kind))) =
      some ([true, false], [.cardSend]) := by
    decide +kernel
  obtain ⟨run, hrun, hvalues⟩ := Option.map_eq_some_iff.mp hevaluated
  obtain ⟨hhistory, houtbox⟩ := Prod.mk.inj hvalues
  exact ⟨run, hrun, hhistory, houtbox, propose_replay_safe hrun⟩

end Headhunt.Graphs
