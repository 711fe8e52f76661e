import Headhunt.Feishu.Cards
import Headhunt.Graphs.HumanApproval
import Headhunt.Runtime.Outbox

/-! The two parsers of an approval click. They read the same click alike exactly when
its ids are spelled as the graph spells them, no other approval is nested at the top
level, and the edited payload is found in the same place by both. -/
namespace Headhunt.Runtime
open Headhunt.Feishu Headhunt.Storage Headhunt.Graphs Py

/-- The click names the proposal, and the proposal still waits for a decision. -/
structure MatchesPending (command : FeishuCardActionCommand) (proposal : ActionProposal) : Prop where
  threadId : command.threadId = proposal.threadId
  actionId : command.actionId = proposal.id
  interruptId : command.interruptId = proposal.interruptId
  idempotencyKey : command.idempotencyKey = proposal.idempotencyKey
  status : proposal.status = .pending

/-- The resume value says what the recorded command says. -/
structure SameReading (approval : Dict) (command : FeishuCardActionCommand) : Prop where
  threadId : ∃ text, approval.get "thread_id" = .str text ∧ UUID.parse text = some command.threadId
  actionId : ∃ text, approval.get "action_id" = .str text ∧ UUID.parse text = some command.actionId
  interruptId : ∃ text, approval.get "interrupt_id" = .str text ∧
    UUID.parse text = some command.interruptId
  idempotencyKey : approval.get "idempotency_key" = .str command.idempotencyKey
  decision : approval.get "decision" = .str command.decision.value
  editedPayload : dictOrNone (approval.get "edited_payload") = command.editedPayload

/-- The stored payload is read as the command was, and the graph accepts it. -/
def ParsersAgree (payload : Dict) (command : FeishuCardActionCommand) (stateThreadId : String)
    (proposal : ActionProposal) : Prop :=
  ∃ approval, feishuCardPayloadToHumanApproval payload = .ok approval ∧
    SameReading approval command ∧
    ∃ normalized, normalizeHumanApproval (.obj approval) stateThreadId proposal.id.str
      proposal.interruptId.str proposal.idempotencyKey = .ok normalized

def resumeFields (payload value : Dict) : Dict × Json :=
  let direct := (payload.get "human_approval").asDict
  if direct ≠ [] then (direct, direct.get "edited_payload")
  else (value, (value.get "edited_payload").orElse (value.get "form_value"))

/-- Both parsers find the same edited payload in the card value. -/
def EditedAlike (value : Dict) : Prop :=
  match value.get "edited_payload" with
  | .obj edited => edited ≠ [] ∨ dictOrNone (value.get "form_value") = some []
  | other => other.truthy = true → dictOrNone (value.get "form_value") = none

/-- The ids are the very texts the graph compares with. -/
structure CanonicalIds (fields : Dict) (stateThreadId : String) (proposal : ActionProposal) :
    Prop where
  threadId : fields.get "thread_id" = .str stateThreadId
  actionId : fields.get "action_id" = .str proposal.id.str
  interruptId : fields.get "interrupt_id" = .str proposal.interruptId.str

/-- Without a top-level `human_approval` object the card value has the graph's spelling
of the ids; with one, that object repeats the card value. -/
def PlainCard (payload : Dict) (stateThreadId : String) (proposal : ActionProposal) : Prop :=
  ∃ value, extractCardActionValue payload = .ok value ∧
    let direct := (payload.get "human_approval").asDict
    if direct = [] then CanonicalIds value stateThreadId proposal ∧ EditedAlike value
    else CanonicalIds direct stateThreadId proposal ∧
      direct.get "idempotency_key" = value.get "idempotency_key" ∧
      direct.get "decision" = value.get "decision" ∧
      dictOrNone (direct.get "edited_payload") = editedPayloadFromValue value

theorem coerceActionValue_of_feishu {v : Json} {value : Dict}
    (h : Feishu.coerceActionValue v = .ok value) : coerceActionValue v = .ok value := by
  cases v with
  | obj d => simpa [Feishu.coerceActionValue, coerceActionValue] using h
  | str text =>
    unfold Feishu.coerceActionValue at h
    unfold coerceActionValue
    rcases hl : loads text with e | j
    · cases e <;> simp [hl] at h
    · cases j <;> simp_all
  | _ => simp [Feishu.coerceActionValue] at h

theorem humanApprovalPayload_ok_edit {threadId actionId interruptId idempotencyKey decision : String}
    {approver : Dict} {editedPayload payloadRef : Json} {approval : Dict}
    (h : humanApprovalPayload threadId actionId interruptId idempotencyKey decision approver
      editedPayload payloadRef = .ok approval) :
    decision = "edit" → nonemptyDict (dictOrNone editedPayload) = true := by
  unfold humanApprovalPayload at h
  rw [Except.ite_error_eq_ok] at h
  simpa using h.1

/-- The parser returns an approval exactly when the fields it reads are readable. -/
theorem feishuCardPayloadToHumanApproval_eq_ok {payload value : Dict}
    (hvalue : extractCardActionValue payload = .ok value) :
    (∀ approval, feishuCardPayloadToHumanApproval payload = .ok approval →
      ReadsOff approval (resumeFields payload value).1 (resumeFields payload value).2) ∧
    (Readable (resumeFields payload value).1 (resumeFields payload value).2 →
      ∃ approval, feishuCardPayloadToHumanApproval payload = .ok approval) := by
  unfold feishuCardPayloadToHumanApproval resumeFields
  by_cases hdirect : (payload.get "human_approval").asDict ≠ []
  · simp only [if_pos hdirect]
    generalize (payload.get "human_approval").asDict = direct
    unfold directHumanApprovalPayload
    constructor
    · intro approval h
      simp only [Except.bind_eq_ok, requiredStr_eq_ok] at h
      obtain ⟨d, hd, t, ht, a, ha, i, hi, k, hk, h⟩ := h
      obtain ⟨approval', h', hread⟩ := humanApprovalPayload_readsOff ht.1 ha.1 hi.1 hk.1 hd.1
        (humanApprovalPayload_ok_edit h)
      obtain rfl : approval = approval' := Except.ok.inj (h.symm.trans h')
      exact hread
    · rintro ⟨⟨t, ht⟩, ⟨a, ha⟩, ⟨i, hi⟩, ⟨k, hk⟩, ⟨d, hd, hdn, hedit⟩⟩
      obtain ⟨approval, h, _⟩ := humanApprovalPayload_readsOff ht.1 ha.1 hi.1 hk.1 hd hedit
      refine ⟨approval, ?_⟩
      simp only [Except.bind_eq_ok, requiredStr_eq_ok]
      exact ⟨d, ⟨hd, hdn⟩, t, ht, a, ha, i, hi, k, hk, h⟩
  · have hcoerce : coerceActionValue
        ((((payload.get "event").asDict).get "action").asDict.get "value") = .ok value := by
      unfold extractCardActionValue payloadEvent at hvalue
      cases haction : ((payload.get "event").asDict).get "action" with
      | obj action =>
        rw [haction] at hvalue
        exact coerceActionValue_of_feishu hvalue
      | _ => simp [haction] at hvalue
    simp only [if_neg hdirect]
    constructor
    · intro approval h
      simp only [Except.bind_eq_ok, requiredStr_eq_ok] at h
      obtain ⟨v, hv, t, ht, d, hd, a, ha, i, hi, k, hk, h⟩ := h
      obtain rfl : value = v := Except.ok.inj (hcoerce.symm.trans hv)
      obtain ⟨approval', h', hread⟩ := humanApprovalPayload_readsOff ht.1 ha.1 hi.1 hk.1 hd.1
        (humanApprovalPayload_ok_edit h)
      obtain rfl : approval = approval' := Except.ok.inj (h.symm.trans h')
      exact hread
    · rintro ⟨⟨t, ht⟩, ⟨a, ha⟩, ⟨i, hi⟩, ⟨k, hk⟩, ⟨d, hd, hdn, hedit⟩⟩
      obtain ⟨approval, h, _⟩ := humanApprovalPayload_readsOff ht.1 ha.1 hi.1 hk.1 hd hedit
      refine ⟨approval, ?_⟩
      simp only [Except.bind_eq_ok, requiredStr_eq_ok]
      exact ⟨value, hcoerce, t, ht, d, ⟨hd, hdn⟩, a, ha, i, hi, k, hk, h⟩

theorem str_ne_empty (u : UUID) : u.str ≠ "" := by
  intro h
  have := u.length_str
  simp [h] at this

theorem Decision.value_ne_empty (d : Decision) : d.value ≠ "" := by
  cases d <;> decide

theorem truthy_of_nonemptyDict {v : Json} (h : nonemptyDict (dictOrNone v) = true) :
    v.truthy = true := by
  cases v <;> simp_all [dictOrNone, nonemptyDict, Json.truthy]

section Click

variable {payload value : Dict} {command : FeishuCardActionCommand} {stateThreadId : String}
  {proposal : ActionProposal}

/-- Agreement, in the fields the second parser reads. -/
theorem parsersAgree_iff_fields (hvalue : extractCardActionValue payload = .ok value)
    (hacc : AcceptedValue value command) (hm : MatchesPending command proposal)
    (hstate : UUID.parse stateThreadId = some proposal.threadId) :
    ParsersAgree payload command stateThreadId proposal ↔
      CanonicalIds (resumeFields payload value).1 stateThreadId proposal ∧
        (resumeFields payload value).1.get "idempotency_key" = .str command.idempotencyKey ∧
        (resumeFields payload value).1.get "decision" = .str command.decision.value ∧
        dictOrNone (resumeFields payload value).2 = command.editedPayload := by
  obtain ⟨hread, hexists⟩ := feishuCardPayloadToHumanApproval_eq_ok hvalue
  generalize resumeFields payload value = source at hread hexists
  obtain ⟨fields, edited⟩ := source
  have hstate_ne : stateThreadId ≠ "" := by
    rintro rfl
    have hnone : UUID.parse "" = none := by decide
    simp [hnone] at hstate
  constructor
  · rintro ⟨approval, hok, hsame, normalized, hnorm⟩
    obtain ⟨_, _, hobj, hans, _⟩ := normalizeHumanApproval_eq_ok.mp hnorm
    obtain rfl := Json.obj.inj hobj
    have h := hread approval hok
    refine ⟨⟨?_, ?_, ?_⟩, ?_, ?_, ?_⟩
    · rw [← h.threadId, hans.threadId.1]
    · rw [← h.actionId, hans.actionId.1]
    · rw [← h.interruptId, hans.interruptId.1]
    · rw [← h.idempotencyKey, hsame.idempotencyKey]
    · rw [← h.decision, hsame.decision]
    · rw [← h.editedPayload, hsame.editedPayload]
  · rintro ⟨hids, hkey, hdec, hedited⟩
    have hreadable : Readable fields edited := by
      refine ⟨⟨_, hids.threadId, hstate_ne⟩, ⟨_, hids.actionId, str_ne_empty _⟩,
        ⟨_, hids.interruptId, str_ne_empty _⟩, ⟨_, hkey, hacc.idempotencyKey_ne⟩,
        ⟨_, hdec, Decision.value_ne_empty _, ?_⟩⟩
      intro he
      have hd : command.decision = .edit := by
        cases hc : command.decision <;> simp_all [Decision.value]
      simpa only [hedited] using hacc.edit hd
    obtain ⟨approval, hok⟩ := hexists hreadable
    have h := hread approval hok
    refine ⟨approval, hok, ⟨⟨stateThreadId, ?_, ?_⟩, ⟨_, ?_, UUID.parse_str _⟩,
      ⟨_, ?_, UUID.parse_str _⟩, ?_, ?_, ?_⟩, ?_⟩
    · rw [h.threadId, hids.threadId]
    · rw [hm.threadId, hstate]
    · rw [h.actionId, hids.actionId, hm.actionId]
    · rw [h.interruptId, hids.interruptId, hm.interruptId]
    · rw [h.idempotencyKey, hkey]
    · rw [h.decision, hdec]
    · rw [h.editedPayload, hedited]
    · refine ⟨normalizedApproval _ _ _ _ command.decision approval,
        normalizeHumanApproval_eq_ok.mpr ⟨approval, command.decision, rfl, ?_, ?_, ?_, rfl⟩⟩
      · exact
          { threadId := ⟨by rw [h.threadId, hids.threadId], hstate_ne⟩
            actionId := ⟨by rw [h.actionId, hids.actionId], str_ne_empty _⟩
            interruptId := ⟨by rw [h.interruptId, hids.interruptId], str_ne_empty _⟩
            idempotencyKey := ⟨by rw [h.idempotencyKey, hkey, hm.idempotencyKey],
              hm.idempotencyKey ▸ hacc.idempotencyKey_ne⟩ }
      · rw [h.decision, hdec]
      · intro he
        refine truthy_of_nonemptyDict ?_
        rw [h.editedPayload, hedited]
        exact hacc.edit he

/-- Where an edited payload is looked for matters only if the two fields compete. -/
theorem editedAlike_iff (value : Dict) : EditedAlike value ↔
    dictOrNone ((value.get "edited_payload").orElse (value.get "form_value")) =
      editedPayloadFromValue value := by
  unfold EditedAlike editedPayloadFromValue Json.orElse
  generalize value.get "form_value" = form
  have hother : ∀ v, dictOrNone v = none → ((v.truthy = true → dictOrNone form = none) ↔
      dictOrNone (if v.truthy then v else form) = (dictOrNone v).or (dictOrNone form)) := by
    intro v hv
    cases v.truthy <;> simp [hv, eq_comm]
  cases value.get "edited_payload" with
  | obj edited =>
    cases edited with
    | nil => simp [Json.truthy]
    | cons item edited => simp [Json.truthy]
  | _ => exact hother _ rfl

end Click

/-- The two parsers agree on an accepted click of a pending proposal exactly when it is
a plain card. -/
theorem parsersAgree_iff_plainCard {callback : VerifiedFeishuCallback} {payloadRef : String}
    {command : FeishuCardActionCommand} {stateThreadId : String} {proposal : ActionProposal}
    (hparse : parseCardActionCommand callback payloadRef = .ok command)
    (hm : MatchesPending command proposal)
    (hstate : UUID.parse stateThreadId = some proposal.threadId) :
    ParsersAgree callback.payload command stateThreadId proposal ↔
      PlainCard callback.payload stateThreadId proposal := by
  obtain ⟨value, hvalue, hacc⟩ := parseCardActionCommand_eq_ok hparse
  rw [parsersAgree_iff_fields hvalue hacc hm hstate]
  have hone : PlainCard callback.payload stateThreadId proposal ↔
      if ((callback.payload).get "human_approval").asDict = [] then
        CanonicalIds value stateThreadId proposal ∧ EditedAlike value
      else CanonicalIds ((callback.payload).get "human_approval").asDict stateThreadId proposal ∧
        ((callback.payload).get "human_approval").asDict.get "idempotency_key" =
          value.get "idempotency_key" ∧
        ((callback.payload).get "human_approval").asDict.get "decision" = value.get "decision" ∧
        dictOrNone (((callback.payload).get "human_approval").asDict.get "edited_payload") =
          editedPayloadFromValue value := by
    simp [PlainCard, hvalue]
  rw [hone]
  unfold resumeFields
  by_cases hdirect : ((callback.payload).get "human_approval").asDict = []
  · simp only [hdirect, ne_eq, not_true_eq_false, if_false, if_true, hacc.idempotencyKey,
      hacc.decision, true_and]
    rw [editedAlike_iff, hacc.editedPayload]
  · simp only [hdirect, ne_eq, not_false_eq_true, if_false, if_true, hacc.idempotencyKey,
      hacc.decision, hacc.editedPayload]

def clickCallback (value : Dict) : VerifiedFeishuCallback where
  payload := [("event", .obj [("action", .obj [("value", .obj value)])])]
  rawBody := .empty
  payloadHash := ""
  isChallenge := false
  challenge := none
  eventId := none
  eventType := "card.action.trigger"
  tenantKey := none
  appId := none
  messageId := none

def waitingProposal : ActionProposal where
  id := UUID.ofNat 2
  threadId := UUID.ofNat 1
  interruptId := UUID.ofNat 3
  actionType := "bitable_write"
  payloadSummary := ""
  payloadRef := "artifact://action-proposal/2/payload/v1"
  idempotencyKey := "action:1:bitable_write:a:v1"
  status := .pending
  createdAt := 0

/-- What the buttons of its card send, and what the first parser makes of them. -/
def waitingValue (decision : Decision) (edited : Dict) : Dict :=
  (approvalCardValue waitingProposal.threadId waitingProposal.interruptId waitingProposal.id
    waitingProposal.idempotencyKey none decision).merge edited

def waitingCommand (decision : Decision) (editedPayload : Option Dict) :
    FeishuCardActionCommand where
  eventId := "card:action:1:bitable_write:a:v1"
  threadId := waitingProposal.threadId
  actionId := waitingProposal.id
  interruptId := waitingProposal.interruptId
  idempotencyKey := waitingProposal.idempotencyKey
  decision := decision
  openMessageId := none
  openChatId := none
  cardUpdateTokenRef := "ref"
  operatorOpenId := none
  editedPayload := editedPayload

/-- The approve button of the card is read alike. -/
theorem parsersAgree_approveButton :
    ParsersAgree (clickCallback (waitingValue .approve [])).payload (waitingCommand .approve none)
      waitingProposal.threadId.str waitingProposal := by
  have hparse : parseCardActionCommand (clickCallback (waitingValue .approve [])) "ref" =
      .ok (waitingCommand .approve none) := by
    decide +kernel
  refine (parsersAgree_iff_plainCard hparse ⟨rfl, rfl, rfl, rfl, rfl⟩ (UUID.parse_str _)).mpr ?_
  refine ⟨waitingValue .approve [], by decide +kernel, ?_⟩
  dsimp only
  rw [if_pos (by decide +kernel)]
  refine ⟨⟨by decide +kernel, by decide +kernel, by decide +kernel⟩, ?_⟩
  exact (editedAlike_iff _).mpr (by decide +kernel)

def ParsersAlwaysAgree : Prop :=
  ∀ callback payloadRef command stateThreadId proposal,
    parseCardActionCommand callback payloadRef = .ok command →
    MatchesPending command proposal → UUID.parse stateThreadId = some proposal.threadId →
    ParsersAgree callback.payload command stateThreadId proposal

/-- An edit whose `edited_payload` is a text and whose form has a value is recorded, but
its resume value can never be read. -/
theorem not_parsersAlwaysAgree : ¬ParsersAlwaysAgree := by
  intro hagree
  let value := waitingValue .edit
    [("edited_payload", .str "see form"), ("form_value", .obj [("salary", .str "100")])]
  have hparse : parseCardActionCommand (clickCallback value) "ref" =
      .ok (waitingCommand .edit (some [("salary", .str "100")])) := by
    decide +kernel
  obtain ⟨approval, hok, _⟩ := hagree _ _ _ waitingProposal.threadId.str waitingProposal hparse
    ⟨rfl, rfl, rfl, rfl, rfl⟩ (UUID.parse_str _)
  have herr : feishuCardPayloadToHumanApproval (clickCallback value).payload =
      .error "HumanApproval edit requires edited_payload" := by
    decide +kernel
  simp [herr] at hok

end Headhunt.Runtime
