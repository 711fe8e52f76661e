import Headhunt.Feishu.Callbacks
import Headhunt.Lib.Result

/-! The click on an approval card: `parse_card_action_command`. -/
namespace Headhunt.Feishu
open Headhunt.Storage Py

structure FeishuCardActionCommand where
  eventId : String
  threadId : UUID
  actionId : UUID
  interruptId : UUID
  idempotencyKey : String
  decision : Decision
  openMessageId : Option String
  openChatId : Option String
  cardUpdateTokenRef : String
  operatorOpenId : Option String
  editedPayload : Option Dict
deriving DecidableEq

def coerceActionValue : Json → Except FeishuCallbackError Dict
  | .obj value => .ok value
  | .str text =>
    match loads text with
    | .ok (.obj parsed) => .ok parsed
    | .ok _ => .error (.payload "Feishu card action value must be an object")
    | .error .decode => .error (.payload "Feishu card action value must be JSON")
    | .error .value => .error (.uncaught "ValueError")
  | _ => .error (.payload "Feishu card action value must be an object")

def extractCardActionValue (payload : Dict) : Except FeishuCallbackError Dict :=
  match (payloadEvent payload).get "action" with
  | .obj action => coerceActionValue (Dict.get action "value")
  | _ => .error (.payload "Feishu card action missing event.action")

/-- `value.get("action_kind") == kind`; a payload without a readable value is no such card. -/
def hasActionKind (kind : String) (payload : Dict) : Except FeishuCallbackError Bool :=
  match extractCardActionValue payload with
  | .ok value => .ok (value.get "action_kind" = .str kind)
  | .error (.uncaught name) => .error (.uncaught name)
  | .error _ => .ok false

def isTaskConfirmationCallback : Dict → Except FeishuCallbackError Bool :=
  hasActionKind "task_double_check"

def isModelProfileSetupCallback : Dict → Except FeishuCallbackError Bool :=
  hasActionKind "model_profile_setup"

def requiredStr (payload : Dict) (key : String) : Except FeishuCallbackError String :=
  match firstStr [payload.get key] with
  | some value => .ok value
  | none => .error (.payload s!"Feishu card action missing {key}")

def requiredUuid (payload : Dict) (key : String) : Except FeishuCallbackError UUID := do
  let value ← requiredStr payload key
  match UUID.parse value with
  | some id => .ok id
  | none => .error (.payload s!"Feishu card action {key} must be a UUID")

def editedPayloadFromValue (value : Dict) : Option Dict :=
  (dictOrNone (value.get "edited_payload")).or (dictOrNone (value.get "form_value"))

def parseCardActionCommand (callback : VerifiedFeishuCallback) (payloadRef : String) :
    Except FeishuCallbackError FeishuCardActionCommand :=
  if callback.eventType ≠ "card.action.trigger" then
    .error (.payload "Feishu callback is not card.action.trigger")
  else do
    let event := payloadEvent callback.payload
    let value ← extractCardActionValue callback.payload
    let idempotencyKey ← requiredStr value "idempotency_key"
    let decisionText ← requiredStr value "decision"
    match Decision.ofString? decisionText with
    | none => .error (.payload "Feishu card action decision is invalid")
    | some decision =>
      let editedPayload := editedPayloadFromValue value
      if decision = .edit ∧ nonemptyDict editedPayload = false then
        .error (.payload "Feishu card action edit requires edited_payload or form_value")
      else do
        let context := (event.get "context").asDict
        let operator := (event.get "operator").asDict
        let threadId ← requiredUuid value "thread_id"
        let actionId ← requiredUuid value "action_id"
        let interruptId ← requiredUuid value "interrupt_id"
        .ok
          { eventId := callback.eventId.getD s!"card:{idempotencyKey}"
            threadId := threadId
            actionId := actionId
            interruptId := interruptId
            idempotencyKey := idempotencyKey
            decision := decision
            openMessageId := firstStr [context.get "open_message_id"]
            openChatId := firstStr [context.get "open_chat_id"]
            cardUpdateTokenRef := payloadRef
            operatorOpenId := firstStr [operator.get "open_id"]
            editedPayload := editedPayload }

theorem requiredStr_eq_ok {payload : Dict} {key s : String} :
    requiredStr payload key = .ok s ↔ payload.get key = .str s ∧ s ≠ "" := by
  rw [← firstStr_singleton_eq_some]
  unfold requiredStr
  cases firstStr [payload.get key] <;> simp

theorem requiredUuid_eq_ok {payload : Dict} {key : String} {id : UUID} :
    requiredUuid payload key = .ok id ↔
      ∃ text, payload.get key = .str text ∧ text ≠ "" ∧ UUID.parse text = some id := by
  simp only [requiredUuid, Except.bind_eq_ok, requiredStr_eq_ok, and_assoc]
  refine exists_congr fun text => and_congr_right fun _ => and_congr_right fun _ => ?_
  cases UUID.parse text <;> simp

/-- The fields an accepted card value has, and how the command reads them. -/
structure AcceptedValue (value : Dict) (command : FeishuCardActionCommand) : Prop where
  idempotencyKey : value.get "idempotency_key" = .str command.idempotencyKey
  idempotencyKey_ne : command.idempotencyKey ≠ ""
  decision : value.get "decision" = .str command.decision.value
  editedPayload : editedPayloadFromValue value = command.editedPayload
  edit : command.decision = .edit → nonemptyDict command.editedPayload = true
  threadId : ∃ text, value.get "thread_id" = .str text ∧ text ≠ "" ∧
    UUID.parse text = some command.threadId
  actionId : ∃ text, value.get "action_id" = .str text ∧ text ≠ "" ∧
    UUID.parse text = some command.actionId
  interruptId : ∃ text, value.get "interrupt_id" = .str text ∧ text ≠ "" ∧
    UUID.parse text = some command.interruptId

theorem parseCardActionCommand_eq_ok {callback : VerifiedFeishuCallback} {payloadRef : String}
    {command : FeishuCardActionCommand}
    (h : parseCardActionCommand callback payloadRef = .ok command) :
    ∃ value, extractCardActionValue callback.payload = .ok value ∧ AcceptedValue value command := by
  unfold parseCardActionCommand at h
  rw [Except.ite_error_eq_ok] at h
  obtain ⟨_, h⟩ := h
  obtain ⟨value, hvalue, h⟩ := Except.bind_eq_ok.mp h
  obtain ⟨key, hkey, h⟩ := Except.bind_eq_ok.mp h
  obtain ⟨text, htext, h⟩ := Except.bind_eq_ok.mp h
  refine ⟨value, hvalue, ?_⟩
  cases hd : Decision.ofString? text with
  | none => simp [hd] at h
  | some decision =>
    simp only [hd, Except.ite_error_eq_ok] at h
    obtain ⟨hedit, h⟩ := h
    obtain ⟨threadId, hthread, h⟩ := Except.bind_eq_ok.mp h
    obtain ⟨actionId, haction, h⟩ := Except.bind_eq_ok.mp h
    obtain ⟨interruptId, hinterrupt, h⟩ := Except.bind_eq_ok.mp h
    obtain rfl := Except.ok.inj h
    have hkey := requiredStr_eq_ok.mp hkey
    obtain rfl := Decision.ofString?_eq_some.mp hd
    exact
      { idempotencyKey := hkey.1
        idempotencyKey_ne := hkey.2
        decision := (requiredStr_eq_ok.mp htext).1
        editedPayload := rfl
        edit := by simpa using hedit
        threadId := requiredUuid_eq_ok.mp hthread
        actionId := requiredUuid_eq_ok.mp haction
        interruptId := requiredUuid_eq_ok.mp hinterrupt }

end Headhunt.Feishu
