import Headhunt.Feishu.CardActions

/-! `LangGraphOutboxHandler`: the stored click or API decision as a resume value. -/
namespace Headhunt.Runtime
open Headhunt.Feishu Headhunt.Storage Py

/-- `_coerce_action_value` of this module: text that is no JSON object is the empty object. -/
def coerceActionValue : Json → Except String Dict
  | .obj value => .ok value
  | .str text =>
    match loads text with
    | .ok (.obj parsed) => .ok parsed
    | .error .value => .error "ValueError"
    | _ => .ok []
  | _ => .ok []

def requiredStr (payload : Dict) (key : String) : Except String String :=
  match firstStr [payload.get key] with
  | some value => .ok value
  | none => .error s!"Feishu card payload missing {key}"

def orNull (s : Option String) : Json := (s.map .str).getD .null

/-- The end both forms of the payload share. -/
def humanApprovalPayload (threadId actionId interruptId idempotencyKey decision : String)
    (approver : Dict) (editedPayload payloadRef : Json) : Except String Dict :=
  if decision = "edit" ∧ nonemptyDict (dictOrNone editedPayload) = false then
    .error "HumanApproval edit requires edited_payload"
  else
    let approval := Dict.ofList
      [("thread_id", .str threadId), ("action_id", .str actionId),
        ("interrupt_id", .str interruptId), ("idempotency_key", .str idempotencyKey),
        ("decision", .str decision), ("approver", .obj approver)]
    let approval := match dictOrNone editedPayload with
      | some edited => approval.set "edited_payload" (.obj edited)
      | none => approval
    .ok (match firstStr [payloadRef] with
      | some ref => approval.set "payload_ref" (.str ref)
      | none => approval)

def directHumanApprovalPayload (payload : Dict) : Except String Dict := do
  let decision ← requiredStr payload "decision"
  let threadId ← requiredStr payload "thread_id"
  let actionId ← requiredStr payload "action_id"
  let interruptId ← requiredStr payload "interrupt_id"
  let idempotencyKey ← requiredStr payload "idempotency_key"
  let approver := match payload.get "approver" with
    | .obj approver => approver
    | _ => [("source", .str "internal")]
  humanApprovalPayload threadId actionId interruptId idempotencyKey decision approver
    (payload.get "edited_payload") (payload.get "payload_ref")

def feishuCardPayloadToHumanApproval (payload : Dict) : Except String Dict :=
  let directApproval := (payload.get "human_approval").asDict
  if directApproval ≠ [] then directHumanApprovalPayload directApproval
  else do
    let event := (payload.get "event").asDict
    let action := (event.get "action").asDict
    let value ← coerceActionValue (action.get "value")
    let operator := (event.get "operator").asDict
    let threadId ← requiredStr value "thread_id"
    let decision ← requiredStr value "decision"
    let actionId ← requiredStr value "action_id"
    let interruptId ← requiredStr value "interrupt_id"
    let idempotencyKey ← requiredStr value "idempotency_key"
    let approver := Dict.ofList
      [("source", .str "feishu"), ("open_id", orNull (firstStr [operator.get "open_id"])),
        ("union_id", orNull (firstStr [operator.get "union_id"])),
        ("user_id", orNull (firstStr [operator.get "user_id"]))]
    humanApprovalPayload threadId actionId interruptId idempotencyKey decision approver
      ((value.get "edited_payload").orElse (value.get "form_value")) (value.get "payload_ref")

theorem requiredStr_eq_ok {payload : Dict} {key s : String} :
    requiredStr payload key = .ok s ↔ payload.get key = .str s ∧ s ≠ "" := by
  rw [← firstStr_singleton_eq_some]
  unfold requiredStr
  cases firstStr [payload.get key] <;> simp

/-- An approval reads its fields off a value, with the edited payload of its own. -/
structure ReadsOff (approval fields : Dict) (editedPayload : Json) : Prop where
  threadId : approval.get "thread_id" = fields.get "thread_id"
  actionId : approval.get "action_id" = fields.get "action_id"
  interruptId : approval.get "interrupt_id" = fields.get "interrupt_id"
  idempotencyKey : approval.get "idempotency_key" = fields.get "idempotency_key"
  decision : approval.get "decision" = fields.get "decision"
  editedPayload : dictOrNone (approval.get "edited_payload") = dictOrNone editedPayload

/-- What `_required_str` and the check of an edit ask of the fields. -/
structure Readable (fields : Dict) (editedPayload : Json) : Prop where
  threadId : ∃ s, fields.get "thread_id" = .str s ∧ s ≠ ""
  actionId : ∃ s, fields.get "action_id" = .str s ∧ s ≠ ""
  interruptId : ∃ s, fields.get "interrupt_id" = .str s ∧ s ≠ ""
  idempotencyKey : ∃ s, fields.get "idempotency_key" = .str s ∧ s ≠ ""
  decision : ∃ s, fields.get "decision" = .str s ∧ s ≠ "" ∧
    (s = "edit" → nonemptyDict (dictOrNone editedPayload) = true)

theorem humanApprovalPayload_readsOff {threadId actionId interruptId idempotencyKey decision : String}
    {approver : Dict} {editedPayload payloadRef : Json} {fields : Dict}
    (ht : fields.get "thread_id" = .str threadId) (ha : fields.get "action_id" = .str actionId)
    (hi : fields.get "interrupt_id" = .str interruptId)
    (hk : fields.get "idempotency_key" = .str idempotencyKey)
    (hd : fields.get "decision" = .str decision)
    (hedit : decision = "edit" → nonemptyDict (dictOrNone editedPayload) = true) :
    ∃ approval, humanApprovalPayload threadId actionId interruptId idempotencyKey decision approver
      editedPayload payloadRef = .ok approval ∧ ReadsOff approval fields editedPayload := by
  have hno : ¬(decision = "edit" ∧ nonemptyDict (dictOrNone editedPayload) = false) := by
    rintro ⟨he, hf⟩
    simp [hedit he] at hf
  refine ⟨_, if_neg hno, ?_⟩
  cases hed : dictOrNone editedPayload <;> cases firstStr [payloadRef] <;>
    constructor <;>
    simp [Dict.get_set, Dict.get_ofList, Dict.get_cons, ht, ha, hi, hk, hd, hed]

end Headhunt.Runtime
