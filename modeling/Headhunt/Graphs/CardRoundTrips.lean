import Headhunt.Feishu.ModelSetupCompletion
import Headhunt.Graphs.ApprovalReplay
import Headhunt.Runtime.GraphDispatch

/-! A button of a card is read back as it was made: what a click on it carries is routed to the
handler of the card, is parsed to what the card was made of, and passes the check of the handler. -/
namespace Headhunt.Graphs
open Headhunt.Feishu Headhunt.Gateways Headhunt.ModelProfiles Headhunt.Policy Headhunt.Runtime
  Headhunt.Storage Py

def elemsOf : Json → List Json
  | .arr elems => elems
  | _ => []

/-- The values of the callbacks of an element. -/
def behaviorValues (element : Json) : List Dict :=
  (elemsOf (element.asDict.get "behaviors")).map fun behavior =>
    (behavior.asDict.get "value").asDict

def elementValues (element : Json) : List Dict :=
  (element :: elemsOf (element.asDict.get "elements")).flatMap behaviorValues

def cardValues (card : Dict) : List Dict :=
  (elemsOf ((card.get "body").asDict.get "elements")).flatMap elementValues

theorem cardValues_baseCard (title template markdown : String) (more : List Json) :
    cardValues (baseCard title template markdown more) = more.flatMap elementValues := by
  simp [cardValues, baseCard, elementValues, behaviorValues, elemsOf, Dict.get_ofList,
    Dict.get_cons, Json.asDict]

theorem elementValues_button (label buttonType : String) (value : Dict) :
    elementValues (.obj (button label buttonType value)) = [value] := by
  simp [elementValues, behaviorValues, button, elemsOf, Dict.get_ofList, Dict.get_cons,
    Json.asDict]

theorem behaviorValues_formSubmitButton (label buttonType name : String) (value : Dict) :
    behaviorValues (.obj (formSubmitButton label buttonType value name)) = [value] := by
  simp [behaviorValues, formSubmitButton, button, elemsOf, Dict.get_set, Dict.get_ofList,
    Dict.get_cons, Json.asDict]

theorem behaviorValues_formInput (name label placeholder : String) (required : Bool)
    (inputType : Option String) :
    behaviorValues (.obj (formInput name label placeholder required inputType)) = [] := by
  cases inputType <;>
    simp [behaviorValues, formInput, elemsOf, Dict.get_set, Dict.get_ofList, Dict.get_cons,
      Json.asDict]

/-- The value of an action: an object, or the text of one. -/
inductive Wraps (value : Dict) : Json → Prop
  | object : Wraps value (.obj value)
  | text {text : String} (h : loads text = .ok (.obj value)) : Wraps value (.str text)

/-- The callback is a click on a button with this value. -/
structure Clicks (callback : VerifiedFeishuCallback) (value : Dict) : Prop where
  eventType : callback.eventType = "card.action.trigger"
  action : ∃ action, (payloadEvent callback.payload).get "action" = .obj action ∧
    Wraps value (Dict.get action "value")

/-- The buttons of a card send these values, which can be written as texts, and a click on one of
them is routed and read. -/
structure ReadBack {ι : Type} (card : Dict) (buttons : List ι) (value : ι → Dict)
    (route : CardRoute) (reads : VerifiedFeishuCallback → ι → Prop) : Prop where
  values : cardValues card = buttons.map value
  texts : ∀ b ∈ buttons, ∀ sep : Separators, sep.Readable →
    Wraps (value b) (.str (dumps sep (.obj (value b))))
  routed : ∀ b ∈ buttons, ∀ callback, Clicks callback (value b) →
    cardRoute callback.payload = .ok route
  read : ∀ b ∈ buttons, ∀ callback, Clicks callback (value b) → reads callback b

section Click

variable {callback : VerifiedFeishuCallback} {value : Dict}

theorem Clicks.extract (h : Clicks callback value) :
    extractCardActionValue callback.payload = .ok value := by
  obtain ⟨action, haction, hwraps⟩ := h.action
  unfold extractCardActionValue
  rw [haction]
  dsimp only
  cases hvalue : Dict.get action "value" with
  | obj d =>
    rw [hvalue] at hwraps
    cases hwraps
    rfl
  | str text =>
    rw [hvalue] at hwraps
    cases hwraps with
    | text hloads => simp only [Feishu.coerceActionValue, hloads]
  | _ =>
    rw [hvalue] at hwraps
    cases hwraps

theorem Clicks.hasActionKind (h : Clicks callback value) (kind : String) :
    hasActionKind kind callback.payload = .ok (value.get "action_kind" = .str kind) := by
  unfold Feishu.hasActionKind
  rw [h.extract]

theorem Clicks.cardRoute_taskConfirmation (h : Clicks callback value)
    (hkind : value.get "action_kind" = .str "task_double_check") :
    cardRoute callback.payload = .ok .taskConfirmation := by
  unfold cardRoute isTaskConfirmationCallback
  rw [h.hasActionKind, hkind]
  rfl

theorem Clicks.cardRoute_modelProfileSetup (h : Clicks callback value)
    (hkind : value.get "action_kind" = .str "model_profile_setup") :
    cardRoute callback.payload = .ok .modelProfileSetup := by
  unfold cardRoute isTaskConfirmationCallback isModelProfileSetupCallback
  rw [h.hasActionKind, h.hasActionKind, hkind]
  rfl

theorem Clicks.cardRoute_approval (h : Clicks callback value)
    (hkind : value.get "action_kind" = .null) :
    cardRoute callback.payload = .ok .approval := by
  unfold cardRoute isTaskConfirmationCallback isModelProfileSetupCallback
  rw [h.hasActionKind, h.hasActionKind, hkind]
  rfl

theorem wraps_dumps (hvalue : (Json.obj value).Textual) {sep : Separators} (hsep : sep.Readable) :
    Wraps value (.str (dumps sep (.obj value))) :=
  .text (loads_dumps hsep hvalue)

end Click

def askedValue (asked : ApprovalAsked) : Decision → Dict :=
  approvalCardValue asked.threadId asked.interruptId asked.actionId asked.idempotencyKey
    asked.payloadRef

def askedCommand (asked : ApprovalAsked) (decision : Decision) (callback : VerifiedFeishuCallback)
    (payloadRef : String) : FeishuCardActionCommand :=
  let event := payloadEvent callback.payload
  { eventId := callback.eventId.getD s!"card:{asked.idempotencyKey}"
    threadId := asked.threadId
    actionId := asked.actionId
    interruptId := asked.interruptId
    idempotencyKey := asked.idempotencyKey
    decision := decision
    openMessageId := firstStr [(event.get "context").asDict.get "open_message_id"]
    openChatId := firstStr [(event.get "context").asDict.get "open_chat_id"]
    cardUpdateTokenRef := payloadRef
    operatorOpenId := firstStr [(event.get "operator").asDict.get "open_id"]
    editedPayload := none }

theorem textual_askedValue (asked : ApprovalAsked) (decision : Decision) :
    (Json.obj (askedValue asked decision)).Textual := by
  unfold askedValue approvalCardValue
  dsimp only
  split
  · refine textual_set (textual_ofList ?_) "payload_ref" (textual_str _)
    simp
  · refine textual_ofList ?_
    simp

theorem cardValues_buildApprovalCard (asked : ApprovalAsked) :
    cardValues (buildApprovalCard asked) = [Decision.approve, .reject].map (askedValue asked) := by
  unfold buildApprovalCard
  simp only [cardValues_baseCard, List.flatMap_cons, List.flatMap_nil, elementValues_button]
  rfl

theorem parseCardActionCommand_asked {asked : ApprovalAsked} {decision : Decision}
    {callback : VerifiedFeishuCallback} (hclick : Clicks callback (askedValue asked decision))
    (hdecision : decision ≠ .edit) (hkey : asked.idempotencyKey ≠ "") (payloadRef : String) :
    parseCardActionCommand callback payloadRef =
      .ok (askedCommand asked decision callback payloadRef) := by
  obtain ⟨hthread, haction, hinterrupt, hidempotency, hdec, _, hedited, hform⟩ :=
    approvalCardValue_get asked.threadId asked.interruptId asked.actionId asked.idempotencyKey
      asked.payloadRef decision
  have hkeyText := Feishu.requiredStr_eq_ok.mpr ⟨hidempotency, hkey⟩
  have hdecText := Feishu.requiredStr_eq_ok.mpr ⟨hdec, decision.value_ne⟩
  have hof := Decision.ofString?_eq_some.mpr (Eq.refl decision.value)
  have hplain : editedPayloadFromValue (askedValue asked decision) = none := by
    unfold editedPayloadFromValue askedValue
    rw [hedited, hform]
    rfl
  simp only [parseCardActionCommand, hclick.eventType, ne_eq, not_true_eq_false, if_false,
    hclick.extract, bind, Except.bind]
  unfold askedValue at hplain ⊢
  simp only [hkeyText, hdecText, hof, hplain, hdecision, false_and, if_false,
    requiredUuid_of_str hthread, requiredUuid_of_str haction, requiredUuid_of_str hinterrupt,
    askedCommand]

theorem approvalCard_readBack {asked : ApprovalAsked} (hkey : asked.idempotencyKey ≠ "") :
    ReadBack (buildApprovalCard asked) [.approve, .reject] (askedValue asked) .approval
      fun callback decision => ∀ payloadRef, parseCardActionCommand callback payloadRef =
        .ok (askedCommand asked decision callback payloadRef) where
  values := cardValues_buildApprovalCard asked
  texts decision _ _ hsep := wraps_dumps (textual_askedValue asked decision) hsep
  routed decision _ callback hclick := by
    obtain ⟨_, _, _, _, _, hkind, _⟩ := approvalCardValue_get asked.threadId asked.interruptId
      asked.actionId asked.idempotencyKey asked.payloadRef decision
    exact hclick.cardRoute_approval hkind
  read decision hmem callback hclick payloadRef := by
    have hdecision : decision ≠ .edit := by
      rintro rfl
      simp at hmem
    exact parseCardActionCommand_asked hclick hdecision hkey payloadRef

theorem textual_cardValue (card : TaskCard) (decision : Decision) :
    (Json.obj (card.value decision)).Textual := by
  refine textual_ofList ?_
  simp

theorem cardValues_buildTaskConfirmationCard (intake : FeishuTaskIntake) (plan : TaskPlan) :
    cardValues (buildTaskConfirmationCard intake plan) =
      [Decision.approve, .reject].map (confirmationButtons intake plan).value := by
  unfold buildTaskConfirmationCard
  simp only [cardValues_baseCard, List.flatMap_cons, List.flatMap_nil, elementValues_button]
  rfl

theorem truthy_str {text : String} (h : text ≠ "") : (Json.str text).truthy = true := by
  simp [Json.truthy, h]

theorem taskPayloadText_ne (thread task : String) :
    s!"artifact://feishu-task-intake/{thread}/{task}/v1" ≠ "" := by
  intro h
  have hlength := congrArg String.length h
  have hprefix : "artifact://feishu-task-intake/".length = 30 := by decide
  simp only [ToString.toString, String.length_append, String.length_empty] at hlength
  omega

theorem taskPayloadRef_ne (threadId taskId : UUID) : taskPayloadRef threadId taskId ≠ "" :=
  taskPayloadText_ne _ _

section Task

variable {crypto : Crypto} (task : ConfirmedTask crypto)

def taskButtons : TaskCard := confirmationButtons task.parsed task.plan

/-- A click on the card passes the check against the payload that was stored for it. -/
theorem validateTaskConfirmationPayload_task (decision : Decision)
    (callback : VerifiedFeishuCallback) (payloadRef : String) :
    validateTaskConfirmationPayload task.taskPayload
      ((taskButtons task).command decision callback payloadRef) = .ok () := by
  obtain ⟨_, hchat, hsame⟩ := task.refs_ne
  have hguild : task.parsed.modelGuildId ≠ "" := by
    rw [FeishuTaskIntake.modelGuildId, hsame]
    exact hchat
  have howner : (optionalText task.parsed.modelOwnerUserId).truthy = true := by
    have h := task.owner
    cases howner : task.parsed.modelOwnerUserId with
    | none => simp [howner, truthyText] at h
    | some owner =>
      refine truthy_str ?_
      rintro rfl
      simp [howner, truthyText] at h
  unfold validateTaskConfirmationPayload
  have hfields : (expectedFields ((taskButtons task).command decision callback payloadRef)).find?
      (fun field => task.taskPayload.get field.1 ≠ .str field.2) = none := by
    simp [expectedFields, TaskCard.command, taskButtons, confirmationButtons,
      ConfirmedTask.taskPayload, buildGraphDispatchPayload, Dict.get_ofList, Dict.get_cons]
  rw [hfields]
  have hscope : (requiredModelScope.all fun key => (task.taskPayload.get key).truthy) = true := by
    simp [requiredModelScope, ConfirmedTask.taskPayload, buildGraphDispatchPayload,
      Dict.get_ofList, Dict.get_cons, truthy_str (str_ne_nil task.modelProfileId),
      truthy_str hguild, howner]
  simp [hscope]

theorem taskCard_readBack :
    ReadBack (buildTaskConfirmationCard task.parsed task.plan) [.approve, .reject]
      (taskButtons task).value .taskConfirmation fun callback decision => ∀ payloadRef,
        parseTaskConfirmationCommand callback payloadRef =
            .ok ((taskButtons task).command decision callback payloadRef) ∧
          validateTaskConfirmationPayload task.taskPayload
            ((taskButtons task).command decision callback payloadRef) = .ok () where
  values := cardValues_buildTaskConfirmationCard task.parsed task.plan
  texts decision _ _ hsep := wraps_dumps (textual_cardValue _ decision) hsep
  routed decision _ callback hclick :=
    hclick.cardRoute_taskConfirmation ((taskButtons task).get_value decision).1
  read decision hmem callback hclick payloadRef := by
    have hdecision : decision ≠ .edit := by
      rintro rfl
      simp at hmem
    exact ⟨parseTaskConfirmationCommand_card payloadRef hclick.eventType hclick.extract hdecision
      task.refs_ne.1 (taskPayloadRef_ne _ _),
      validateTaskConfirmationPayload_task task decision callback payloadRef⟩

end Task

theorem textual_modelSetupValue (threadId : UUID) (sourceRef eventPayloadRef chatId : String)
    (userId userIdType : Option String) (provider : ModelProvider) :
    (Json.obj (modelSetupValue threadId sourceRef eventPayloadRef chatId userId userIdType
      provider)).Textual := by
  refine textual_ofList ?_
  simp

theorem cardValues_buildModelSetupRequiredCard (threadId : UUID)
    (sourceRef eventPayloadRef requestText chatId : String) (userId userIdType : Option String) :
    cardValues (buildModelSetupRequiredCard threadId sourceRef eventPayloadRef requestText chatId
      userId userIdType) =
    [ModelProvider.openai, .deepseek].map
      (modelSetupValue threadId sourceRef eventPayloadRef chatId userId userIdType) := by
  have hform : ∀ elems : List Json, elementValues (.obj (Dict.ofList
      [("tag", .str "form"), ("name", .str "model_profile_setup"), ("elements", .arr elems)])) =
      elems.flatMap behaviorValues := by
    intro elems
    simp [elementValues, behaviorValues, elemsOf, Dict.get_ofList, Dict.get_cons, Json.asDict]
  unfold buildModelSetupRequiredCard setupInputs
  simp only [cardValues_baseCard, List.flatMap_cons, List.flatMap_nil, hform, List.map_cons,
    List.map_nil, List.cons_append, List.nil_append, behaviorValues_formInput,
    behaviorValues_formSubmitButton, List.append_nil]

theorem get?_setdefault (d : Dict) (k key : String) (v : Json) :
    Dict.get? (Dict.setdefault d k v) key =
      (Dict.get? d key).or (if k = key then some v else none) := by
  unfold Dict.setdefault
  by_cases hk : (Dict.get? d k).isSome
  · rw [if_pos hk]
    by_cases hkey : k = key
    · obtain ⟨old, hold⟩ := Option.isSome_iff_exists.mp (hkey ▸ hk)
      simp [hold]
    · simp [hkey]
  · rw [if_neg hk, Dict.get?_set]
    by_cases hkey : k = key
    · have hnone : Dict.get? d key = none := by
        rw [← hkey]
        simpa using hk
      simp [hkey, hnone]
    · simp [hkey]

/-- What is there already stays. -/
theorem get?_mergeFormValue (merged formValue : Dict) (key : String) :
    (mergeFormValue merged formValue).get? key = (merged.get? key).or (formValue.get? key) := by
  induction formValue generalizing merged with
  | nil => simp [mergeFormValue]
  | cons item formValue ih =>
    change (mergeFormValue (merged.setdefault item.1 item.2) formValue).get? key = _
    rw [ih, get?_setdefault, Dict.get?_cons, Option.or_assoc]
    congr 1
    split_ifs <;> simp

theorem formValueOf_of_mapping {candidate : Json} {formValue : Dict}
    (hcandidate : coerceOptionalMapping candidate = .ok formValue)
    (hplain : formValue.get "form_value" = .null) : formValueOf candidate = .ok formValue := by
  unfold formValueOf
  rw [hcandidate]
  dsimp only [bind, Except.bind]
  rw [hplain]
  rfl

theorem Wraps.mapping {value : Dict} {candidate : Json} (h : Wraps value candidate) :
    coerceOptionalMapping candidate = .ok value := by
  cases h with
  | object => rfl
  | text hloads => simp only [coerceOptionalMapping, hloads]

structure Submits (callback : VerifiedFeishuCallback) (value inputs : Dict) : Prop where
  action : ∃ action, (payloadEvent callback.payload).get "action" = .obj action ∧
    Wraps value (Dict.get action "value") ∧ Dict.get action "form_value" = .obj inputs ∧
    Dict.get action "form_values" = .null ∧ Dict.get action "input_value" = .null
  event : (payloadEvent callback.payload).get "form_value" = .null
  plain : inputs.get "form_value" = .null

/-- The inputs are read as they were given, and what else is read the button said. -/
theorem Submits.extract {callback : VerifiedFeishuCallback} {value inputs : Dict}
    (h : Submits callback value inputs) (hplain : value.get "form_value" = .null) :
    ∃ form, extractCardFormValues callback.payload = .ok form ∧
      ∀ name, form.get? name = (inputs.get? name).or (value.get? name) := by
  obtain ⟨action, haction, hwraps, hinputs, hvalues, hinput⟩ := h.action
  have hnone := @formValueOf_of_mapping .null [] rfl rfl
  unfold extractCardFormValues
  dsimp only
  rw [haction]
  dsimp only
  unfold formCandidates
  rw [hinputs, hvalues, hinput, h.event]
  simp only [mergeFormValues, List.foldlM_cons, List.foldlM_nil,
    @formValueOf_of_mapping (.obj inputs) inputs rfl h.plain, hnone,
    formValueOf_of_mapping hwraps.mapping hplain, Except.map, bind, Except.bind, pure, Except.pure]
  refine ⟨_, rfl, fun name => ?_⟩
  simp only [get?_mergeFormValue, Dict.get?_nil, Option.none_or, Option.or_none]

def setupInputNames : List String := ["display_name", "model_name", "api_key", "base_url"]

structure ValidForm (lib : UrlLibrary) (form : Dict) (apiKey : String) (baseUrl : Option String) :
    Prop where
  apiKey : formValueStr form "api_key" = some apiKey
  baseUrl : safeOptionalBaseUrl lib (formValueStr form "base_url") = .ok baseUrl

section Setup

variable (original : VerifiedFeishuCallback) (intake : FeishuTaskIntake)

/-- The card a message is answered with when its sender has no model. -/
def setupRequiredCard : Dict :=
  buildModelSetupRequiredCard intake.threadId intake.sourceRef (buildPayloadRef original)
    intake.requestText intake.chatId intake.modelOwnerUserId intake.modelOwnerIdType

def setupValue : ModelProvider → Dict :=
  modelSetupValue intake.threadId intake.sourceRef (buildPayloadRef original) intake.chatId
    intake.modelOwnerUserId intake.modelOwnerIdType

structure SetupValueSays (value : Dict) (provider : ModelProvider) : Prop where
  actionKind : value.get "action_kind" = .str "model_profile_setup"
  threadId : value.get "thread_id" = .str intake.threadId.str
  sourceRef : value.get "source_ref" = .str intake.sourceRef
  eventPayloadRef : value.get "event_payload_ref" = .str (buildPayloadRef original)
  chatId : value.get "chat_id" = .str intake.chatId
  userId : value.get "model_owner_user_id" = .str (intake.modelOwnerUserId.getD "")
  userIdType : value.get "model_owner_id_type" = .str (intake.modelOwnerIdType.getD "")
  usage : value.get "usage" = .str "chat"
  idempotencyKey : value.get "idempotency_key" = .str (modelSetupKey intake.sourceRef)
  makeDefault : value.get "make_default" = .bool true
  provider : value.get "provider" = .str provider.value
  plain : value.get "form_value" = .null
  inputs : ∀ name ∈ setupInputNames, value.get? name = none

theorem setupValue_fields (provider : ModelProvider) :
    SetupValueSays original intake (setupValue original intake provider) provider := by
  constructor
  case inputs =>
    intro name hname
    simp only [setupInputNames, List.mem_cons, List.not_mem_nil, or_false] at hname
    rcases hname with rfl | rfl | rfl | rfl <;>
      simp [setupValue, modelSetupValue, Dict.ofList, Dict.get?_merge, Dict.get?_cons]
  all_goals simp [setupValue, modelSetupValue, Dict.get_ofList, Dict.get_cons]

def setupCommandOf (owner : String) (ownerIdType : IdentityType) (provider : ModelProvider)
    (form : Dict) (apiKey : String) (baseUrl : Option String) (callback : VerifiedFeishuCallback)
    (payloadRef : String) : FeishuModelProfileSetupCommand :=
  let event := payloadEvent callback.payload
  let context := (event.get "context").asDict
  let operator := (event.get "operator").asDict
  { eventId := callback.eventId.getD s!"model-setup:{modelSetupKey intake.sourceRef}"
    threadId := intake.threadId
    sourceRef := intake.sourceRef
    eventPayloadRef := buildPayloadRef original
    chatId := intake.chatId
    modelOwnerUserId := owner
    modelOwnerIdType := ownerIdType
    provider := provider
    modelName := (formValueStr form "model_name").getD (defaultModel provider)
    apiKey := apiKey
    displayName := formValueStr form "display_name"
    baseUrl := baseUrl
    usage := .chat
    makeDefault := true
    idempotencyKey := modelSetupKey intake.sourceRef
    openMessageId := firstStr [context.get "open_message_id"]
    openChatId := firstStr [context.get "open_chat_id"]
    cardUpdateTokenRef := payloadRef
    operatorOpenId := firstStr [operator.get "open_id"]
    operatorUserId := firstStr [operator.get "user_id"]
    operatorUnionId := firstStr [operator.get "union_id"] }

structure SentBy (owner : String) (ownerIdType : IdentityType) : Prop where
  id : intake.modelOwnerUserId = some owner
  id_ne : owner ≠ ""
  idType : intake.modelOwnerIdType = some ownerIdType.value

end Setup

/-- `_first_str` of the tenant keys of an event. -/
def eventTenantKey (payload : Dict) : Option String :=
  firstStr [(payloadHeader payload).get "tenant_key", (payloadEvent payload).get "tenant_key"]

section Intake

variable {crypto : Crypto} {payload : Dict} {tenantKey tenantKey' : Option String}
  {intake : FeishuTaskIntake}

/-- The verifier reads the tenant key where the intake does. -/
theorem tenantKey_of_verifiedCallback {rawBody : ByteArray} {isChallenge : Bool}
    {callback : VerifiedFeishuCallback}
    (h : FeishuCallbackVerifier.verifiedCallback crypto payload rawBody isChallenge =
      .ok callback) : callback.tenantKey = eventTenantKey callback.payload := by
  unfold FeishuCallbackVerifier.verifiedCallback at h
  dsimp only at h
  split at h
  · cases h
  · obtain rfl := Except.ok.inj h
    rfl

theorem parseTaskIntake_ids (h : parseTaskIntake crypto payload tenantKey = .ok intake) :
    intake.sourceRef ≠ "" ∧ intake.chatId ≠ "" ∧ ∀ id ∈ intake.senderUnionId, id ≠ "" := by
  unfold parseTaskIntake at h
  split at h
  · cases h
  · split at h
    · cases h
    · split at h
      · cases h
      · rename_i chatId hchat
        obtain ⟨text, _, h⟩ := Except.bind_eq_ok.mp h
        rw [← Except.ok.inj h]
        exact ⟨buildSourceRef_ne _ _ _ _ _, firstStr_ne hchat, fun id hid => firstStr_ne hid⟩

/-- The intake is the same under two tenant keys that are resolved to one. -/
theorem parseTaskIntake_tenant
    (h : (nonemptyText tenantKey).or (eventTenantKey payload) =
      (nonemptyText tenantKey').or (eventTenantKey payload)) :
    parseTaskIntake crypto payload tenantKey = parseTaskIntake crypto payload tenantKey' := by
  unfold eventTenantKey payloadHeader payloadEvent at h
  unfold parseTaskIntake
  cases hevent : payload.get "event" with
  | obj event =>
    rw [hevent] at h
    change (nonemptyText tenantKey).or (firstStr [(payload.get "header").asDict.get "tenant_key",
      Dict.get event "tenant_key"]) = (nonemptyText tenantKey').or (firstStr
      [(payload.get "header").asDict.get "tenant_key", Dict.get event "tenant_key"]) at h
    simp only [dictOrNone_obj, h]
  | _ => rfl

theorem nonemptyText_eventTenantKey (payload : Dict) :
    nonemptyText (eventTenantKey payload) = eventTenantKey payload := by
  cases hkey : eventTenantKey payload with
  | none => rfl
  | some key => simp [nonemptyText, firstStr_ne hkey]

/-- The event is read again as it was, under its own tenant key or none. -/
theorem parseTaskIntake_again (h : parseTaskIntake crypto payload (eventTenantKey payload) =
      .ok intake) (htenant : tenantKey = eventTenantKey payload ∨ tenantKey = none) :
    parseTaskIntake crypto payload tenantKey = .ok intake := by
  rw [← h]
  refine parseTaskIntake_tenant ?_
  rw [nonemptyText_eventTenantKey]
  rcases htenant with rfl | rfl
  · rw [nonemptyText_eventTenantKey]
  · cases eventTenantKey payload <;> rfl

theorem nonemptyText_eq_some {text : Option String} {s : String} :
    nonemptyText text = some s ↔ text = some s ∧ s ≠ "" := by
  simp [nonemptyText, Option.filter_eq_some_iff]

theorem sentBy_of_parse (h : parseTaskIntake crypto payload tenantKey = .ok intake)
    (hsender : intake.modelOwnerUserId.isSome = true) :
    ∃ owner ownerIdType, SentBy intake owner ownerIdType := by
  obtain ⟨_, _, hunion⟩ := parseTaskIntake_ids h
  obtain ⟨owner, howner⟩ := Option.isSome_iff_exists.mp hsender
  have howner' := howner
  unfold FeishuTaskIntake.modelOwnerUserId at howner'
  cases hopen : nonemptyText intake.senderOpenId with
  | some id =>
    rw [hopen] at howner'
    obtain rfl := Option.some.inj howner'
    exact ⟨id, .openId, howner, (nonemptyText_eq_some.mp hopen).2,
      by simp [FeishuTaskIntake.modelOwnerIdType, hopen, IdentityType.value]⟩
  | none =>
    cases huser : nonemptyText intake.senderUserId with
    | some id =>
      rw [hopen, huser] at howner'
      obtain rfl := Option.some.inj howner'
      exact ⟨id, .userId, howner, (nonemptyText_eq_some.mp huser).2,
        by simp [FeishuTaskIntake.modelOwnerIdType, hopen, huser, IdentityType.value]⟩
    | none =>
      rw [hopen, huser] at howner'
      have hne := hunion owner howner'
      have hsome : nonemptyText intake.senderUnionId = some owner :=
        nonemptyText_eq_some.mpr ⟨howner', hne⟩
      exact ⟨owner, .unionId, howner, hne,
        by simp [FeishuTaskIntake.modelOwnerIdType, hopen, huser, hsome, IdentityType.value]⟩

end Intake

section Submission

variable {lib : UrlLibrary} {original callback : VerifiedFeishuCallback}
  {intake : FeishuTaskIntake} {owner : String} {ownerIdType : IdentityType}
  {provider : ModelProvider} {form : Dict} {apiKey : String} {baseUrl : Option String}

theorem setupProvider_value (provider : ModelProvider) :
    setupProvider provider.value = .ok provider := by
  cases provider <;> decide +kernel

theorem setupOwnerIdType_value (ownerIdType : IdentityType) :
    setupOwnerIdType (.str ownerIdType.value) = .ok ownerIdType := by
  cases ownerIdType <;> decide +kernel

theorem modelSetupKey_ne (sourceRef : String) : modelSetupKey sourceRef ≠ "" := by
  intro h
  have hlist := congrArg String.toList h
  simp [modelSetupKey, ToString.toString] at hlist

theorem callbackRefText_ne (payloadHash : String) :
    s!"artifact://feishu-callback/{payloadHash}" ≠ "" := by
  intro h
  have hlength := congrArg String.length h
  have hprefix : "artifact://feishu-callback/".length = 27 := by decide
  simp only [ToString.toString, String.length_append, String.length_empty] at hlength
  omega

theorem buildPayloadRef_ne (callback : VerifiedFeishuCallback) : buildPayloadRef callback ≠ "" :=
  callbackRefText_ne _

/-- A click with a valid form is parsed to what the card was made of. -/
theorem parseModelProfileSetupCommand_setup
    (hclick : Clicks callback (setupValue original intake provider))
    (hsource : intake.sourceRef ≠ "") (hchat : intake.chatId ≠ "")
    (hsent : SentBy intake owner ownerIdType)
    (hform : extractCardFormValues callback.payload = .ok form)
    (hvalid : ValidForm lib form apiKey baseUrl) (payloadRef : String) :
    parseModelProfileSetupCommand lib callback payloadRef =
      .ok (setupCommandOf original intake owner ownerIdType provider form apiKey baseUrl callback
        payloadRef) := by
  have hread := setupValue_fields original intake provider
  have hprovider := Feishu.requiredStr_eq_ok.mpr
    ⟨hread.provider, (by cases provider <;> decide : provider.value ≠ "")⟩
  have husage : setupUsage (.str "chat") = .ok .chat := by decide +kernel
  have hapiKey : setupApiKey form = .ok apiKey := by
    unfold setupApiKey
    rw [hvalid.apiKey]
  have hidType : (setupValue original intake provider).get "model_owner_id_type" =
      .str ownerIdType.value := by
    rw [hread.userIdType, hsent.idType]
    rfl
  have howner : (setupValue original intake provider).get "model_owner_user_id" = .str owner := by
    rw [hread.userId, hsent.id]
    rfl
  have hkeyText := Feishu.requiredStr_eq_ok.mpr
    ⟨hread.idempotencyKey, modelSetupKey_ne intake.sourceRef⟩
  have hsourceText := Feishu.requiredStr_eq_ok.mpr ⟨hread.sourceRef, hsource⟩
  have heventText := Feishu.requiredStr_eq_ok.mpr
    ⟨hread.eventPayloadRef, buildPayloadRef_ne original⟩
  have hchatText := Feishu.requiredStr_eq_ok.mpr ⟨hread.chatId, hchat⟩
  have hownerText := Feishu.requiredStr_eq_ok.mpr ⟨howner, hsent.id_ne⟩
  simp only [parseModelProfileSetupCommand, hclick.eventType, ne_eq, not_true_eq_false, if_false,
    hclick.extract, hread.actionKind, hprovider, setupProvider_value, hread.usage, husage, hform,
    hapiKey, hvalid.baseUrl, hidType, setupOwnerIdType_value, hkeyText,
    requiredUuid_of_str hread.threadId, hsourceText, heventText, hchatText, hownerText,
    hread.makeDefault, optionalBool, bind, Except.bind, setupCommandOf]

/-- The command passes the check against the task it was made of. -/
theorem validateModelSetupIntake_setup (hsent : SentBy intake owner ownerIdType)
    (payloadRef : String) :
    validateModelSetupIntake intake (setupCommandOf original intake owner ownerIdType provider form
      apiKey baseUrl callback payloadRef) = .ok () := by
  simp [validateModelSetupIntake, setupCommandOf, hsent.id, hsent.idType]

end Submission

/-- How a click on the setup card of a message is read: the form as it was filled in, the command
as the card was made, and the task as it was. -/
structure ReadsSetup (crypto : Crypto) (lib : UrlLibrary) (original : VerifiedFeishuCallback)
    (intake : FeishuTaskIntake) (owner : String) (ownerIdType : IdentityType)
    (callback : VerifiedFeishuCallback) (provider : ModelProvider) : Prop where
  inputs : ∀ inputs, Submits callback (setupValue original intake provider) inputs →
    ∃ form, extractCardFormValues callback.payload = .ok form ∧
      ∀ name ∈ setupInputNames, form.get name = inputs.get name
  command : ∀ form apiKey baseUrl payloadRef, extractCardFormValues callback.payload = .ok form →
    ValidForm lib form apiKey baseUrl →
    parseModelProfileSetupCommand lib callback payloadRef = .ok (setupCommandOf original intake
      owner ownerIdType provider form apiKey baseUrl callback payloadRef)
  task : callback.tenantKey = original.tenantKey ∨ callback.tenantKey = none →
    parseTaskIntake crypto original.payload callback.tenantKey = .ok intake ∧
      ∀ form apiKey baseUrl payloadRef, validateModelSetupIntake intake (setupCommandOf original
        intake owner ownerIdType provider form apiKey baseUrl callback payloadRef) = .ok ()

section Setup

variable {crypto : Crypto} {original : VerifiedFeishuCallback} {intake : FeishuTaskIntake}
  {owner : String} {ownerIdType : IdentityType}

theorem setupCard_readBack (lib : UrlLibrary)
    (htenant : original.tenantKey = eventTenantKey original.payload)
    (hintake : parseTaskIntake crypto original.payload original.tenantKey = .ok intake)
    (hsent : SentBy intake owner ownerIdType) :
    ReadBack (setupRequiredCard original intake) [.openai, .deepseek] (setupValue original intake)
      .modelProfileSetup (ReadsSetup crypto lib original intake owner ownerIdType) where
  values := cardValues_buildModelSetupRequiredCard _ _ _ _ _ _ _
  texts provider _ _ hsep := wraps_dumps (textual_modelSetupValue _ _ _ _ _ _ provider) hsep
  routed provider _ callback hclick :=
    hclick.cardRoute_modelProfileSetup (setupValue_fields original intake provider).actionKind
  read provider _ callback hclick := by
    have hread := setupValue_fields original intake provider
    obtain ⟨hsource, hchat, _⟩ := parseTaskIntake_ids hintake
    constructor
    case inputs =>
      intro inputs hsubmits
      obtain ⟨form, hform, hget⟩ := hsubmits.extract hread.plain
      refine ⟨form, hform, fun name hname => ?_⟩
      rw [Dict.get, hget, hread.inputs name hname, Option.or_none]
      rfl
    case command =>
      intro form apiKey baseUrl payloadRef hform hvalid
      exact parseModelProfileSetupCommand_setup hclick hsource hchat hsent hform hvalid payloadRef
    case task =>
      intro hclickTenant
      rw [htenant] at hintake hclickTenant
      exact ⟨parseTaskIntake_again hintake hclickTenant,
        fun _ _ _ => validateModelSetupIntake_setup hsent⟩

end Setup

/-- The clicks on the three cards are read as the cards were made. -/
structure CardsAgree (crypto : Crypto) (lib : UrlLibrary) (original : VerifiedFeishuCallback)
    (intake : FeishuTaskIntake) : Prop where
  approval : ∀ wiring clientToken state request proposal councilMode modeReason,
    proposeBusinessAction wiring clientToken state = .ok request →
    ReadBack (buildApprovalCard (approvalAsked request proposal councilMode modeReason))
      [.approve, .reject] (askedValue (approvalAsked request proposal councilMode modeReason))
      .approval fun callback decision => ∀ payloadRef, parseCardActionCommand callback payloadRef =
        .ok (askedCommand (approvalAsked request proposal councilMode modeReason) decision callback
          payloadRef)
  confirmation : ∀ task : ConfirmedTask crypto, task.intake = intake →
    ReadBack (buildTaskConfirmationCard task.parsed task.plan) [.approve, .reject]
      (taskButtons task).value .taskConfirmation fun callback decision => ∀ payloadRef,
        parseTaskConfirmationCommand callback payloadRef =
            .ok ((taskButtons task).command decision callback payloadRef) ∧
          validateTaskConfirmationPayload task.taskPayload
            ((taskButtons task).command decision callback payloadRef) = .ok ()
  setup : ∃ owner ownerIdType, SentBy intake owner ownerIdType ∧
    ReadBack (setupRequiredCard original intake) [.openai, .deepseek] (setupValue original intake)
      .modelProfileSetup (ReadsSetup crypto lib original intake owner ownerIdType)

/-- Whatever the message, its sender and the proposal, the cards and the parsers agree. -/
theorem cards_agree {crypto : Crypto} {original : VerifiedFeishuCallback}
    {intake : FeishuTaskIntake} (lib : UrlLibrary)
    (htenant : original.tenantKey = eventTenantKey original.payload)
    (hintake : parseTaskIntake crypto original.payload original.tenantKey = .ok intake)
    (hsender : intake.modelOwnerUserId.isSome = true) : CardsAgree crypto lib original intake where
  approval _ _ _ request _ _ _ hproposed := approvalCard_readBack
    (by exact proposeBusinessAction_key_ne hproposed)
  confirmation task _ := taskCard_readBack task
  setup := by
    obtain ⟨owner, ownerIdType, hsent⟩ := sentBy_of_parse hintake hsender
    exact ⟨owner, ownerIdType, hsent, setupCard_readBack lib htenant hintake hsent⟩

def setupMessage : VerifiedFeishuCallback :=
  { setupCallback with
    payload := setupEvent
    eventType := "im.message.receive_v1" }

theorem cards_agree_setupMessage :
    ∃ intake, parseTaskIntake .plain setupEvent none = .ok intake ∧
      CardsAgree .plain deepseekUrls setupMessage intake := by
  have hread : ((parseTaskIntake .plain setupEvent none).toOption.any fun intake =>
      intake.modelOwnerUserId.isSome) = true := by
    decide +kernel
  obtain ⟨intake, hintake, hsender⟩ := Option.any_eq_true _ _ |>.mp hread
  have hintake := Except.toOption_eq_some.mp hintake
  exact ⟨intake, hintake, cards_agree deepseekUrls (by decide +kernel) hintake hsender⟩

end Headhunt.Graphs
