import Headhunt.Feishu.TaskConfirmation
import Headhunt.Feishu.TaskPreparation
import Headhunt.Graphs.State

/-! `LangGraphOutboxHandler.dispatch_graph`: the stored payload as the input of a graph run. -/
namespace Headhunt.Runtime
open Headhunt.Feishu Headhunt.Graphs Headhunt.ModelProfiles Headhunt.Policy Headhunt.Storage Py

/-- `_extract_message_text` of this module: only `text` and `content` are looked at. -/
def extractEventText (message : Dict) : Except String String :=
  let plain := (firstStr [message.get "text", message.get "content"]).getD ""
  match message.get "content" with
  | .str content =>
    match loads content with
    | .error .decode => .ok content
    | .error .value => .error "ValueError"
    | .ok (.obj parsed) =>
      .ok ((firstStr [Dict.get parsed "text", Dict.get parsed "content"]).getD "")
    | .ok _ => .ok plain
  | _ => .ok plain

def taskInitialState (payload : Dict) (threadId userInput : String) : InitialState where
  threadId := threadId
  source := (firstStr [payload.get "source"]).getD "runtime"
  sourceRef := (firstStr [payload.get "source_ref"]).getD "unknown"
  userInput := userInput
  task := some
    { taskType := (firstStr [payload.get "task_type"]).getD "unknown"
      councilMode := firstStr [payload.get "council_mode"]
      modeReason := firstStr [payload.get "mode_reason"]
      modelProfileId := firstStr [payload.get "model_profile_id"]
      modelOwnerUserId := firstStr [payload.get "model_owner_user_id"]
      modelGuildId := firstStr [payload.get "model_guild_id"]
      modelTenantId := firstStr [payload.get "model_tenant_id"]
      embeddingProfileId := firstStr [payload.get "embedding_profile_id"] }

def eventInitialState (crypto : Crypto) (payload : Dict) : Except String InitialState := do
  let header := (payload.get "header").asDict
  let event := (payload.get "event").asDict
  let message := (event.get "message").asDict
  let senderId := ((event.get "sender").asDict.get "sender_id").asDict
  let eventType := firstStr
    [header.get "event_type", payload.get "event_type", payload.get "type"]
  let eventId := firstStr [header.get "event_id", payload.get "event_id", payload.get "uuid"]
  let messageId := firstStr [message.get "message_id", message.get "open_message_id"]
  let sourceRef := (messageId.or eventId).getD "unknown"
  let text ← extractEventText message
  let eventName := eventType.getD "unknown"
  .ok
    { threadId := (uuid5 crypto s!"feishu:{sourceRef}").str
      source := "feishu"
      sourceRef := sourceRef
      userInput := if text = "" then s!"飞书事件：{eventName}" else text
      feishuContext := some (Dict.ofList
        [("event_type", optionalText eventType), ("event_id", optionalText eventId),
          ("message_id", optionalText messageId),
          ("chat_id", optionalText (firstStr [message.get "chat_id", event.get "chat_id"])),
          ("open_id", optionalText (firstStr [senderId.get "open_id", event.get "open_id"]))]) }

def feishuPayloadToInitialState (crypto : Crypto) (payload : Dict) : Except String InitialState :=
  match firstStr [payload.get "thread_id"], firstStr [payload.get "user_input"] with
  | some threadId, some userInput => .ok (taskInitialState payload threadId userInput)
  | _, _ => eventInitialState crypto payload

def intakeNotReady : String :=
  "Feishu graph_dispatch requires TaskIntakeParser double check and user BYOK " ++
    "profile scope before invoking the runtime graph"

/-- The scope of the user's model, which a raw event never has. -/
def hasModelScope (input : InitialState) : Bool :=
  match input.task with
  | some task =>
    task.modelProfileId.isSome && task.modelOwnerUserId.isSome && task.modelGuildId.isSome
  | none => false

def requireFeishuTaskIntakeReady (input : InitialState) : Except String Unit :=
  if input.source ≠ "feishu" then .ok ()
  else if hasModelScope input then .ok ()
  else .error intakeNotReady

/-- The input `dispatch_graph` invokes the graph with. -/
def dispatchInput (crypto : Crypto) (payload : Dict) : Except String InitialState := do
  let input ← feishuPayloadToInitialState crypto payload
  requireFeishuTaskIntakeReady input
  match UUID.parse input.threadId with
  | some _ => .ok input
  | none => .error (UUID.errorText input.threadId)

theorem firstStr_str {text : String} (h : text ≠ "") : firstStr [.str text] = some text :=
  firstStr_singleton_eq_some.mpr ⟨rfl, h⟩

theorem str_ne_nil (id : UUID) : id.str ≠ "" := by
  intro h
  have hlength := UUID.length_str id
  rw [h] at hlength
  cases hlength

/-- A task that was read from a Feishu message and confirmed by its card. -/
structure ConfirmedTask (crypto : Crypto) where
  event : Dict
  tenantKey : Option String
  intake : FeishuTaskIntake
  parsed : FeishuTaskIntake
  fresh : FreshPlan
  plan : TaskPlan
  modelProfileId : UUID
  embeddingProfileId : Option UUID
  operatorOpenId : Option String
  authorizedAt : String
  read : parseTaskIntake crypto event tenantKey = .ok intake
  parsedFrom : ParsedFrom intake parsed
  owner : truthyText parsed.modelOwnerUserId = true
  planned : confirmablePlan parsed fresh = .ok plan

theorem classifyTask_ne (text : String) : classifyTask text ≠ "" := by
  unfold classifyTask
  split_ifs <;> decide

theorem selectCouncil_reason_ne (text : String) : (selectCouncil text).reason ≠ "" := by
  unfold selectCouncil
  split_ifs <;> decide

theorem councilMode_value_ne (mode : CouncilMode) : mode.value ≠ "" := by
  cases mode <;> decide

namespace ConfirmedTask

variable {crypto : Crypto} (task : ConfirmedTask crypto)

def chatId : String := task.intake.chatId

def taskPayload : Dict :=
  buildGraphDispatchPayload task.parsed task.plan task.modelProfileId task.embeddingProfileId

def dispatchPayload : Dict :=
  authorizedTaskPayload task.taskPayload task.operatorOpenId task.authorizedAt

theorem get_dispatchPayload {key : String} (hkey : key ≠ "authorization") :
    task.dispatchPayload.get key = task.taskPayload.get key :=
  Dict.get_set_ne _ _ hkey

def taskFields : Dict :=
  [("thread_id", .str task.plan.threadId.str), ("source", .str "feishu"),
    ("source_ref", .str task.parsed.sourceRef), ("user_input", .str task.plan.requestText),
    ("task_type", .str task.plan.taskType), ("council_mode", .str task.plan.councilMode.value),
    ("mode_reason", .str task.plan.modeReason), ("model_profile_id", .str task.modelProfileId.str),
    ("model_owner_user_id", optionalText task.parsed.modelOwnerUserId),
    ("model_guild_id", .str task.parsed.modelGuildId),
    ("model_tenant_id", optionalText task.parsed.tenantKey),
    ("embedding_profile_id", optionalText (task.embeddingProfileId.map UUID.str))]

theorem get_taskFields {key : String} {v : Json} (h : (key, v) ∈ task.taskFields) :
    task.dispatchPayload.get key = v := by
  have hkey : key ≠ "authorization" := by
    rintro rfl
    simp [taskFields] at h
  rw [get_dispatchPayload task hkey]
  refine Dict.get_ofList_of_mem (by simp) ?_
  simp only [taskFields, List.mem_cons, List.not_mem_nil, or_false] at h ⊢
  tauto

/-- The plan is that of the text in the payload, under the ids of the task. -/
theorem plan_eq : task.plan.requestText ≠ "" ∧ task.plan.threadId = task.parsed.threadId ∧
    task.plan.taskType = classifyTask task.plan.requestText ∧
    task.plan.councilMode = (selectCouncil task.plan.requestText).mode ∧
    task.plan.modeReason = (selectCouncil task.plan.requestText).reason ∧
    task.plan.requiredAgents = (selectCouncil task.plan.requestText).requiredAgents ∧
    task.plan.optionalAgents = (selectCouncil task.plan.requestText).optionalAgents := by
  obtain ⟨hplan, hthread, _⟩ := confirmablePlan_eq_ok task.planned
  unfold FeishuTaskIntake.createTaskPlan at hplan
  split_ifs at hplan with hne
  rw [← Option.some.inj hplan] at hthread ⊢
  exact ⟨hne, hthread, rfl, rfl, rfl, rfl, rfl⟩

theorem refs_ne : task.parsed.sourceRef ≠ "" ∧ task.chatId ≠ "" ∧
    task.parsed.chatId = task.chatId := by
  obtain ⟨fields, status, parserError, source, _, hparsed⟩ := task.parsedFrom
  have hread := task.read
  rw [hparsed]
  change task.intake.sourceRef ≠ "" ∧ task.intake.chatId ≠ "" ∧
    task.intake.chatId = task.intake.chatId
  unfold parseTaskIntake at hread
  split at hread
  · cases hread
  · split at hread
    · cases hread
    · split at hread
      · cases hread
      · rename_i chatId hchat
        obtain ⟨text, _, hread⟩ := Except.bind_eq_ok.mp hread
        rw [← Except.ok.inj hread]
        exact ⟨buildSourceRef_ne _ _ _ _ _, firstStr_ne hchat, rfl⟩

/-- The thread, the text and the model scope of the task; the chat is not among them. -/
def input : InitialState where
  threadId := task.plan.threadId.str
  source := "feishu"
  sourceRef := task.parsed.sourceRef
  userInput := task.plan.requestText
  task := some
    { taskType := task.plan.taskType
      councilMode := some task.plan.councilMode.value
      modeReason := some task.plan.modeReason
      modelProfileId := some task.modelProfileId.str
      modelOwnerUserId := nonemptyText task.parsed.modelOwnerUserId
      modelGuildId := some task.parsed.modelGuildId
      modelTenantId := nonemptyText task.parsed.tenantKey
      embeddingProfileId := task.embeddingProfileId.map UUID.str }

/-- The queued item is accepted, and its run invoked with that input. -/
theorem dispatchInput_eq : dispatchInput crypto task.dispatchPayload = .ok task.input := by
  obtain ⟨hrequest, _, htype, hmode, hreason, _, _⟩ := task.plan_eq
  obtain ⟨hsource, hchatId, hchat⟩ := task.refs_ne
  have hguild : task.parsed.modelGuildId ≠ "" := by
    rw [FeishuTaskIntake.modelGuildId, hchat]
    exact hchatId
  have htext : ∀ key (text : String), (key, .str text) ∈ task.taskFields → text ≠ "" →
      firstStr [task.dispatchPayload.get key] = some text := by
    intro key text hmem hne
    rw [task.get_taskFields hmem, firstStr_str hne]
  have hoptional : ∀ key (text : Option String), (key, optionalText text) ∈ task.taskFields →
      firstStr [task.dispatchPayload.get key] = nonemptyText text := by
    intro key text hmem
    rw [task.get_taskFields hmem, firstStr_optionalText]
  have htypes : task.plan.taskType ≠ "" := by
    rw [htype]
    exact classifyTask_ne _
  have hreasons : task.plan.modeReason ≠ "" := by
    rw [hreason]
    exact selectCouncil_reason_ne _
  have hembedding : nonemptyText (task.embeddingProfileId.map UUID.str) =
      task.embeddingProfileId.map UUID.str := by
    cases task.embeddingProfileId <;> simp [nonemptyText, str_ne_nil]
  have hstate : feishuPayloadToInitialState crypto task.dispatchPayload = .ok task.input := by
    unfold feishuPayloadToInitialState taskInitialState
    rw [htext "thread_id" task.plan.threadId.str (by simp [taskFields]) (str_ne_nil _),
      htext "user_input" task.plan.requestText (by simp [taskFields]) hrequest,
      htext "source" "feishu" (by simp [taskFields]) (by decide),
      htext "source_ref" task.parsed.sourceRef (by simp [taskFields]) hsource,
      htext "task_type" task.plan.taskType (by simp [taskFields]) htypes,
      htext "council_mode" task.plan.councilMode.value (by simp [taskFields])
        (councilMode_value_ne _),
      htext "mode_reason" task.plan.modeReason (by simp [taskFields]) hreasons,
      htext "model_profile_id" task.modelProfileId.str (by simp [taskFields]) (str_ne_nil _),
      hoptional "model_owner_user_id" task.parsed.modelOwnerUserId (by simp [taskFields]),
      htext "model_guild_id" task.parsed.modelGuildId (by simp [taskFields]) hguild,
      hoptional "model_tenant_id" task.parsed.tenantKey (by simp [taskFields]),
      hoptional "embedding_profile_id" (task.embeddingProfileId.map UUID.str)
        (by simp [taskFields]), hembedding]
    rfl
  have hscope : hasModelScope task.input = true := by
    have howner : (nonemptyText task.parsed.modelOwnerUserId).isSome = true := task.owner
    simp [hasModelScope, input, howner]
  have hready : requireFeishuTaskIntakeReady task.input = .ok () := by
    simp [requireFeishuTaskIntakeReady, hscope]
  unfold dispatchInput
  simp only [hstate, hready, bind, Except.bind]
  simp [input, UUID.parse_str]

end ConfirmedTask
end Headhunt.Runtime
