import Headhunt.Feishu.Callbacks
import Headhunt.Feishu.Cards
import Headhunt.Lib.Result
import Headhunt.Policy.Engine

/-! A Feishu message as a task: `parse_task_intake`, and the refs and keys under which the
task is stored. -/
namespace Headhunt.Feishu
open Headhunt.Policy Headhunt.Storage Py

inductive ParserStatus
  | notRun
  | llmParsed
  | ruleParsed
  | ruleParsedAfterLlmFailed
  | llmFailed
deriving DecidableEq, Repr

def ParserStatus.value : ParserStatus → String
  | .notRun => "not_run"
  | .llmParsed => "llm_parsed"
  | .ruleParsed => "rule_parsed"
  | .ruleParsedAfterLlmFailed => "rule_parsed_after_llm_failed"
  | .llmFailed => "llm_failed"

structure FeishuTaskIntake where
  requestText : String
  chatId : String
  sourceRef : String
  threadId : UUID
  taskId : UUID
  tenantKey : Option String
  messageId : Option String
  senderOpenId : Option String
  senderUserId : Option String
  senderUnionId : Option String
  fieldSources : List Dict
  missingFields : List String
  assumptions : List String
  structuredFields : Dict
  parserStatus : ParserStatus
  parserError : Option String
deriving DecidableEq

/-- A text is falsy when it is missing or empty. -/
def nonemptyText (text : Option String) : Option String := text.filter (· ≠ "")

theorem firstStr_optionalText (text : Option String) :
    firstStr [optionalText text] = nonemptyText text := by
  cases text <;> simp [firstStr, optionalText, nonemptyText, Json.asStr]

theorem firstStr_ne {values : List Json} {text : String} (h : firstStr values = some text) :
    text ≠ "" := by
  obtain ⟨v, _, hv⟩ := List.exists_of_findSome?_eq_some h
  simpa using (Option.filter_eq_some_iff.mp hv).2

namespace FeishuTaskIntake

variable (intake : FeishuTaskIntake)

/-- `sender_open_id or sender_user_id or sender_union_id`. -/
def modelOwnerUserId : Option String :=
  ((nonemptyText intake.senderOpenId).or (nonemptyText intake.senderUserId)).or intake.senderUnionId

def modelOwnerIdType : Option String :=
  if (nonemptyText intake.senderOpenId).isSome then some "open_id"
  else if (nonemptyText intake.senderUserId).isSome then some "user_id"
  else if (nonemptyText intake.senderUnionId).isSome then some "union_id"
  else none

def modelGuildId : String := intake.chatId

end FeishuTaskIntake

/-- A `ValueError` with its text, or the `AttributeError` of a message text that is JSON of
another type than an object. -/
inductive IntakeError
  | valueError (message : String)
  | attributeError (typeName : String)
deriving DecidableEq

def contentText (keys : List String) : Json → Except IntakeError (Option String)
  | .obj content => .ok (firstStr (keys.map (Dict.get content)))
  | parsed => .error (.attributeError parsed.typeName)

def extractMessageText (message : Dict) : Except IntakeError String :=
  match message.get "content" with
  | .str content =>
    match loads content with
    | .error .decode => .ok content
    | .error .value => .error (.valueError "Exceeds the limit for integer string conversion")
    | .ok parsed => (contentText ["text", "title", "content"] parsed).map (·.getD content)
  | .obj content => .ok ((firstStr (["text", "title", "content"].map (Dict.get content))).getD "")
  | _ => .ok ""

def senderId (event : Dict) : Dict := ((event.get "sender").asDict.get "sender_id").asDict

section Refs

variable (crypto : Crypto)

def optionalStr (text : Option String) : String := text.getD "None"

def buildSourceRef (tenantKey : Option String) (chatId : String) (messageId : Option String)
    (requestText : String) : String :=
  let tenant := (nonemptyText tenantKey).getD "unknown_tenant"
  let message := (nonemptyText messageId).getD
    (uuid5 crypto s!"{optionalStr tenantKey}:{chatId}:{requestText}").str
  s!"feishu://message/{tenant}/{chatId}/{message}"

def feishuThreadId (sourceRef : String) : UUID :=
  uuid5 crypto s!"lietou:feishu-task-thread:{sourceRef}"

def feishuTaskId (sourceRef : String) : UUID := uuid5 crypto s!"lietou:feishu-task:{sourceRef}"

def taskPayloadRef (threadId taskId : UUID) : String :=
  s!"artifact://feishu-task-intake/{threadId.str}/{taskId.str}/v1"

def taskConfirmationCardRef (threadId taskId : UUID) : String :=
  s!"artifact://feishu-card/task-confirmation/{threadId.str}/{taskId.str}/v1"

def profileRefId (sourceRef : String) (modelProfileId : UUID) : String :=
  (uuid5 crypto s!"{sourceRef}:{modelProfileId.str}").str

def taskParseFailedCardRef (sourceRef : String) (modelProfileId : UUID) : String :=
  s!"artifact://feishu-card/task-parse-failed/{profileRefId crypto sourceRef modelProfileId}"

def taskConfirmationPrepareRef (sourceRef : String) (modelProfileId : UUID) : String :=
  s!"artifact://feishu-task-confirmation-prepare/{profileRefId crypto sourceRef modelProfileId}"

/-- The card of a task; its ids are made of the source ref. -/
def taskCard (sourceRef : String) : TaskCard :=
  let threadId := feishuThreadId crypto sourceRef
  let taskId := feishuTaskId crypto sourceRef
  ⟨threadId, taskId, taskPayloadRef threadId taskId, sourceRef⟩

def modelSetupCardRef (sourceRef : String) : String :=
  s!"artifact://feishu-card/model-setup/{(uuid5 crypto sourceRef).str}"

theorem buildSourceRef_ne (tenantKey : Option String) (chatId : String)
    (messageId : Option String) (requestText : String) :
    buildSourceRef crypto tenantKey chatId messageId requestText ≠ "" := by
  intro h
  have hlist := congrArg String.toList h
  unfold buildSourceRef at hlist
  simp only [ToString.toString, String.toList_append] at hlist
  cases hlist

end Refs

def taskTypeKeywords : List String := ["岗位", "候选人", "人才地图", "报告", "复盘"]

def missingFieldsOf (requestText : String) : List String :=
  (if requestText.length < 20 then ["任务目标或岗位/候选人背景不足"] else []) ++
    (if containsAny requestText taskTypeKeywords then [] else ["任务类型需要用户确认"])

def triageAssumption : String := "输入信息不足时先进入 triage，会通过飞书卡片追问缺失字段。"

def oneDouble : Double := .finite false (2 ^ 52) (-52)

def zeroDouble : Double := .finite false 0 (-1074)

def parseTaskIntake (crypto : Crypto) (payload : Dict) (tenantKey : Option String) :
    Except IntakeError FeishuTaskIntake := do
  let header := (payload.get "header").asDict
  match dictOrNone (payload.get "event") with
  | none => .error (.valueError "Feishu task intake requires event payload")
  | some event =>
    match dictOrNone (event.get "message") with
    | none => .error (.valueError "Feishu task intake requires event.message")
    | some message =>
      match firstStr [message.get "chat_id", event.get "open_chat_id"] with
      | none => .error (.valueError "Feishu task intake requires message.chat_id")
      | some chatId => do
        let messageId := firstStr [message.get "message_id", event.get "message_id"]
        let requestText := strip (← extractMessageText message)
        let tenant := (nonemptyText tenantKey).or
          (firstStr [header.get "tenant_key", event.get "tenant_key"])
        let sourceRef := buildSourceRef crypto tenant chatId messageId requestText
        let sender := senderId event
        let missing := missingFieldsOf requestText
        .ok
          { requestText := requestText
            chatId := chatId
            sourceRef := sourceRef
            threadId := feishuThreadId crypto sourceRef
            taskId := feishuTaskId crypto sourceRef
            tenantKey := tenant
            messageId := messageId
            senderOpenId := firstStr [sender.get "open_id"]
            senderUserId := firstStr [sender.get "user_id"]
            senderUnionId := firstStr [sender.get "union_id"]
            fieldSources := [Dict.ofList
              [("field", .str "request_text"), ("source", .str "feishu.event.message.content"),
                ("confidence", .float (if requestText = "" then zeroDouble else oneDouble))]]
            missingFields := missing
            assumptions := if missing = [] then [] else [triageAssumption]
            structuredFields := []
            parserStatus := .notRun
            parserError := none }

end Headhunt.Feishu
