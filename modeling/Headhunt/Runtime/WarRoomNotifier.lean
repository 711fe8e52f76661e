import Headhunt.Feishu.Cards
import Headhunt.Feishu.TaskCards
import Headhunt.Runtime.ActionGate

/-! `WarRoomNotifier`: which cards the runtime queues, and the chat each of them is sent to. -/
namespace Headhunt.Runtime
open Headhunt.Feishu Headhunt.Storage Py

/-- The arguments of an `enqueue_json`. -/
structure CardSend where
  kind : OutboxKind
  idempotencyKey : String
  threadId : UUID
  payload : Dict

structure WarRoomNotifier where
  defaultChatId : Option String

/-- `_artifact_line` of a dumped artifact. -/
def artifactLine (item : Json) : String :=
  let kind := formatValue (item.asDict.get "kind")
  let summary := formatValue (item.asDict.get "summary")
  let contentRef := formatValue (item.asDict.get "content_ref")
  s!"- {kind}: {summary} ({contentRef})"

def artifactLines (artifactRefs : List Json) : String :=
  "\n".intercalate (artifactRefs.map artifactLine)

/-- What an agent has to show after its run; the lines of the memories and of the SOPs are there
already. -/
structure AgentRunReport where
  agentName : String
  councilMode : String
  modeReason : String
  nodeGoal : String
  outputSummary : String
  tokenEstimate : Nat
  requiresHumanConfirmation : Bool
  artifactRefs : List Json
  memoryLines : List String
  sopLines : List String

def linesSection (label : String) (lines : List String) : List String :=
  if lines = [] then [] else [cardSection label ("\n".intercalate lines)]

def buildAgentRunCard (threadId : UUID) (report : AgentRunReport) : Dict :=
  baseCard s!"{report.agentName} 运行结果" "blue" (cardText
    ([cardSection "thread_id" threadId.str, cardSection "会审模式" report.councilMode,
      cardSection "模式原因" report.modeReason, cardSection "Agent" report.agentName,
      cardSection "任务目标" report.nodeGoal, cardSection "关键结论" report.outputSummary,
      cardSection "token 估算" (toString report.tokenEstimate),
      cardSection "需要人工确认" (if report.requiresHumanConfirmation then "是" else "否")] ++
      linesSection "artifact_refs" (report.artifactRefs.map artifactLine) ++
      linesSection "memory_refs" report.memoryLines ++
      linesSection "sop_refs" report.sopLines)) []

/-- What an approval card shows, and what its buttons send back. -/
structure ApprovalAsked where
  threadId : UUID
  interruptId : UUID
  actionId : UUID
  idempotencyKey : String
  payloadRef : Option String
  actionType : String
  payloadSummary : String
  councilMode : String
  modeReason : String
  artifactRefs : List Json

def approvalAsked (request : ProposeRequest) (proposal : ProposedAction)
    (councilMode modeReason : String) : ApprovalAsked where
  threadId := request.threadId
  interruptId := proposal.interruptId
  actionId := proposal.actionId
  idempotencyKey := request.idempotencyKey
  payloadRef := some proposal.payloadRef
  actionType := request.actionType
  payloadSummary := request.payloadSummary
  councilMode := councilMode
  modeReason := modeReason
  artifactRefs := request.artifactRefs

def buildApprovalCard (asked : ApprovalAsked) : Dict :=
  let value := approvalCardValue asked.threadId asked.interruptId asked.actionId
    asked.idempotencyKey asked.payloadRef
  baseCard "需要人工确认" "red" (cardText
    [cardSection "thread_id" asked.threadId.str, cardSection "会审模式" asked.councilMode,
      cardSection "模式原因" asked.modeReason, cardSection "动作类型" asked.actionType,
      cardSection "摘要" asked.payloadSummary,
      cardSection "artifact_refs"
        (if asked.artifactRefs = [] then "无" else artifactLines asked.artifactRefs)])
    [.obj (button "批准执行" "primary" (value .approve)),
      .obj (button "拒绝" "danger" (value .reject))]

namespace WarRoomNotifier

variable (notifier : WarRoomNotifier)

/-- `chat_id or self.default_chat_id`. -/
def resolvedChatId (chatId : Json) : Json := chatId.orElse (optionalText notifier.defaultChatId)

/-- A card for a chat; without a chat nothing is queued. -/
def enqueueCard (chatId : Json) (idempotencyKey : String) (threadId : UUID) (card : Dict) :
    Option CardSend :=
  let resolved := notifier.resolvedChatId chatId
  if resolved.truthy then some
    { kind := .cardSend
      idempotencyKey := idempotencyKey
      threadId := threadId
      payload := Dict.ofList [("chat_id", resolved), ("card", .obj card)] }
  else none

def enqueueAgentRunCard (threadId runId : UUID) (report : AgentRunReport)
    (chatId : Option String) : Option CardSend :=
  notifier.enqueueCard (optionalText chatId) s!"{threadId.str}:agent_run:{runId.str}:card" threadId
    (buildAgentRunCard threadId report)

def enqueueApprovalCard (asked : ApprovalAsked) (chatId : Json) : Option CardSend :=
  notifier.enqueueCard chatId s!"{asked.threadId.str}:approval:{asked.actionId.str}:card"
    asked.threadId (buildApprovalCard asked)

/-- The chat of a card that is queued is the one given, else the default one. -/
theorem enqueueCard_eq_some {chatId : Json} {idempotencyKey : String} {threadId : UUID}
    {card : Dict} {send : CardSend}
    (h : notifier.enqueueCard chatId idempotencyKey threadId card = some send) :
    send.payload.get "chat_id" = notifier.resolvedChatId chatId ∧
      (notifier.resolvedChatId chatId).truthy = true := by
  unfold enqueueCard at h
  dsimp only at h
  split_ifs at h with hchat
  obtain rfl := Option.some.inj h
  refine ⟨?_, hchat⟩
  simp [Dict.get_ofList, Dict.get_cons]

theorem enqueueCard_isSome {chatId : Json} {idempotencyKey : String} {threadId : UUID}
    {card : Dict} :
    (notifier.enqueueCard chatId idempotencyKey threadId card).isSome ↔
      (notifier.resolvedChatId chatId).truthy = true := by
  unfold enqueueCard
  dsimp only
  split_ifs with hchat <;> simp [hchat]

/-- Without a chat of its own a card goes to the default chat, or nowhere. -/
theorem resolvedChatId_null :
    notifier.resolvedChatId .null = optionalText notifier.defaultChatId := rfl

theorem truthy_optionalText (text : Option String) :
    (optionalText text).truthy = true ↔ ∃ s, s ≠ "" ∧ text = some s := by
  cases text with
  | none => simp [optionalText, Json.truthy]
  | some s => simp [optionalText, Json.truthy]

end WarRoomNotifier
end Headhunt.Runtime
