import Headhunt.Feishu.TaskParsing

/-! The cards a prepared task is answered with: the confirmation card, or the one that
says the task could not be parsed. -/
namespace Headhunt.Feishu
open Headhunt.Policy Headhunt.Storage Py

def structuredTaskLines (fields : Dict) (fallback : String) : String :=
  let lines := textFields.filterMap (textLine fields) ++ listFields.filterMap (listLine fields)
  if lines = [] then fallback else "\n".intercalate (lines.map fun line => s!"- {line}")

/-- The status line of a task that has been parsed; the other statuses get no card. -/
def parserStatusLine (status : ParserStatus) (error : Option String) : String :=
  let error := (nonemptyText error).getD "unknown"
  match status with
  | .llmParsed => "大模型已完成结构化解析"
  | .ruleParsed => "已使用字段规则完成结构化解析"
  | .ruleParsedAfterLlmFailed => s!"大模型 JSON 解析失败，已使用字段规则解析：{error}"
  | .llmFailed => s!"大模型解析失败，未启动任务：{error}"
  | .notRun => "未运行大模型解析"

/-- A value in an f-string. Field sources hold texts and floats. -/
def formatValue : Json → String
  | .null => "None"
  | .bool b => if b then "True" else "False"
  | .str s => s
  | value => dumps {} value

def fieldSourceLine (item : Dict) : String :=
  "- " ++ formatValue (item.get "field") ++ ": " ++ formatValue (item.get "source") ++
    " / confidence=" ++ formatValue (item.get "confidence")

def linesOrNone (lines : List String) : String :=
  if lines = [] then "无" else "\n".intercalate lines

def plainLines (items : List String) : String := linesOrNone (items.map fun item => s!"- {item}")

def taskConfirmationText (intake : FeishuTaskIntake) (plan : TaskPlan) : String := cardText
  [cardSection "thread_id" plan.threadId.str, cardSection "任务类型" plan.taskType,
    cardSection "会审模式" plan.councilMode.value, cardSection "模式原因" plan.modeReason,
    cardSection "结构化任务" (structuredTaskLines intake.structuredFields plan.requestText),
    cardSection "原始任务"
      (if intake.requestText = "" then plan.requestText else intake.requestText),
    cardSection "解析状态" (parserStatusLine intake.parserStatus intake.parserError),
    cardSection "字段来源" (linesOrNone (intake.fieldSources.map fieldSourceLine)),
    cardSection "缺失字段" (plainLines intake.missingFields),
    cardSection "系统假设" (plainLines intake.assumptions)]

def confirmationButtons (intake : FeishuTaskIntake) (plan : TaskPlan) : TaskCard :=
  ⟨plan.threadId, plan.taskId, taskPayloadRef plan.threadId plan.taskId, intake.sourceRef⟩

/-- `build_task_confirmation_card` for a parsed task and its plan. -/
def buildTaskConfirmationCard (intake : FeishuTaskIntake) (plan : TaskPlan) : Dict :=
  let buttons := confirmationButtons intake plan
  baseCard "请确认猎头任务" "blue" (taskConfirmationText intake plan)
    [.obj (button "确认并开始" "primary" (buttons.value .approve)),
      .obj (button "拒绝" "danger" (buttons.value .reject))]

def textOr (text fallback : String) : String := if text = "" then fallback else text

def buildTaskParseFailedCard (threadId : UUID) (sourceRef modelLabel errorSummary : String) : Dict :=
  baseCard "任务解析失败" "red" (cardText
    [cardSection "thread_id" threadId.str, cardSection "source_ref" sourceRef,
      cardSection "模型" (textOr modelLabel "unknown"),
      cardSection "错误摘要" (textOr errorSummary "unknown"),
      "系统没有启动任务，也没有生成确认按钮。请检查模型名称、Base URL、API Key 后，" ++
        "重新在群里 @ 机器人发送任务。"]) []

end Headhunt.Feishu
