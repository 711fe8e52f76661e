import Headhunt.Lib.PyText

/-! `PolicyEngine`: which council a request gets. -/
namespace Headhunt.Policy
open Py

inductive CouncilMode
  | triage
  | lite
  | standard
  | fullCouncil
deriving DecidableEq, Repr

def CouncilMode.value : CouncilMode → String
  | .triage => "triage"
  | .lite => "lite"
  | .standard => "standard"
  | .fullCouncil => "full_council"

/-- A request with `min_length=1` of its text. -/
structure CouncilDeliberateRequest where
  requestText : String
  source : String
  threadId : Option UUID
  nonempty : requestText ≠ ""

structure TaskPlan where
  taskId : UUID
  threadId : UUID
  requestText : String
  taskType : String
  councilMode : CouncilMode
  modeReason : String
  requiredAgents : List String
  optionalAgents : List String
  userForcedFullCouncil : Bool
  allowedGateways : List String
  tokenBudget : Nat
deriving DecidableEq

def fullCouncilTriggers : List String := ["三省六部", "完整会审", "全量会审", "full council"]

def highRiskTerms : List String := ["外部触达", "推荐结论", "批量", "敏感", "联系方式"]

def triageAgents : List String :=
  ["IntentRouterAgent", "ComplianceRiskAgent", "CouncilSynthesizerAgent"]

def liteAgents : List String :=
  ["IntentRouterAgent", "StrategyDraftAgent", "ComplianceRiskAgent", "CouncilSynthesizerAgent"]

def standardAgents : List String :=
  ["IntentRouterAgent", "StrategyDraftAgent", "ComplianceRiskAgent", "ChallengeReviewAgent",
    "CouncilSynthesizerAgent"]

def fullCouncilAgents : List String :=
  ["CandidateJudgementAgent", "MarketCompAgent", "OutreachValueAgent", "SourcingMappingAgent",
    "ComplianceRiskAgent", "DataAutomationAgent", "ChallengeReviewAgent",
    "CouncilSynthesizerAgent"]

/-- `any(term in text for term in terms)`. -/
def containsAny (text : String) (terms : List String) : Bool := terms.any (contains text)

def classifyTask (text : String) : String :=
  if containsAny text ["人才地图", "Mapping", "mapping"] then "talent_mapping"
  else if containsAny text ["新建岗位", "岗位校准"] then "requisition_calibration"
  else if containsAny text ["候选人", "筛选"] then "candidate_screening"
  else if containsAny text ["报告", "话术"] then "report_draft"
  else if containsAny text ["复盘", "记忆"] then "review"
  else "requisition_calibration"

/-- The council of a text: its mode, the reason, and the agents. -/
structure Council where
  mode : CouncilMode
  reason : String
  requiredAgents : List String
  optionalAgents : List String

def selectCouncil (text : String) : Council :=
  if containsAny text fullCouncilTriggers then
    ⟨.fullCouncil, "用户明确要求三省六部或完整会审", fullCouncilAgents, []⟩
  else if (strip text).length < 20 then
    ⟨.triage, "输入信息不足，先快速分流和追问", triageAgents, ["StrategyDraftAgent"]⟩
  else if containsAny text highRiskTerms then
    ⟨.standard, "任务涉及较高风险动作，加入挑战和合规审查", standardAgents,
      ["DataAutomationAgent", "SourcingMappingAgent"]⟩
  else
    ⟨.lite, "简单或常规任务，使用 lite 会审以降低 token 消耗", liteAgents,
      ["SourcingMappingAgent"]⟩

structure FreshPlan where
  taskId : UUID
  threadId : UUID

def createTaskPlan (fresh : FreshPlan) (request : CouncilDeliberateRequest) : TaskPlan :=
  let council := selectCouncil request.requestText
  { taskId := fresh.taskId
    threadId := request.threadId.getD fresh.threadId
    requestText := request.requestText
    taskType := classifyTask request.requestText
    councilMode := council.mode
    modeReason := council.reason
    requiredAgents := council.requiredAgents
    optionalAgents := council.optionalAgents
    userForcedFullCouncil := containsAny request.requestText fullCouncilTriggers
    allowedGateways := ["ArtifactStore", "MemoryGateway", "LLMGateway", "FeishuGateway"]
    tokenBudget := 8000 }

/-- The full council is the mode of the forced plans and of no others. -/
theorem selectCouncil_mode_iff (text : String) :
    (selectCouncil text).mode = .fullCouncil ↔ containsAny text fullCouncilTriggers = true := by
  unfold selectCouncil
  split_ifs <;> simp_all

theorem selectCouncil_of_forced {text : String}
    (h : containsAny text fullCouncilTriggers = true) :
    selectCouncil text =
      ⟨.fullCouncil, "用户明确要求三省六部或完整会审", fullCouncilAgents, []⟩ := by
  simp [selectCouncil, h]

end Headhunt.Policy
