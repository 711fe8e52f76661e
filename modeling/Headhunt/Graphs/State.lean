import Headhunt.Lib.PyBytes
import Headhunt.Policy.Engine
import Headhunt.Runtime.ReviewGate

/-! `RecruitmentState`: the channels of the War Room graph, and the artifact it is about. -/
namespace Headhunt.Graphs
open Headhunt.Policy Headhunt.Runtime Py

structure CouncilDecision where
  decisionId : UUID
  intentSummary : String
  recommendedBusinessSubgraph : String
  nextQuestions : List String

/-- A review as the graph keeps it. -/
structure StoredReview where
  result : ReviewGateResult
  reviewedAt : String

/-- The channels; `artifacts`, `memoryRefs`, `departmentOpinions` and `errors` are appended to.
A missing channel and one that holds `None` are one value. -/
structure RecruitmentState where
  threadId : String
  source : Option String := none
  sourceRef : Option String := none
  taskType : Option String := none
  userInput : Option String := none
  feishuContext : Json := .null
  modelProfileId : Option String := none
  modelOwnerUserId : Option String := none
  modelGuildId : Option String := none
  modelTenantId : Option String := none
  embeddingProfileId : Option String := none
  councilMode : Option String := none
  modeReason : Option String := none
  councilDecision : Option CouncilDecision := none
  departmentOpinions : List Dict := []
  humanQuestions : List String := []
  readyToExecute : Bool := false
  taskPlan : Option TaskPlan := none
  artifacts : List Dict := []
  inputArtifactRefs : List Dict := []
  memoryRefs : List Dict := []
  reviewResult : Option StoredReview := none
  reviewFixAttempts : Option Int := none
  humanApproval : Option Dict := none
  actionProposal : Option Dict := none
  approvalRequired : Bool := false
  feishuWriteResult : Option Dict := none
  errors : List Dict := []

structure TaskScope where
  taskType : String
  councilMode : Option String
  modeReason : Option String
  modelProfileId : Option String
  modelOwnerUserId : Option String
  modelGuildId : Option String
  modelTenantId : Option String
  embeddingProfileId : Option String

/-- The input of a graph run, by its two forms: a task, or a raw event with its context. -/
structure InitialState where
  threadId : String
  source : String
  sourceRef : String
  userInput : String
  task : Option TaskScope := none
  feishuContext : Option Dict := none

/-- A fresh input replaces the channels it names, the others are as the checkpoint has them. -/
def RecruitmentState.receive (state : RecruitmentState) (input : InitialState) :
    RecruitmentState :=
  let state := { state with
    threadId := input.threadId
    source := some input.source
    sourceRef := some input.sourceRef
    userInput := some input.userInput }
  let state := match input.task with
    | none => state
    | some task => { state with
        taskType := some task.taskType
        councilMode := task.councilMode
        modeReason := task.modeReason
        modelProfileId := task.modelProfileId
        modelOwnerUserId := task.modelOwnerUserId
        modelGuildId := task.modelGuildId
        modelTenantId := task.modelTenantId
        embeddingProfileId := task.embeddingProfileId }
  match input.feishuContext with
  | none => state
  | some feishuContext => { state with feishuContext := .obj feishuContext }

/-- `str(x or default)`. -/
def textOrDefault (text : Option String) (default : String) : String :=
  (text.filter (· ≠ "")).getD default

def contentRef (threadId kind identity : String) : String :=
  s!"artifact://graph/{threadId}/{kind}/{identity}/v1"

def draftArtifact (crypto : Crypto) (threadId : String) : Dict := Dict.ofList
  [("artifact_id", .str (uuid5 crypto s!"{threadId}:action:v1").str), ("kind", .str "CaseDataDraft"),
    ("summary", .str "业务动作草稿"), ("content_ref", .str (contentRef threadId "action" "v1")),
    ("version", .int 1)]

/-- The kind is text. At a list or a dict the `in` of the source raises a `TypeError`; here it is no
council artifact. -/
def isBusinessArtifact (artifact : Dict) : Bool :=
  artifact.get "kind" ≠ .str "CouncilDecision" && artifact.get "kind" ≠ .str "CouncilOpinion"

def latestBusinessArtifact (crypto : Crypto) (state : RecruitmentState) : Dict :=
  (state.artifacts.reverse.find? isBusinessArtifact).getD (draftArtifact crypto state.threadId)

end Headhunt.Graphs
