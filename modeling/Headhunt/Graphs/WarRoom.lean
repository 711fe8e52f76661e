import Headhunt.Graphs.HumanApproval
import Headhunt.Graphs.Review
import Headhunt.Harness.ContextPack
import Headhunt.Lib.Transition
import Headhunt.Runtime.ActionGate
import Headhunt.Runtime.TaskAuthorization

/-! `headhunter_war_room_graph`: its nodes, its edges and the runs along them. What the agents,
the action gate, the human and the executor reply is a label of the step that asks them. -/
namespace Headhunt.Graphs
open Headhunt.Harness Headhunt.Policy Headhunt.Runtime Py

/-- What `_agent_task_from_state` builds: the task with its goal, its refs and its policy. -/
structure AgentCall extends AgentTask where
  nodeGoal : String
  artifactRefs : List ArtifactRef
  policy : AgentPolicy

/-- The artifact is a `model_dump`, whatever the harness has made of it. -/
structure AgentRunResult where
  runId : UUID
  artifact : Dict

/-- A call of a collaborator of the graph. -/
inductive Event
  | ranAgent (call : AgentCall) (result : Except String AgentRunResult)
  | reviewed (artifact : Dict) (review : StoredReview)
  | repaired (artifact : Dict)
  | proposed (artifact : Dict) (request : ProposeRequest) (chatId : Json)
      (result : Except String ProposedAction)
  | executed (approval : Dict)

inductive Stop
  | raised (message : String)
  /-- A `GraphInterrupt`: the node waits for a resume value. -/
  | interrupted (payload : Dict)

/-- What the executor raises: `ActionExecutionError`, or anything else. -/
inductive ExecuteError
  | actionExecution (message : String)
  | other (message : String)

/-- What the collaborators answer while one node runs. -/
structure Replies where
  threadId : UUID
  plan : FreshPlan
  decisionId : UUID
  clientToken : UUID
  reviewedAt : String
  runAgent : Nat → AgentCall → Except String AgentRunResult
  proposeAction : ProposeRequest → Json → Except String ProposedAction
  resume : Option Json
  execute : Dict → Except ExecuteError Dict

structure Wiring where
  crypto : Crypto
  pydantic : Pydantic
  agentHarness : Bool
  actionGate : Bool
  actionExecutor : Bool
  /-- `ReviewGate.review_artifact` with the artifact, the context and the repair attempts. -/
  reviewArtifact : Dict → Dict → Int → ReviewGateResult

abbrev NodeRun := List Event × Except Stop RecruitmentState

def optionalUuid (value : Option String) : Except String (Option UUID) :=
  match value.filter (· ≠ "") with
  | none => .ok none
  | some text =>
    match UUID.parse text with
    | some id => .ok (some id)
    | none => .error (UUID.errorText text)

def optionalStr (value : Option String) : Option String := value.filter (· ≠ "")

/-- `feishu_context.get("chat_id") if isinstance(feishu_context, dict) else None`. -/
def chatIdOf (state : RecruitmentState) : Json := state.feishuContext.asDict.get "chat_id"

def readableArtifactTypes : List String :=
  ["CouncilOpinion", "CouncilDecision", "RequisitionCalibrationDraft", "TalentMapDraft",
    "CandidateMatchDraft", "ReportDraft", "FollowupReviewDraft"]

def defaultAgentPolicy (agentName outputArtifactType : String) : AgentPolicy where
  agentName := agentName
  allowedArtifactTypesRead := readableArtifactTypes
  allowedArtifactTypesWrite := [outputArtifactType]
  allowedMemoryScopes := [.run, .project, .case]
  maxMemoryItems := 5
  maxContextTokens := 3500
  piiAccessLevel := if agentName = "CandidateJudgementAgent" then .medium else .low

def artifactRefsFromState (pydantic : Pydantic) (artifacts : List Dict) : List ArtifactRef :=
  artifacts.filterMap (ArtifactRef.modelValidate pydantic)

def agentTaskFromState (state : RecruitmentState) (plan : TaskPlan)
    (agentName nodeName nodeGoal outputArtifactType : String) (artifactRefs : List ArtifactRef) :
    Except String AgentCall := do
  let feishuChatId ← match chatIdOf state with
    | .null => .ok none
    | .str chatId => .ok (some chatId)
    | _ => .error "AgentTask feishu_chat_id"
  let modelProfileId ← optionalUuid state.modelProfileId
  let embeddingProfileId ← optionalUuid state.embeddingProfileId
  .ok
    { threadId := plan.threadId
      nodeName := nodeName
      agentName := agentName
      taskBrief := textOrDefault state.userInput plan.requestText
      councilMode := plan.councilMode.value
      modeReason := plan.modeReason
      outputArtifactType := outputArtifactType
      source := textOrDefault state.source "runtime"
      sourceRef := state.sourceRef.getD ""
      taskType := plan.taskType
      feishuChatId := feishuChatId
      sourceRefs := []
      modelProfileId := modelProfileId
      modelOwnerUserId := optionalStr state.modelOwnerUserId
      modelGuildId := optionalStr state.modelGuildId
      modelTenantId := optionalStr state.modelTenantId
      embeddingProfileId := embeddingProfileId
      policyModelProfileId := none
      nodeGoal := nodeGoal
      artifactRefs := artifactRefs
      policy := defaultAgentPolicy agentName outputArtifactType }

/-- `_subgraph_runtime_scope`: the state a subgraph starts from. -/
def subgraphRuntimeScope (state : RecruitmentState) : RecruitmentState :=
  { threadId := state.threadId
    source := some (state.source.getD "runtime")
    sourceRef := state.sourceRef
    userInput := some (state.userInput.getD "")
    feishuContext := state.feishuContext
    modelProfileId := state.modelProfileId
    modelOwnerUserId := state.modelOwnerUserId
    modelGuildId := state.modelGuildId
    modelTenantId := state.modelTenantId
    embeddingProfileId := state.embeddingProfileId }

def receiveUserInput (replies : Replies) (state : RecruitmentState) : RecruitmentState :=
  { state with
    threadId := if state.threadId ≠ "" then state.threadId else replies.threadId.str
    userInput := some (state.userInput.getD "") }

def emptyTask : String := "空任务"

theorem emptyTask_ne : emptyTask ≠ "" := by decide

theorem textOrDefault_ne_empty (text : Option String) {default : String} (h : default ≠ "") :
    textOrDefault text default ≠ "" := by
  unfold textOrDefault
  cases hfilter : text.filter (· ≠ "") with
  | none => exact h
  | some s => simpa using (Option.filter_eq_some_iff.mp hfilter).2

def createTaskPlanAndPolicy (replies : Replies) (state : RecruitmentState) :
    Except Stop RecruitmentState :=
  match UUID.parse state.threadId with
  | none => .error (.raised (UUID.errorText state.threadId))
  | some threadId =>
    let plan := createTaskPlan replies.plan
      { requestText := textOrDefault state.userInput emptyTask
        source := state.source.getD "runtime"
        threadId := some threadId
        nonempty := textOrDefault_ne_empty _ emptyTask_ne }
    .ok { state with
      threadId := plan.threadId.str
      taskType := some plan.taskType
      taskPlan := some plan
      councilMode := some plan.councilMode.value
      modeReason := some plan.modeReason }

def synthesizer : String := "CouncilSynthesizerAgent"

def councilAgents (plan : TaskPlan) : List String := plan.requiredAgents.filter (· ≠ synthesizer)

def harnessOpinion (plan : TaskPlan) (agentName : String) (result : AgentRunResult) : Dict :=
  Dict.ofList
    [("agent_name", .str agentName), ("artifact_type", .str "CouncilOpinion"),
      ("summary", result.artifact.get "summary"),
      ("content_ref", result.artifact.get "content_ref"),
      ("council_mode", .str plan.councilMode.value), ("run_id", .str result.runId.str)]

/-- The loop over the agents: their artifacts with their opinions. -/
def runCouncil (replies : Replies) (scope : RecruitmentState) (plan : TaskPlan) :
    Nat → List String → List Event × Except Stop (List (Dict × Dict))
  | _, [] => ([], .ok [])
  | n, agentName :: agents =>
    match agentTaskFromState scope plan agentName "collect_council_opinions"
        s!"{agentName} 生成会审意见" "CouncilOpinion" [] with
    | .error message => ([], .error (.raised message))
    | .ok call =>
      match replies.runAgent n call with
      | .error message => ([.ranAgent call (.error message)], .error (.raised message))
      | .ok result =>
        let rest := runCouncil replies scope plan (n + 1) agents
        (.ranAgent call (.ok result) :: rest.1,
          rest.2.map fun opinions =>
            (result.artifact, harnessOpinion plan agentName result) :: opinions)

def plannedOpinion (threadId : String) (plan : TaskPlan) (agentName : String) : Dict := Dict.ofList
  [("agent_name", .str agentName), ("artifact_type", .str "CouncilOpinion"),
    ("summary", .str s!"{agentName} planned for {plan.taskType}"),
    ("content_ref", .str (contentRef threadId "council_opinion" agentName)),
    ("council_mode", .str plan.councilMode.value)]

/-- `collect_council_opinions`: the artifacts and the opinions of the council. -/
def collectCouncilOpinions (wiring : Wiring) (replies : Replies) (scope : RecruitmentState)
    (plan : TaskPlan) : List Event × Except Stop (List Dict × List Dict) :=
  if wiring.agentHarness then
    let run := runCouncil replies scope plan 0 (councilAgents plan)
    (run.1, run.2.map List.unzip)
  else ([], .ok ([], (councilAgents plan).map (plannedOpinion scope.threadId plan)))

def missingInfoQuestion : String := "请补充岗位目标、候选人范围或期望输出。"

/-- `CouncilDecision.from_task_plan` with the question of a triage. -/
def decisionOfPlan (replies : Replies) (plan : TaskPlan) : CouncilDecision where
  decisionId := replies.decisionId
  intentSummary := truncate 240 plan.requestText
  recommendedBusinessSubgraph := plan.taskType
  nextQuestions := if plan.councilMode = .triage then [missingInfoQuestion] else []

/-- `max(1, len(text) // 4)`. -/
def textTokens (text : String) : Nat := max 1 (text.length / 4)

def graphArtifact (artifactId kind summary ref : String) (tokens : Nat) : Dict := Dict.ofList
  [("artifact_id", .str artifactId), ("kind", .str kind), ("summary", .str summary),
    ("content_ref", .str ref), ("evidence_refs", .arr []), ("source_refs", .arr []),
    ("pii_level", .str "none"), ("version", .int 1), ("size_tokens_estimate", .int tokens)]

def decisionArtifact (threadId : String) (decision : CouncilDecision) : Dict :=
  graphArtifact decision.decisionId.str "CouncilDecision" decision.intentSummary
    (contentRef threadId "council_decision" "v1") (textTokens decision.intentSummary)

/-- The council as one node: its lists are appended, its other channels are replaced. -/
def invokeCouncilDeliberationGraph (wiring : Wiring) (replies : Replies)
    (state : RecruitmentState) : NodeRun :=
  match state.taskPlan with
  | none => ([], .error (.raised "task_plan"))
  | some plan =>
    let collected := collectCouncilOpinions wiring replies (subgraphRuntimeScope state) plan
    let decision := decisionOfPlan replies plan
    (collected.1, collected.2.map fun lists =>
      { state with
        departmentOpinions := state.departmentOpinions ++ lists.2
        councilDecision := some decision
        humanQuestions := decision.nextQuestions
        readyToExecute := decision.nextQuestions = []
        artifacts := state.artifacts ++
          (lists.1 ++ [decisionArtifact state.threadId decision]) })

inductive BusinessRoute
  | askUserForMissingInfo
  | rejectWithReason
  | saveAsCaseData
  | intakeCalibrationGraph
  | talentMappingGraph
  | candidateScreeningGraph
  | outreachAndReportGraph
  | followupReviewGraph
deriving DecidableEq

def routeMap : List (String × BusinessRoute) :=
  [("requisition_calibration", .intakeCalibrationGraph), ("talent_mapping", .talentMappingGraph),
    ("candidate_screening", .candidateScreeningGraph), ("report_draft", .outreachAndReportGraph),
    ("review", .followupReviewGraph), ("save_as_case_data", .saveAsCaseData)]

def routeFromCouncil (state : RecruitmentState) : BusinessRoute :=
  if state.humanQuestions ≠ [] then .askUserForMissingInfo
  else
    let subgraph := (state.councilDecision.map (·.recommendedBusinessSubgraph)).getD ""
    (routeMap.lookup subgraph).getD .rejectWithReason

structure BusinessSubgraph where
  nodeName : String
  agentName : String
  artifactKind : String
  summaryPrefix : String

def businessSubgraph : BusinessRoute → Option BusinessSubgraph
  | .intakeCalibrationGraph => some
    ⟨"intake_calibration_graph", "StrategyDraftAgent", "RequisitionCalibrationDraft",
      "岗位校准草稿"⟩
  | .talentMappingGraph => some
    ⟨"talent_mapping_graph", "SourcingMappingAgent", "TalentMapDraft", "人才地图草稿"⟩
  | .candidateScreeningGraph => some
    ⟨"candidate_screening_graph", "CandidateJudgementAgent", "CandidateMatchDraft",
      "候选人筛选草稿"⟩
  | .outreachAndReportGraph => some
    ⟨"outreach_and_report_graph", "OutreachValueAgent", "ReportDraft", "报告/触达草稿"⟩
  | .followupReviewGraph => some
    ⟨"followup_review_graph", "DataAutomationAgent", "FollowupReviewDraft", "复盘跟进草稿"⟩
  | _ => none

def businessScope (state : RecruitmentState) : RecruitmentState :=
  { subgraphRuntimeScope state with
    councilMode := state.councilMode
    modeReason := state.modeReason
    councilDecision := state.councilDecision
    taskPlan := state.taskPlan
    inputArtifactRefs := state.artifacts }

def orNone (text : Option String) : String := text.getD "None"

def plannedBusinessArtifact (crypto : Crypto) (subgraph : BusinessSubgraph)
    (scope : RecruitmentState) : Dict :=
  let decisionId := (scope.councilDecision.map (·.decisionId.str)).getD "decision"
  let artifactId := (uuid5 crypto s!"{scope.threadId}:{subgraph.nodeName}:{decisionId}").str
  let summary := s!"{subgraph.summaryPrefix}；会审模式 {orNone scope.councilMode}，" ++
    s!"原因：{orNone scope.modeReason}"
  graphArtifact artifactId subgraph.artifactKind summary
    (contentRef scope.threadId subgraph.nodeName artifactId) (textTokens summary)

def createBusinessArtifactRef (wiring : Wiring) (replies : Replies) (subgraph : BusinessSubgraph)
    (scope : RecruitmentState) : List Event × Except Stop Dict :=
  if wiring.agentHarness then
    match scope.taskPlan with
    | none => ([], .error (.raised "task_plan"))
    | some plan =>
      match agentTaskFromState scope plan subgraph.agentName subgraph.nodeName
          s!"{subgraph.agentName} 生成 {subgraph.artifactKind}" subgraph.artifactKind
          (artifactRefsFromState wiring.pydantic scope.inputArtifactRefs) with
      | .error message => ([], .error (.raised message))
      | .ok call =>
        let result := replies.runAgent 0 call
        ([.ranAgent call result], (result.mapError Stop.raised).map (·.artifact))
  else ([], .ok (plannedBusinessArtifact wiring.crypto subgraph scope))

/-- A business subgraph as one node. Its own state has no review, so the one before is cleared. -/
def invokeBusinessSubgraph (wiring : Wiring) (replies : Replies) (subgraph : BusinessSubgraph)
    (state : RecruitmentState) : NodeRun :=
  let created := createBusinessArtifactRef wiring replies subgraph (businessScope state)
  (created.1, created.2.map fun artifact =>
    { state with
      artifacts := state.artifacts ++ [artifact]
      reviewResult := none
      reviewFixAttempts := some 0 })

def caseDataArtifact (crypto : Crypto) (threadId : String) : Dict :=
  graphArtifact (uuid5 crypto s!"{threadId}:case_data:v1").str "CaseDataDraft"
    "保存为案例数据草稿，等待人工确认后写入业务数据底座。" (contentRef threadId "case_data" "v1") 20

def saveAsCaseData (wiring : Wiring) (state : RecruitmentState) : RecruitmentState :=
  { state with
    readyToExecute := true
    artifacts := state.artifacts ++ [caseDataArtifact wiring.crypto state.threadId] }

def askUserForMissingInfo (state : RecruitmentState) : RecruitmentState :=
  { state with readyToExecute := false }

def graphError (node message : String) : Dict := Dict.ofList
  [("node", .str node), ("message", .str message)]

def rejectWithReason (state : RecruitmentState) : RecruitmentState :=
  { state with
    readyToExecute := false
    errors := state.errors ++ [graphError "reject_with_reason"
      "No supported business subgraph matched the council decision."] }

def severityText : Severity → String
  | .fix => "fix"
  | .human => "human"

def statusText : ReviewGateStatus → String
  | .pass => "pass"
  | .needsFix => "needs_fix"
  | .needsHuman => "needs_human"

/-- `result.model_dump(mode="json")`. -/
def dumpReview (review : StoredReview) : Dict := Dict.ofList
  [("status", .str (statusText review.result.status)),
    ("artifact_id", optionalText (review.result.artifactId.map UUID.str)),
    ("artifact_kind", optionalText review.result.artifactKind),
    ("findings", .arr (review.result.findings.map fun finding => .obj (Dict.ofList
      [("reviewer", .str finding.reviewer), ("severity", .str (severityText finding.severity)),
        ("message", .str finding.message), ("path", optionalText finding.path)]))),
    ("repair_attempts", .int review.result.repairAttempts),
    ("reviewed_at", .str review.reviewedAt)]

def reviewLatest (wiring : Wiring) (replies : Replies) (state : RecruitmentState) : NodeRun :=
  match reviewContextFromState wiring.crypto state with
  | none => ([], .error (.raised "size_tokens_estimate"))
  | some context =>
    let artifact := latestBusinessArtifact wiring.crypto state
    let result := wiring.reviewArtifact artifact context state.repairAttempts
    let review := ⟨result, replies.reviewedAt⟩
    ([.reviewed artifact review], .ok { state with reviewResult := some review })

/-- `_review_gate_has_schema_error`. -/
def hasSchemaError (review : StoredReview) : Bool :=
  review.result.findings.any fun finding => finding.reviewer = "SchemaValidator"

inductive ReviewRoute
  | repairArtifact
  | rejectReviewGate
  | interruptHumanApproval
deriving DecidableEq

def routeFromReviewGate (state : RecruitmentState) : ReviewRoute :=
  match state.reviewResult with
  | none => .interruptHumanApproval
  | some review =>
    if hasSchemaError review then .rejectReviewGate
    else if review.result.status = .needsFix ∧ state.repairAttempts < 1 then .repairArtifact
    else .interruptHumanApproval

def repairLatest (wiring : Wiring) (state : RecruitmentState) : NodeRun :=
  match repairArtifactForReview (latestBusinessArtifact wiring.crypto state) with
  | none => ([], .error (.raised "repair_artifact_for_review"))
  | some repaired => ([.repaired repaired], .ok (state.withRepair repaired))

def findingPart (finding : ReviewFinding) : Option String :=
  let reviewer := if finding.reviewer = "" then "ReviewGate" else finding.reviewer
  let path := strip (finding.path.getD "")
  let message := joinWords finding.message
  if message = "" then none
  else
    let label := if path = "" then reviewer else s!"{reviewer}/{path}"
    some s!"{label}: {message}"

def reviewFindingsSummary (review : StoredReview) : String :=
  truncate 500 (" | ".intercalate ((review.result.findings.filterMap findingPart).take 3))

def rejectReviewGate (wiring : Wiring) (state : RecruitmentState) : RecruitmentState :=
  let artifact := latestBusinessArtifact wiring.crypto state
  let summary := (state.reviewResult.map reviewFindingsSummary).getD ""
  let ending := if summary = "" then "." else s!": {summary}"
  { state with
    readyToExecute := false
    approvalRequired := false
    errors := state.errors ++ [Dict.ofList
      [("node", .str "review_gate"),
        ("message", .str ("ReviewGate rejected malformed artifact before action proposal" ++
          ending)),
        ("artifact_id", .str (Feishu.formatValue ((artifact.get "artifact_id").orElse (.str "")))),
        ("artifact_kind", .str (Feishu.formatValue ((artifact.get "kind").orElse (.str ""))))]] }

def actionTypes : List (String × String) :=
  [("RequisitionCalibrationDraft", "requisition_write"), ("TalentMapDraft", "talent_map_write"),
    ("CandidateMatchDraft", "candidate_write"), ("ReportDraft", "report_write"),
    ("FollowupReviewDraft", "followup_write"), ("CaseDataDraft", "case_data_write")]

def actionTypeForBusinessKind (kind : Json) : String :=
  (kind.asStr.bind fun kind => actionTypes.lookup kind).getD "business_write"

def requiredField (artifact : Dict) (key : String) : Except String Json :=
  match artifact.get? key with
  | some value => .ok value
  | none => .error key

def textField (artifact : Dict) (key : String) : Json :=
  .str (Feishu.formatValue ((artifact.get key).orElse (.str "")))

def recordFieldsForArtifact (state : RecruitmentState) (artifact : Dict) (artifactId kind : Json) :
    Dict := Dict.ofList
  [("thread_id", .str state.threadId), ("artifact_id", .str (Feishu.formatValue artifactId)),
    ("artifact_kind", .str (Feishu.formatValue kind)), ("summary", textField artifact "summary"),
    ("content_ref", textField artifact "content_ref"),
    ("council_mode", .str (textOrDefault state.councilMode "")),
    ("mode_reason", .str (textOrDefault state.modeReason "")),
    ("source", .str (textOrDefault state.source "runtime")),
    ("source_ref", .str (textOrDefault state.sourceRef "")),
    ("review_gate_status",
      .str ((state.reviewResult.map fun review => statusText review.result.status).getD "")),
    ("review_gate_findings",
      .int ((state.reviewResult.map fun review => review.result.findings.length).getD 0))]

def actionIdempotencyKey (state : RecruitmentState) (actionType : String) (artifact : Dict)
    (artifactId : Json) : String :=
  let version := (artifact.get? "version").getD (.int 1)
  s!"action:{state.threadId}:{actionType}:{Feishu.formatValue artifactId}:" ++
    s!"v{Feishu.formatValue version}"

def payloadSummary (actionType : String) (summary : Json) (review : Option StoredReview) : String :=
  let text := s!"{actionType}: {Feishu.formatValue summary}"
  match review with
  | none => text
  | some review =>
    if review.result.status = .pass then text
    else
      let findings := reviewFindingsSummary review
      let text := s!"{text} | ReviewGate={statusText review.result.status}"
      if findings = "" then text else s!"{text}: {findings}"

def actionPayload (state : RecruitmentState) (artifact : Dict) (artifactId kind : Json)
    (clientToken : UUID) : Dict :=
  let payload := Dict.ofList
    [("business_kind", kind),
      ("record_fields", .obj (recordFieldsForArtifact state artifact artifactId kind)),
      ("entity_refs", .arr [.obj (Dict.ofList [("entity_type", kind), ("entity_id", artifactId)])]),
      ("client_token", .str clientToken.str)]
  match state.reviewResult with
  | none => payload
  | some review =>
    let payload := payload.set "review_result" (.obj (dumpReview review))
    let findings := reviewFindingsSummary review
    if findings = "" then payload else payload.set "review_findings_summary" (.str findings)

def ArtifactRef.dump (artifact : ArtifactRef) : Json := .obj (Dict.ofList
  [("artifact_id", .str artifact.artifactId.str), ("kind", .str artifact.kind),
    ("summary", .str artifact.summary), ("content_ref", .str artifact.contentRef),
    ("evidence_refs", .arr (artifact.evidenceRefs.map .str)),
    ("source_refs", .arr (artifact.sourceRefs.map .str)),
    ("pii_level", .str artifact.piiLevel.value), ("version", .int artifact.version),
    ("size_tokens_estimate", .int artifact.sizeTokensEstimate)])

/-- `_propose_business_action` up to the call of the gate. -/
def proposeBusinessAction (wiring : Wiring) (clientToken : UUID) (state : RecruitmentState) :
    Except String ProposeRequest := do
  let artifact := latestBusinessArtifact wiring.crypto state
  let kind ← requiredField artifact "kind"
  let actionType := actionTypeForBusinessKind kind
  let summary ← requiredField artifact "summary"
  let artifactId ← requiredField artifact "artifact_id"
  let threadId ← match UUID.parse state.threadId with
    | none => .error (UUID.errorText state.threadId)
    | some threadId => .ok threadId
  .ok
    { threadId := threadId
      actionType := actionType
      payloadSummary := payloadSummary actionType summary state.reviewResult
      payload := actionPayload state artifact artifactId kind clientToken
      idempotencyKey := actionIdempotencyKey state actionType artifact artifactId
      artifactRefs := (artifactRefsFromState wiring.pydantic state.artifacts).map ArtifactRef.dump }

def interruptPayload (state : RecruitmentState) (proposal : ProposedAction) : Dict := Dict.ofList
  [("thread_id", .str state.threadId), ("action_id", .str proposal.actionId.str),
    ("interrupt_id", .str proposal.interruptId.str),
    ("idempotency_key", .str proposal.idempotencyKey),
    ("council_mode", .str (textOrDefault state.councilMode "unknown")),
    ("mode_reason", .str (textOrDefault state.modeReason "")),
    ("payload_ref", .str proposal.payloadRef),
    ("message", .str "请在飞书确认卡片中 approve / edit / reject 该业务副作用。")]

def proposalRecord (proposal : ProposedAction) : Dict := Dict.ofList
  [("action_id", .str proposal.actionId.str), ("interrupt_id", .str proposal.interruptId.str),
    ("idempotency_key", .str proposal.idempotencyKey), ("payload_ref", .str proposal.payloadRef)]

/-- The node proposes each time it runs, and goes on once there is a resume value. -/
def interruptHumanApproval (wiring : Wiring) (replies : Replies) (state : RecruitmentState) :
    NodeRun :=
  if wiring.actionGate = false then ([], .ok { state with approvalRequired := false })
  else
    match proposeBusinessAction wiring replies.clientToken state with
    | .error message => ([], .error (.raised message))
    | .ok request =>
      let chatId := chatIdOf state
      let result := replies.proposeAction request chatId
      let events := [.proposed (latestBusinessArtifact wiring.crypto state) request chatId result]
      match result with
      | .error message => (events, .error (.raised message))
      | .ok proposal =>
        match replies.resume with
        | none => (events, .error (.interrupted (interruptPayload state proposal)))
        | some approval =>
          match normalizeHumanApproval approval state.threadId proposal.actionId.str
              proposal.interruptId.str proposal.idempotencyKey with
          | .error message => (events, .error (.raised message))
          | .ok normalized => (events, .ok
            { state with
              approvalRequired := true
              actionProposal := some (proposalRecord proposal)
              humanApproval := some normalized })

def executeApproved (wiring : Wiring) (replies : Replies) (state : RecruitmentState) : NodeRun :=
  match state.humanApproval.filter (!List.isEmpty ·) with
  | none => ([], .ok state)
  | some approval =>
    if wiring.actionExecutor = false then ([], .ok state)
    else
      match replies.execute approval with
      | .ok result => ([.executed approval], .ok { state with feishuWriteResult := some result })
      | .error (.actionExecution message) => ([.executed approval], .ok
        { state with errors := state.errors ++ [graphError "execute_approved_action" message] })
      | .error (.other message) => ([.executed approval], .error (.raised message))

inductive Node
  | receiveUserInput
  | createTaskPlanAndPolicy
  | councilDeliberationGraph
  | dispatchFromCouncil
  | business (route : BusinessRoute)
  | reviewGate
  | repairArtifact
  | rejectReviewGate
  | interruptHumanApproval
  | executeApprovedAction
  | recordAgentRun
deriving DecidableEq

def runNode (wiring : Wiring) (replies : Replies) (state : RecruitmentState) : Node → NodeRun
  | .receiveUserInput => ([], .ok (receiveUserInput replies state))
  | .createTaskPlanAndPolicy => ([], createTaskPlanAndPolicy replies state)
  | .councilDeliberationGraph => invokeCouncilDeliberationGraph wiring replies state
  | .dispatchFromCouncil | .recordAgentRun => ([], .ok state)
  | .business .askUserForMissingInfo => ([], .ok (askUserForMissingInfo state))
  | .business .rejectWithReason => ([], .ok (rejectWithReason state))
  | .business .saveAsCaseData => ([], .ok (saveAsCaseData wiring state))
  | .business route =>
    match businessSubgraph route with
    | none => ([], .ok state)
    | some subgraph => invokeBusinessSubgraph wiring replies subgraph state
  | .reviewGate => reviewLatest wiring replies state
  | .repairArtifact => repairLatest wiring state
  | .rejectReviewGate => ([], .ok (rejectReviewGate wiring state))
  | .interruptHumanApproval => interruptHumanApproval wiring replies state
  | .executeApprovedAction => executeApproved wiring replies state

/-- The edges, with the state the node has left. -/
def nextNode (state : RecruitmentState) : Node → Option Node
  | .receiveUserInput => some .createTaskPlanAndPolicy
  | .createTaskPlanAndPolicy => some .councilDeliberationGraph
  | .councilDeliberationGraph => some .dispatchFromCouncil
  | .dispatchFromCouncil => some (.business (routeFromCouncil state))
  | .business .askUserForMissingInfo | .business .rejectWithReason => some .recordAgentRun
  | .business _ | .repairArtifact => some .reviewGate
  | .reviewGate => match routeFromReviewGate state with
    | .repairArtifact => some .repairArtifact
    | .rejectReviewGate => some .rejectReviewGate
    | .interruptHumanApproval => some .interruptHumanApproval
  | .rejectReviewGate | .executeApprovedAction => some .recordAgentRun
  | .interruptHumanApproval => some .executeApprovedAction
  | .recordAgentRun => none

/-- A thread of the graph: the node that comes next, the channels, and what the collaborators
have been called with since the last input. -/
structure GraphRun where
  node : Option Node
  state : RecruitmentState
  log : List Event

inductive GraphLabel
  /-- `graph.invoke` with a fresh input: the run begins at `START`. -/
  | invoke (input : InitialState)
  /-- The next node runs. Where it does not go through it is the next one still. -/
  | node (replies : Replies)

def GraphRun.step (wiring : Wiring) (run : GraphRun) : GraphLabel → Option GraphRun
  | .invoke input => some ⟨some .receiveUserInput, run.state.receive input, []⟩
  | .node replies => run.node.map fun node =>
    let ran := runNode wiring replies run.state node
    match ran.2 with
    | .ok state => ⟨nextNode state node, state, run.log ++ ran.1⟩
    | .error _ => { run with log := run.log ++ ran.1 }

end Headhunt.Graphs
