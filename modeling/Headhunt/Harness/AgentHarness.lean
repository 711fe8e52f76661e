import Headhunt.Lib.Session
import Headhunt.Storage.Repositories
import Headhunt.Storage.WorkerDatabase

/-! `AgentHarness.run_agent`: the row of a run is written before the model is asked, and
brought up to date when the run ends or fails. -/
namespace Headhunt.Harness
open Headhunt.Storage Py

/-- What is raised inside a run. After a statement the database refused, the transaction
takes no other one. -/
inductive Raised
  | exception (message : String)
  | refused (message : String)
deriving DecidableEq

def Raised.message : Raised → String
  | .exception message => message
  | .refused message => message

abbrev AgentWork := EStateM Raised WorkerDatabase

structure AgentTask where
  threadId : UUID
  nodeName : String
  agentName : String
  taskBrief : String
  councilMode : String
  modeReason : String
  outputArtifactType : String
  source : String
  sourceRef : String
  taskType : String
  feishuChatId : Option String
  sourceRefs : List String
  modelProfileId : Option UUID
  modelOwnerUserId : Option String
  modelGuildId : Option String
  modelTenantId : Option String
  embeddingProfileId : Option UUID := none
  policyModelProfileId : Option UUID
deriving DecidableEq

/-- A context pack: `model_dump`, its memory refs and its token estimate. -/
structure ContextPack where
  dump : Dict
  memoryRefs : List Json
  estimatedContextTokens : Nat

structure ModelInfo where
  modelProfileId : Option UUID
  modelProvider : String
  modelName : String
  modelOwnerUserId : Option String

structure AgentLLMOutput where
  summary : String
  artifactPayload : Dict
  evidenceRefs : List String
  sourceRefs : List String
  piiLevel : String

/-- The collaborators of the harness: gateways of the memory, the SOPs, the model, the artifacts
and the War Room. They work on the same session. -/
structure Collaborators where
  buildContextPack : AgentTask → AgentWork ContextPack
  modelInfo : AgentTask → Option UUID → Except Raised ModelInfo
  /-- `generate_structured` and the validation of what it returns. -/
  generateStructured : AgentTask → ContextPack → Option UUID → Except Raised AgentLLMOutput
  writeAgentArtifact : AgentTask → UUID → AgentLLMOutput → AgentWork Json
  writeRunMemory : AgentTask → UUID → AgentLLMOutput → AgentWork (Option String)
  enqueueWarRoomCard : AgentTask → UUID → ContextPack → AgentLLMOutput → Json → AgentWork Unit

structure RunFresh where
  runId : UUID
  startedAt : Time
  endedAt : Time

section RunAgent

variable (crypto : Crypto) (env : Collaborators) (fresh : RunFresh) (task : AgentTask)

def statement (write : WorkerDatabase → Except StorageError WorkerDatabase) : AgentWork Unit :=
  Session.statement (fun _ => .refused "IntegrityError") write

def truncate (n : Nat) (text : String) : String := String.ofList (text.toList.take n)

def ensureGraphThread : AgentWork Unit :=
  modify fun db => { db with
    graphThreads := Table.upsert GraphThread.id
      { id := task.threadId
        source := task.source
        sourceRef := task.sourceRef
        taskType := task.taskType
        councilMode := some task.councilMode
        modeReason := some task.modeReason
        status := .running
        stateSummary := Dict.ofList
          [("agent_name", .str task.agentName), ("node_name", .str task.nodeName),
            ("task_brief", .str (truncate 240 task.taskBrief))] }
      (fun old => { old with
        taskType := task.taskType
        councilMode := some task.councilMode
        modeReason := some task.modeReason })
      db.graphThreads }

def contextPackRef : String := s!"artifact://context-pack/{fresh.runId.str}/v1"

def writeContextPackBlob (pack : ContextPack) : AgentWork Unit :=
  modify fun db => { db with
    toDatabase := db.insertBlobOrIgnore (jsonBlob (contextPackRef fresh) pack.dump
      (dumps .compact (.obj pack.dump)) (stableHash crypto pack.dump)) }

/-- The row as it is added before the model is asked. -/
def runningRow (pack : ContextPack) (info : ModelInfo) : AgentRun where
  id := fresh.runId
  threadId := task.threadId
  nodeName := task.nodeName
  agentName := task.agentName
  councilMode := task.councilMode
  contextPackRef := contextPackRef fresh
  inputSummary := truncate 500 task.taskBrief
  outputSummary := none
  memoryRefs := pack.memoryRefs
  artifactRefs := []
  sourceRefs := task.sourceRefs
  modelProfileId := info.modelProfileId
  modelProvider := some info.modelProvider
  modelName := some info.modelName
  modelOwnerUserId := info.modelOwnerUserId
  tokenEstimate := pack.estimatedContextTokens
  status := .running
  error := none
  startedAt := fresh.startedAt
  endedAt := none

/-- `task.model_profile_id or task.policy.model_profile_id`. -/
def AgentTask.profileId : Option UUID := task.modelProfileId.or task.policyModelProfileId

/-- What comes before the `try`: the thread, the context pack and the row of the run. -/
def beginRun : AgentWork ContextPack := do
  ensureGraphThread task
  let pack ← env.buildContextPack task
  writeContextPackBlob crypto fresh pack
  match env.modelInfo task task.profileId with
  | .error exc => throw exc
  | .ok info =>
    statement fun db => db.insertAgentRun (runningRow fresh task pack info)
    pure pack

def completeRun (pack : ContextPack) : AgentWork Json := do
  match env.generateStructured task pack task.profileId with
  | .error exc => throw exc
  | .ok output =>
    let artifact ← env.writeAgentArtifact task fresh.runId output
    let memoryRef ← env.writeRunMemory task fresh.runId output
    modify fun db => db.updateAgentRun fresh.runId fun run =>
      { run with
        outputSummary := some output.summary
        artifactRefs := [artifact]
        memoryRefs := match memoryRef.filter (· ≠ "") with
          | some ref => pack.memoryRefs ++
              [.obj (Dict.ofList [("memory_ref", .str ref), ("scope", .str "run")])]
          | none => run.memoryRefs
        status := .succeeded
        endedAt := some fresh.endedAt }
    env.enqueueWarRoomCard task fresh.runId pack output artifact
    pure artifact

def failRun (exc : Raised) (run : AgentRun) : AgentRun :=
  { run with status := .failed, error := some exc.message, endedAt := some fresh.endedAt }

/-- The `except` clause: the run is marked failed and the exception goes on. -/
def recordRunFailure (exc : Raised) : AgentWork Json :=
  match exc with
  | .exception _ => do
    modify fun db => db.updateAgentRun fresh.runId (failRun fresh exc)
    throw exc
  | .refused _ => throw (.refused "PendingRollbackError")

def runAgent : AgentWork Json := do
  let pack ← beginRun crypto env fresh task
  tryCatch (completeRun env fresh task pack) (recordRunFailure fresh)

end RunAgent

section Failure

variable {crypto : Crypto} {env : Collaborators} {fresh : RunFresh} {task : AgentTask}
  {db db₁ view : WorkerDatabase} {pack : ContextPack} {message : String}

/-- The row of the run is there when the `try` begins. -/
theorem agentRun?_beginRun
    (h : Session.ReturnsAt (beginRun crypto env fresh task) db pack db₁) :
    ∃ run, db₁.agentRun? fresh.runId = some run ∧ run.status = .running := by
  simp only [beginRun, Session.returnsAt_bind] at h
  obtain ⟨_, u, _, pack₁, v, _, _, w, _, h⟩ := h
  cases hinfo : env.modelInfo task task.profileId with
  | error exc => simp [hinfo] at h
  | ok info =>
    simp only [hinfo, Session.returnsAt_bind, statement, Session.returnsAt_statement,
      Session.returnsAt_pure] at h
    obtain ⟨_, db₂, hinsert, rfl, rfl⟩ := h
    obtain ⟨hnone, _, rfl⟩ := WorkerDatabase.insertAgentRun_eq_ok.mp hinsert
    refine ⟨runningRow fresh task pack₁ info, ?_, rfl⟩
    have hnone : Table.find AgentRun.id fresh.runId w.agentRuns = none := hnone
    simp [WorkerDatabase.agentRun?, Table.find_append_singleton, hnone, runningRow]

/-- An exception of the `try` leaves the run marked, if the row is still there. -/
theorem runAgent_raises
    (hbegin : Session.ReturnsAt (beginRun crypto env fresh task) db pack db₁)
    (hraise : Session.RaisesAt (completeRun env fresh task pack) db₁ (.exception message) view) :
    Session.RaisesAt (runAgent crypto env fresh task) db (.exception message)
      (view.updateAgentRun fresh.runId (failRun fresh (.exception message))) := by
  refine Session.raisesAt_bind.mpr (.inr ⟨pack, db₁, hbegin, ?_⟩)
  refine Session.raisesAt_tryCatch hraise ?_
  simp [recordRunFailure, Session.raisesAt_bind]

/-- A model that cannot be asked fails before anything else happens in the `try`. -/
theorem completeRun_raises {exc : Raised}
    (h : env.generateStructured task pack task.profileId = .error exc) :
    Session.RaisesAt (completeRun env fresh task pack) db₁ exc db₁ := by
  simp [completeRun, h]

end Failure
end Headhunt.Harness
