import Mathlib.Data.List.Forall2
import Headhunt.Lib.PyJson

/-! `AgentSOPRegistry`: the SOP refs a node is given. -/
namespace Headhunt.Sops
open Py

structure SOPRef where
  sopId : String
  version : String
  title : String
  scope : String
  contentRef : String
  summary : String
  triggerPolicy : String
  triggerReason : String
  status : String
  path : Option String
  tokensEstimate : Nat
deriving DecidableEq

def requiredFields : List String :=
  ["sop_id", "version", "title", "scope", "trigger_policy", "content_ref", "summary", "status"]

/-- `isinstance(value.get(key), str) and value[key]`. -/
def hasText (fields : Dict) (key : String) : Bool :=
  match fields.get? key with
  | some (.str text) => text != ""
  | _ => false

/-- A record of the registry: its required fields are texts and none is empty. -/
structure SOPRecord where
  fields : Dict
  required : ∀ key ∈ requiredFields, hasText fields key = true

/-- `record[key]` of a required field. -/
def SOPRecord.text (record : SOPRecord) (key : String) : String :=
  ((record.fields.get? key).bind Json.asStr).getD ""

inductive RegistryError
  | sopRegistry (message : String)
  /-- Anything else: an `AttributeError`, a `ValidationError`. -/
  | other (message : String)
deriving DecidableEq

def quoted (key : String) : String := "'" ++ key ++ "'"

def validateRecord : Json → Except RegistryError SOPRecord
  | .obj fields =>
    if h : ∀ key ∈ requiredFields, hasText fields key = true then .ok ⟨fields, h⟩
    else
      let missing := requiredFields.filter fun key => !hasText fields key
      .error (.sopRegistry ("Agent SOP registry record missing fields: [" ++
        ", ".intercalate (missing.map quoted) ++ "]"))
  | _ => .error (.sopRegistry "Agent SOP registry records must be objects")

structure AgentSOPRegistry where
  records : List SOPRecord
  maxPrimarySops : Nat := 1
  maxReviewSops : Nat := 2

/-- `_positive_int`; `True` is an `int` as well. -/
def positiveInt (value : Json) (default : Nat) : Nat :=
  match value with
  | .int n => if 0 < n then n.toNat else default
  | .bool true => 1
  | _ => default

/-- `from_file` with what is read from the file. -/
def AgentSOPRegistry.fromPayload : Json → Except RegistryError AgentSOPRegistry
  | .obj payload =>
    match Dict.get payload "sops" with
    | .arr items => do
      let limits := (Dict.get payload "max_refs_per_node").asDict
      let records ← items.mapM validateRecord
      .ok
        { records := records
          maxPrimarySops := positiveInt (limits.get "primary_sop") 1
          maxReviewSops := positiveInt (limits.get "review_sop") 2 }
    | _ => .error (.sopRegistry "Agent SOP registry must contain a sops list")
  | _ => .error (.other "object has no attribute get")

/-- What a node asks with; of the policy only the types it may write are read. -/
structure SOPQuery where
  agentName : String
  nodeName : String
  taskType : String
  outputArtifactType : String
  allowedArtifactTypesWrite : List String

/-- `text.replace("-", "_")`. -/
def underscored (text : String) : String :=
  String.ofList (text.toList.map fun c => if c = '-' then '_' else c)

def matchesTaskIntake (query : SOPQuery) : Bool :=
  let searchable := underscored
    (lower (" ".intercalate [query.agentName, query.nodeName, query.taskType]))
  ["task_intake", "double_check", "confirmation", "taskintakeparser"].any (contains searchable)

/-- The `trigger_reason` of a record for the node; `none` where it is not triggered. -/
def triggerReason (query : SOPQuery) (record : SOPRecord) : Option String :=
  let scope := record.text "scope"
  if scope = "business.task_intake" then
    if matchesTaskIntake query then some "matched task intake or double-check node" else none
  else if scope = "review.artifact_quality" then
    if query.outputArtifactType = "" ∧ query.allowedArtifactTypesWrite = [] then none
    else some "matched artifact-producing agent node"
  else some s!"matched registry scope {scope}"

def estimateRefTokens (record : SOPRecord) : Nat :=
  let text := " ".intercalate
    (["sop_id", "title", "scope", "summary", "content_ref"].map record.text)
  max 1 (text.length / 4)

def optionalPath : Json → Except RegistryError (Option String)
  | .null => .ok none
  | .str path => .ok (some path)
  | _ => .error (.other "SOPRef path")

def SOPRecord.ref (record : SOPRecord) (reason : String) (path : Option String) : SOPRef where
  sopId := record.text "sop_id"
  version := record.text "version"
  title := record.text "title"
  scope := record.text "scope"
  contentRef := record.text "content_ref"
  summary := record.text "summary"
  triggerPolicy := record.text "trigger_policy"
  triggerReason := reason
  status := record.text "status"
  path := path
  tokensEstimate := estimateRefTokens record

def resolveRecord (query : SOPQuery) (record : SOPRecord) : Except RegistryError (Option SOPRef) :=
  match triggerReason query record with
  | none => .ok none
  | some reason =>
    (optionalPath (record.fields.get "path")).map fun path => some (record.ref reason path)

/-- `scope.startswith("review.")`. -/
def isReviewScope (scope : String) : Bool := "review.".toList.isPrefixOf scope.toList

structure Resolved where
  primary : List SOPRef := []
  review : List SOPRef := []

/-- `if len(taken) < limit: taken.append(ref)`. -/
def takeRef (limit : Nat) (taken : List SOPRef) (ref : SOPRef) : List SOPRef :=
  if taken.length < limit then taken ++ [ref] else taken

def AgentSOPRegistry.take (registry : AgentSOPRegistry) (ref : SOPRef) (taken : Resolved) :
    Resolved :=
  if isReviewScope ref.scope then
    { taken with review := takeRef registry.maxReviewSops taken.review ref }
  else { taken with primary := takeRef registry.maxPrimarySops taken.primary ref }

def AgentSOPRegistry.resolveLoop (registry : AgentSOPRegistry) (query : SOPQuery) :
    List SOPRecord → Resolved → Except RegistryError Resolved
  | [], taken => .ok taken
  | record :: records, taken =>
    match resolveRecord query record with
    | .error exc => .error exc
    | .ok none => registry.resolveLoop query records taken
    | .ok (some ref) => registry.resolveLoop query records (registry.take ref taken)

def AgentSOPRegistry.resolve (registry : AgentSOPRegistry) (query : SOPQuery) :
    Except RegistryError (List SOPRef) :=
  (registry.resolveLoop query registry.records {}).map fun taken => taken.primary ++ taken.review

def triggered (query : SOPQuery) (review : Bool) (records : List SOPRecord) : List SOPRecord :=
  records.filter fun record =>
    (triggerReason query record).isSome && isReviewScope (record.text "scope") == review

/-- The records whose refs a resolution returns. -/
def AgentSOPRegistry.chosen (registry : AgentSOPRegistry) (query : SOPQuery) : List SOPRecord :=
  (triggered query false registry.records).take registry.maxPrimarySops ++
    (triggered query true registry.records).take registry.maxReviewSops

section Resolve

variable {registry : AgentSOPRegistry} {query : SOPQuery} {record : SOPRecord} {ref : SOPRef}

def RefOf (query : SOPQuery) (record : SOPRecord) (ref : SOPRef) : Prop :=
  ∃ reason path, triggerReason query record = some reason ∧ ref = record.ref reason path

theorem RefOf.tokensEstimate (h : RefOf query record ref) :
    ref.tokensEstimate = estimateRefTokens record := by
  obtain ⟨reason, path, _, rfl⟩ := h
  rfl

theorem resolveRecord_eq_none (h : resolveRecord query record = .ok none) :
    (triggerReason query record).isSome = false := by
  unfold resolveRecord at h
  cases hreason : triggerReason query record with
  | none => rfl
  | some reason =>
    cases hpath : optionalPath (record.fields.get "path") with
    | error exc => simp [hreason, hpath, Except.map] at h
    | ok path => simp [hreason, hpath, Except.map] at h

theorem resolveRecord_eq_some (h : resolveRecord query record = .ok (some ref)) :
    RefOf query record ref := by
  unfold resolveRecord at h
  cases hreason : triggerReason query record with
  | none => simp [hreason] at h
  | some reason =>
    cases hpath : optionalPath (record.fields.get "path") with
    | error exc => simp [hreason, hpath, Except.map] at h
    | ok path =>
      simp only [hreason, hpath, Except.map, Except.ok.injEq, Option.some.injEq] at h
      exact ⟨reason, path, hreason, h.symm⟩

theorem triggered_cons_of_none (review : Bool) (records : List SOPRecord)
    (h : (triggerReason query record).isSome = false) :
    triggered query review (record :: records) = triggered query review records := by
  simp [triggered, h]

theorem triggered_cons_of_ref (review : Bool) (records : List SOPRecord)
    (h : RefOf query record ref) :
    triggered query review (record :: records) =
      if isReviewScope ref.scope = review then record :: triggered query review records
      else triggered query review records := by
  obtain ⟨reason, path, hreason, rfl⟩ := h
  have hscope : (record.ref reason path).scope = record.text "scope" := rfl
  by_cases hreview : isReviewScope (record.text "scope") = review
  · rw [if_pos (by rw [hscope]; exact hreview)]
    simp [triggered, hreason, hreview]
  · rw [if_neg (by rw [hscope]; exact hreview)]
    simp [triggered, hreason, hreview]

theorem takeRef_take (limit : Nat) (seen : List SOPRef) (ref : SOPRef) :
    takeRef limit (seen.take limit) ref = (seen ++ [ref]).take limit := by
  unfold takeRef
  by_cases hroom : seen.length < limit
  · have htake : seen.take limit = seen := List.take_of_length_le (by omega)
    have hall : (seen ++ [ref]).take limit = seen ++ [ref] := by
      apply List.take_of_length_le
      simp only [List.length_append, List.length_singleton]
      omega
    rw [htake, hall, if_pos hroom]
  · have hfull : ¬(seen.take limit).length < limit := by
      simp only [List.length_take]
      omega
    have hall : (seen ++ [ref]).take limit = seen.take limit :=
      List.take_append_of_le_length (by omega)
    rw [if_neg hfull, hall]

/-- The refs of each group that have come by, cut to its limit. -/
def AgentSOPRegistry.cut (registry : AgentSOPRegistry) (primary review : List SOPRef) :
    Resolved where
  primary := primary.take registry.maxPrimarySops
  review := review.take registry.maxReviewSops

theorem take_cut (primary review : List SOPRef) (ref : SOPRef) :
    registry.take ref (registry.cut primary review) =
      if isReviewScope ref.scope then registry.cut primary (review ++ [ref])
      else registry.cut (primary ++ [ref]) review := by
  unfold AgentSOPRegistry.take AgentSOPRegistry.cut
  dsimp only
  rw [takeRef_take, takeRef_take]

/-- The loop rule: every triggered record adds its ref to its group. -/
theorem resolveLoop_cut {records : List SOPRecord} {done : Resolved} (primary review : List SOPRef)
    (h : registry.resolveLoop query records (registry.cut primary review) = .ok done) :
    ∃ primaries reviews, List.Forall₂ (RefOf query) (triggered query false records) primaries ∧
      List.Forall₂ (RefOf query) (triggered query true records) reviews ∧
      done = registry.cut (primary ++ primaries) (review ++ reviews) := by
  induction records generalizing primary review with
  | nil =>
    obtain rfl := Except.ok.inj h
    refine ⟨[], [], .nil, .nil, ?_⟩
    simp only [List.append_nil]
  | cons record records ih =>
    unfold AgentSOPRegistry.resolveLoop at h
    cases hrecord : resolveRecord query record with
    | error exc => simp [hrecord] at h
    | ok found =>
      cases found with
      | none =>
        simp only [hrecord] at h
        have hnone := resolveRecord_eq_none hrecord
        rw [triggered_cons_of_none false records hnone, triggered_cons_of_none true records hnone]
        exact ih primary review h
      | some ref =>
        simp only [hrecord] at h
        have href := resolveRecord_eq_some hrecord
        rw [triggered_cons_of_ref false records href, triggered_cons_of_ref true records href]
        rw [take_cut] at h
        by_cases hreview : isReviewScope ref.scope = true
        · rw [if_pos hreview] at h
          obtain ⟨primaries, reviews, hprimary, hreviews, hdone⟩ := ih primary (review ++ [ref]) h
          rw [if_neg (by simp [hreview]), if_pos hreview]
          refine ⟨primaries, ref :: reviews, hprimary, .cons href hreviews, ?_⟩
          rw [hdone, List.append_assoc, List.singleton_append]
        · rw [if_neg hreview] at h
          obtain ⟨primaries, reviews, hprimary, hreviews, hdone⟩ := ih (primary ++ [ref]) review h
          rw [if_pos (by simpa using hreview), if_neg hreview]
          refine ⟨ref :: primaries, reviews, .cons href hprimary, hreviews, ?_⟩
          rw [hdone, List.append_assoc, List.singleton_append]

/-- A resolution returns the refs of the chosen records, in their order. -/
theorem resolve_chosen {refs : List SOPRef} (h : registry.resolve query = .ok refs) :
    List.Forall₂ (RefOf query) (registry.chosen query) refs := by
  unfold AgentSOPRegistry.resolve at h
  cases hloop : registry.resolveLoop query registry.records {} with
  | error exc => simp [hloop, Except.map] at h
  | ok done =>
    simp only [hloop, Except.map, Except.ok.injEq] at h
    have hcut : ({} : Resolved) = registry.cut [] [] := by simp [AgentSOPRegistry.cut]
    rw [hcut] at hloop
    obtain ⟨primaries, reviews, hprimary, hreview, rfl⟩ := resolveLoop_cut [] [] hloop
    rw [← h]
    exact List.rel_append (List.forall₂_take _ hprimary) (List.forall₂_take _ hreview)

end Resolve
end Headhunt.Sops
