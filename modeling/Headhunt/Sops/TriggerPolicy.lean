import Headhunt.Lib.History
import Headhunt.Lib.Result
import Headhunt.Sops.Registry

/-! The trigger policy of a record is copied into its ref and decides nothing. The resolution
respects it exactly when the records it excludes stand too far behind to be taken. -/
namespace Headhunt.Sops
open History Py

/-- The scope is matched by the agent, the node, the task type or the artifact type, not only by
being in the registry. -/
def matchedBy (query : SOPQuery) (scope : String) : Bool :=
  if scope = "business.task_intake" then matchesTaskIntake query
  else if scope = "review.artifact_quality" then
    !(query.outputArtifactType = "" ∧ query.allowedArtifactTypesWrite = [] : Bool)
  else false

/-- What a trigger policy lets a node be given without being asked for. -/
def policyAllows (query : SOPQuery) (triggerPolicy scope : String) : Bool :=
  triggerPolicy ≠ "manual" && (triggerPolicy ≠ "auto_attached" || matchedBy query scope)

def SOPRecord.allowed (query : SOPQuery) (record : SOPRecord) : Bool :=
  policyAllows query (record.text "trigger_policy") (record.text "scope")

/-- The triggered records of a group whose trigger policy lets the node have them. -/
def eligible (query : SOPQuery) (review : Bool) (records : List SOPRecord) : List SOPRecord :=
  (triggered query review records).filter (SOPRecord.allowed query)

def AgentSOPRegistry.limit (registry : AgentSOPRegistry) (review : Bool) : Nat :=
  if review then registry.maxReviewSops else registry.maxPrimarySops

/-- The refs are those of the first eligible records of each group, the primary ones first. -/
structure RespectsTriggers (registry : AgentSOPRegistry) (query : SOPQuery)
    (refs : List SOPRef) : Prop where
  groups : ∃ primary review, List.Forall₂ (RefOf query) (primary ++ review) refs ∧
    primary <+: eligible query false registry.records ∧
    review <+: eligible query true registry.records ∧
    primary.length ≤ registry.maxPrimarySops ∧ review.length ≤ registry.maxReviewSops
  manual : ∀ ref ∈ refs, ref.triggerPolicy ≠ "manual"
  attached : ∀ ref ∈ refs, ref.triggerPolicy = "auto_attached" → matchedBy query ref.scope = true

/-- A record its trigger policy excludes is not triggered by its scope, or as many records of its
group as may be taken are triggered before it. -/
def ExcludedOutOfReach (registry : AgentSOPRegistry) (query : SOPQuery) : Prop :=
  EachAfter (fun earlier record => (triggerReason query record).isSome = true →
    record.allowed query = false →
      registry.limit (isReviewScope (record.text "scope")) ≤
        (triggered query (isReviewScope (record.text "scope")) earlier).length) registry.records

section Take

variable {α : Type*} {test allowed : α → Bool} {n : Nat} {items : List α}

/-- All of the first `n` are allowed exactly if each item that is not has `n` before it. -/
theorem forall_mem_take_filter :
    (∀ x ∈ (items.filter test).take n, allowed x = true) ↔
      EachAfter (fun earlier x => test x = true → allowed x = false →
        n ≤ (earlier.filter test).length) items := by
  induction items using List.reverseRecOn with
  | nil => simp [eachAfter_nil]
  | append_singleton items x ih =>
    rw [eachAfter_append_singleton, ← ih, List.filter_append]
    by_cases hx : test x = true
    · have hone : [x].filter test = [x] := by simp [hx]
      rw [hone, List.take_append]
      constructor
      · intro h
        refine ⟨fun y hy => h y (List.mem_append_left _ hy), ?_⟩
        intro _ hnot
        by_contra hroom
        have hmem : x ∈ [x].take (n - (items.filter test).length) := by
          rw [List.take_of_length_le (by simp; omega)]
          exact List.mem_singleton_self x
        rw [h x (List.mem_append_right _ hmem)] at hnot
        cases hnot
      · rintro ⟨hitems, hlast⟩ y hy
        rcases List.mem_append.mp hy with hy | hy
        · exact hitems y hy
        · obtain rfl := List.mem_singleton.mp (List.mem_of_mem_take hy)
          by_contra hnot
          have hfull := hlast hx (by simpa using hnot)
          rw [Nat.sub_eq_zero_of_le hfull] at hy
          cases hy
    · have hnone : [x].filter test = [] := by simp [hx]
      rw [hnone, List.append_nil]
      exact (and_iff_left fun h => absurd h hx).symm

theorem take_prefix_filter (h : ∀ x ∈ items.take n, allowed x = true) :
    items.take n <+: items.filter allowed := by
  have hsplit : items.filter allowed = items.take n ++ (items.drop n).filter allowed := by
    conv_lhs => rw [← List.take_append_drop n items]
    rw [List.filter_append, List.filter_eq_self.mpr h]
  rw [hsplit]
  exact List.prefix_append _ _

end Take

section Resolve

variable {registry : AgentSOPRegistry} {query : SOPQuery} {record : SOPRecord}
  {records : List SOPRecord} {ref : SOPRef} {refs : List SOPRef}

theorem RefOf.allowed (h : RefOf query record ref) :
    policyAllows query ref.triggerPolicy ref.scope = record.allowed query := by
  obtain ⟨reason, path, _, rfl⟩ := h
  rfl

/-- A resolution that returns what the policies allow has chosen such records. -/
theorem forall_allowed_iff (h : List.Forall₂ (RefOf query) records refs) :
    (∀ record ∈ records, record.allowed query = true) ↔
      ∀ ref ∈ refs, policyAllows query ref.triggerPolicy ref.scope = true := by
  induction h with
  | nil => simp
  | cons hfirst _ ih => simp [hfirst.allowed, ih]

theorem policyAllows_iff {triggerPolicy scope : String} :
    policyAllows query triggerPolicy scope = true ↔
      triggerPolicy ≠ "manual" ∧ (triggerPolicy = "auto_attached" → matchedBy query scope = true) := by
  simp [policyAllows, imp_iff_not_or]

/-- The chosen records of one group, by what stands before each excluded one. -/
theorem forall_take_triggered (review : Bool) :
    (∀ record ∈ (triggered query review registry.records).take (registry.limit review),
        record.allowed query = true) ↔
      EachAfter (fun earlier record => (triggerReason query record).isSome = true →
        isReviewScope (record.text "scope") = review → record.allowed query = false →
          registry.limit review ≤ (triggered query review earlier).length) registry.records := by
  unfold triggered
  rw [forall_mem_take_filter]
  unfold EachAfter
  simp only [Bool.and_eq_true, beq_iff_eq, and_imp]

theorem excludedOutOfReach_iff :
    ExcludedOutOfReach registry query ↔
      ∀ record ∈ registry.chosen query, record.allowed query = true := by
  have hchosen : (∀ record ∈ registry.chosen query, record.allowed query = true) ↔
      ∀ review, ∀ record ∈ (triggered query review registry.records).take (registry.limit review),
        record.allowed query = true := by
    unfold AgentSOPRegistry.chosen AgentSOPRegistry.limit
    simp [or_imp, forall_and]
  rw [hchosen]
  simp only [forall_take_triggered]
  constructor
  · rintro h review earlier record later hsplit htriggered rfl hexcluded
    exact h earlier record later hsplit htriggered hexcluded
  · intro h earlier record later hsplit htriggered hexcluded
    exact h _ earlier record later hsplit htriggered rfl hexcluded

/-- The resolution respects the trigger policies exactly if the excluded records are out of
reach. -/
theorem respectsTriggers_iff (h : registry.resolve query = .ok refs) :
    RespectsTriggers registry query refs ↔ ExcludedOutOfReach registry query := by
  have hchosen := resolve_chosen h
  rw [excludedOutOfReach_iff, forall_allowed_iff hchosen]
  constructor
  · intro hrespects ref href
    exact policyAllows_iff.mpr ⟨hrespects.manual ref href, hrespects.attached ref href⟩
  · intro hallowed
    have hrecords := (forall_allowed_iff hchosen).mpr hallowed
    refine ⟨⟨_, _, hchosen, ?_, ?_, ?_, ?_⟩, ?_, ?_⟩
    · exact take_prefix_filter fun record hrecord =>
        hrecords record (List.mem_append_left _ hrecord)
    · exact take_prefix_filter fun record hrecord =>
        hrecords record (List.mem_append_right _ hrecord)
    · exact List.length_take_le _ _
    · exact List.length_take_le _ _
    · exact fun ref href => (policyAllows_iff.mp (hallowed ref href)).1
    · exact fun ref href => (policyAllows_iff.mp (hallowed ref href)).2

end Resolve

def workflowRecord (name triggerPolicy : String) : Json := .obj (Dict.ofList
  [("sop_id", .str name), ("version", .str "0.1.0"), ("title", .str name),
    ("scope", .str s!"workflow.{name}"), ("trigger_policy", .str triggerPolicy),
    ("content_ref", .str s!"sop://workflows/{name}/0.1.0"), ("summary", .str "Steps of a run."),
    ("status", .str "draft")])

def registryPayload (sops : List Json) : Json := .obj (Dict.ofList [("sops", .arr sops)])

def manualPayload : Json := registryPayload [workflowRecord "rollback" "manual"]

def behindPayload : Json :=
  registryPayload [workflowRecord "delivery" "auto_required", workflowRecord "rollback" "manual"]

def plainQuery : SOPQuery := ⟨"JobAnalyst", "calibrate", "job", "", []⟩

theorem resolve_manualPayload : ∃ registry ref,
    AgentSOPRegistry.fromPayload manualPayload = .ok registry ∧
      registry.resolve plainQuery = .ok [ref] ∧ ref.triggerPolicy = "manual" := by
  have hrefs : ((AgentSOPRegistry.fromPayload manualPayload).bind fun registry =>
      (registry.resolve plainQuery).map fun refs => refs.map (·.triggerPolicy)).toOption =
        some ["manual"] := by
    decide +kernel
  obtain ⟨registry, hregistry, hresolve⟩ := Except.bind_eq_ok.mp (Except.toOption_eq_some.mp hrefs)
  obtain ⟨refs, hrefs, hpolicies⟩ := Except.map_eq_ok.mp hresolve
  obtain ⟨ref, rfl, hpolicy⟩ := List.map_eq_singleton_iff.mp hpolicies
  exact ⟨registry, ref, hregistry, hrefs, hpolicy⟩

def TriggersRespected : Prop :=
  ∀ (payload : Json) (registry : AgentSOPRegistry) (query : SOPQuery) (refs : List SOPRef),
    AgentSOPRegistry.fromPayload payload = .ok registry → registry.resolve query = .ok refs →
    RespectsTriggers registry query refs

/-- A manual record is attached to a node nobody asked it for. -/
theorem not_triggersRespected : ¬TriggersRespected := by
  intro h
  obtain ⟨registry, ref, hregistry, hresolve, hpolicy⟩ := resolve_manualPayload
  have hrespects := h manualPayload registry plainQuery [ref] hregistry hresolve
  exact hrespects.manual ref (List.mem_singleton_self ref) hpolicy

/-- A manual record is left out where another one comes first, and is given out where it is alone. -/
theorem respectsTriggers_iff_manualPayload :
    (∃ registry refs, AgentSOPRegistry.fromPayload behindPayload = .ok registry ∧
      registry.resolve plainQuery = .ok refs ∧ refs.map (·.sopId) = ["delivery"] ∧
      (∃ record ∈ registry.records, record.text "trigger_policy" = "manual") ∧
      RespectsTriggers registry plainQuery refs) ∧
    ∃ registry refs, AgentSOPRegistry.fromPayload manualPayload = .ok registry ∧
      registry.resolve plainQuery = .ok refs ∧ ¬ExcludedOutOfReach registry plainQuery := by
  constructor
  · have hevaluated : ((AgentSOPRegistry.fromPayload behindPayload).bind fun registry =>
        (registry.resolve plainQuery).map fun refs => (refs.map (·.sopId),
          (registry.records.any fun record => record.text "trigger_policy" = "manual"),
          (registry.chosen plainQuery).all (SOPRecord.allowed plainQuery))).toOption =
        some (["delivery"], true, true) := by
      decide +kernel
    obtain ⟨registry, hregistry, hresolve⟩ :=
      Except.bind_eq_ok.mp (Except.toOption_eq_some.mp hevaluated)
    obtain ⟨refs, hrefs, hvalues⟩ := Except.map_eq_ok.mp hresolve
    obtain ⟨hids, hvalues⟩ := Prod.mk.inj hvalues
    obtain ⟨hmanual, hallowed⟩ := Prod.mk.inj hvalues
    obtain ⟨record, hrecord, hpolicy⟩ := List.any_eq_true.mp hmanual
    refine ⟨registry, refs, hregistry, hrefs, hids, ⟨record, hrecord, of_decide_eq_true hpolicy⟩, ?_⟩
    exact (respectsTriggers_iff hrefs).mpr (excludedOutOfReach_iff.mpr (List.all_eq_true.mp hallowed))
  · obtain ⟨registry, ref, hregistry, hresolve, hpolicy⟩ := resolve_manualPayload
    refine ⟨registry, [ref], hregistry, hresolve, fun hbehind => ?_⟩
    have hrespects := (respectsTriggers_iff hresolve).mpr hbehind
    exact hrespects.manual ref (List.mem_singleton_self ref) hpolicy

end Headhunt.Sops
