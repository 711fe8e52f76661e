import Headhunt.Graphs.State

/-! The review loop of the War Room graph: `review_latest_artifact`, and
`repair_artifact_after_review`, which appends the repaired artifact to the others. -/
namespace Headhunt.Graphs
open Headhunt.Runtime Py

/-- `int(item.get("size_tokens_estimate") or 0)`; `none` where it raises. -/
def sizeTokensEstimate (artifact : Dict) : Option Int :=
  pyInt ((artifact.get "size_tokens_estimate").orElse (.int 0))

def totalTokensEstimate (artifacts : List Dict) : Option Int :=
  (artifacts.mapM sizeTokensEstimate).map List.sum

def reviewContext (crypto : Crypto) (state : RecruitmentState) (total : Int) : Dict := Dict.ofList
  [("thread_id", .str state.threadId), ("source", .str (textOrDefault state.source "runtime")),
    ("source_ref", .str (textOrDefault state.sourceRef "")),
    ("council_mode", .str (textOrDefault state.councilMode "")),
    ("artifact_count", .int state.artifacts.length),
    ("memory_ref_count", .int state.memoryRefs.length), ("total_tokens_estimate", .int total),
    ("pii_level", .str (Feishu.formatValue
      (((latestBusinessArtifact crypto state).get "pii_level").orElse (.str "none"))))]

def reviewContextFromState (crypto : Crypto) (state : RecruitmentState) : Option Dict :=
  (totalTokensEstimate state.artifacts).map (reviewContext crypto state)

/-- `int(state.get("review_fix_attempts") or 0)`. -/
def RecruitmentState.repairAttempts (state : RecruitmentState) : Int :=
  state.reviewFixAttempts.getD 0

def reviewLatestArtifact (pydantic : Pydantic) (crypto : Crypto) (state : RecruitmentState) :
    Option ReviewGateResult :=
  (reviewContextFromState crypto state).map fun context =>
    reviewArtifact pydantic (latestBusinessArtifact crypto state) context state.repairAttempts

def RecruitmentState.withReview (state : RecruitmentState) (result : ReviewGateResult)
    (reviewedAt : String) : RecruitmentState :=
  { state with reviewResult := some ⟨result, reviewedAt⟩ }

def RecruitmentState.withRepair (state : RecruitmentState) (repaired : Dict) : RecruitmentState :=
  { state with
    artifacts := state.artifacts ++ [repaired]
    reviewFixAttempts := some (state.repairAttempts + 1) }

/-- `repair_artifact_after_review`; `none` where it raises. -/
def repairArtifactAfterReview (crypto : Crypto) (state : RecruitmentState) :
    Option RecruitmentState :=
  (repairArtifactForReview (latestBusinessArtifact crypto state)).map fun repaired =>
    state.withRepair repaired

/-- The repair goes through, and the second review of its artifact says `pass`. -/
def SecondReviewPasses (pydantic : Pydantic) (crypto : Crypto) (state : RecruitmentState) : Prop :=
  ∃ repaired result, repairArtifactAfterReview crypto state = some repaired ∧
    reviewLatestArtifact pydantic crypto repaired = some result ∧ result.status = .pass

/-- The version of the artifact can be counted on, and there is room for its tokens twice. -/
def RepairFits (crypto : Crypto) (state : RecruitmentState) : Prop :=
  (pyInt (((latestBusinessArtifact crypto state).get "version").orElse (.int 1))).isSome ∧
    ∃ total size, totalTokensEstimate state.artifacts = some total ∧
      sizeTokensEstimate (latestBusinessArtifact crypto state) = some size ∧ total + size ≤ 3500

theorem intValue_int (n : Int) : intValue (.int n) = n := by
  by_cases h : n = 0 <;> simp [intValue, Json.orElse, Json.truthy, pyInt, h]

theorem contextBudgetFindings_eq_nil_iff {crypto : Crypto} {state : RecruitmentState}
    {total : Int} :
    contextBudgetFindings (reviewContext crypto state total) = [] ↔
      state.memoryRefs.length ≤ 10 ∧ total ≤ 3500 := by
  have hforbidden : (forbiddenContextKeys.filter fun key =>
      ((reviewContext crypto state total).get? key).isSome) = [] := by
    simp [forbiddenContextKeys, reviewContext, Dict.ofList, Dict.merge]
  have hmemories : (reviewContext crypto state total).get "memory_ref_count" =
      .int state.memoryRefs.length := by
    simp [reviewContext, Dict.get_ofList, Dict.get_cons]
  have htokens : (reviewContext crypto state total).get "total_tokens_estimate" =
      .int total := by
    simp [reviewContext, Dict.get_ofList, Dict.get_cons]
  unfold contextBudgetFindings
  rw [hforbidden, hmemories, htokens, intValue_int, intValue_int]
  by_cases hm : (state.memoryRefs.length : Int) ≤ 10 <;> by_cases ht : total ≤ 3500 <;>
    simp [hm, ht] <;> omega

theorem isBusinessArtifact_latest (crypto : Crypto) (state : RecruitmentState) :
    isBusinessArtifact (latestBusinessArtifact crypto state) = true := by
  unfold latestBusinessArtifact
  cases hfind : state.artifacts.reverse.find? isBusinessArtifact with
  | none =>
    have hkind : (draftArtifact crypto state.threadId).get "kind" = .str "CaseDataDraft" := by
      simp [draftArtifact, Dict.get_ofList, Dict.get_cons]
    simp [isBusinessArtifact, hkind]
  | some artifact => exact List.find?_some hfind

theorem latestBusinessArtifact_withRepair {crypto : Crypto} {state : RecruitmentState}
    {repaired : Dict} (h : isBusinessArtifact repaired = true) :
    latestBusinessArtifact crypto (state.withRepair repaired) = repaired := by
  simp [latestBusinessArtifact, RecruitmentState.withRepair, h]

theorem repairArtifactAfterReview_withReview (crypto : Crypto) (state : RecruitmentState)
    (result : ReviewGateResult) (reviewedAt : String) :
    repairArtifactAfterReview crypto (state.withReview result reviewedAt) =
      (repairArtifactForReview (latestBusinessArtifact crypto state)).map
        (state.withReview result reviewedAt).withRepair := rfl

theorem reviewLatestArtifact_withReview (pydantic : Pydantic) (crypto : Crypto)
    (state : RecruitmentState) (result : ReviewGateResult) (reviewedAt : String)
    (repaired : Dict) :
    reviewLatestArtifact pydantic crypto
      ((state.withReview result reviewedAt).withRepair repaired) =
        reviewLatestArtifact pydantic crypto (state.withRepair repaired) := rfl

theorem totalTokensEstimate_append (artifacts : List Dict) (artifact : Dict) :
    totalTokensEstimate (artifacts ++ [artifact]) =
      (totalTokensEstimate artifacts).bind fun total =>
        (sizeTokensEstimate artifact).map fun size => total + size := by
  unfold totalTokensEstimate
  rw [List.mapM_append]
  cases artifacts.mapM sizeTokensEstimate with
  | none => rfl
  | some sizes =>
    rw [List.mapM_cons]
    cases hsize : sizeTokensEstimate artifact <;> simp

theorem isBusinessArtifact_repairedArtifact {artifact : Dict} (parsed : ArtifactRef)
    (version : Int) :
    isBusinessArtifact (repairedArtifact artifact parsed version) = isBusinessArtifact artifact := by
  simp [isBusinessArtifact, repairedArtifact, Dict.get_set]

theorem sizeTokensEstimate_repairedArtifact (artifact : Dict) (parsed : ArtifactRef)
    (version : Int) :
    sizeTokensEstimate (repairedArtifact artifact parsed version) = sizeTokensEstimate artifact := by
  simp [sizeTokensEstimate, repairedArtifact, Dict.get_set]

theorem get_pii_level_reviewContext (crypto : Crypto) (state : RecruitmentState) (total : Int) :
    (reviewContext crypto state total).get "pii_level" = .str (Feishu.formatValue
      (((latestBusinessArtifact crypto state).get "pii_level").orElse (.str "none"))) := by
  simp [reviewContext, Dict.get_ofList, Dict.get_cons]

/-- The tokens of the repaired artifact are all the second review can object to. -/
theorem review_withRepair_pass_iff {pydantic : Pydantic} {crypto : Crypto}
    {state : RecruitmentState} {parsed : ArtifactRef} {total : Int} (version : Int)
    (htotal : totalTokensEstimate state.artifacts = some total)
    (h : Unobjectionable pydantic (latestBusinessArtifact crypto state)
      (reviewContext crypto state total) parsed) :
    (∃ result, reviewLatestArtifact pydantic crypto (state.withRepair
        (repairedArtifact (latestBusinessArtifact crypto state) parsed version)) = some result ∧
      result.status = .pass) ↔
    ∃ size, sizeTokensEstimate (latestBusinessArtifact crypto state) = some size ∧
      total + size ≤ 3500 := by
  have hbusiness : isBusinessArtifact
      (repairedArtifact (latestBusinessArtifact crypto state) parsed version) = true := by
    rw [isBusinessArtifact_repairedArtifact, isBusinessArtifact_latest]
  have hmemories := (contextBudgetFindings_eq_nil_iff.mp h.budget).1
  have htotals : totalTokensEstimate (state.withRepair
      (repairedArtifact (latestBusinessArtifact crypto state) parsed version)).artifacts =
      (sizeTokensEstimate (latestBusinessArtifact crypto state)).map fun size => total + size := by
    rw [RecruitmentState.withRepair, totalTokensEstimate_append, htotal, Option.bind_some,
      sizeTokensEstimate_repairedArtifact]
  unfold reviewLatestArtifact reviewContextFromState
  rw [htotals, latestBusinessArtifact_withRepair hbusiness]
  cases sizeTokensEstimate (latestBusinessArtifact crypto state) with
  | none => simp
  | some size =>
    have hpii : (reviewContext crypto (state.withRepair (repairedArtifact
        (latestBusinessArtifact crypto state) parsed version)) (total + size)).get "pii_level" =
        (reviewContext crypto state total).get "pii_level" := by
      rw [get_pii_level_reviewContext, get_pii_level_reviewContext,
        latestBusinessArtifact_withRepair hbusiness]
      simp [repairedArtifact, Dict.get_set]
    simp only [Option.map_some, Option.some.injEq, exists_eq_left']
    rw [reviewArtifact_repairedArtifact_pass_iff h hpii, contextBudgetFindings_eq_nil_iff]
    exact and_iff_right hmemories

/-- The second review of the repaired artifact passes exactly if the repair fits. -/
theorem secondReviewPasses_iff (pydantic : Pydantic) (crypto : Crypto) {state : RecruitmentState}
    {result : ReviewGateResult} (reviewedAt : String)
    (h : reviewLatestArtifact pydantic crypto state = some result)
    (hfix : result.status = .needsFix) :
    SecondReviewPasses pydantic crypto (state.withReview result reviewedAt) ↔
      RepairFits crypto state := by
  obtain ⟨context, hcontext, rfl⟩ := Option.map_eq_some_iff.mp h
  obtain ⟨total, htotal, rfl⟩ := Option.map_eq_some_iff.mp hcontext
  obtain ⟨parsed, hfine, hshort⟩ := reviewArtifact_needsFix hfix
  have hrepair := repairArtifactForReview_eq (modelValidate_eq_some_iff.mp hfine.valid) hshort
  have hfits : RepairFits crypto state ↔
      (pyInt (((latestBusinessArtifact crypto state).get "version").orElse (.int 1))).isSome ∧
        ∃ size, sizeTokensEstimate (latestBusinessArtifact crypto state) = some size ∧
          total + size ≤ 3500 := by
    simp [RepairFits, htotal]
  simp only [hfits, SecondReviewPasses, repairArtifactAfterReview_withReview, hrepair]
  cases pyInt (((latestBusinessArtifact crypto state).get "version").orElse (.int 1)) with
  | none => simp
  | some version =>
    have hpass := review_withRepair_pass_iff version htotal hfine
    constructor
    · rintro ⟨repaired, result, hrepaired, hresult, hstatus⟩
      obtain rfl := Option.some.inj hrepaired
      exact ⟨rfl, hpass.mp ⟨result, hresult, hstatus⟩⟩
    · rintro ⟨_, hsize⟩
      obtain ⟨result, hresult, hstatus⟩ := hpass.mpr hsize
      exact ⟨_, result, rfl, hresult, hstatus⟩

def exactTypes : Pydantic where
  uuid v := v.asStr.bind UUID.parse
  int
    | .int n => some n
    | _ => none
  int_int _ := rfl
  firstError _ := ""

def shortArtifact (size : Int) : Dict := Dict.ofList
  [("artifact_id", .str "7d444840-9dc0-41d1-b245-5ffdce74fad2"), ("kind", .str "CaseDataDraft"),
    ("summary", .str "入库草稿"), ("content_ref", .str "artifact://graph/t/action/v1"),
    ("source_refs", .arr [.str "feishu:om_1"]), ("version", .int 1),
    ("size_tokens_estimate", .int size)]

def shortState (size : Int) : RecruitmentState :=
  { threadId := "t", artifacts := [shortArtifact size] }

theorem secondReviewPasses_iff_shortArtifact : ∃ result,
    reviewLatestArtifact exactTypes Crypto.plain (shortState 100) = some result ∧
      (SecondReviewPasses exactTypes Crypto.plain
        ((shortState 100).withReview result "2026-07-01T00:00:00Z") ↔
          RepairFits Crypto.plain (shortState 100)) := by
  have hneedsFix : (reviewLatestArtifact exactTypes Crypto.plain (shortState 100)).map
      (·.status) = some .needsFix := by decide +kernel
  obtain ⟨result, hresult, hfix⟩ := Option.map_eq_some_iff.mp hneedsFix
  exact ⟨result, hresult, secondReviewPasses_iff exactTypes Crypto.plain _ hresult hfix⟩

def RepairResolves : Prop :=
  ∀ (pydantic : Pydantic) (crypto : Crypto) (state : RecruitmentState) (result : ReviewGateResult)
    (reviewedAt : String), reviewLatestArtifact pydantic crypto state = some result →
      result.status = .needsFix →
        SecondReviewPasses pydantic crypto (state.withReview result reviewedAt)

/-- An artifact of 2000 tokens is within the budget once and beyond it twice. -/
theorem not_repairResolves : ¬ RepairResolves := by
  intro hresolves
  have hneedsFix : (reviewLatestArtifact exactTypes Crypto.plain (shortState 2000)).map
      (·.status) = some .needsFix := by decide +kernel
  obtain ⟨result, hresult, hfix⟩ := Option.map_eq_some_iff.mp hneedsFix
  obtain ⟨_, second, hrepaired, hsecond, hpass⟩ := hresolves exactTypes Crypto.plain
    (shortState 2000) result "2026-07-01T00:00:00Z" hresult hfix
  rw [repairArtifactAfterReview_withReview] at hrepaired
  obtain ⟨repaired, hartifact, rfl⟩ := Option.map_eq_some_iff.mp hrepaired
  rw [reviewLatestArtifact_withReview] at hsecond
  have hover : ((repairArtifactForReview
      (latestBusinessArtifact Crypto.plain (shortState 2000))).bind fun repaired =>
        (reviewLatestArtifact exactTypes Crypto.plain
          ((shortState 2000).withRepair repaired)).map (·.status)) = some .needsHuman := by
    decide +kernel
  rw [hartifact, Option.bind_some, hsecond, Option.map_some, hpass] at hover
  cases Option.some.inj hover

end Headhunt.Graphs
