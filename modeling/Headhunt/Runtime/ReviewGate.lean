import Headhunt.Feishu.TaskCards
import Headhunt.Lib.PyJsonText
import Headhunt.Lib.Substring
import Headhunt.Memory.VectorStore

/-! `ReviewGate`: the five reviewers of one artifact, and the repair of an artifact that is
sent back. -/
namespace Headhunt.Runtime
open Headhunt.Feishu Headhunt.Memory Headhunt.Storage Py

/-- `int(x)`; `none` where it raises. -/
def pyInt : Json → Option Int
  | .int n => some n
  | .bool b => some (if b then 1 else 0)
  | .float (.finite neg mantissa exponent) =>
    let n : Int := match exponent with
      | .ofNat e => mantissa * 2 ^ e
      | .negSucc e => mantissa / 2 ^ (e + 1)
    some (if neg then -n else n)
  | .str s => intOf 10 s
  | _ => none

def businessArtifactKinds : List String :=
  ["RequisitionCalibrationDraft", "TalentMapDraft", "CandidateMatchDraft", "ReportDraft",
    "FollowupReviewDraft", "CaseDataDraft"]

def forbiddenContextKeys : List String :=
  ["messages", "chat_history", "raw_prompt", "node_history", "recruitment_state",
    "all_artifacts", "all_memories", "agent_runs", "full_sop_body"]

def sideEffectPhrases : List String :=
  ["已发送", "已经发送", "已触达", "已经触达", "已联系", "已经联系", "已写入", "已经写入",
    "sent to candidate", "contacted candidate", "wrote to bitable"]

inductive Severity
  | fix
  | human
deriving DecidableEq

structure ReviewFinding where
  reviewer : String
  severity : Severity
  message : String
  path : Option String
deriving DecidableEq

inductive ReviewGateStatus
  | pass
  | needsFix
  | needsHuman
deriving DecidableEq

structure ReviewGateResult where
  status : ReviewGateStatus
  artifactId : Option UUID
  artifactKind : Option String
  findings : List ReviewFinding
  repairAttempts : Int

/-- The lax conversions of pydantic and the text of its errors; an integer stays itself. -/
structure Pydantic where
  uuid : Json → Option UUID
  int : Json → Option Int
  int_int : ∀ n, int (.int n) = some n
  firstError : Dict → String

structure ArtifactRef where
  artifactId : UUID
  kind : String
  summary : String
  contentRef : String
  evidenceRefs : List String
  sourceRefs : List String
  piiLevel : PiiLevel
  version : Int
  sizeTokensEstimate : Int

def artifactRefFields : List String :=
  ["artifact_id", "kind", "summary", "content_ref", "evidence_refs", "source_refs", "pii_level",
    "version", "size_tokens_estimate"]

def textListField : Option Json → Option (List String)
  | none => some []
  | some (.arr elems) => elems.mapM Json.asStr
  | some _ => none

def piiLevelField : Option Json → Option PiiLevel
  | none => some .none
  | some (.str s) => [PiiLevel.none, .low, .medium, .high].find? fun level => level.value = s
  | some _ => none

def intField (pydantic : Pydantic) (default : Int) : Option Json → Option Int
  | none => some default
  | some v => pydantic.int v

/-- `ArtifactRef.model_validate`; no other key is allowed. -/
def ArtifactRef.modelValidate (pydantic : Pydantic) (artifact : Dict) : Option ArtifactRef :=
  if (artifact.all fun item => item.1 ∈ artifactRefFields) = false then none
  else do
    let artifactId ← (artifact.get? "artifact_id").bind pydantic.uuid
    let kind ← (artifact.get? "kind").bind Json.asStr
    let summary ← (artifact.get? "summary").bind Json.asStr
    let contentRef ← (artifact.get? "content_ref").bind Json.asStr
    let evidenceRefs ← textListField (artifact.get? "evidence_refs")
    let sourceRefs ← textListField (artifact.get? "source_refs")
    let piiLevel ← piiLevelField (artifact.get? "pii_level")
    let version ← intField pydantic 1 (artifact.get? "version")
    let sizeTokensEstimate ← intField pydantic 0 (artifact.get? "size_tokens_estimate")
    some ⟨artifactId, kind, summary, contentRef, evidenceRefs, sourceRefs, piiLevel, version,
      sizeTokensEstimate⟩

def schemaFindings (pydantic : Pydantic) (artifact : Dict) :
    Option ArtifactRef × List ReviewFinding :=
  match ArtifactRef.modelValidate pydantic artifact with
  | some parsed => (some parsed, [])
  | none =>
    (none, [{
      reviewer := "SchemaValidator"
      severity := .human
      message := "ArtifactRef schema validation failed; artifact is not " ++
        s!"eligible for action proposal: {pydantic.firstError artifact}"
      path := some "artifact" }])

def evidenceFindings (artifact : ArtifactRef) : List ReviewFinding :=
  if artifact.kind ∉ businessArtifactKinds then []
  else if artifact.evidenceRefs ≠ [] ∨ artifact.sourceRefs ≠ [] then []
  else
    [{
      reviewer := "EvidenceConsistencyReviewer"
      severity := .human
      message := "Business artifact has no evidence_refs or source_refs to support " ++
        "the conclusion."
      path := some "evidence_refs" }]

def practicalityFindings (artifact : ArtifactRef) : List ReviewFinding :=
  if 12 ≤ (strip artifact.summary).length then []
  else
    [{
      reviewer := "PracticalityReviewer"
      severity := .fix
      message := "Artifact summary is too short to be actionable."
      path := some "summary" }]

def intValue (value : Json) : Int := (pyInt (value.orElse (.int 0))).getD 0

def contextBudgetFindings (context : Dict) : List ReviewFinding :=
  let forbidden := (forbiddenContextKeys.filter fun key => (context.get? key).isSome).mergeSort
    fun a b => decide (a ≤ b)
  let keys := if forbidden = [] then [] else
    [{
      reviewer := "ContextBudgetReviewer"
      severity := .human
      message := "Review context contains forbidden raw context keys: " ++
        ", ".intercalate forbidden ++ "."
      path := some "review_context" }]
  let memories := if intValue (context.get "memory_ref_count") ≤ 10 then [] else
    [{
      reviewer := "ContextBudgetReviewer"
      severity := .human
      message := "Review context contains too many memory refs for " ++ "artifact-level review."
      path := some "review_context.memory_ref_count" }]
  let tokens := if intValue (context.get "total_tokens_estimate") ≤ 3500 then [] else
    [{
      reviewer := "ContextBudgetReviewer"
      severity := .human
      message := "Review context token estimate exceeds the artifact-level budget."
      path := some "review_context.total_tokens_estimate" }]
  keys ++ memories ++ tokens

def loweredSummary (artifact : Dict) : String :=
  lower (formatValue ((artifact.get "summary").orElse (.str "")))

def safetyFindings (artifact context : Dict) : List ReviewFinding :=
  let piiLevel := formatValue
    (((artifact.get "pii_level").orElse (context.get "pii_level")).orElse (.str "none"))
  let pii := if piiLevel ≠ "high" then [] else
    [{
      reviewer := "SafetyReviewer"
      severity := .human
      message := "High-PII artifact requires human review before any side effect."
      path := some "pii_level" }]
  let sideEffects :=
    if (sideEffectPhrases.any fun phrase => contains (loweredSummary artifact) (lower phrase)) then
      [{
        reviewer := "SafetyReviewer"
        severity := .human
        message := "Artifact summary implies an external side effect already happened."
        path := some "summary" }]
    else []
  pii ++ sideEffects

def reviewFindings (pydantic : Pydantic) (artifact context : Dict) : List ReviewFinding :=
  let (parsed, findings) := schemaFindings pydantic artifact
  let judged := match parsed with
    | some parsed => evidenceFindings parsed ++ practicalityFindings parsed
    | none => []
  findings ++ judged ++ contextBudgetFindings context ++ safetyFindings artifact context

def reviewStatus (findings : List ReviewFinding) (repairAttempts : Int) : ReviewGateStatus :=
  let human := findings.any fun finding => finding.severity = .human
  let fix := findings.any fun finding => finding.severity = .fix
  if human ∨ fix ∧ 1 ≤ repairAttempts then .needsHuman
  else if fix then .needsFix
  else .pass

/-- `ReviewGate.review_artifact` of a dict. -/
def reviewArtifact (pydantic : Pydantic) (artifact reviewContext : Dict) (repairAttempts : Int) :
    ReviewGateResult :=
  let parsed := ArtifactRef.modelValidate pydantic artifact
  let findings := reviewFindings pydantic artifact reviewContext
  { status := reviewStatus findings repairAttempts
    artifactId := match parsed with
      | some parsed => some parsed.artifactId
      | none => if (artifact.get "artifact_id").truthy then
          UUID.parse (formatValue (artifact.get "artifact_id")) else none
    artifactKind := match parsed with
      | some parsed => some parsed.kind
      | none => if artifact.get "kind" = .null then none else
          some (formatValue (artifact.get "kind"))
    findings := findings
    repairAttempts := repairAttempts }

/-- `list(x)` of a value that is not empty. -/
def listOf : Json → Option (List Json)
  | .arr elems => some elems
  | .str s => some (s.toList.map fun c => .str (String.singleton c))
  | .obj items => some (items.map fun item => .str item.1)
  | _ => none

def repairSuffix : String := "；ReviewGate 已补充可执行摘要，需人工确认后落库。"

def repairRef (artifact : Dict) : String :=
  let artifactId := formatValue ((artifact.get "artifact_id").orElse (.str "unknown"))
  s!"review://artifact-review-gate/{artifactId}/repair"

/-- `repair_artifact_for_review`; `none` where it raises. -/
def repairArtifactForReview (artifact : Dict) : Option Dict := do
  let summary := strip (formatValue ((artifact.get "summary").orElse (.str "")))
  let repaired := if summary.length < 12 then
    artifact.set "summary" (.str (summary ++ repairSuffix)) else artifact
  let version ← pyInt ((repaired.get "version").orElse (.int 1))
  let repaired := repaired.set "version" (.int (version + 1))
  let sourceRefs ← listOf ((repaired.get "source_refs").orElse (.arr []))
  some (repaired.set "source_refs" (.arr (sourceRefs ++ [.str (repairRef repaired)])))

theorem evidenceFindings_human (artifact : ArtifactRef) :
    ∀ finding ∈ evidenceFindings artifact, finding.severity = .human := by
  unfold evidenceFindings
  split_ifs <;> simp

theorem contextBudgetFindings_human (context : Dict) :
    ∀ finding ∈ contextBudgetFindings context, finding.severity = .human := by
  unfold contextBudgetFindings
  dsimp only
  split_ifs <;> simp

theorem safetyFindings_human (artifact context : Dict) :
    ∀ finding ∈ safetyFindings artifact context, finding.severity = .human := by
  unfold safetyFindings
  dsimp only
  split_ifs <;> simp

theorem eq_nil_of_fix {findings : List ReviewFinding}
    (hhuman : ∀ finding ∈ findings, finding.severity = .human)
    (hfix : ∀ finding ∈ findings, finding.severity = .fix) : findings = [] := by
  refine List.eq_nil_iff_forall_not_mem.mpr ?_
  intro finding hmem
  have hboth := (hhuman finding hmem).symm.trans (hfix finding hmem)
  cases hboth

theorem practicalityFindings_eq_nil_iff {artifact : ArtifactRef} :
    practicalityFindings artifact = [] ↔ 12 ≤ (strip artifact.summary).length := by
  unfold practicalityFindings
  split_ifs with h <;> simp [h]

theorem reviewStatus_eq_pass_iff {findings : List ReviewFinding} {n : Int} :
    reviewStatus findings n = .pass ↔ findings = [] := by
  constructor
  · intro h
    refine List.eq_nil_iff_forall_not_mem.mpr ?_
    intro finding hmem
    unfold reviewStatus at h
    dsimp only at h
    split_ifs at h with hhuman hfix
    simp only [List.any_eq_true, decide_eq_true_eq, not_or, not_exists, not_and] at hhuman hfix
    cases hsev : finding.severity with
    | fix => exact hfix finding hmem hsev
    | human => exact hhuman.1 finding hmem hsev
  · rintro rfl
    simp [reviewStatus]

theorem reviewStatus_eq_needsFix {findings : List ReviewFinding} {n : Int}
    (h : reviewStatus findings n = .needsFix) :
    (∀ finding ∈ findings, finding.severity = .fix) ∧ findings ≠ [] := by
  unfold reviewStatus at h
  dsimp only at h
  split_ifs at h with hhuman hfix
  simp only [List.any_eq_true, decide_eq_true_eq, not_or, not_exists, not_and] at hhuman hfix
  obtain ⟨found, hfound, _⟩ := hfix
  refine ⟨?_, List.ne_nil_of_mem hfound⟩
  intro finding hmem
  cases hsev : finding.severity with
  | fix => rfl
  | human => exact absurd hsev (hhuman.1 finding hmem)

/-- What the reviewers that send an artifact to a human have nothing to say about. -/
structure Unobjectionable (pydantic : Pydantic) (artifact context : Dict) (parsed : ArtifactRef) :
    Prop where
  valid : ArtifactRef.modelValidate pydantic artifact = some parsed
  evidence : evidenceFindings parsed = []
  budget : contextBudgetFindings context = []
  safety : safetyFindings artifact context = []

theorem reviewFindings_eq {pydantic : Pydantic} {artifact context : Dict} {parsed : ArtifactRef}
    (h : ArtifactRef.modelValidate pydantic artifact = some parsed) :
    reviewFindings pydantic artifact context =
      evidenceFindings parsed ++ practicalityFindings parsed ++ contextBudgetFindings context ++
        safetyFindings artifact context := by
  simp [reviewFindings, schemaFindings, h]

/-- An artifact is sent back for its short summary and nothing else. -/
theorem reviewArtifact_needsFix {pydantic : Pydantic} {artifact context : Dict} {n : Int}
    (h : (reviewArtifact pydantic artifact context n).status = .needsFix) :
    ∃ parsed, Unobjectionable pydantic artifact context parsed ∧
      (strip parsed.summary).length < 12 := by
  obtain ⟨hfix, hne⟩ := reviewStatus_eq_needsFix h
  cases hvalid : ArtifactRef.modelValidate pydantic artifact with
  | none =>
    -- the finding of the schema validator is for a human
    have hschema := hfix _ (by simp [reviewFindings, schemaFindings, hvalid]; exact .inl rfl)
    cases hschema
  | some parsed =>
    rw [reviewFindings_eq hvalid] at hfix hne
    simp only [List.mem_append, or_imp, forall_and] at hfix
    obtain ⟨⟨⟨hevidence, _⟩, hbudget⟩, hsafety⟩ := hfix
    have hevidence := eq_nil_of_fix (evidenceFindings_human parsed) hevidence
    have hbudget := eq_nil_of_fix (contextBudgetFindings_human context) hbudget
    have hsafety := eq_nil_of_fix (safetyFindings_human artifact context) hsafety
    refine ⟨parsed, ⟨hvalid, hevidence, hbudget, hsafety⟩, ?_⟩
    by_contra hlong
    refine hne ?_
    rw [hevidence, hbudget, hsafety, practicalityFindings_eq_nil_iff.mpr (not_lt.mp hlong)]
    rfl

theorem reviewArtifact_pass_iff {pydantic : Pydantic} {artifact context : Dict} {n : Int}
    {parsed : ArtifactRef} (h : ArtifactRef.modelValidate pydantic artifact = some parsed) :
    (reviewArtifact pydantic artifact context n).status = .pass ↔
      evidenceFindings parsed = [] ∧ 12 ≤ (strip parsed.summary).length ∧
        contextBudgetFindings context = [] ∧ safetyFindings artifact context = [] := by
  have hstatus : (reviewArtifact pydantic artifact context n).status =
      reviewStatus (reviewFindings pydantic artifact context) n := rfl
  rw [hstatus, reviewStatus_eq_pass_iff, reviewFindings_eq h]
  simp only [List.append_eq_nil_iff, practicalityFindings_eq_nil_iff, and_assoc]

structure ReadsAs (pydantic : Pydantic) (artifact : Dict) (parsed : ArtifactRef) : Prop where
  keys : ∀ item ∈ artifact, item.1 ∈ artifactRefFields
  artifactId : (artifact.get? "artifact_id").bind pydantic.uuid = some parsed.artifactId
  kind : (artifact.get? "kind").bind Json.asStr = some parsed.kind
  summary : (artifact.get? "summary").bind Json.asStr = some parsed.summary
  contentRef : (artifact.get? "content_ref").bind Json.asStr = some parsed.contentRef
  evidenceRefs : textListField (artifact.get? "evidence_refs") = some parsed.evidenceRefs
  sourceRefs : textListField (artifact.get? "source_refs") = some parsed.sourceRefs
  piiLevel : piiLevelField (artifact.get? "pii_level") = some parsed.piiLevel
  version : intField pydantic 1 (artifact.get? "version") = some parsed.version
  sizeTokensEstimate :
    intField pydantic 0 (artifact.get? "size_tokens_estimate") = some parsed.sizeTokensEstimate

theorem bind_asStr_eq_some {v : Option Json} {s : String} :
    v.bind Json.asStr = some s ↔ v = some (.str s) := by
  rcases v with _ | v
  · simp
  · cases v <;> simp [Json.asStr]

theorem modelValidate_eq_some_iff {pydantic : Pydantic} {artifact : Dict} {parsed : ArtifactRef} :
    ArtifactRef.modelValidate pydantic artifact = some parsed ↔ ReadsAs pydantic artifact parsed := by
  unfold ArtifactRef.modelValidate
  constructor
  · intro h
    split_ifs at h with hkeys
    simp only [Option.bind_eq_bind, Option.bind_eq_some_iff, Option.some.injEq] at h
    obtain ⟨_, hid, _, hkind, _, hsummary, _, hcontent, _, hevidence, _, hsource, _, hpii, _,
      hversion, _, hsize, rfl⟩ := h
    refine ⟨?_, Option.bind_eq_some_iff.mpr hid, Option.bind_eq_some_iff.mpr hkind,
      Option.bind_eq_some_iff.mpr hsummary, Option.bind_eq_some_iff.mpr hcontent, hevidence,
      hsource, hpii, hversion, hsize⟩
    intro item hitem
    rw [Bool.not_eq_false] at hkeys
    exact of_decide_eq_true (List.all_eq_true.mp hkeys item hitem)
  · intro h
    have hkeys : (artifact.all fun item => decide (item.1 ∈ artifactRefFields)) = true :=
      List.all_eq_true.mpr fun item hitem => decide_eq_true (h.keys item hitem)
    rw [if_neg (by simp [hkeys])]
    simp only [h.artifactId, h.kind, h.summary, h.contentRef, h.evidenceRefs, h.sourceRefs,
      h.piiLevel, h.version, h.sizeTokensEstimate, Option.bind_eq_bind, Option.bind_some]

/-- The reference the repair adds, for the artifact as it is by then. -/
def repairedRef (artifact : Dict) (summary : String) (version : Int) : String :=
  repairRef ((artifact.set "summary" (.str summary)).set "version" (.int version))

def repairedArtifact (artifact : Dict) (parsed : ArtifactRef) (version : Int) : Dict :=
  let summary := strip parsed.summary ++ repairSuffix
  let repaired := (artifact.set "summary" (.str summary)).set "version" (.int (version + 1))
  repaired.set "source_refs" (.arr
    ((parsed.sourceRefs ++ [repairedRef artifact summary (version + 1)]).map Json.str))

theorem textListField_eq_some {v : Option Json} {texts : List String}
    (h : textListField v = some texts) :
    v.getD (.arr []) = .arr (texts.map Json.str) := by
  have helems : ∀ {elems : List Json} {texts : List String}, elems.mapM Json.asStr = some texts →
      elems = texts.map Json.str := by
    intro elems
    induction elems with
    | nil =>
      intro texts h
      obtain rfl : [] = texts := by simpa using h
      rfl
    | cons v elems ih =>
      intro texts h
      simp only [List.mapM_cons, Option.bind_eq_bind, Option.bind_eq_some_iff, Option.pure_def,
        Option.some.injEq] at h
      obtain ⟨t, ht, ts, hts, rfl⟩ := h
      rw [ih hts, List.map_cons]
      cases v <;> simp_all [Json.asStr]
  unfold textListField at h
  split at h
  · obtain rfl := Option.some.inj h
    rfl
  · rw [Option.getD_some, helems h]
  · cases h

theorem mapM_asStr_map (texts : List String) :
    (texts.map Json.str).mapM Json.asStr = some texts := by
  induction texts with
  | nil => rfl
  | cons t texts ih => simp [List.mapM_cons, ih, Json.asStr]

theorem formatValue_summary {artifact : Dict} {s : String}
    (h : artifact.get? "summary" = some (.str s)) :
    formatValue ((artifact.get "summary").orElse (.str "")) = s := by
  have hget : artifact.get "summary" = .str s := by rw [Dict.get, h, Option.getD_some]
  rw [hget, Json.orElse]
  split_ifs with htrue
  · rfl
  · have hempty : s = "" := by simpa [Json.truthy] using htrue
    rw [hempty]
    rfl

/-- The repair of a valid artifact with a short summary raises or gives the repaired artifact. -/
theorem repairArtifactForReview_eq {pydantic : Pydantic} {artifact : Dict} {parsed : ArtifactRef}
    (h : ReadsAs pydantic artifact parsed) (hshort : (strip parsed.summary).length < 12) :
    repairArtifactForReview artifact =
      (pyInt ((artifact.get "version").orElse (.int 1))).map (repairedArtifact artifact parsed) := by
  have hsummary := formatValue_summary (bind_asStr_eq_some.mp h.summary)
  have hrefs : listOf ((artifact.get "source_refs").orElse (.arr [])) =
      some (parsed.sourceRefs.map Json.str) := by
    have hlist := textListField_eq_some h.sourceRefs
    cases hget : artifact.get? "source_refs" with
    | none =>
      rw [hget, Option.getD_none] at hlist
      rw [Dict.get, hget, ← Json.arr.inj hlist]
      rfl
    | some refs =>
      rw [hget, Option.getD_some] at hlist
      rw [Dict.get, hget, Option.getD_some, hlist]
      cases parsed.sourceRefs <;> rfl
  have hkeys : ∀ version : Int, (((artifact.set "summary"
      (.str (strip parsed.summary ++ repairSuffix))).set "version" (.int version)).get
        "source_refs") = artifact.get "source_refs" := by
    intro version
    rw [Dict.get_set_ne _ _ (by decide), Dict.get_set_ne _ _ (by decide)]
  unfold repairArtifactForReview
  simp only [hsummary, if_pos hshort, Option.bind_eq_bind, hkeys, hrefs,
    Dict.get_set_ne _ _ (show "version" ≠ "summary" by decide)]
  cases pyInt ((artifact.get "version").orElse (.int 1)) with
  | none => rfl
  | some version => simp [repairedArtifact, repairedRef]

theorem mem_artifactRefFields_of_mem_set {artifact : Dict} {key : String} {v : Json}
    (h : ∀ item ∈ artifact, item.1 ∈ artifactRefFields) (hkey : key ∈ artifactRefFields) :
    ∀ item ∈ artifact.set key v, item.1 ∈ artifactRefFields := by
  intro item hitem
  rcases Dict.mem_set hitem with rfl | hitem
  · exact hkey
  · exact h item hitem

/-- The repaired artifact is valid again, with the new summary and one reference more. -/
theorem readsAs_repairedArtifact {pydantic : Pydantic} {artifact : Dict} {parsed : ArtifactRef}
    (h : ReadsAs pydantic artifact parsed) (version : Int) :
    ReadsAs pydantic (repairedArtifact artifact parsed version)
      { parsed with
        summary := strip parsed.summary ++ repairSuffix
        version := version + 1
        sourceRefs := parsed.sourceRefs ++
          [repairedRef artifact (strip parsed.summary ++ repairSuffix) (version + 1)] } where
  keys := by
    refine mem_artifactRefFields_of_mem_set ?_ (by decide)
    refine mem_artifactRefFields_of_mem_set ?_ (by decide)
    exact mem_artifactRefFields_of_mem_set h.keys (by decide)
  artifactId := by simpa [repairedArtifact] using h.artifactId
  kind := by simpa [repairedArtifact] using h.kind
  summary := by simp [repairedArtifact, Json.asStr]
  contentRef := by simpa [repairedArtifact] using h.contentRef
  evidenceRefs := by simpa [repairedArtifact] using h.evidenceRefs
  sourceRefs := by
    simp only [repairedArtifact, Dict.get?_set_self, textListField]
    exact mapM_asStr_map _
  piiLevel := by simpa [repairedArtifact] using h.piiLevel
  version := by simp [repairedArtifact, intField, pydantic.int_int]
  sizeTokensEstimate := by simpa [repairedArtifact] using h.sizeTokensEstimate

theorem le_length_strip_repairSuffix (s : String) :
    12 ≤ (strip (s ++ repairSuffix)).length := by
  have hfound : repairSuffix.toList <:+: (strip (s ++ repairSuffix)).toList := by
    rw [strip, String.toList_ofList, infix_stripChars (by decide) (by decide) (by decide),
      String.toList_append]
    exact (List.suffix_append s.toList repairSuffix.toList).isInfix
  have hlength : 12 ≤ repairSuffix.toList.length := by decide
  have hle := hfound.length_le
  rw [← String.length_toList]
  omega

/-- The repair brings no phrase of a side effect into a summary. -/
theorem contains_repaired {s phrase : String} (hphrase : phrase ∈ sideEffectPhrases)
    (h : contains (lower (strip s ++ repairSuffix)) (lower phrase) = true) :
    contains (lower s) (lower phrase) = true := by
  have hsolid : ∀ phrase ∈ sideEffectPhrases, (lower phrase).toList ≠ [] ∧
      '；' ∉ (lower phrase).toList ∧
      ¬ (lower phrase).toList <:+: (repairSuffix.toList.tail.map Char.toLower) := by decide
  obtain ⟨hne, hmem, hsuffix⟩ := hsolid phrase hphrase
  have hsplit : (lower (strip s ++ repairSuffix)).toList =
      (strip s).toList.map Char.toLower ++ '；' :: repairSuffix.toList.tail.map Char.toLower := by
    simp [lower, repairSuffix]
  have hfound := of_decide_eq_true h
  rw [hsplit, List.infix_append_cons _ _ hne hmem] at hfound
  have hstrip : (strip s).toList <:+: s.toList := by
    rw [strip, String.toList_ofList]
    exact isInfix_stripChars _ _
  have hlower : (lower s).toList = s.toList.map Char.toLower := by simp [lower]
  rw [contains, hlower]
  exact decide_eq_true ((hfound.resolve_right hsuffix).trans (hstrip.map Char.toLower))

theorem safetyFindings_eq_nil_iff {artifact context : Dict} :
    safetyFindings artifact context = [] ↔
      formatValue (((artifact.get "pii_level").orElse (context.get "pii_level")).orElse
        (.str "none")) ≠ "high" ∧
      ∀ phrase ∈ sideEffectPhrases, contains (loweredSummary artifact) (lower phrase) = false := by
  unfold safetyFindings
  dsimp only
  rw [List.append_eq_nil_iff]
  refine and_congr ?_ ?_
  · split_ifs with h <;> simp [h]
  · split_ifs with h
    · simpa using h
    · simpa using h

/-- The repaired artifact is as safe as the first. -/
theorem safetyFindings_repairedArtifact {artifact context context' : Dict} {parsed : ArtifactRef}
    (version : Int) (hsummary : artifact.get? "summary" = some (.str parsed.summary))
    (hpii : context'.get "pii_level" = context.get "pii_level")
    (h : safetyFindings artifact context = []) :
    safetyFindings (repairedArtifact artifact parsed version) context' = [] := by
  have hfirst : loweredSummary artifact = lower parsed.summary := by
    rw [loweredSummary, formatValue_summary hsummary]
  have hsecond : loweredSummary (repairedArtifact artifact parsed version) =
      lower (strip parsed.summary ++ repairSuffix) := by
    rw [loweredSummary, formatValue_summary]
    simp [repairedArtifact]
  rw [safetyFindings_eq_nil_iff] at h ⊢
  refine ⟨?_, ?_⟩
  · rw [hpii]
    simpa [repairedArtifact, Dict.get_set] using h.1
  · intro phrase hphrase
    rw [hsecond, Bool.eq_false_iff]
    intro hcontains
    have hfalse := h.2 phrase hphrase
    rw [hfirst, contains_repaired hphrase hcontains] at hfalse
    cases hfalse

/-- Once repaired, a valid artifact with a short summary fails no review but that of the budget. -/
theorem reviewArtifact_repairedArtifact_pass_iff {pydantic : Pydantic}
    {artifact context context' : Dict} {parsed : ArtifactRef} {version n : Int}
    (h : Unobjectionable pydantic artifact context parsed)
    (hpii : context'.get "pii_level" = context.get "pii_level") :
    (reviewArtifact pydantic (repairedArtifact artifact parsed version) context' n).status = .pass ↔
      contextBudgetFindings context' = [] := by
  have hreads := modelValidate_eq_some_iff.mp h.valid
  have hrepaired := readsAs_repairedArtifact hreads version
  have hsafety := safetyFindings_repairedArtifact version
    (bind_asStr_eq_some.mp hreads.summary) hpii h.safety
  rw [reviewArtifact_pass_iff (modelValidate_eq_some_iff.mpr hrepaired)]
  constructor
  · intro hpass
    exact hpass.2.2.1
  · intro hbudget
    refine ⟨?_, le_length_strip_repairSuffix _, hbudget, hsafety⟩
    simp [evidenceFindings]

end Headhunt.Runtime
