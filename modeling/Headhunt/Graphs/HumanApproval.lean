import Headhunt.Lib.PyJson
import Headhunt.Lib.Result
import Headhunt.Storage.Models

/-! `_normalize_human_approval`: the resume value against the pending proposal. -/
namespace Headhunt.Graphs
open Headhunt.Storage Py

def matchingValue (payload : Dict) (key expected : String) : Except String String :=
  match firstStr [payload.get key] with
  | none => .error s!"HumanApproval missing {key}"
  | some value =>
    if value ≠ expected then .error s!"HumanApproval {key} does not match pending action"
    else .ok value

def normalizedApproval (threadId actionId interruptId idempotencyKey : String) (decision : Decision)
    (approval : Dict) : Dict :=
  let normalized := Dict.ofList
    [("thread_id", .str threadId), ("action_id", .str actionId),
      ("interrupt_id", .str interruptId), ("idempotency_key", .str idempotencyKey),
      ("decision", .str decision.value), ("approver", .obj (approval.get "approver").asDict)]
  match approval.get "edited_payload" with
  | .obj edited => normalized.set "edited_payload" (.obj edited)
  | _ => normalized

/-- The decision is `str(value or "")`, which is in the set for a string only. -/
def normalizeHumanApproval (approval : Json) (threadId actionId interruptId idempotencyKey : String) :
    Except String Dict :=
  match approval with
  | .obj approval => do
    let threadId ← matchingValue approval "thread_id" threadId
    let actionId ← matchingValue approval "action_id" actionId
    let interruptId ← matchingValue approval "interrupt_id" interruptId
    let idempotencyKey ← matchingValue approval "idempotency_key" idempotencyKey
    match (Dict.get approval "decision").asStr.bind Decision.ofString? with
    | none => .error "HumanApproval decision must be approve, edit, or reject"
    | some decision =>
      if decision = .edit ∧ (Dict.get approval "edited_payload").truthy = false then
        .error "HumanApproval edit requires edited_payload"
      else
        .ok (normalizedApproval threadId actionId interruptId idempotencyKey decision approval)
  | _ => .error "HumanApproval resume payload must be an object"

theorem matchingValue_eq_ok {payload : Dict} {key expected s : String} :
    matchingValue payload key expected = .ok s ↔
      payload.get key = .str expected ∧ expected ≠ "" ∧ s = expected := by
  unfold matchingValue
  cases h : firstStr [payload.get key] with
  | none =>
    have hno : ∀ e, payload.get key = .str e → e = "" := by
      intro e he
      by_contra hne
      have := firstStr_singleton_eq_some.mpr ⟨he, hne⟩
      simp [h] at this
    simp only [reduceCtorEq, false_iff, not_and]
    intro he hne
    exact absurd (hno expected he) hne
  | some value =>
    obtain ⟨hv, hne⟩ := firstStr_singleton_eq_some.mp h
    simp only [ne_eq, Except.ite_error_eq_ok, not_not, Except.ok.injEq, hv, Json.str.injEq]
    constructor
    · rintro ⟨rfl, rfl⟩
      exact ⟨rfl, hne, rfl⟩
    · rintro ⟨rfl, _, rfl⟩
      exact ⟨rfl, rfl⟩

/-- The resume value names the pending proposal. -/
structure Answers (approval : Dict) (threadId actionId interruptId idempotencyKey : String) :
    Prop where
  threadId : approval.get "thread_id" = .str threadId ∧ threadId ≠ ""
  actionId : approval.get "action_id" = .str actionId ∧ actionId ≠ ""
  interruptId : approval.get "interrupt_id" = .str interruptId ∧ interruptId ≠ ""
  idempotencyKey : approval.get "idempotency_key" = .str idempotencyKey ∧ idempotencyKey ≠ ""

theorem normalizeHumanApproval_eq_ok {approval : Json}
    {threadId actionId interruptId idempotencyKey : String} {normalized : Dict} :
    normalizeHumanApproval approval threadId actionId interruptId idempotencyKey = .ok normalized ↔
      ∃ (fields : Dict) (decision : Decision), approval = .obj fields ∧
        Answers fields threadId actionId interruptId idempotencyKey ∧
        fields.get "decision" = .str decision.value ∧
        (decision = .edit → (fields.get "edited_payload").truthy = true) ∧
        normalized =
          normalizedApproval threadId actionId interruptId idempotencyKey decision fields := by
  cases approval with
  | obj fields =>
    simp only [normalizeHumanApproval, Except.bind_eq_ok, matchingValue_eq_ok]
    constructor
    · rintro ⟨_, ⟨ht, htn, rfl⟩, _, ⟨ha, han, rfl⟩, _, ⟨hi, hin, rfl⟩, _, ⟨hk, hkn, rfl⟩, h⟩
      cases hd : (Dict.get fields "decision").asStr.bind Decision.ofString? with
      | none => simp [hd] at h
      | some decision =>
        simp only [hd, Except.ite_error_eq_ok, Except.ok.injEq] at h
        obtain ⟨text, htext, hdec⟩ := Option.bind_eq_some_iff.mp hd
        have hval := Decision.ofString?_eq_some.mp hdec
        have hget : Dict.get fields "decision" = .str text := by
          cases hf : Dict.get fields "decision" <;> simp_all [Json.asStr]
        refine ⟨fields, decision, rfl, ⟨⟨ht, htn⟩, ⟨ha, han⟩, ⟨hi, hin⟩, ⟨hk, hkn⟩⟩, ?_, ?_, h.2.symm⟩
        · rw [hget, hval]
        · intro he
          simpa [he] using h.1
    · rintro ⟨_, decision, hf, hans, hd, hedit, rfl⟩
      obtain rfl := Json.obj.inj hf
      have hdec : (Dict.get fields "decision").asStr.bind Decision.ofString? = some decision := by
        rw [hd]
        exact Decision.ofString?_eq_some.mpr rfl
      refine ⟨threadId, ⟨hans.threadId.1, hans.threadId.2, rfl⟩,
        actionId, ⟨hans.actionId.1, hans.actionId.2, rfl⟩,
        interruptId, ⟨hans.interruptId.1, hans.interruptId.2, rfl⟩,
        idempotencyKey, ⟨hans.idempotencyKey.1, hans.idempotencyKey.2, rfl⟩, ?_⟩
      simp only [hdec]
      rw [if_neg]
      rintro ⟨he, ht⟩
      simp [hedit he] at ht
  | _ => simp [normalizeHumanApproval]

end Headhunt.Graphs
