import Headhunt.Feishu.TaskPreparation
import Headhunt.Runtime.TaskAuthorization
import Headhunt.Runtime.TaskStarts

/-! The preparation of tasks among the clicks, the API requests and everything else the
service does. Workers claim the items and finish them in any order; an execution whose lease
has run out goes on. An execution takes effect when it commits: its inserts wait for those of
a concurrent one under the same ref or key, and read what that one has committed. -/
namespace Headhunt.Runtime
open Headhunt.Core Headhunt.Feishu Headhunt.ModelProfiles Headhunt.Policy Headhunt.Storage Py

structure TaskSystem (ω : Type*) where
  clock : Time
  db : Database
  held : ω → Option Held

/-- The starts of the keys that belong to the cards and dispatches of tasks. -/
def taskKeyStarts : List String :=
  ["task_confirmation:", "task_parse_failed:", "graph_dispatch:", "task_authorize:"]

def reservedTaskKey (key : String) : Bool := taskKeyStarts.any (startsWith key)

/-- No other part of the service uses these keys. -/
def Background.SparesTasks : Background → Prop
  | .outbox _ _ key _ _ => reservedTaskKey key = false
  | _ => True

instance : (work : Background) → Decidable work.SparesTasks
  | .outbox _ _ _ _ _ => inferInstanceAs (Decidable (_ = _))
  | .thread _ | .blob _ _ _ _ | .cardAction _ => inferInstanceAs (Decidable True)

inductive TaskEvent (ω : Type*)
  | tick (d : Nat)
  | background (work : Background)
  /-- A click on a button of the confirmation card that has been made for the profile. -/
  | click (row : RowDefaults) (authorizedAt : String) (callback : VerifiedFeishuCallback)
      (sourceRef : String) (modelProfileId : UUID) (decision : Decision)
  | authorize (fresh : FreshPlan) (row : RowDefaults) (authorizedAt : String)
      (request : TaskAuthorizeRequest)
  | claim (w : ω) (locked : UUID → Bool)
  | finishPrepare (w : ω) (run : PrepareRun)
  | finishOther (w : ω) (outcome : Except OutboxDispatchError Unit)
  | crash (w : ω)

section Step

variable {ω : Type*} [DecidableEq ω] (settings : Settings) (crypto : Crypto)
  (decryptGcm : DecryptGcm) (config : ω → FeishuOutboxDispatcher)

def handlePreparation (item : FeishuOutbox) (run : PrepareRun) (db : Database) :
    Except HandlerError Database :=
  match getJsonPayload item.payloadRef db with
  | .error _ => .error (.uncaught (reprText item.payloadRef))
  | .ok payload => prepareTaskConfirmation settings crypto decryptGcm payload run db

def commitDispatch (d : FeishuOutboxDispatcher) (h : Held) (db : Database) :
    Except HandlerError Database → Database
  | .ok db => { db with outbox := d.finish h.item h.currentTime (.ok ()) db.outbox }
  | .error exc =>
    { db with
      outbox := d.finish h.item h.currentTime (.error (handlerDispatchError exc)) db.outbox }

def TaskSystem.step (s : TaskSystem ω) : TaskEvent ω → Option (TaskSystem ω)
  | .tick d => some { s with clock := s.clock + d }
  | .background work =>
    if work.SparesTasks then
      some { s with db := commitOr s.db ((work.run s.db).map fun db => ((), db)) }
    else none
  | .click row authorizedAt callback sourceRef modelProfileId decision =>
    if ClicksCard crypto sourceRef decision callback ∧
        (s.db.outboxForKey? (taskConfirmationKey sourceRef modelProfileId)).isSome = true then
      some { s with
        db := commitOr s.db (enqueueTaskConfirmation crypto row authorizedAt callback s.db) }
    else none
  | .authorize fresh row authorizedAt request =>
    some { s with db := commitOr s.db (authorize crypto fresh row authorizedAt request s.db) }
  | .claim w locked =>
    match s.held w with
    | some _ => none
    | none =>
      match (config w).claim s.clock locked s.db.outbox with
      | none => some s
      | some (item, table) =>
        some { s with
          db := { s.db with outbox := table }
          held := Function.update s.held w (some ⟨item, s.clock⟩) }
  | .finishPrepare w run =>
    match s.held w with
    | none => none
    | some h =>
      if h.item.kind = .taskConfirmationPrepare then
        some { s with
          db := commitDispatch (config w) h s.db
            (handlePreparation settings crypto decryptGcm h.item run s.db)
          held := Function.update s.held w none }
      else none
  | .finishOther w outcome =>
    match s.held w with
    | none => none
    | some h =>
      if h.item.kind = .taskConfirmationPrepare then none
      else
        some { s with
          db := { s.db with outbox := (config w).finish h.item h.currentTime outcome s.db.outbox }
          held := Function.update s.held w none }
  | .crash w => some { s with held := Function.update s.held w none }

def TaskSystem.Initial (s : TaskSystem ω) : Prop := s.db = {} ∧ ∀ w, s.held w = none

end Step

theorem startsWith_append {text start : String} {rest : List Char}
    (h : text.toList = start.toList ++ rest) : startsWith text start = true := by
  rw [startsWith, h, List.isPrefixOf_iff_prefix]
  exact List.prefix_append _ _

theorem startsWith_of_starts {text a b : String} (ha : startsWith text a = true)
    (hb : startsWith text b = true) : startsWith a b = true ∨ startsWith b a = true := by
  simp only [startsWith, List.isPrefixOf_iff_prefix] at ha hb ⊢
  exact List.prefix_or_prefix_of_prefix hb ha

theorem taskKeyStarts_apart : ∀ a ∈ taskKeyStarts, ∀ b ∈ taskKeyStarts,
    startsWith a b = true → a = b := by decide

theorem taskKeyStart_unique {key a b : String} (ha : a ∈ taskKeyStarts) (hb : b ∈ taskKeyStarts)
    (hkey : startsWith key a = true) (hkey' : startsWith key b = true) : a = b := by
  rcases startsWith_of_starts hkey hkey' with h | h
  · exact taskKeyStarts_apart a ha b hb h
  · exact (taskKeyStarts_apart b hb a ha h).symm

theorem reservedTaskKey_of_start {key start : String} (hstart : start ∈ taskKeyStarts)
    (h : startsWith key start = true) : reservedTaskKey key = true :=
  List.any_eq_true.mpr ⟨start, hstart, h⟩

theorem taskConfirmationKey_start (sourceRef : String) (modelProfileId : UUID) :
    startsWith (taskConfirmationKey sourceRef modelProfileId) "task_confirmation:" = true :=
  startsWith_append (taskConfirmationKey_toList sourceRef modelProfileId)

theorem taskParseFailedKey_start (sourceRef : String) (modelProfileId : UUID) :
    startsWith (taskParseFailedKey sourceRef modelProfileId) "task_parse_failed:" = true :=
  startsWith_append (taskParseFailedKey_toList sourceRef modelProfileId)

theorem graphDispatchKey_start (key : String) :
    startsWith (graphDispatchKey key) "graph_dispatch:" = true :=
  startsWith_append (graphDispatchKey_toList key)

theorem taskAuthorizeKey_start (source sourceRef : String) :
    startsWith (taskAuthorizeKey source sourceRef) "task_authorize:" = true := by
  have hlist : (taskAuthorizeKey source sourceRef).toList =
      "task_authorize:".toList ++ (source.toList ++ (":".toList ++ sourceRef.toList)) := by
    unfold taskAuthorizeKey
    simp only [ToString.toString, String.toList_append, List.append_assoc]
  exact startsWith_append hlist

/-- A part that neither sends a card of a task nor dispatches one. -/
structure SparesTasks (db db' : Database) : Prop where
  grows : db.Grows db'
  keys : ∀ key, reservedTaskKey key = true → (db'.outboxForKey? key).isSome = true →
    (db.outboxForKey? key).isSome = true

namespace SparesTasks

variable {db db' : Database}

theorem refl (db : Database) : SparesTasks db db := ⟨.refl db, fun _ _ h => h⟩

/-- The outbox is the same. -/
theorem of_outbox (hgrows : db.Grows db') (houtbox : db'.outbox = db.outbox) :
    SparesTasks db db' := by
  refine ⟨hgrows, fun key _ h => ?_⟩
  unfold Database.outboxForKey? at h ⊢
  rwa [houtbox] at h

/-- The workers change the state of a row and nothing it says. -/
theorem workers {table : OutboxTable}
    (h : Statements { succeed := fun _ => True } db { db with outbox := table }) :
    SparesTasks db { db with outbox := table } := by
  refine ⟨h.grows, fun key _ hkey => ?_⟩
  obtain ⟨row', hrow'⟩ := Option.isSome_iff_exists.mp hkey
  obtain ⟨row, hrow | ⟨hnone, _⟩, hsame, _⟩ := h.outbox_origin (Table.find_mem hrow')
  · have hrowKey : row.idempotencyKey = key := by
      rw [← hsame.idempotencyKey]
      exact Table.find_key hrow'
    unfold Database.outboxForKey?
    rw [← hrowKey]
    exact Option.isSome_iff_exists.mpr (Table.exists_find_of_mem hrow)
  · exact hnone.elim

theorem finish (d : FeishuOutboxDispatcher) (item : FeishuOutbox) (currentTime : Time)
    (outcome : Except OutboxDispatchError Unit) :
    SparesTasks db { db with outbox := d.finish item currentTime outcome db.outbox } :=
  workers (finish_statements d item currentTime outcome fun _ => trivial)

theorem background {work : Background} (hspares : work.SparesTasks) :
    SparesTasks db (commitOr db ((work.run db).map fun db => ((), db))) := by
  cases hrun : work.run db with
  | error exc => exact refl db
  | ok db' =>
    change SparesTasks db db'
    cases work with
    | thread row =>
      obtain rfl := Except.ok.inj hrun
      exact of_outbox ((Database.Grows.insertThread row).trans (.updateThread row.id fun _ => rfl))
        rfl
    | blob contentRef payload rawText sha256 =>
      refine of_outbox (storeJsonPayload_grows hrun) ?_
      rw [storeJsonPayload_frame hrun]
    | cardAction row =>
      refine of_outbox (.insertCardAction hrun) ?_
      obtain ⟨_, _, _, rfl⟩ := Database.insertCardAction_eq_ok.mp hrun
      rfl
    | outbox row kind key threadId payloadRef =>
      refine ⟨.insertOutbox hrun, fun k hk h => ?_⟩
      have hne : key ≠ k := by
        rintro rfl
        rw [show reservedTaskKey key = false from hspares] at hk
        cases hk
      obtain ⟨_, _, _, rfl⟩ := Database.insertOutbox_eq_ok.mp hrun
      unfold Database.outboxForKey? at h ⊢
      rw [Table.find_append_singleton] at h
      simpa [pendingOutbox, hne] using h

end SparesTasks

inductive TaskEffect {ω : Type*} (settings : Settings) (crypto : Crypto) (decryptGcm : DecryptGcm)
    (s t : TaskSystem ω) : TaskEvent ω → Prop
  | spares {event : TaskEvent ω} (h : SparesTasks s.db t.db) :
    TaskEffect settings crypto decryptGcm s t event
  | click {row : RowDefaults} {authorizedAt : String} {callback : VerifiedFeishuCallback}
      {sourceRef : String} {modelProfileId : UUID} {decision : Decision} (rawText : String)
      (hclick : ClicksCard crypto sourceRef decision callback)
      (hsent : (s.db.outboxForKey? (taskConfirmationKey sourceRef modelProfileId)).isSome = true)
      (hconfirm : confirmTask crypto row authorizedAt callback rawText
        ((taskCard crypto sourceRef).command decision callback (buildPayloadRef callback)) s.db =
          .ok t.db) :
    TaskEffect settings crypto decryptGcm s t
      (.click row authorizedAt callback sourceRef modelProfileId decision)
  | authorize {fresh : FreshPlan} {row : RowDefaults} {authorizedAt : String}
      {request : TaskAuthorizeRequest} (thread : GraphThread) (ref : String)
      (henqueue : enqueueAuthorized crypto row authorizedAt request
        (authorizationPlan crypto fresh request) (resolveSourceRef crypto request)
        (insertThreadOrIgnore thread s.db) = .ok (ref, t.db)) :
    TaskEffect settings crypto decryptGcm s t (.authorize fresh row authorizedAt request)
  | prepare {w : ω} {run : PrepareRun} (h : Held) (payload : Dict) (item : PrepareItem)
      (view : Database) (hheld : s.held w = some h) (hkind : h.item.kind = .taskConfirmationPrepare)
      (hpayload : getJsonPayload h.item.payloadRef s.db = .ok payload)
      (hitem : prepareItem payload = .ok item)
      (hend : PrepareEnd settings crypto decryptGcm item payload run s.db view)
      (hfinish : SparesTasks view t.db) :
    TaskEffect settings crypto decryptGcm s t (.finishPrepare w run)

section Effect

variable {ω : Type*} [DecidableEq ω] {settings : Settings} {crypto : Crypto}
  {decryptGcm : DecryptGcm} {config : ω → FeishuOutboxDispatcher} {s t : TaskSystem ω}

theorem handlePreparation_eq_ok {item : FeishuOutbox} {run : PrepareRun} {db db' : Database}
    (h : handlePreparation settings crypto decryptGcm item run db = .ok db') :
    ∃ payload prepared, getJsonPayload item.payloadRef db = .ok payload ∧
      prepareItem payload = .ok prepared ∧
      prepareTask settings crypto decryptGcm prepared payload run db = .ok db' := by
  unfold handlePreparation at h
  split at h
  · cases h
  · rename_i payload hpayload
    obtain ⟨prepared, hitem, h⟩ := prepareTaskConfirmation_eq_ok.mp h
    exact ⟨payload, prepared, hpayload, hitem, h⟩

/-- A click that is not recorded changes nothing. -/
theorem commitOr_confirmation {row : RowDefaults} {authorizedAt : String}
    {callback : VerifiedFeishuCallback} {sourceRef : String} {decision : Decision} {db : Database}
    (hclick : ClicksCard crypto sourceRef decision callback) :
    commitOr db (enqueueTaskConfirmation crypto row authorizedAt callback db) = db ∨
      ∃ rawText, confirmTask crypto row authorizedAt callback rawText
        ((taskCard crypto sourceRef).command decision callback (buildPayloadRef callback)) db =
          .ok (commitOr db (enqueueTaskConfirmation crypto row authorizedAt callback db)) := by
  cases htext : String.fromUTF8? callback.rawBody with
  | none =>
    refine .inl ?_
    unfold enqueueTaskConfirmation
    split
    · rfl
    · simp only [htext, commitOr]
  | some rawText =>
    rw [enqueueTaskConfirmation_click hclick htext]
    cases hconfirm : confirmTask crypto row authorizedAt callback rawText
        ((taskCard crypto sourceRef).command decision callback (buildPayloadRef callback)) db with
    | ok db' => exact .inr ⟨rawText, hconfirm⟩
    | error exc =>
      refine .inl ?_
      unfold confirmationResult
      dsimp only
      split_ifs <;> rfl

theorem TaskSystem.step_effect {event : TaskEvent ω}
    (h : s.step settings crypto decryptGcm config event = some t) :
    TaskEffect settings crypto decryptGcm s t event := by
  cases event with
  | tick d =>
    obtain rfl := Option.some.inj h
    exact .spares (.refl s.db)
  | background work =>
    simp only [TaskSystem.step] at h
    split_ifs at h with hspares
    obtain rfl := Option.some.inj h
    exact .spares (.background hspares)
  | click row authorizedAt callback sourceRef modelProfileId decision =>
    simp only [TaskSystem.step] at h
    split_ifs at h with hclick
    obtain rfl := Option.some.inj h
    rcases commitOr_confirmation hclick.1 with heq | ⟨rawText, hconfirm⟩
    · refine .spares ?_
      rw [heq]
      exact .refl s.db
    · exact .click rawText hclick.1 hclick.2 hconfirm
  | authorize fresh row authorizedAt request =>
    obtain rfl := Option.some.inj h
    cases hrun : authorize crypto fresh row authorizedAt request s.db with
    | error exc => exact .spares (.refl s.db)
    | ok committed =>
      obtain ⟨response, db'⟩ := committed
      rcases authorize_eq_ok hrun with rfl | ⟨ref, henqueue⟩
      · exact .spares (.refl _)
      · exact .authorize _ ref henqueue
  | claim w locked =>
    simp only [TaskSystem.step] at h
    split at h
    · cases h
    · split at h
      · obtain rfl := Option.some.inj h
        exact .spares (.refl s.db)
      · rename_i item table hclaim
        obtain rfl := Option.some.inj h
        exact .spares (.workers (claim_statements hclaim))
  | finishPrepare w run =>
    simp only [TaskSystem.step] at h
    split at h
    · cases h
    · rename_i held hheld
      split_ifs at h with hkind
      obtain rfl := Option.some.inj h
      cases hrun : handlePreparation settings crypto decryptGcm held.item run s.db with
      | error exc => exact .spares (.finish _ _ _ _)
      | ok view =>
        obtain ⟨payload, item, hpayload, hitem, hprepare⟩ := handlePreparation_eq_ok hrun
        exact .prepare held payload item view hheld hkind hpayload hitem
          (prepareTask_eq_ok hprepare) (.finish _ _ _ _)
  | finishOther w outcome =>
    simp only [TaskSystem.step] at h
    split at h
    · cases h
    · split_ifs at h
      obtain rfl := Option.some.inj h
      exact .spares (.finish _ _ _ _)
  | crash w =>
    obtain rfl := Option.some.inj h
    exact .spares (.refl s.db)

end Effect
end Headhunt.Runtime
