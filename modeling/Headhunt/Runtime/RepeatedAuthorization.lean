import Headhunt.Lib.PyJsonText
import Headhunt.Runtime.TaskAuthorization

/-! A client that sends an authorized request once more. Ids, key and refs are made of the
request, and the payload is made of the request and the clock. -/
namespace Headhunt.Runtime
open Headhunt.Policy Headhunt.Storage Py

/-- A later state: nothing has been taken back, and threads belong to their source. -/
structure KeptSince (db db' : Database) : Prop where
  grows : db.Grows db'
  threads : ∀ id thread, Table.find GraphThread.id id db.graphThreads = some thread →
    ∃ thread', Table.find GraphThread.id id db'.graphThreads = some thread' ∧
      thread'.source = thread.source ∧ thread'.sourceRef = thread.sourceRef

theorem KeptSince.refl (db : Database) : KeptSince db db :=
  ⟨.refl db, fun _ thread h => ⟨thread, h, rfl, rfl⟩⟩

/-- A repeated request answers as the first one did and writes nothing. -/
def AuthorizesOnce (crypto : Crypto) : Prop :=
  ∀ (fresh fresh' : FreshPlan) (row row' : RowDefaults) (authorizedAt authorizedAt' : String)
    (request : TaskAuthorizeRequest) (db db₁ db₂ : Database) (response : TaskAuthorizeResponse),
    request.approved = true →
    authorize crypto fresh row authorizedAt request db = .ok (response, db₁) →
    KeptSince db₁ db₂ →
    authorize crypto fresh' row' authorizedAt' request db₂ = .ok (response, db₂)

section Repeated

variable {crypto : Crypto} {fresh fresh' : FreshPlan} {row row' : RowDefaults}
  {authorizedAt authorizedAt' : String} {request : TaskAuthorizeRequest} {db db₁ db₂ : Database}
  {response : TaskAuthorizeResponse} {plan : TaskPlan} {sourceRef : String}

theorem authorizationPlan_fresh :
    authorizationPlan crypto fresh' request = authorizationPlan crypto fresh request := rfl

theorem get_authorizationPayload :
    ((authorizationPayload authorizedAt request plan sourceRef).get "authorization").asDict.get
      "authorized_at" = .str authorizedAt := by
  simp [authorizationPayload, Dict.get_ofList, Dict.get_cons, Json.asDict]

theorem authorizedAt_of_payload
    (h : authorizationPayload authorizedAt request plan sourceRef =
      authorizationPayload authorizedAt' request plan sourceRef) : authorizedAt = authorizedAt' := by
  have hget : Json.str authorizedAt = .str authorizedAt' := by
    rw [← @get_authorizationPayload authorizedAt request plan sourceRef, h,
      get_authorizationPayload]
  exact Json.str.inj hget

def authorizedResponse (crypto : Crypto) (fresh : FreshPlan) (request : TaskAuthorizeRequest)
    (ref : String) : TaskAuthorizeResponse :=
  ⟨.queued, authorizationPlan crypto fresh request, resolveSourceRef crypto request,
    some (taskAuthorizeKey request.source (resolveSourceRef crypto request)), some ref⟩

theorem authorize_approved (happroved : request.approved = true) :
    authorize crypto fresh row authorizedAt request db = .ok (response, db₁) ↔
      ensureThreadCanBeUsed request (authorizationPlan crypto fresh request)
        (resolveSourceRef crypto request) db = .ok () ∧
      ∃ ref, enqueueAuthorized crypto row authorizedAt request
        (authorizationPlan crypto fresh request) (resolveSourceRef crypto request)
        (insertThreadOrIgnore (authorizationThread request (authorizationPlan crypto fresh request)
          (resolveSourceRef crypto request)) db) = .ok (ref, db₁) ∧
        response = authorizedResponse crypto fresh request ref := by
  unfold authorize
  simp only [happroved, Bool.true_eq_false, if_false, Except.bind_eq_ok, Except.mapError_eq_ok,
    Prod.exists, Except.ok.injEq, Prod.mk.injEq]
  constructor
  · rintro ⟨_, hthread, ref, _, henqueue, rfl, rfl⟩
    exact ⟨hthread, ref, henqueue, rfl⟩
  · rintro ⟨hthread, ref, henqueue, rfl⟩
    exact ⟨(), hthread, ref, db₁, henqueue, rfl, rfl⟩

theorem ensureThreadCanBeUsed_eq_ok :
    ensureThreadCanBeUsed request plan sourceRef db = .ok () ↔
      ∀ thread, Table.find GraphThread.id plan.threadId db.graphThreads = some thread →
        thread.source = request.source ∧ thread.sourceRef = sourceRef := by
  unfold ensureThreadCanBeUsed
  cases hfind : Table.find GraphThread.id plan.threadId db.graphThreads with
  | none => simp
  | some thread => simp

structure AuthorizedAt (crypto : Crypto) (fresh : FreshPlan) (authorizedAt : String)
    (request : TaskAuthorizeRequest) (ref : String) (db : Database) : Prop where
  thread : ∃ thread, Table.find GraphThread.id (authorizationPlan crypto fresh request).threadId
      db.graphThreads = some thread ∧
    thread.source = request.source ∧ thread.sourceRef = resolveSourceRef crypto request
  row : ∃ existing, db.outboxForKey? (taskAuthorizeKey request.source
      (resolveSourceRef crypto request)) = some existing ∧ existing.payloadRef = ref
  payload : ∃ b, db.blob? ref = some b ∧ b.sha256 = stableHash crypto (authorizationPayload
    authorizedAt request (authorizationPlan crypto fresh request) (resolveSourceRef crypto request))

theorem authorizedAt_of_ok (happroved : request.approved = true)
    (h : authorize crypto fresh row authorizedAt request db = .ok (response, db₁)) :
    ∃ ref, response = authorizedResponse crypto fresh request ref ∧
      AuthorizedAt crypto fresh authorizedAt request ref db₁ := by
  obtain ⟨hthread, ref, henqueue, rfl⟩ := (authorize_approved happroved).mp h
  refine ⟨ref, rfl, ?_, outboxForKey?_enqueueJson henqueue, digest_enqueueJson henqueue⟩
  have hthreads := ensureThreadCanBeUsed_eq_ok.mp hthread
  rw [enqueueJson_frame henqueue]
  unfold insertThreadOrIgnore
  dsimp only
  rw [Table.find_insertOrIgnore]
  cases hfind : Table.find GraphThread.id (authorizationPlan crypto fresh request).threadId
      db.graphThreads with
  | some thread => exact ⟨thread, rfl, hthreads thread hfind⟩
  | none =>
    refine ⟨authorizationThread request (authorizationPlan crypto fresh request)
      (resolveSourceRef crypto request), ?_, rfl, rfl⟩
    simp [authorizationThread]

theorem AuthorizedAt.kept {ref : String} (h : AuthorizedAt crypto fresh authorizedAt request ref db₁)
    (hkept : KeptSince db₁ db₂) : AuthorizedAt crypto fresh authorizedAt request ref db₂ := by
  obtain ⟨⟨thread, hthread, hsource, hsourceRef⟩, ⟨existing, hrow, href⟩, b, hb, hsha⟩ := h
  obtain ⟨thread', hthread', hsource', hsourceRef'⟩ := hkept.threads _ thread hthread
  obtain ⟨row', hrow', hsame⟩ := hkept.grows.outbox hrow
  exact
    { thread := ⟨thread', hthread', hsource'.trans hsource, hsourceRef'.trans hsourceRef⟩
      row := ⟨row', hrow', hsame.payloadRef.trans href⟩
      payload := ⟨b, hkept.grows.blobs hb, hsha⟩ }

/-- The request goes through once more exactly if its payload has the stored digest. -/
theorem AuthorizedAt.authorize_iff {ref : String} (happroved : request.approved = true)
    (h : AuthorizedAt crypto fresh authorizedAt request ref db₂) :
    authorize crypto fresh' row' authorizedAt' request db₂ =
        .ok (authorizedResponse crypto fresh request ref, db₂) ↔
      stableHash crypto (authorizationPayload authorizedAt request
        (authorizationPlan crypto fresh request) (resolveSourceRef crypto request)) =
      stableHash crypto (authorizationPayload authorizedAt' request
        (authorizationPlan crypto fresh request) (resolveSourceRef crypto request)) := by
  obtain ⟨⟨thread, hthread, hsource⟩, ⟨existing, hrow, rfl⟩, b, hb, hsha⟩ := h
  have hsame : insertThreadOrIgnore (authorizationThread request (authorizationPlan crypto fresh
      request) (resolveSourceRef crypto request)) db₂ = db₂ := by
    unfold insertThreadOrIgnore Table.insertOrIgnore
    simp [authorizationThread, hthread]
  have hcan : ensureThreadCanBeUsed request (authorizationPlan crypto fresh request)
      (resolveSourceRef crypto request) db₂ = .ok () := by
    refine ensureThreadCanBeUsed_eq_ok.mpr ?_
    intro other hother
    rwa [← Option.some.inj (hthread.symm.trans hother)]
  rw [authorize_approved happroved, @authorizationPlan_fresh crypto fresh fresh' request, hsame]
  simp only [hcan, true_and, enqueueAuthorized, enqueueJson, hrow, ensureExistingPayloadMatches, hb,
    hsha]
  constructor
  · rintro ⟨_, henqueue, _⟩
    by_contra hne
    simp [if_neg hne, bind, Except.bind] at henqueue
  · intro heq
    refine ⟨existing.payloadRef, ?_, rfl⟩
    simp [heq, bind, Except.bind]

def requestPayload (crypto : Crypto) (fresh : FreshPlan) (authorizedAt : String)
    (request : TaskAuthorizeRequest) : Dict :=
  authorizationPayload authorizedAt request (authorizationPlan crypto fresh request)
    (resolveSourceRef crypto request)

/-- A repeated request answers as the first one did, and writes nothing, exactly if the clock
reads the same. -/
theorem authorize_repeats_iff (happroved : request.approved = true)
    (hfirst : authorize crypto fresh row authorizedAt request db = .ok (response, db₁))
    (hkept : KeptSince db₁ db₂)
    (hsha : stableHash crypto (requestPayload crypto fresh authorizedAt request) =
        stableHash crypto (requestPayload crypto fresh authorizedAt' request) →
      requestPayload crypto fresh authorizedAt request =
        requestPayload crypto fresh authorizedAt' request) :
    authorize crypto fresh' row' authorizedAt' request db₂ = .ok (response, db₂) ↔
      authorizedAt' = authorizedAt := by
  obtain ⟨ref, rfl, hauthorized⟩ := authorizedAt_of_ok happroved hfirst
  rw [(hauthorized.kept hkept).authorize_iff happroved]
  constructor
  · intro h
    exact (authorizedAt_of_payload (hsha h)).symm
  · rintro rfl
    rfl

/-- The first request of a new database goes through. -/
theorem authorize_empty (happroved : request.approved = true) :
    ∃ response db₁, authorize crypto fresh row authorizedAt request {} = .ok (response, db₁) := by
  have hthread : ∀ id ∈ some (authorizationPlan crypto fresh request).threadId,
      (insertThreadOrIgnore (authorizationThread request (authorizationPlan crypto fresh request)
        (resolveSourceRef crypto request)) {}).hasThread id = true := by
    intro id hid
    obtain rfl := Option.some.inj hid
    simp [Database.hasThread, insertThreadOrIgnore, Table.insertOrIgnore, authorizationThread,
      Table.find]
  obtain ⟨db₁, henqueue⟩ := enqueueJson_fresh rfl rfl rfl hthread
  exact ⟨_, db₁, (authorize_approved happroved).mpr ⟨rfl, _, henqueue, rfl⟩⟩

end Repeated

/-- The bytes of a text tell the payloads apart that hold texts only. -/
theorem stableHash_plain {p q : Dict} (hp : (Json.obj p).Textual) (hq : (Json.obj q).Textual)
    (h : stableHash Crypto.plain p = stableHash Crypto.plain q) : p = q := by
  have htext : dumps .compact (.obj p) = dumps .compact (.obj q) :=
    toUTF8_injective (hexdigest_injective h)
  exact Json.obj.inj (dumps_injective readable_compact hp hq htext)

def manualRequest : TaskAuthorizeRequest where
  requestText := "Mapping"
  sourceRef := some "manual-1"
  approved := true
  requestText_ne := by decide
  source_ne := by decide

theorem textual_manualPayload (authorizedAt : String) :
    (Json.obj (requestPayload Crypto.plain ⟨.ofNat 1, .ofNat 2⟩ authorizedAt
      manualRequest)).Textual := by
  refine textual_ofList ?_
  simp only [List.mem_cons, List.not_mem_nil, or_false, forall_eq_or_imp, forall_eq, textual_str,
    textual_texts, textual_bool, textual_optionalText, true_and]
  refine textual_ofList ?_
  simp only [List.mem_cons, List.not_mem_nil, or_false, forall_eq_or_imp, forall_eq, textual_str,
    true_and, and_true]
  exact ⟨List.Pairwise.nil, trivial⟩

/-- The same request a moment later is a conflict. -/
theorem not_authorizesOnce : ¬AuthorizesOnce Crypto.plain := by
  intro honce
  obtain ⟨response, db₁, hfirst⟩ := @authorize_empty Crypto.plain ⟨.ofNat 1, .ofNat 2⟩ ⟨.ofNat 1, 0⟩
    "2026-01-01T00:00:00+00:00" manualRequest rfl
  obtain ⟨ref, rfl, hauthorized⟩ := authorizedAt_of_ok rfl hfirst
  have hagain := honce ⟨.ofNat 1, .ofNat 2⟩ ⟨.ofNat 1, .ofNat 2⟩ ⟨.ofNat 1, 0⟩ ⟨.ofNat 2, 1⟩ _
    "2026-01-01T00:00:01+00:00" manualRequest {} db₁ db₁ _ rfl hfirst (.refl db₁)
  have hpayload := stableHash_plain (textual_manualPayload _) (textual_manualPayload _)
    ((hauthorized.authorize_iff rfl).mp hagain)
  exact absurd (authorizedAt_of_payload hpayload) (by decide)

theorem authorize_repeats_iff_manualRequest : ∃ response db₁,
    authorize Crypto.plain ⟨.ofNat 1, .ofNat 2⟩ ⟨.ofNat 1, 0⟩ "2026" manualRequest {} =
      .ok (response, db₁) ∧
    (authorize Crypto.plain ⟨.ofNat 3, .ofNat 4⟩ ⟨.ofNat 2, 1⟩ "2026" manualRequest db₁ =
      .ok (response, db₁)) ∧
    ¬(authorize Crypto.plain ⟨.ofNat 3, .ofNat 4⟩ ⟨.ofNat 2, 1⟩ "2027" manualRequest db₁ =
      .ok (response, db₁)) := by
  obtain ⟨response, db₁, hfirst⟩ := @authorize_empty Crypto.plain ⟨.ofNat 1, .ofNat 2⟩ ⟨.ofNat 1, 0⟩
    "2026" manualRequest rfl
  have hsha : ∀ authorizedAt', stableHash Crypto.plain (requestPayload Crypto.plain
      ⟨.ofNat 1, .ofNat 2⟩ "2026" manualRequest) = stableHash Crypto.plain (requestPayload
        Crypto.plain ⟨.ofNat 1, .ofNat 2⟩ authorizedAt' manualRequest) → _ = _ :=
    fun _ => stableHash_plain (textual_manualPayload _) (textual_manualPayload _)
  refine ⟨response, db₁, hfirst, ?_, ?_⟩
  · exact (authorize_repeats_iff rfl hfirst (.refl db₁) (hsha _)).mpr rfl
  · intro h
    exact absurd ((authorize_repeats_iff rfl hfirst (.refl db₁) (hsha _)).mp h) (by decide)

end Headhunt.Runtime
