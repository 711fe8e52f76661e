import Headhunt.Core.Settings
import Headhunt.Feishu.Gateways

/-! The clients of the Feishu and Bitable APIs and the tenant access token they share, against
a remote side that may answer anything at any time. -/
namespace Headhunt.Feishu
open Headhunt.Core Headhunt.Storage Py

structure FeishuAppSettings where
  feishuAppId : Option String
  feishuAppSecret : Option String

inductive HttpMethod
  | get
  | post
  | patch
deriving DecidableEq

structure ApiRequest where
  method : HttpMethod
  path : String
  params : List (String × String) := []
  headers : List (String × String)
  json : Option Json

inductive HttpRequest
  | tenantAccessToken (appId appSecret : String)
  | api (request : ApiRequest)

/-- A request with its answer, which is missing where the client raised. -/
structure Exchange where
  request : HttpRequest
  response : Option Response

/-- The other side: its answers and the clock may depend on everything that was exchanged. -/
structure Remote where
  answer : List Exchange → HttpRequest → Option Response
  now : List Exchange → Time

structure CachedTenantToken where
  token : String
  expiresAt : Time

/-- The provider with the history of its HTTP client. -/
structure FeishuAuthProvider where
  cachedToken : Option CachedTenantToken := none
  log : List Exchange := []

inductive HttpFailure
  | transport
  | gateway (exc : FeishuGatewayError)
  | uncaught (name : String)
deriving DecidableEq

/-- A `FeishuGatewayError` that comes from no answer. -/
def gatewayError (message : String) : HttpFailure := .gateway ⟨false, message, none, none, none⟩

def tokenRefreshWindowSeconds : Int := 1800

def shouldRefresh (expiresAt now : Time) : Bool :=
  decide (expiresAt - seconds tokenRefreshWindowSeconds ≤ now)

/-- The token an answer of the token endpoint gives, and its seconds. A boolean is an integer. -/
def parseTenantAccessToken (response : Response) : Except HttpFailure (String × Int) := do
  let payload ← (checkResponse response).mapError .gateway
  match firstStr [payload.get "tenant_access_token"] with
  | none => .error (gatewayError "Feishu token response missing tenant_access_token")
  | some token =>
    match (intCode (payload.get "expire")).filter (0 < ·) with
    | none => .error (gatewayError "Feishu token response missing expire")
    | some expireSeconds => .ok (token, expireSeconds)

def authHeaders (token idempotencyKey : String) : List (String × String) :=
  [("Authorization", "Bearer " ++ token), ("Content-Type", "application/json; charset=utf-8"),
    ("X-Request-Id", idempotencyKey)]

def messageUuid (crypto : Crypto) (idempotencyKey : String) : String :=
  if idempotencyKey.length ≤ 50 then idempotencyKey
  else String.ofList ((sha256Hex crypto idempotencyKey).toList.take 50)

def nestedStr : Json → List String → Option String
  | current, [] => firstStr [current]
  | .obj current, key :: path => nestedStr (Dict.get current key) path
  | _, _ :: _ => none

/-- `UUID(s).version`, which only RFC 4122 UUIDs have. -/
def uuidVersion (id : UUID) : Option Nat :=
  if id.int / 2 ^ 62 % 4 = 2 then some (id.int / 2 ^ 76 % 16) else none

def validateUuid4ClientToken (clientToken : String) : Except HttpFailure Unit :=
  match UUID.parse clientToken with
  | some parsed =>
    if uuidVersion parsed ≠ some 4 ∨ parsed.str ≠ lower clientToken then
      .error (gatewayError "Bitable client_token must be a UUIDv4 string")
    else .ok ()
  | none => .error (gatewayError "Bitable client_token must be a UUIDv4 string")

def validateBitableBatchRecords (records : List Json) : Except HttpFailure Unit :=
  if records = [] ∨ bitableBatchCreateMaxRecords < records.length then
    .error (gatewayError (s!"Bitable batch_create records must contain " ++
      s!"1-{bitableBatchCreateMaxRecords} objects"))
  else if records.all fun record => (dictOrNone record).isSome then .ok ()
  else .error (gatewayError "Bitable batch_create records must be objects")

def createdRecordIds (payload : Dict) (count : Nat) : Except HttpFailure (List String) :=
  match (payload.get? "data").getD (.obj []) with
  | .obj data =>
    match (Dict.get? data "records").getD (.arr []) with
    | .arr records =>
      let recordIds := records.filterMap fun record => (record.asDict.get "record_id").asStr
      if recordIds.length = count then .ok recordIds
      else .error (gatewayError "Feishu Bitable response record count mismatch")
    | _ => .error (gatewayError "Feishu Bitable response missing records")
  | _ => .error (.uncaught "AttributeError")

section Calls

variable (settings : FeishuAppSettings) (remote : Remote)

def send (request : HttpRequest) (p : FeishuAuthProvider) :
    Option Response × FeishuAuthProvider :=
  let response := remote.answer p.log request
  (response, { p with log := p.log ++ [⟨request, response⟩] })

def fetchTenantAccessToken (p : FeishuAuthProvider) :
    Except HttpFailure (String × Int) × FeishuAuthProvider :=
  match settings.feishuAppId.filter (· ≠ ""), secretValue settings.feishuAppSecret with
  | some appId, some appSecret =>
    match send remote (.tenantAccessToken appId appSecret) p with
    | (none, p) => (.error .transport, p)
    | (some response, p) => (parseTenantAccessToken response, p)
  | _, _ => (.error (gatewayError "FEISHU_APP_ID and FEISHU_APP_SECRET are required"), p)

/-- A date out of range raises before the token is cached. -/
def getTenantAccessToken (forceRefresh : Bool) (p : FeishuAuthProvider) :
    Except HttpFailure String × FeishuAuthProvider :=
  match p.cachedToken.filter fun cached =>
      !forceRefresh && !shouldRefresh cached.expiresAt (remote.now p.log) with
  | some cached => (.ok cached.token, p)
  | none =>
    match fetchTenantAccessToken settings remote p with
    | (.error exc, p) => (.error exc, p)
    | (.ok (token, expireSeconds), p) =>
      let expiresAt := remote.now p.log + seconds expireSeconds
      if IsDatetime expiresAt then (.ok token, { p with cachedToken := some ⟨token, expiresAt⟩ })
      else (.error (.uncaught "OverflowError"), p)

/-- `_request_json`, which the two Bitable calls spell out again. -/
def exchangeJson (request : String → ApiRequest) (p : FeishuAuthProvider) :
    Except HttpFailure Dict × FeishuAuthProvider :=
  match getTenantAccessToken settings remote false p with
  | (.error exc, p) => (.error exc, p)
  | (.ok token, p) =>
    match send remote (.api (request token)) p with
    | (none, p) => (.error .transport, p)
    | (some response, p) =>
      match parseResponseJson response with
      | .error exc => (.error (.gateway exc), p)
      | .ok payload =>
        if needsTokenRefresh response payload then
          match getTenantAccessToken settings remote true p with
          | (.error exc, p) => (.error exc, p)
          | (.ok token, p) =>
            match send remote (.api (request token)) p with
            | (none, p) => (.error .transport, p)
            | (some response, p) => ((checkResponse response).mapError .gateway, p)
        else
          (((raiseForFeishuError response payload).map fun _ => payload).mapError .gateway, p)

end Calls

section Gateways

variable (settings : FeishuAppSettings) (remote : Remote) (crypto : Crypto)

/-- A call with what it makes of the payload it gets. -/
def conduct {α : Type} (request : String → ApiRequest) (read : Dict → Except HttpFailure α)
    (p : FeishuAuthProvider) : Except HttpFailure α × FeishuAuthProvider :=
  let (payload, p) := exchangeJson settings remote request p
  (payload >>= read, p)

def sendCardRequest (chatId : String) (card : Dict) (idempotencyKey token : String) :
    ApiRequest where
  method := .post
  path := "/open-apis/im/v1/messages"
  params := [("receive_id_type", "chat_id")]
  headers := authHeaders token idempotencyKey
  json := some (.obj (Dict.ofList
    [("receive_id", .str chatId), ("msg_type", .str "interactive"),
      ("content", .str (dumps {} (.obj card))),
      ("uuid", .str (messageUuid crypto idempotencyKey))]))

def sendCard (chatId : String) (card : Dict) (idempotencyKey : String) :
    FeishuAuthProvider → Except HttpFailure String × FeishuAuthProvider :=
  conduct settings remote (sendCardRequest crypto chatId card idempotencyKey) fun data =>
    match nestedStr (.obj data) ["data", "message_id"] with
    | some messageId => .ok messageId
    | none => .error (gatewayError "Feishu send_card response missing message_id")

def updateCardRequest (openMessageId : String) (card : Dict) (idempotencyKey token : String) :
    ApiRequest where
  method := .patch
  path := "/open-apis/im/v1/messages/" ++ openMessageId
  headers := authHeaders token idempotencyKey
  json := some (.obj (Dict.ofList [("content", .str (dumps {} (.obj card)))]))

def updateCard (openMessageId : String) (card : Dict) (idempotencyKey : String) :
    FeishuAuthProvider → Except HttpFailure String × FeishuAuthProvider :=
  conduct settings remote (updateCardRequest openMessageId card idempotencyKey) fun data =>
    .ok ((nestedStr (.obj data) ["data", "message_id"]).getD openMessageId)

def getChatInfoRequest (chatId idempotencyKey token : String) : ApiRequest where
  method := .get
  path := "/open-apis/im/v1/chats/" ++ chatId
  headers := authHeaders token idempotencyKey
  json := none

def getChatInfo (chatId idempotencyKey : String) :
    FeishuAuthProvider → Except HttpFailure Json × FeishuAuthProvider :=
  conduct settings remote (getChatInfoRequest chatId idempotencyKey) fun data =>
    .ok ((data.get? "data").getD (.obj []))

def batchCreateRequest (appToken tableId : String) (records : List Json)
    (clientToken token : String) : ApiRequest where
  method := .post
  path := s!"/open-apis/bitable/v1/apps/{appToken}/tables/{tableId}/records/batch_create"
  params := [("client_token", clientToken), ("ignore_consistency_check", "true"),
    ("user_id_type", "open_id")]
  headers := authHeaders token clientToken
  json := some (.obj [("records", .arr records)])

def validateBatchCreate (records : List Json) (clientToken : String) : Except HttpFailure Unit := do
  validateUuid4ClientToken clientToken
  validateBitableBatchRecords records

def batchCreate (appToken tableId : String) (records : List Json) (clientToken : String)
    (p : FeishuAuthProvider) : Except HttpFailure (List String) × FeishuAuthProvider :=
  match validateBatchCreate records clientToken with
  | .error exc => (.error exc, p)
  | .ok () =>
    conduct settings remote (batchCreateRequest appToken tableId records clientToken)
      (fun payload => createdRecordIds payload records.length) p

def searchRecordsRequest (appToken tableId : String) (pageSize : Int)
    (idempotencyKey token : String) : ApiRequest where
  method := .post
  path := s!"/open-apis/bitable/v1/apps/{appToken}/tables/{tableId}/records/search"
  params := [("page_size", toString pageSize), ("user_id_type", "open_id")]
  headers := authHeaders token idempotencyKey
  json := some (.obj [("automatic_fields", .bool false)])

def searchRecords (appToken tableId : String) (pageSize : Int) (idempotencyKey : String) :
    FeishuAuthProvider → Except HttpFailure Dict × FeishuAuthProvider :=
  conduct settings remote (searchRecordsRequest appToken tableId pageSize idempotencyKey)
    fun payload =>
      match (payload.get? "data").getD (.obj []) with
      | .obj data => .ok data
      | _ => .error (gatewayError "Feishu Bitable search response missing data")

inductive GatewayCall
  | getTenantAccessToken (forceRefresh : Bool)
  | sendCard (chatId : String) (card : Dict) (idempotencyKey : String)
  | updateCard (openMessageId : String) (card : Dict) (idempotencyKey : String)
  | getChatInfo (chatId idempotencyKey : String)
  | batchCreate (appToken tableId : String) (records : List Json) (clientToken : String)
  | searchRecords (appToken tableId : String) (pageSize : Int) (idempotencyKey : String)

namespace GatewayCall

def perform (p : FeishuAuthProvider) : GatewayCall → Except HttpFailure Json × FeishuAuthProvider
  | .getTenantAccessToken forceRefresh =>
    (Feishu.getTenantAccessToken settings remote forceRefresh p).map (Except.map .str) id
  | .sendCard chatId card key =>
    (Feishu.sendCard settings remote crypto chatId card key p).map (Except.map .str) id
  | .updateCard openMessageId card key =>
    (Feishu.updateCard settings remote openMessageId card key p).map (Except.map .str) id
  | .getChatInfo chatId key => Feishu.getChatInfo settings remote chatId key p
  | .batchCreate appToken tableId records clientToken =>
    (Feishu.batchCreate settings remote appToken tableId records clientToken p).map
      (Except.map fun ids => .arr (ids.map .str)) id
  | .searchRecords appToken tableId pageSize key =>
    (Feishu.searchRecords settings remote appToken tableId pageSize key p).map
      (Except.map .obj) id

def request : GatewayCall → Option (String → ApiRequest)
  | .getTenantAccessToken _ => none
  | .sendCard chatId card key => some (sendCardRequest crypto chatId card key)
  | .updateCard openMessageId card key => some (updateCardRequest openMessageId card key)
  | .getChatInfo chatId key => some (getChatInfoRequest chatId key)
  | .batchCreate appToken tableId records clientToken =>
    some (batchCreateRequest appToken tableId records clientToken)
  | .searchRecords appToken tableId pageSize key =>
    some (searchRecordsRequest appToken tableId pageSize key)

end GatewayCall

def performAll (calls : List GatewayCall) (p : FeishuAuthProvider) : FeishuAuthProvider :=
  calls.foldl (fun p call => (call.perform settings remote crypto p).2) p

end Gateways

/-- The token was issued by an error-free answer, `later` before the end of the log. -/
def IssuedBefore (remote : Remote) (log later : List Exchange) (cached : CachedTenantToken) :
    Prop :=
  ∃ before appId appSecret response expireSeconds,
    let issue : Exchange := ⟨.tenantAccessToken appId appSecret, some response⟩
    log = before ++ issue :: later ∧
    parseTenantAccessToken response = .ok (cached.token, expireSeconds) ∧
    cached.expiresAt = remote.now (before ++ [issue]) + seconds expireSeconds

def Issued (remote : Remote) (log : List Exchange) (cached : CachedTenantToken) : Prop :=
  ∃ later, IssuedBefore remote log later cached

/-- The token was just issued, or it is valid for more than half an hour. -/
def Usable (remote : Remote) (log : List Exchange) (token : String) : Prop :=
  ∃ cached : CachedTenantToken, cached.token = token ∧ (IssuedBefore remote log [] cached ∨
    Issued remote log cached ∧
      remote.now log < cached.expiresAt - seconds tokenRefreshWindowSeconds)

section Provider

variable {settings : FeishuAppSettings} {remote : Remote} {crypto : Crypto}
  {p p' : FeishuAuthProvider} {forceRefresh : Bool}

def FeishuAuthProvider.sent (p : FeishuAuthProvider) (request : HttpRequest)
    (response : Option Response) : FeishuAuthProvider :=
  { p with log := p.log ++ [⟨request, response⟩] }

def HttpRequest.isToken : HttpRequest → Bool
  | .tenantAccessToken _ _ => true
  | .api _ => false

@[simp] theorem isToken_tenantAccessToken (appId appSecret : String) :
    (HttpRequest.tenantAccessToken appId appSecret).isToken = true := rfl

@[simp] theorem isToken_api (request : ApiRequest) : (HttpRequest.api request).isToken = false :=
  rfl

theorem Issued.append {log : List Exchange} {cached : CachedTenantToken}
    (h : Issued remote log cached) (exchanges : List Exchange) :
    Issued remote (log ++ exchanges) cached := by
  obtain ⟨later, before, appId, appSecret, response, expireSeconds, rfl, hparse, hexpires⟩ := h
  refine ⟨later ++ exchanges, before, appId, appSecret, response, expireSeconds, ?_, hparse,
    hexpires⟩
  simp

inductive Obtains (remote : Remote) (forceRefresh : Bool) (p : FeishuAuthProvider) :
    Except HttpFailure String → FeishuAuthProvider → Prop
  | cached {cached : CachedTenantToken} (hcached : p.cachedToken = some cached)
    (hforce : forceRefresh = false)
    (hvalid : remote.now p.log < cached.expiresAt - seconds tokenRefreshWindowSeconds) :
    Obtains remote forceRefresh p (.ok cached.token) p
  | unset {exc : HttpFailure} : Obtains remote forceRefresh p (.error exc) p
  | failed {exc : HttpFailure} {appId appSecret : String} {response : Option Response} :
    Obtains remote forceRefresh p (.error exc) (p.sent (.tenantAccessToken appId appSecret) response)
  | fetched {appId appSecret : String} {response : Response} {cached : CachedTenantToken}
    (hissued : IssuedBefore remote (p.sent (.tenantAccessToken appId appSecret) response).log []
      cached) :
    Obtains remote forceRefresh p (.ok cached.token)
      { p.sent (.tenantAccessToken appId appSecret) response with cachedToken := some cached }

theorem getTenantAccessToken_obtains : Obtains remote forceRefresh p
    (getTenantAccessToken settings remote forceRefresh p).1
    (getTenantAccessToken settings remote forceRefresh p).2 := by
  unfold getTenantAccessToken
  cases hcached : p.cachedToken.filter fun cached =>
      !forceRefresh && !shouldRefresh cached.expiresAt (remote.now p.log) with
  | some cached =>
    obtain ⟨hsome, hkeep⟩ := Option.filter_eq_some_iff.mp hcached
    simp only [Bool.and_eq_true, Bool.not_eq_true', shouldRefresh, decide_eq_false_iff_not,
      not_le] at hkeep
    exact .cached hsome hkeep.1 hkeep.2
  | none =>
    dsimp only
    unfold fetchTenantAccessToken
    cases settings.feishuAppId.filter (· ≠ "") with
    | none => exact .unset
    | some appId =>
      cases secretValue settings.feishuAppSecret with
      | none => exact .unset
      | some appSecret =>
        dsimp only [send]
        cases hanswer : remote.answer p.log (.tenantAccessToken appId appSecret) with
        | none => exact .failed
        | some response =>
          dsimp only
          cases hparse : parseTenantAccessToken response with
          | error exc => exact .failed
          | ok issued =>
            obtain ⟨token, expireSeconds⟩ := issued
            dsimp only
            split_ifs
            · refine @Obtains.fetched remote forceRefresh p appId appSecret response ⟨token, _⟩ ?_
              exact ⟨p.log, appId, appSecret, response, expireSeconds, rfl, hparse, rfl⟩
            · exact .failed

/-- What a call is told by the answer it ends with. -/
def outcome : Option Response → Except HttpFailure Dict
  | none => .error .transport
  | some response => (checkResponse response).mapError .gateway

def RefusesToken (response : Response) : Prop :=
  ∃ payload, parseResponseJson response = .ok payload ∧ needsTokenRefresh response payload = true

inductive Conducts (remote : Remote) (request : String → ApiRequest) (p : FeishuAuthProvider) :
    Except HttpFailure Dict → FeishuAuthProvider → Prop
  | noToken {exc : HttpFailure} {p₁ : FeishuAuthProvider}
    (h : Obtains remote false p (.error exc) p₁) : Conducts remote request p (.error exc) p₁
  | once {token : String} {p₁ : FeishuAuthProvider} {response : Option Response}
    (h : Obtains remote false p (.ok token) p₁) :
    Conducts remote request p (outcome response) (p₁.sent (.api (request token)) response)
  | refused {token : String} {p₁ p₂ : FeishuAuthProvider} {response : Response}
    {exc : HttpFailure} (h : Obtains remote false p (.ok token) p₁)
    (hrefuses : RefusesToken response)
    (hagain : Obtains remote true (p₁.sent (.api (request token)) response) (.error exc) p₂) :
    Conducts remote request p (.error exc) p₂
  | again {token token' : String} {p₁ p₂ : FeishuAuthProvider} {response : Response}
    {response' : Option Response} (h : Obtains remote false p (.ok token) p₁)
    (hrefuses : RefusesToken response)
    (hagain : Obtains remote true (p₁.sent (.api (request token)) response) (.ok token') p₂) :
    Conducts remote request p (outcome response') (p₂.sent (.api (request token')) response')

theorem exchangeJson_conducts (request : String → ApiRequest) : Conducts remote request p
    (exchangeJson settings remote request p).1 (exchangeJson settings remote request p).2 := by
  have hfirst : Obtains remote false p _ _ := @getTenantAccessToken_obtains settings remote p false
  unfold exchangeJson
  generalize getTenantAccessToken settings remote false p = first at hfirst
  obtain ⟨result, p₁⟩ := first
  cases result with
  | error exc => exact .noToken hfirst
  | ok token =>
    dsimp only [send]
    cases hanswer : remote.answer p₁.log (.api (request token)) with
    | none => exact @Conducts.once remote request p token p₁ none hfirst
    | some response =>
      have honce := @Conducts.once remote request p token p₁ (some response) hfirst
      dsimp only
      cases hparse : parseResponseJson response with
      | error exc =>
        have hend : outcome (some response) = .error (.gateway exc) := by
          simp [outcome, checkResponse, hparse, bind, Except.bind, Except.mapError]
        rw [hend] at honce
        exact honce
      | ok payload =>
        dsimp only
        split_ifs with hrefuses
        · have hsecond : Obtains remote true (p₁.sent (.api (request token)) response) _ _ :=
            @getTenantAccessToken_obtains settings remote _ true
          change Obtains remote true _ (getTenantAccessToken settings remote true
            { p₁ with log := p₁.log ++ [⟨.api (request token), some response⟩] }).1
            (getTenantAccessToken settings remote true
            { p₁ with log := p₁.log ++ [⟨.api (request token), some response⟩] }).2 at hsecond
          generalize getTenantAccessToken settings remote true
            { p₁ with log := p₁.log ++ [⟨.api (request token), some response⟩] } = second at hsecond
          obtain ⟨result, p₂⟩ := second
          cases result with
          | error exc => exact .refused hfirst ⟨payload, hparse, hrefuses⟩ hsecond
          | ok token' =>
            dsimp only
            have hagain := fun response' => @Conducts.again remote request p token token' p₁ p₂
              response response' hfirst ⟨payload, hparse, hrefuses⟩ hsecond
            cases hlast : remote.answer p₂.log (.api (request token')) with
            | none => exact hagain none
            | some response' => exact hagain (some response')
        · have hend : outcome (some response) =
              ((raiseForFeishuError response payload).map fun _ => payload).mapError .gateway := by
            cases hraise : raiseForFeishuError response payload <;>
              simp [outcome, checkResponse, hparse, hraise, bind, Except.bind, pure, Except.pure,
                Except.map]
          rw [hend] at honce
          exact honce

/-- Every request to the API carried a usable token when it was sent. -/
def TokensUsable (remote : Remote) (log : List Exchange) : Prop :=
  ∀ before request response after, log = before ++ ⟨.api request, response⟩ :: after →
    ∃ token, Usable remote before token ∧ ("Authorization", "Bearer " ++ token) ∈ request.headers

/-- What holds of a provider between two calls. -/
structure Sound (remote : Remote) (p : FeishuAuthProvider) : Prop where
  cached : ∀ cached, p.cachedToken = some cached → Issued remote p.log cached
  usable : TokensUsable remote p.log

theorem TokensUsable.append_token {log : List Exchange} (h : TokensUsable remote log)
    {appId appSecret : String} {response : Option Response} :
    TokensUsable remote (log ++ [⟨.tenantAccessToken appId appSecret, response⟩]) := by
  intro before request response' after heq
  rcases List.eq_nil_or_concat after with rfl | ⟨after, last, rfl⟩
  · obtain ⟨_, hlast⟩ := List.append_inj' heq rfl
    simp at hlast
  · rw [List.concat_eq_append, ← List.cons_append, ← List.append_assoc] at heq
    obtain ⟨rfl, _⟩ := List.append_inj' heq rfl
    exact h before request response' after rfl

theorem TokensUsable.append_api {log : List Exchange} (h : TokensUsable remote log)
    {request : ApiRequest} {response : Option Response} {token : String}
    (husable : Usable remote log token)
    (hheader : ("Authorization", "Bearer " ++ token) ∈ request.headers) :
    TokensUsable remote (log ++ [⟨.api request, response⟩]) := by
  intro before request' response' after heq
  rcases List.eq_nil_or_concat after with rfl | ⟨after, last, rfl⟩
  · obtain ⟨rfl, hlast⟩ := List.append_inj' heq rfl
    simp only [List.cons.injEq, Exchange.mk.injEq, HttpRequest.api.injEq, and_true] at hlast
    obtain ⟨rfl, _⟩ := hlast
    exact ⟨token, husable, hheader⟩
  · rw [List.concat_eq_append, ← List.cons_append, ← List.append_assoc] at heq
    obtain ⟨rfl, _⟩ := List.append_inj' heq rfl
    exact h before request' response' after rfl

/-- A token that is obtained is usable, and the provider stays sound. -/
theorem Sound.obtains {result : Except HttpFailure String} (hs : Sound remote p)
    (h : Obtains remote forceRefresh p result p') :
    Sound remote p' ∧ ∀ token, result = .ok token → Usable remote p'.log token := by
  cases h with
  | @cached cached hcached hforce hvalid =>
    refine ⟨hs, ?_⟩
    rintro _ ⟨⟩
    exact ⟨cached, rfl, .inr ⟨hs.cached cached hcached, hvalid⟩⟩
  | unset => exact ⟨hs, by simp⟩
  | failed =>
    refine ⟨⟨?_, hs.usable.append_token⟩, by simp⟩
    intro cached hcached
    exact (hs.cached cached hcached).append _
  | @fetched _ _ _ cached hissued =>
    refine ⟨⟨?_, hs.usable.append_token⟩, ?_⟩
    · rintro _ ⟨⟩
      exact ⟨[], hissued⟩
    · rintro _ ⟨⟩
      exact ⟨cached, rfl, .inl hissued⟩

theorem Sound.sent (hs : Sound remote p) {request : ApiRequest} {response : Option Response}
    {token : String} (husable : Usable remote p.log token)
    (hheader : ("Authorization", "Bearer " ++ token) ∈ request.headers) :
    Sound remote (p.sent (.api request) response) where
  cached cached hcached := (hs.cached cached hcached).append _
  usable := hs.usable.append_api husable hheader

def CarriesToken (request : String → ApiRequest) : Prop :=
  ∀ token, ("Authorization", "Bearer " ++ token) ∈ (request token).headers

theorem Sound.conducts {request : String → ApiRequest} {result : Except HttpFailure Dict}
    (hs : Sound remote p) (hrequest : CarriesToken request)
    (h : Conducts remote request p result p') : Sound remote p' := by
  cases h with
  | noToken h => exact (hs.obtains h).1
  | once h =>
    obtain ⟨hs₁, husable⟩ := hs.obtains h
    exact hs₁.sent (husable _ rfl) (hrequest _)
  | refused h _ hagain =>
    obtain ⟨hs₁, husable⟩ := hs.obtains h
    exact ((hs₁.sent (husable _ rfl) (hrequest _)).obtains hagain).1
  | again h _ hagain =>
    obtain ⟨hs₁, husable⟩ := hs.obtains h
    obtain ⟨hs₂, husable₂⟩ := (hs₁.sent (husable _ rfl) (hrequest _)).obtains hagain
    exact hs₂.sent (husable₂ _ rfl) (hrequest _)

def Exchange.apiRequest (e : Exchange) : Option ApiRequest :=
  match e.request with
  | .tenantAccessToken _ _ => none
  | .api request => some request

@[simp] theorem apiRequest_tenantAccessToken (appId appSecret : String)
    (response : Option Response) :
    Exchange.apiRequest ⟨.tenantAccessToken appId appSecret, response⟩ = none := rfl

@[simp] theorem apiRequest_api (request : ApiRequest) (response : Option Response) :
    Exchange.apiRequest ⟨.api request, response⟩ = some request := rfl

/-- The exchanges of a call whose request, if it has one, is `request`. -/
structure CallSafe (request : Option (String → ApiRequest)) (exchanges : List Exchange)
    (result : Except HttpFailure Json) : Prop where
  tokens : exchanges.countP (fun e => e.request.isToken) ≤ 2
  /-- One request is sent at most twice, and only its token may differ. -/
  requests : ∃ sent : List String, sent.length ≤ 2 ∧ ∀ make ∈ request,
    exchanges.filterMap Exchange.apiRequest = sent.map make
  none : request = none → exchanges.filterMap Exchange.apiRequest = []
  /-- It is sent again because its token was refused, with a token fetched after that. -/
  again : (exchanges.filterMap Exchange.apiRequest).length = 2 →
    ∃ before first refusal appId appSecret issue token expireSeconds second response,
      exchanges = before ++ [⟨.api first, some refusal⟩,
        ⟨.tenantAccessToken appId appSecret, some issue⟩, ⟨.api second, response⟩] ∧
      RefusesToken refusal ∧ parseTenantAccessToken issue = .ok (token, expireSeconds) ∧
      ∀ make ∈ request, second = make token
  /-- It returns from the last answer, which is no error. -/
  returned : ∀ value, result = .ok value → request.isSome → ∃ before last response payload,
    exchanges = before ++ [⟨.api last, some response⟩] ∧ checkResponse response = .ok payload

/-- A provider that obtains a token asks for it once, or has it. -/
theorem Obtains.exchanges {result : Except HttpFailure String}
    (h : Obtains remote forceRefresh p result p') :
    ∃ fetch, p'.log = p.log ++ fetch ∧ fetch.filterMap Exchange.apiRequest = [] ∧
      fetch.countP (fun e => e.request.isToken) ≤ 1 := by
  cases h with
  | cached | unset => exact ⟨[], by simp, rfl, by simp⟩
  | failed | fetched => exact ⟨[_], rfl, rfl, by simp⟩

/-- A token that is obtained after a refusal was fetched for it. -/
theorem Obtains.fetched_again {token : String}
    (h : Obtains remote true p (.ok token) p') :
    ∃ appId appSecret response expireSeconds,
      p'.log = p.log ++ [⟨.tenantAccessToken appId appSecret, some response⟩] ∧
      parseTenantAccessToken response = .ok (token, expireSeconds) := by
  cases h with
  | cached _ hforce => cases hforce
  | @fetched appId appSecret response cached hissued =>
    obtain ⟨before, appId', appSecret', response', expireSeconds, hlog, hparse, _⟩ := hissued
    obtain ⟨_, hlast⟩ := List.append_inj' hlog rfl
    simp only [List.cons.injEq, Exchange.mk.injEq, Option.some.injEq, and_true] at hlast
    obtain ⟨_, rfl⟩ := hlast
    exact ⟨appId, appSecret, response, expireSeconds, rfl, hparse⟩

theorem outcome_eq_ok {response : Option Response} {payload : Dict}
    (h : outcome response = .ok payload) :
    ∃ answer, response = some answer ∧ checkResponse answer = .ok payload := by
  cases response with
  | none => cases h
  | some answer => exact ⟨answer, rfl, Except.mapError_eq_ok.mp h⟩

/-- The exchanges of a request. -/
theorem Conducts.callSafe {request : String → ApiRequest} {result : Except HttpFailure Dict}
    (read : Dict → Except HttpFailure Json) (h : Conducts remote request p result p') :
    ∃ exchanges, p'.log = p.log ++ exchanges ∧
      CallSafe (some request) exchanges (result >>= read) := by
  have hreturned : ∀ {exchanges : List Exchange} {last : ApiRequest} {response : Option Response}
      {value : Json}, outcome response >>= read = .ok value →
      ∃ before last' answer payload, exchanges ++ [⟨.api last, response⟩] =
        before ++ [⟨.api last', some answer⟩] ∧ checkResponse answer = .ok payload := by
    intro exchanges last response value hvalue
    obtain ⟨payload, hpayload, _⟩ := Except.bind_eq_ok.mp hvalue
    obtain ⟨answer, rfl, hanswer⟩ := outcome_eq_ok hpayload
    exact ⟨exchanges, last, answer, payload, rfl, hanswer⟩
  cases h with
  | noToken h =>
    obtain ⟨fetch, hlog, happi, htoken⟩ := h.exchanges
    refine ⟨fetch, hlog, by omega, ⟨[], by simp, by simp [happi]⟩, by simp, ?_, ?_⟩
    · intro htwo
      rw [happi] at htwo
      cases htwo
    · intro value hvalue
      cases hvalue
  | @once token p₁ response h =>
    obtain ⟨fetch, hlog, happi, htoken⟩ := h.exchanges
    refine ⟨fetch ++ [⟨.api (request token), response⟩], ?_, ?_, ⟨[token], by simp, ?_⟩, by simp,
      ?_, ?_⟩
    · simp [FeishuAuthProvider.sent, hlog]
    · simp only [List.countP_append, List.countP_singleton, isToken_api, Bool.false_eq_true, if_false]
      omega
    · simp [happi]
    · intro htwo
      simp [happi] at htwo
    · intro value hvalue _
      exact hreturned hvalue
  | @refused token p₁ p₂ response exc h hrefuses hagain =>
    obtain ⟨fetch, hlog, happi, htoken⟩ := h.exchanges
    obtain ⟨fetch', hlog', happi', htoken'⟩ := hagain.exchanges
    refine ⟨fetch ++ ⟨.api (request token), some response⟩ :: fetch', ?_, ?_,
      ⟨[token], by simp, ?_⟩, by simp, ?_, ?_⟩
    · rw [hlog']
      simp [FeishuAuthProvider.sent, hlog]
    · simp only [List.countP_append, List.countP_cons, isToken_api, Bool.false_eq_true, if_false]
      omega
    · simp [happi, happi']
    · intro htwo
      simp [happi, happi'] at htwo
    · intro value hvalue
      cases hvalue
  | @again token token' p₁ p₂ response response' h hrefuses hagain =>
    obtain ⟨fetch, hlog, happi, htoken⟩ := h.exchanges
    obtain ⟨appId, appSecret, issue, expireSeconds, hlog', hparse⟩ := hagain.fetched_again
    refine ⟨fetch ++ [⟨.api (request token), some response⟩,
      ⟨.tenantAccessToken appId appSecret, some issue⟩, ⟨.api (request token'), response'⟩], ?_,
      ?_, ⟨[token, token'], by simp, ?_⟩, by simp, ?_, ?_⟩
    · simp [FeishuAuthProvider.sent, hlog', hlog]
    · simp only [List.countP_append, List.countP_cons, List.countP_nil, isToken_api,
        isToken_tenantAccessToken, Bool.false_eq_true, if_false, if_true]
      omega
    · rintro make ⟨⟩
      rw [List.filterMap_append, happi]
      rfl
    · intro _
      refine ⟨fetch, _, response, appId, appSecret, issue, token', expireSeconds, _, response', rfl,
        hrefuses, hparse, ?_⟩
      rintro make ⟨⟩
      rfl
    · intro value hvalue _
      obtain ⟨before, last, answer, payload, heq, hanswer⟩ := @hreturned (fetch ++
        [⟨.api (request token), some response⟩,
          ⟨.tenantAccessToken appId appSecret, some issue⟩]) (request token') response' value hvalue
      exact ⟨before, last, answer, payload, by rw [← heq]; simp, hanswer⟩

theorem carriesToken_of_request {call : GatewayCall} {request : String → ApiRequest}
    (h : call.request crypto = some request) : CarriesToken request := by
  intro token
  cases call with
  | getTenantAccessToken => cases h
  | _ =>
    obtain rfl := Option.some.inj h
    simp [sendCardRequest, updateCardRequest, getChatInfoRequest, batchCreateRequest,
      searchRecordsRequest, authHeaders]

/-- A call obtains a token, sends its request, or is refused before anything is sent. -/
theorem perform_cases (call : GatewayCall) (p : FeishuAuthProvider) :
    (∃ forceRefresh result, call.request crypto = none ∧
        Obtains remote forceRefresh p result (call.perform settings remote crypto p).2) ∨
      (∃ request result read, call.request crypto = some request ∧
        Conducts remote request p result (call.perform settings remote crypto p).2 ∧
        (call.perform settings remote crypto p).1 = result >>= read) ∨
      ∃ exc, call.perform settings remote crypto p = (.error exc, p) := by
  have hconduct : ∀ {α : Type} (request : String → ApiRequest) (read : Dict → Except HttpFailure α)
      (encode : α → Json), ∃ result read',
      Conducts remote request p result (conduct settings remote request read p).2 ∧
      (conduct settings remote request read p).1.map encode = result >>= read' := by
    intro α request read encode
    have hrun : Conducts remote request p _ _ := @exchangeJson_conducts settings remote p request
    unfold conduct
    generalize exchangeJson settings remote request p = run at hrun
    obtain ⟨result, p'⟩ := run
    refine ⟨result, fun payload => (read payload).map encode, hrun, ?_⟩
    cases result <;> rfl
  cases call with
  | getTenantAccessToken forceRefresh =>
    exact .inl ⟨forceRefresh, _, rfl, getTenantAccessToken_obtains⟩
  | sendCard chatId card key =>
    obtain ⟨result, read, hconducts, hresult⟩ := hconduct _ _ Json.str
    exact .inr (.inl ⟨_, result, read, rfl, hconducts, hresult⟩)
  | updateCard openMessageId card key =>
    obtain ⟨result, read, hconducts, hresult⟩ := hconduct _ _ Json.str
    exact .inr (.inl ⟨_, result, read, rfl, hconducts, hresult⟩)
  | getChatInfo chatId key =>
    exact .inr (.inl ⟨_, _, _, rfl, exchangeJson_conducts _, rfl⟩)
  | batchCreate appToken tableId records clientToken =>
    cases hvalid : validateBatchCreate records clientToken with
    | error exc =>
      refine .inr (.inr ⟨exc, ?_⟩)
      simp [GatewayCall.perform, batchCreate, hvalid, Except.map]
    | ok =>
      obtain ⟨result, read, hconducts, hresult⟩ := hconduct
        (batchCreateRequest appToken tableId records clientToken)
        (fun payload => createdRecordIds payload records.length) fun ids => .arr (ids.map .str)
      refine .inr (.inl ⟨_, result, read, rfl, ?_, ?_⟩)
      · simpa [GatewayCall.perform, batchCreate, hvalid] using hconducts
      · simpa [GatewayCall.perform, batchCreate, hvalid] using hresult
  | searchRecords appToken tableId pageSize key =>
    obtain ⟨result, read, hconducts, hresult⟩ := hconduct _ _ Json.obj
    exact .inr (.inl ⟨_, result, read, rfl, hconducts, hresult⟩)

theorem Sound.perform (hs : Sound remote p) (call : GatewayCall) :
    Sound remote (call.perform settings remote crypto p).2 := by
  rcases @perform_cases settings remote crypto call p with
    ⟨_, _, _, h⟩ | ⟨request, _, _, hrequest, h, _⟩ | ⟨exc, h⟩
  · exact (hs.obtains h).1
  · exact hs.conducts (carriesToken_of_request hrequest) h
  · rw [h]
    exact hs

theorem Sound.performAll (hs : Sound remote p) (calls : List GatewayCall) :
    Sound remote (performAll settings remote crypto calls p) := by
  induction calls generalizing p with
  | nil => exact hs
  | cons call calls ih => exact ih (hs.perform call)

theorem perform_callSafe (call : GatewayCall) (p : FeishuAuthProvider) :
    ∃ exchanges, (call.perform settings remote crypto p).2.log = p.log ++ exchanges ∧
      CallSafe (call.request crypto) exchanges (call.perform settings remote crypto p).1 := by
  rcases @perform_cases settings remote crypto call p with
    ⟨_, _, hrequest, h⟩ | ⟨request, _, read, hrequest, h, hresult⟩ | ⟨exc, h⟩
  · obtain ⟨fetch, hlog, happi, htoken⟩ := h.exchanges
    refine ⟨fetch, hlog, by omega, ⟨[], by simp, by simp [hrequest]⟩, fun _ => happi, ?_, ?_⟩
    · intro htwo
      rw [happi] at htwo
      cases htwo
    · intro value _ hsome
      rw [hrequest] at hsome
      cases hsome
  · rw [hrequest, hresult]
    exact h.callSafe read
  · refine ⟨[], by simp [h], by simp, ⟨[], by simp, by simp⟩, by simp, by simp, ?_⟩
    intro value hvalue
    rw [h] at hvalue
    cases hvalue

/-- Whatever the other side answers, in every run of calls each request carries a token that
was issued and not about to expire, and no call asks more often than it may. -/
theorem callSafe_of_run (calls : List GatewayCall) :
    let p := performAll settings remote crypto calls {}
    TokensUsable remote p.log ∧ ∀ call : GatewayCall, ∃ exchanges,
      (call.perform settings remote crypto p).2.log = p.log ++ exchanges ∧
      CallSafe (call.request crypto) exchanges (call.perform settings remote crypto p).1 := by
  have hinit : Sound remote {} := by
    refine ⟨by simp, ?_⟩
    intro before request response after heq
    simp at heq
  exact ⟨(hinit.performAll calls).usable, fun call => perform_callSafe call _⟩

end Provider

/-- A remote side that issues `t0`, `t1`, … for two hours each and refuses the first request. -/
def refusingRemote : Remote where
  answer log
    | .tenantAccessToken _ _ => some ⟨200, none, some (.obj
        [("expire", .int 7200), ("tenant_access_token", .str s!"t{log.length}")])⟩
    | .api _ => some ⟨if log.length = 1 then 401 else 200, none, some (.obj [])⟩
  now log := seconds log.length

example : ((GatewayCall.getChatInfo "oc" "key").perform ⟨some "app", some "secret"⟩ refusingRemote
      .plain {}).2.log.map (fun e => e.request.isToken) = [true, false, true, false] := by
  decide +kernel

end Headhunt.Feishu
