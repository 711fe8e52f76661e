import Headhunt.Core.Settings
import Headhunt.Harness.AgentHarness
import Headhunt.Lib.PyBytes
import Headhunt.ModelProfiles.Repository

/-! Model gateways made with the keys of the users: the factory, and the two gateways that
choose between the profile of a call and the one of the server. -/
namespace Headhunt.ModelProfiles
open Headhunt.Core Headhunt.Harness Py

/-- `AES.new(key, MODE_GCM, nonce).decrypt_and_verify(ciphertext, tag)`; `none` is a
`ValueError`. -/
abbrev DecryptGcm := (key nonce cipherText tag : ByteArray) → Option ByteArray

def urlsafeB64decode (s : String) : Option ByteArray :=
  b64decode (String.ofList (s.toList.map fun c => if c = '-' then '+' else if c = '_' then '/' else c))

def padded (value : String) : String :=
  value ++ String.ofList (List.replicate ((4 - value.length % 4) % 4) '=')

def tryDecodeKey (value : String) : Option ByteArray :=
  (urlsafeB64decode (padded value)).or (b64decode (padded value))

def deriveKey (crypto : Crypto) (encryptionKey : String) : ByteArray :=
  match (tryDecodeKey encryptionKey).filter fun decoded => decoded.size = 32 with
  | some decoded => decoded
  | none =>
    let raw := encryptionKey.toUTF8
    if raw.size = 32 then raw else crypto.sha256 raw

inductive GatewayError
  | userModelGateway (message : String)
  | profile (exc : ModelProfileError)
  | modelSecret (message : String)
deriving DecidableEq

def GatewayError.message : GatewayError → String
  | .userModelGateway message => message
  | .profile exc => exc.message
  | .modelSecret message => message

structure ModelSecretService where
  key : ByteArray
  decryptGcm : DecryptGcm

def modelSecretService (crypto : Crypto) (decryptGcm : DecryptGcm) (encryptionKey : String) :
    Except GatewayError ModelSecretService :=
  if strip encryptionKey = "" then
    .error (.modelSecret "MODEL_SECRET_ENCRYPTION_KEY is required")
  else .ok ⟨deriveKey crypto (strip encryptionKey), decryptGcm⟩

/-- `text.split(":", n)`. -/
def splitColon : Nat → List Char → List (List Char)
  | 0, cs => [cs]
  | n + 1, cs =>
    match cs.dropWhile (· ≠ ':') with
    | [] => [cs]
    | _ :: rest => cs.takeWhile (· ≠ ':') :: splitColon n rest

def ModelSecretService.decryptApiKey (service : ModelSecretService) (encryptedApiKey : String) :
    Except GatewayError String :=
  match (splitColon 3 encryptedApiKey.toList).map String.ofList with
  | [version, nonceText, cipherText, tagText] =>
    if version ≠ "v1" then .error (.modelSecret "encrypted api key uses unsupported version")
    else
      let apiKey := do
        let nonce ← urlsafeB64decode (padded nonceText)
        let cipher ← urlsafeB64decode (padded cipherText)
        let tag ← urlsafeB64decode (padded tagText)
        let plain ← service.decryptGcm service.key nonce cipher tag
        String.fromUTF8? plain
      match apiKey with
      | some apiKey => .ok apiKey
      | none => .error (.modelSecret "encrypted api key could not be decrypted")
  | _ => .error (.modelSecret "encrypted api key has invalid format")

/-- A gateway of `OpenAIResponsesLLMGateway` or `DeepSeekChatCompletionsLLMGateway`. -/
structure ChatGateway where
  provider : ModelProvider
  apiKey : String
  model : String
  baseUrl : String
  modelProfileId : UUID
  modelOwnerUserId : String
deriving DecidableEq

structure EmbeddingGateway where
  apiKey : String
  model : String
  baseUrl : String
deriving DecidableEq

def ModelProvider.defaultBaseUrl : ModelProvider → String
  | .openai => "https://api.openai.com"
  | .deepseek => "https://api.deepseek.com"

/-- `profile.base_url or "https://..."`. -/
def UserModelProfile.resolvedBaseUrl (profile : UserModelProfile) : String :=
  rstripSlash ((profile.baseUrl.filter (· ≠ "")).getD profile.provider.defaultBaseUrl)

/-- Who asks for a gateway, and the profile it is to be made from. -/
structure ProfileScope where
  profileId : UUID
  tenantId : Option String
  guildId : Option String
  userId : Option String

def truthyText (text : Option String) : Bool := (text.filter (· ≠ "")).isSome

def requireOwnerScope (guildId userId : Option String) : Except GatewayError Unit :=
  if truthyText guildId && truthyText userId then .ok ()
  else .error (.userModelGateway
    "guild_id and user_id are required for user-level BYOK model profiles")

def providerAllowlist (settings : Settings) : List String :=
  let items := ((settings.modelProviderAllowlist.toList.splitOn ',').map fun item =>
    lower (strip (String.ofList item))).filter (· ≠ "")
  if items = [] then ["openai", "deepseek"] else items

structure UserModelGatewayFactory where
  secretService : ModelSecretService
  providerAllowlist : List String

section Factory

variable (factory : UserModelGatewayFactory) (profiles : ProfileTable) (scope : ProfileScope)

def UserModelProfile.chatGateway (profile : UserModelProfile) (apiKey : String) : ChatGateway where
  provider := profile.provider
  apiKey := apiKey
  model := profile.modelName
  baseUrl := profile.resolvedBaseUrl
  modelProfileId := profile.id
  modelOwnerUserId := profile.userId

def UserModelProfile.embeddingGateway (profile : UserModelProfile) (apiKey : String) :
    EmbeddingGateway where
  apiKey := apiKey
  model := profile.modelName
  baseUrl := profile.resolvedBaseUrl

/-- The profile of the scope, as both builders look it up. -/
def getScopedProfile (usage : ModelUsage) : Except GatewayError UserModelProfile := do
  requireOwnerScope scope.guildId scope.userId
  (profiles.getActiveProfile scope.profileId scope.guildId scope.userId scope.tenantId
    (some usage)).mapError .profile

def UserModelGatewayFactory.decrypt (profile : UserModelProfile) : Except GatewayError String :=
  factory.secretService.decryptApiKey (profile.encryptedApiKey.getD "")

/-- `build_chat_gateway`; the providers of the table are the two it knows. -/
def UserModelGatewayFactory.buildChatGateway : Except GatewayError ChatGateway := do
  let profile ← getScopedProfile profiles scope .chat
  if profile.provider.value ∉ factory.providerAllowlist then
    .error (.userModelGateway s!"model provider is not allowed: {profile.provider.value}")
  else do
    let apiKey ← factory.decrypt profile
    .ok (profile.chatGateway apiKey)

def UserModelGatewayFactory.buildEmbeddingGateway : Except GatewayError EmbeddingGateway := do
  let profile ← getScopedProfile profiles scope .embedding
  if profile.provider ≠ .openai then
    .error (.userModelGateway "embedding profiles must use provider=openai")
  else do
    let apiKey ← factory.decrypt profile
    .ok (profile.embeddingGateway apiKey)

end Factory

inductive LlmEndpoint
  | fallback
  | user (gateway : ChatGateway)
deriving DecidableEq

/-- The keyword arguments that choose the model of a call. -/
structure ModelArguments where
  modelProfileId : Option UUID
  modelOwnerUserId : Option String
  modelGuildId : Option String
  modelTenantId : Option String

structure UserModelLLMGateway where
  factory : UserModelGatewayFactory
  hasFallback : Bool

/-- The gateway `generate_structured` hands its arguments to. -/
def UserModelLLMGateway.endpoint (llm : UserModelLLMGateway) (profiles : ProfileTable)
    (args : ModelArguments) : Except GatewayError LlmEndpoint :=
  match args.modelProfileId with
  | none =>
    if llm.hasFallback then .ok .fallback
    else .error (.userModelGateway "model_profile_id is required for user BYOK runtime")
  | some profileId =>
    if !truthyText args.modelGuildId || !truthyText args.modelOwnerUserId then
      .error (.userModelGateway
        "model_guild_id and model_owner_user_id are required for BYOK profile calls")
    else
      (llm.factory.buildChatGateway profiles
        ⟨profileId, args.modelTenantId, args.modelGuildId, args.modelOwnerUserId⟩).map .user

inductive TaskMemoryGateway
  | fallback
  | disabled (reason : String)
  /-- A `PostgresMemoryGateway` and the model name its vectors are stored under. -/
  | postgres (embedding : EmbeddingGateway) (modelName : String)
deriving DecidableEq

def disabledMemory (reason : String) : TaskMemoryGateway :=
  .disabled ("embedding_runtime_disabled:" ++ reason)

section Router

variable (crypto : Crypto) (decryptGcm : DecryptGcm) (settings : Settings) (hasFallback : Bool)

/-- The session of the router and the `except` clause around the factory. -/
def routedGateway (factory : UserModelGatewayFactory) (profiles : ProfileTable)
    (scope : ProfileScope) : TaskMemoryGateway :=
  match factory.buildEmbeddingGateway profiles scope with
  | .error exc => disabledMemory exc.message
  | .ok gateway =>
    let modelName := ((profiles.profile? scope.profileId).map UserModelProfile.modelName).filter
      (· ≠ "")
    .postgres gateway (modelName.getD "user_embedding_profile")

def forTask (profiles : ProfileTable) (task : AgentTask) : Except GatewayError TaskMemoryGateway :=
  match task.embeddingProfileId with
  | none => .ok (if hasFallback then .fallback else disabledMemory "no_user_embedding_profile")
  | some profileId =>
    if !truthyText task.modelGuildId || !truthyText task.modelOwnerUserId then
      .ok (disabledMemory "missing_model_profile_scope")
    else
      match settings.modelSecretEncryptionKey with
      | none => .ok (disabledMemory "model_secret_missing")
      | some encryptionKey => do
        let secretService ← modelSecretService crypto decryptGcm encryptionKey
        .ok (routedGateway ⟨secretService, providerAllowlist settings⟩ profiles
          ⟨profileId, task.modelTenantId, task.modelGuildId, task.modelOwnerUserId⟩)

end Router
end Headhunt.ModelProfiles
