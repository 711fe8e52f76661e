import Headhunt.Core.Settings
import Headhunt.Lib.PyBytes
import Headhunt.Lib.PyJson
import Headhunt.Storage.Models

/-! `FeishuCallbackVerifier`: what a callback request must show before the service
sees its payload. -/
namespace Headhunt.Feishu
open Headhunt.Core Headhunt.Storage Py

def feishuSignatureHeader : String := "X-Lark-Signature"
def feishuTimestampHeader : String := "X-Lark-Request-Timestamp"
def feishuNonceHeader : String := "X-Lark-Request-Nonce"
def feishuSignatureMaxAgeSeconds : Nat := 300

inductive FeishuCallbackError
  | configuration (message : String)
  | verification (message : String)
  | payload (message : String)
  /-- An exception of Python's own that no handler of the code names. -/
  | uncaught (name : String)
deriving DecidableEq

/-- Request headers as the server hands them on: lower-case names, the first one counts. -/
abbrev Headers := List (String × String)

def asciiLower (s : String) : String := String.ofList (s.toList.map Char.toLower)

def Headers.get (headers : Headers) (name : String) : Option String :=
  headers.lookup (asciiLower name)

structure VerifiedFeishuCallback where
  payload : Dict
  rawBody : ByteArray
  payloadHash : String
  isChallenge : Bool
  challenge : Option String
  eventId : Option String
  eventType : String
  tenantKey : Option String
  appId : Option String
  messageId : Option String

section Crypto

variable (crypto : Crypto)

def calculateFeishuSignature (timestamp nonce encryptKey : String) (rawBody : ByteArray) : String :=
  hexdigest (crypto.sha256 ((timestamp ++ nonce ++ encryptKey).toUTF8 ++ rawBody))

def calculateFeishuCardSignature (timestamp nonce verificationToken : String)
    (rawBody : ByteArray) : String :=
  hexdigest (crypto.sha1 ((timestamp ++ nonce ++ verificationToken).toUTF8 ++ rawBody))

end Crypto

/-- `hmac.compare_digest` of two texts raises unless both are ASCII. -/
def compareDigest (a b : String) : Except FeishuCallbackError Bool :=
  if (a.toList ++ b.toList).all fun c => c.toNat < 128 then .ok (a == b)
  else .error (.uncaught "TypeError")

/-- `_loads_json` with the plain `ValueError` that only `_decrypt_if_needed` catches. -/
def loadsJson (data : ByteArray) : Except FeishuCallbackError Dict :=
  match String.fromUTF8? data with
  | none => .error (.payload "Feishu callback body must be JSON")
  | some text =>
    match loads text with
    | .ok (.obj parsed) => .ok parsed
    | .ok _ => .error (.payload "Feishu callback body must be a JSON object")
    | .error .decode => .error (.payload "Feishu callback body must be JSON")
    | .error .value => .error (.uncaught "ValueError")

/-- `int(datetime.now(UTC).timestamp())`. -/
def nowSeconds (now : Time) : Int := now.tdiv 1000000

def validateTimestampWindow (now : Time) (timestamp : String) : Except FeishuCallbackError Unit :=
  match intOf 10 timestamp with
  | none => .error (.verification "Invalid Feishu callback timestamp")
  | some timestampSeconds =>
    if feishuSignatureMaxAgeSeconds < (nowSeconds now - timestampSeconds).natAbs then
      .error (.verification "Feishu callback timestamp is outside allowed window")
    else .ok ()

def blockSize : Nat := 16

/-- `_unpad`; `none` is a `ValueError`. -/
def unpad (data : ByteArray) : Option ByteArray :=
  match data.data.toList.getLast? with
  | none => none
  | some last =>
    let padding := last.toNat
    if padding < 1 ∨ blockSize < padding then none
    else if data.data.toList.drop (data.size - padding) = List.replicate padding last then
      some (bytesTake (data.size - padding) data)
    else none

def payloadHeader (payload : Dict) : Dict := (payload.get "header").asDict

def payloadEvent (payload : Dict) : Dict := (payload.get "event").asDict

def callbackToken (payload : Dict) : Option String :=
  firstStr [payload.get "token", (payloadHeader payload).get "token"]

def extractMessageId (event : Dict) : Option String :=
  let ofMessage := match event.get "message" with
    | .obj message =>
      firstStr [Dict.get message "message_id", Dict.get message "open_message_id"]
    | _ => none
  ofMessage.or (firstStr [event.get "message_id", event.get "open_message_id"])

/-- The event type the verifier gives the callback; a challenge has one by default. -/
def eventTypeOf (payload : Dict) (isChallenge : Bool) : Option String :=
  (firstStr [(payloadHeader payload).get "event_type", payload.get "type",
    payload.get "event_type"]).or (if isChallenge then some "url_verification" else none)

structure FeishuCallbackVerifier where
  verificationToken : Option String
  encryptKey : Option String

namespace FeishuCallbackVerifier

def ofSettings (settings : Settings) : FeishuCallbackVerifier where
  verificationToken := secretValue settings.feishuVerificationToken
  encryptKey := secretValue settings.feishuEncryptKey

variable (v : FeishuCallbackVerifier) (crypto : Crypto)

def signatureHeaders (headers : Headers) : Option (String × String × String) := do
  let timestamp ← (headers.get feishuTimestampHeader).filter (· ≠ "")
  let nonce ← (headers.get feishuNonceHeader).filter (· ≠ "")
  let expected ← (headers.get feishuSignatureHeader).filter (· ≠ "")
  some (timestamp, nonce, expected)

def validateSignatureIfPresent (now : Time) (rawBody : ByteArray) (headers : Headers) :
    Except FeishuCallbackError Bool :=
  match v.encryptKey, signatureHeaders headers with
  | some encryptKey, some (timestamp, nonce, expected) => do
    validateTimestampWindow now timestamp
    if ← compareDigest (calculateFeishuSignature crypto timestamp nonce encryptKey rawBody)
        expected then .ok true
    else .error (.verification "Invalid Feishu callback signature")
  | _, _ => .ok false

/-- `any(compare_digest(actual, expected) for actual in candidates)`. -/
def anyDigest (expected : String) : List String → Except FeishuCallbackError Bool
  | [] => .ok false
  | actual :: candidates => do
    if ← compareDigest actual expected then .ok true else anyDigest expected candidates

def cardSignatures (verificationToken timestamp nonce : String) (rawBody : ByteArray) :
    List String :=
  calculateFeishuCardSignature crypto timestamp nonce verificationToken rawBody ::
    (v.encryptKey.map fun encryptKey =>
      calculateFeishuSignature crypto timestamp nonce encryptKey rawBody).toList

/-- A timestamp that is no number counts as no signature; an old one raises. -/
def validateCardSignatureIfPresent (now : Time) (rawBody : ByteArray) (headers : Headers) :
    Except FeishuCallbackError Bool :=
  match v.verificationToken, signatureHeaders headers with
  | some verificationToken, some (timestamp, nonce, expected) =>
    match validateTimestampWindow now timestamp with
    | .error exc =>
      if exc = .verification "Invalid Feishu callback timestamp" then .ok false else .error exc
    | .ok () =>
      anyDigest expected (v.cardSignatures crypto verificationToken timestamp nonce rawBody)
  | _, _ => .ok false

def decryptIfNeeded (body : Dict) : Except FeishuCallbackError Dict :=
  match body.get "encrypt" with
  | .str encrypted =>
    match v.encryptKey with
    | none => .error (.configuration "FEISHU_ENCRYPT_KEY is required")
    | some encryptKey =>
      let plain := do
        let encryptedBytes ← b64decode encrypted
        let decrypted ← crypto.decryptCbc (crypto.sha256 encryptKey.toUTF8)
          (bytesTake blockSize encryptedBytes) (bytesDrop blockSize encryptedBytes)
        unpad decrypted
      match plain.map loadsJson with
      | some (.ok payload) => .ok payload
      | some (.error (.payload message)) => .error (.payload message)
      | _ => .error (.verification "Failed to decrypt Feishu callback")
  | _ => .ok body

def verifyToken (payload : Dict) (isChallenge : Bool) : Except FeishuCallbackError Unit :=
  match v.verificationToken with
  | some verificationToken =>
    match callbackToken payload with
    | none =>
      .error (.verification "Invalid Feishu verification token: missing callback token")
    | some actual => do
      if ← compareDigest actual verificationToken then .ok ()
      else .error (.verification "Invalid Feishu verification token: callback token mismatch")
  | none =>
    if isChallenge then .ok ()
    else .error (.configuration "FEISHU_VERIFICATION_TOKEN is required")

/-- `_verified_callback`; `verify_event` ends with the same lines. -/
def verifiedCallback (payload : Dict) (rawBody : ByteArray) (isChallenge : Bool) :
    Except FeishuCallbackError VerifiedFeishuCallback :=
  let header := payloadHeader payload
  let event := payloadEvent payload
  match eventTypeOf payload isChallenge with
  | none => .error (.payload "Feishu callback missing event_type")
  | some eventType =>
    .ok
      { payload := payload
        rawBody := rawBody
        payloadHash := hexdigest (crypto.sha256 rawBody)
        isChallenge := isChallenge
        challenge := if isChallenge then (payload.get "challenge").asStr else none
        eventId := firstStr [header.get "event_id", payload.get "uuid", payload.get "event_id"]
        eventType := eventType
        tenantKey := firstStr [header.get "tenant_key", event.get "tenant_key"]
        appId := firstStr [header.get "app_id", payload.get "app_id"]
        messageId := extractMessageId event }

def verifyEvent (now : Time) (rawBody : ByteArray) (headers : Headers) :
    Except FeishuCallbackError VerifiedFeishuCallback := do
  let body ← loadsJson rawBody
  let signatureValid ← v.validateSignatureIfPresent crypto now rawBody headers
  let payload ← v.decryptIfNeeded crypto body
  let isChallenge := (payload.get "challenge").asStr.isSome
  if !isChallenge && v.encryptKey.isNone then
    .error (.configuration "FEISHU_ENCRYPT_KEY is required")
  else if !isChallenge && !signatureValid then
    .error (.verification "Feishu signature headers are required")
  else
    v.verifyToken payload isChallenge
    verifiedCallback crypto payload rawBody isChallenge

def verifyCardAction (now : Time) (rawBody : ByteArray) (headers : Headers) :
    Except FeishuCallbackError VerifiedFeishuCallback := do
  let body ← loadsJson rawBody
  let signatureValid ← v.validateCardSignatureIfPresent crypto now rawBody headers
  let payload ← v.decryptIfNeeded crypto body
  let isChallenge := (payload.get "challenge").asStr.isSome
  if !isChallenge && !signatureValid then
    v.verifyToken payload isChallenge
    verifiedCallback crypto payload rawBody false
  else
    if !signatureValid || (callbackToken payload).isSome then v.verifyToken payload isChallenge
    verifiedCallback crypto payload rawBody isChallenge

end FeishuCallbackVerifier
end Headhunt.Feishu
