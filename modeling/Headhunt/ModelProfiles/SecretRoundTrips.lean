import Headhunt.Lib.PyBase64
import Headhunt.Lib.PyJsonText
import Headhunt.ModelProfiles.GatewayFactory
import Mathlib

/-! API keys in storage: `encrypt_api_key`, and what `decrypt_api_key` gives back. -/
namespace Headhunt.ModelProfiles
open Py

/-- `AES.new(key, MODE_GCM, nonce)` with `encrypt_and_digest` and `decrypt_and_verify`. The
service encrypts with keys of 32 bytes and nonces of 12, which no cipher refuses. -/
structure AesGcm where
  encrypt : (key nonce plain : ByteArray) → ByteArray × ByteArray
  decrypt : DecryptGcm

/-- The cipher is correct and unforgeable, `made` the encryptions that were made with it. -/
structure AesGcm.Secure (aes : AesGcm) (made : (key nonce plain : ByteArray) → Prop) : Prop where
  correct : ∀ {key nonce plain : ByteArray}, key.size = 32 → nonce.size = 12 →
    made key nonce plain →
    aes.decrypt key nonce (aes.encrypt key nonce plain).1 (aes.encrypt key nonce plain).2 =
      some plain
  /-- What passes the check of the tag is what came out of an encryption. -/
  unforgeable : ∀ {key nonce cipherText tag plain : ByteArray},
    aes.decrypt key nonce cipherText tag = some plain →
    ∃ plain', made key nonce plain' ∧ aes.encrypt key nonce plain' = (cipherText, tag)

/-- `_b64encode`. -/
def b64encodeText (value : ByteArray) : String := rstripEquals (urlsafeB64encode value)

/-- `encrypt_api_key`, `nonce` the 12 random bytes it draws. -/
def ModelSecretService.encryptApiKey (service : ModelSecretService) (aes : AesGcm)
    (nonce : ByteArray) (apiKey : String) : Except GatewayError String :=
  if apiKey = "" then .error (.modelSecret "api_key cannot be empty")
  else
    let encrypted := aes.encrypt service.key nonce apiKey.toUTF8
    .ok ("v1:" ++ b64encodeText nonce ++ ":" ++ b64encodeText encrypted.1 ++ ":" ++
      b64encodeText encrypted.2)

theorem toList_b64encodeText (value : ByteArray) :
    (b64encodeText value).toList = (base64Digits value).map urlsafeChar :=
  toList_rstripEquals value

/-- `_b64decode` of `_b64encode`. -/
theorem urlsafeB64decode_padded (value : ByteArray) :
    urlsafeB64decode (padded (b64encodeText value)) = some value := by
  have hlength : (b64encodeText value).length = (base64Digits value).length := by
    rw [← String.length_toList, toList_b64encodeText, List.length_map]
  have hdigits : ((base64Digits value).map urlsafeChar).map
      (fun c => if c = '-' then '+' else if c = '_' then '/' else c) = base64Digits value := by
    rw [List.map_map]
    refine (List.map_congr_left fun d hd => ?_).trans (List.map_id _)
    obtain ⟨v, hv, rfl⟩ := mem_base64Digits hd
    exact urlsafeChar_back v hv
  have hpad : ∀ n : Nat, (List.replicate n '=').map
      (fun c => if c = '-' then '+' else if c = '_' then '/' else c) = List.replicate n '=' := by
    intro n
    rw [List.map_replicate]
    rfl
  have htext : (padded (b64encodeText value)).toList =
      (base64Digits value).map urlsafeChar ++ base64Padding (base64Digits value).length := by
    rw [padded, String.toList_append, String.toList_ofList, toList_b64encodeText, hlength,
      base64Padding]
  rw [urlsafeB64decode, htext, List.map_append, hdigits, base64Padding, hpad]
  exact b64decode_b64encode value

theorem colon_notMem_b64encodeText (value : ByteArray) : ':' ∉ (b64encodeText value).toList := by
  rw [toList_b64encodeText]
  intro hc
  obtain ⟨d, hd, hcolon⟩ := List.mem_map.mp hc
  obtain ⟨v, hv, rfl⟩ := mem_base64Digits hd
  exact urlsafeChar_ne_colon v hv hcolon

theorem splitColon_field (n : Nat) {field : List Char} (h : ':' ∉ field) (rest : List Char) :
    splitColon (n + 1) (field ++ ':' :: rest) = field :: splitColon n rest := by
  have hfield : ∀ c ∈ field, (decide (c ≠ ':')) = true := by
    intro c hc
    exact decide_eq_true fun hcolon => h (hcolon ▸ hc)
  have hdrop : (field ++ ':' :: rest).dropWhile (· ≠ ':') = ':' :: rest := by
    rw [List.dropWhile_append_of_pos hfield]
    rfl
  have htake : (field ++ ':' :: rest).takeWhile (· ≠ ':') = field := by
    rw [List.takeWhile_append_of_pos hfield]
    simp
  rw [splitColon, hdrop, htake]

/-- The four fields of a text made by the service. -/
theorem splitColon_stored (nonce cipherText tag : ByteArray) :
    (splitColon 3 ("v1:" ++ b64encodeText nonce ++ ":" ++ b64encodeText cipherText ++ ":" ++
      b64encodeText tag).toList).map String.ofList =
        ["v1", b64encodeText nonce, b64encodeText cipherText, b64encodeText tag] := by
  have htext : ("v1:" ++ b64encodeText nonce ++ ":" ++ b64encodeText cipherText ++ ":" ++
      b64encodeText tag).toList = ['v', '1'] ++ ':' :: ((b64encodeText nonce).toList ++ ':' ::
        ((b64encodeText cipherText).toList ++ ':' :: (b64encodeText tag).toList)) := by
    simp [String.toList_append]
  rw [htext, splitColon_field _ (by decide), splitColon_field _ (colon_notMem_b64encodeText nonce),
    splitColon_field _ (colon_notMem_b64encodeText cipherText)]
  simp [splitColon]

/-- A key survives when the cipher decrypts what it encrypted. -/
theorem decryptApiKey_stored {service : ModelSecretService} {nonce cipherText tag : ByteArray}
    {apiKey : String}
    (h : service.decryptGcm service.key nonce cipherText tag = some apiKey.toUTF8) :
    service.decryptApiKey ("v1:" ++ b64encodeText nonce ++ ":" ++ b64encodeText cipherText ++
      ":" ++ b64encodeText tag) = .ok apiKey := by
  rw [ModelSecretService.decryptApiKey, splitColon_stored]
  simp only [ne_eq, not_true_eq_false, if_false, urlsafeB64decode_padded, Option.bind_eq_bind,
    Option.bind_some, h, fromUTF8_toUTF8]

/-- Any text is rejected with the error of the service, or holds an encrypted key. -/
theorem decryptApiKey_cases (service : ModelSecretService) (text : String) :
    (∃ message, service.decryptApiKey text = .error (.modelSecret message)) ∨
    ∃ nonce cipherText tag apiKey, service.decryptApiKey text = .ok apiKey ∧
      service.decryptGcm service.key nonce cipherText tag = some apiKey.toUTF8 := by
  unfold ModelSecretService.decryptApiKey
  split
  next version nonceText cipherText tagText _ =>
    split_ifs with hversion
    · exact .inl ⟨_, rfl⟩
    · dsimp only
      split
      next apiKey hkey =>
        simp only [Option.bind_eq_bind, Option.bind_eq_some_iff] at hkey
        obtain ⟨nonce, _, cipher, _, tag, _, plain, hplain, htext⟩ := hkey
        refine .inr ⟨nonce, cipher, tag, apiKey, rfl, ?_⟩
        rw [hplain, toUTF8_of_fromUTF8 htext]
      next => exact .inl ⟨_, rfl⟩
  next => exact .inl ⟨_, rfl⟩

/-- A call of `encrypt_api_key` on the service of a key text, with the nonce it draws. -/
structure KeyEncryption where
  encryptionKey : String
  nonce : ByteArray
  apiKey : String

structure KeyEncryption.Accepted (call : KeyEncryption) : Prop where
  encryptionKey : strip call.encryptionKey ≠ ""
  nonce : call.nonce.size = 12
  apiKey : call.apiKey ≠ ""

def Encrypted (crypto : Crypto) (calls : Set KeyEncryption) (key nonce plain : ByteArray) : Prop :=
  ∃ call ∈ calls, call.Accepted ∧ deriveKey crypto (strip call.encryptionKey) = key ∧
    call.nonce = nonce ∧ call.apiKey.toUTF8 = plain

theorem size_deriveKey {crypto : Crypto} (hsha : ∀ data, (crypto.sha256 data).size = 32)
    (encryptionKey : String) : (deriveKey crypto encryptionKey).size = 32 := by
  unfold deriveKey
  split
  next decoded hdecoded =>
    have hsize := (Option.filter_eq_some_iff.mp hdecoded).2
    exact of_decide_eq_true hsize
  next =>
    dsimp only
    split_ifs with hraw
    · exact hraw
    · exact hsha _

theorem modelSecretService_eq_ok {crypto : Crypto} {decryptGcm : DecryptGcm}
    {encryptionKey : String} {service : ModelSecretService} :
    modelSecretService crypto decryptGcm encryptionKey = .ok service ↔
      strip encryptionKey ≠ "" ∧
        service = ⟨deriveKey crypto (strip encryptionKey), decryptGcm⟩ := by
  unfold modelSecretService
  split_ifs with hblank
  · simp [hblank]
  · simp [hblank, eq_comm]

/-- What a service encrypts is decrypted by every service whose key text differs by white
space, and any text whatever is rejected or gives a key encrypted under the same derived key. -/
theorem apiKey_survives (crypto : Crypto) (aes : AesGcm) (calls : Set KeyEncryption)
    (hsha : ∀ data, (crypto.sha256 data).size = 32) (haes : aes.Secure (Encrypted crypto calls)) :
    (∀ call ∈ calls, call.Accepted →
      ∀ encryptionKey, strip encryptionKey = strip call.encryptionKey →
      ∃ service service' text,
        modelSecretService crypto aes.decrypt call.encryptionKey = .ok service ∧
        modelSecretService crypto aes.decrypt encryptionKey = .ok service' ∧
        service.encryptApiKey aes call.nonce call.apiKey = .ok text ∧
        service'.decryptApiKey text = .ok call.apiKey) ∧
    ∀ encryptionKey service,
      modelSecretService crypto aes.decrypt encryptionKey = .ok service → ∀ text,
      (∃ message, service.decryptApiKey text = .error (.modelSecret message)) ∨
      ∃ call ∈ calls, call.Accepted ∧
        deriveKey crypto (strip call.encryptionKey) = service.key ∧
        service.decryptApiKey text = .ok call.apiKey := by
  constructor
  · intro call hcall haccepted encryptionKey hstrip
    have hblank : strip encryptionKey ≠ "" := hstrip ▸ haccepted.encryptionKey
    refine ⟨_, _, _, modelSecretService_eq_ok.mpr ⟨haccepted.encryptionKey, rfl⟩,
      modelSecretService_eq_ok.mpr ⟨hblank, rfl⟩, if_neg haccepted.apiKey, ?_⟩
    apply decryptApiKey_stored
    dsimp only
    rw [hstrip]
    exact haes.correct (size_deriveKey hsha _) haccepted.nonce
      ⟨call, hcall, haccepted, rfl, rfl, rfl⟩
  · intro encryptionKey service hservice text
    obtain ⟨_, hmade⟩ := modelSecretService_eq_ok.mp hservice
    have hderived : service.key = deriveKey crypto (strip encryptionKey) := by rw [hmade]
    have hcipher : service.decryptGcm = aes.decrypt := by rw [hmade]
    rcases decryptApiKey_cases service text with
      hrejected | ⟨nonce, cipherText, tag, apiKey, hok, hdecrypt⟩
    · exact .inl hrejected
    · rw [hcipher] at hdecrypt
      obtain ⟨plain, ⟨call, hcall, haccepted, hkey, hnonce, hplain⟩, hencrypt⟩ :=
        haes.unforgeable hdecrypt
      have hsize : service.key.size = 32 := hderived ▸ size_deriveKey hsha _
      have hcorrect := haes.correct hsize (hnonce ▸ haccepted.nonce)
        ⟨call, hcall, haccepted, hkey, hnonce, hplain⟩
      rw [hencrypt, hdecrypt, ← hplain] at hcorrect
      have hsame := toUTF8_injective (Option.some.inj hcorrect)
      refine .inr ⟨call, hcall, haccepted, hkey, ?_⟩
      rw [hok, hsame]

def sampleCall : KeyEncryption where
  encryptionKey := "0123456789abcdef0123456789abcde!"
  nonce := ⟨#[1, 2, 3, 4, 5, 6, 7, 8, 9, 10, 11, 12]⟩
  apiKey := "sk-key"

def sampleCipherText : ByteArray := ⟨#[0xa5, 0x57, 0x4a, 0x44, 0x42, 0xd9]⟩

def sampleTag : ByteArray :=
  ⟨#[0x3e, 0x21, 0x7f, 0x1f, 0xa9, 0x3f, 0x31, 0xa2, 0x59, 0x1b, 0x55, 0x42, 0x0f, 0xde, 0xe3,
    0x3c]⟩

def sampleAes : AesGcm where
  encrypt key nonce plain :=
    if key = sampleCall.encryptionKey.toUTF8 ∧ nonce = sampleCall.nonce ∧
      plain = sampleCall.apiKey.toUTF8 then (sampleCipherText, sampleTag) else (plain, plain)
  decrypt key nonce cipherText tag :=
    if key = sampleCall.encryptionKey.toUTF8 ∧ nonce = sampleCall.nonce ∧
      cipherText = sampleCipherText ∧ tag = sampleTag then some sampleCall.apiKey.toUTF8 else none

def sampleDigest : Crypto where
  sha1 := id
  sha256 _ := ⟨(List.replicate 32 0).toArray⟩
  decryptCbc _ _ _ := none

theorem accepted_sampleCall : sampleCall.Accepted where
  encryptionKey := by decide +kernel
  nonce := by decide +kernel
  apiKey := by decide

theorem deriveKey_sampleCall :
    deriveKey sampleDigest (strip sampleCall.encryptionKey) = sampleCall.encryptionKey.toUTF8 := by
  decide +kernel

theorem sampleAes_secure : sampleAes.Secure (Encrypted sampleDigest {sampleCall}) where
  correct := by
    rintro key nonce plain _ _ ⟨call, rfl, _, rfl, rfl, rfl⟩
    rw [deriveKey_sampleCall]
    decide +kernel
  unforgeable := by
    intro key nonce cipherText tag plain h
    simp only [sampleAes] at h
    split_ifs at h with hsample
    obtain ⟨rfl, rfl, rfl, rfl⟩ := hsample
    have hmade : Encrypted sampleDigest {sampleCall} sampleCall.encryptionKey.toUTF8
        sampleCall.nonce sampleCall.apiKey.toUTF8 :=
      ⟨sampleCall, rfl, accepted_sampleCall, deriveKey_sampleCall, rfl, rfl⟩
    refine ⟨_, hmade, ?_⟩
    simp only [sampleAes, and_self, if_true]

theorem apiKey_survives_sampleCall : ∃ service service' text,
    modelSecretService sampleDigest sampleAes.decrypt sampleCall.encryptionKey = .ok service ∧
    modelSecretService sampleDigest sampleAes.decrypt " 0123456789abcdef0123456789abcde!\n" =
      .ok service' ∧
    service.encryptApiKey sampleAes sampleCall.nonce "sk-key" = .ok text ∧
    service'.decryptApiKey text = .ok "sk-key" :=
  (apiKey_survives sampleDigest sampleAes {sampleCall} (fun _ => rfl) sampleAes_secure).1
    sampleCall rfl accepted_sampleCall _ (by decide +kernel)

end Headhunt.ModelProfiles
