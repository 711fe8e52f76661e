import Headhunt.Feishu.Callbacks
import Headhunt.Lib.PyBase64
import Headhunt.Lib.PyJsonText
import Mathlib

/-! Encrypted callbacks: the padding of the plain text, and `_decrypt_if_needed` as the
inverse of what the platform does. -/
namespace Headhunt.Feishu
open Headhunt.Core Py

/-- The PKCS7 padding to whole blocks; there is always some. -/
def pad (data : ByteArray) : ByteArray :=
  let padding := blockSize - data.size % blockSize
  data ++ ⟨(List.replicate padding (UInt8.ofNat padding)).toArray⟩

/-- AES in CBC mode on the side of the platform: decryption undoes it. -/
structure AesCbc (crypto : Crypto) where
  encrypt : (key iv plain : ByteArray) → ByteArray
  decrypt_encrypt : ∀ {key iv plain : ByteArray}, key.size = 32 → iv.size = blockSize →
    plain.size % blockSize = 0 → crypto.decryptCbc key iv (encrypt key iv plain) = some plain

def encryptedText {crypto : Crypto} (aes : AesCbc crypto) (encryptKey : String) (iv : ByteArray)
    (text : String) : String :=
  b64encode (iv ++ aes.encrypt (crypto.sha256 encryptKey.toUTF8) iv (pad text.toUTF8))

theorem toList_pad (data : ByteArray) : (pad data).data.toList = data.data.toList ++
    List.replicate (blockSize - data.size % blockSize)
      (UInt8.ofNat (blockSize - data.size % blockSize)) := by
  simp [pad, ByteArray.data_append]

theorem size_eq_length (data : ByteArray) : data.size = data.data.toList.length := by
  rw [Array.length_toList, ByteArray.size_data]

theorem size_pad (data : ByteArray) : (pad data).size % blockSize = 0 := by
  rw [size_eq_length, toList_pad, List.length_append, List.length_replicate, ← size_eq_length]
  unfold blockSize
  omega

theorem toList_injective {a b : ByteArray} (h : a.data.toList = b.data.toList) : a = b := by
  cases a
  cases b
  exact congrArg ByteArray.mk (Array.toList_inj.mp h)

theorem unpad_pad (data : ByteArray) : unpad (pad data) = some data := by
  have hpos : 1 ≤ blockSize - data.size % blockSize ∧
      blockSize - data.size % blockSize ≤ blockSize := by
    unfold blockSize
    omega
  generalize hpadding : blockSize - data.size % blockSize = padding at hpos
  have hlist : (pad data).data.toList =
      data.data.toList ++ List.replicate padding (UInt8.ofNat padding) := by
    rw [toList_pad, hpadding]
  have hsize : (pad data).size - padding = data.data.toList.length := by
    rw [size_eq_length, hlist, List.length_append, List.length_replicate]
    omega
  have hlast : (pad data).data.toList.getLast? = some (UInt8.ofNat padding) := by
    rw [hlist, List.getLast?_append, List.getLast?_replicate, if_neg (by omega)]
    rfl
  have hvalue : (UInt8.ofNat padding).toNat = padding := by
    unfold blockSize at hpos
    rw [UInt8.toNat_ofNat', Nat.mod_eq_of_lt (by omega)]
  rw [unpad, hlast]
  simp only [hvalue, hsize]
  rw [if_neg (by omega), if_pos]
  · congr 1
    apply toList_injective
    simp [bytesTake, hlist]
  · rw [hlist, List.drop_left]

/-- `_unpad` accepts whole blocks exactly when they are a padding, and returns what was padded. -/
theorem unpad_eq_some_iff {data x : ByteArray} (haligned : data.size % blockSize = 0) :
    unpad data = some x ↔ data = pad x := by
  constructor
  · intro h
    unfold unpad at h
    split at h
    next => cases h
    next last hlast =>
      dsimp only at h
      split_ifs at h with hrange htail
      obtain rfl := Option.some.inj h
      have hdrop := congrArg List.length htail
      rw [List.length_drop, List.length_replicate, ← size_eq_length] at hdrop
      have htake : (bytesTake (data.size - last.toNat) data).data.toList =
          data.data.toList.take (data.size - last.toNat) := by
        simp [bytesTake]
      have hsize : (bytesTake (data.size - last.toNat) data).size = data.size - last.toNat := by
        rw [size_eq_length, htake, List.length_take, ← size_eq_length]
        omega
      have hpadding : blockSize - (data.size - last.toNat) % blockSize = last.toNat := by
        unfold blockSize at hrange haligned ⊢
        omega
      apply toList_injective
      rw [toList_pad, hsize, hpadding, htake, UInt8.ofNat_toNat, ← htail, List.take_append_drop]
  · rintro rfl
    exact unpad_pad x

theorem bytesTake_append {iv : ByteArray} {n : Nat} (h : iv.size = n) (data : ByteArray) :
    bytesTake n (iv ++ data) = iv := by
  apply toList_injective
  rw [size_eq_length] at h
  simp [bytesTake, ByteArray.data_append, ← h]

theorem bytesDrop_append {iv : ByteArray} {n : Nat} (h : iv.size = n) (data : ByteArray) :
    bytesDrop n (iv ++ data) = data := by
  apply toList_injective
  rw [size_eq_length] at h
  simp [bytesDrop, ByteArray.data_append, ← h]

theorem loadsJson_toUTF8 {text : String} {p : Dict} (h : loads text = .ok (.obj p)) :
    loadsJson text.toUTF8 = .ok p := by
  simp only [loadsJson, fromUTF8_toUTF8, h]

theorem loadsJson_eq_ok {data : ByteArray} {p : Dict} (h : loadsJson data = .ok p) :
    ∃ text, data = text.toUTF8 ∧ loads text = .ok (.obj p) := by
  unfold loadsJson at h
  split at h
  next => cases h
  next text htext =>
    split at h
    next parsed hparsed =>
      obtain rfl := Except.ok.inj h
      exact ⟨text, (toUTF8_of_fromUTF8 htext).symm, hparsed⟩
    all_goals cases h

def FeishuCallbackError.InFamily (exc : FeishuCallbackError) : Prop :=
  ∃ message, exc = .configuration message ∨ exc = .verification message ∨ exc = .payload message

/-- What the platform encrypted is read again; the padding is recognised exactly; and any text
under `encrypt` gives a JSON object or an exception of the callback module. -/
theorem decryptIfNeeded_undoes (crypto : Crypto) (aes : AesCbc crypto)
    (hsha : ∀ data, (crypto.sha256 data).size = 32) :
    (∀ (settings : Settings) (encryptKey : String) (iv : ByteArray) (text : String) (p body : Dict),
      settings.feishuEncryptKey = some encryptKey → encryptKey ≠ "" → iv.size = blockSize →
      loads text = .ok (.obj p) →
      body.get "encrypt" = .str (encryptedText aes encryptKey iv text) →
      (FeishuCallbackVerifier.ofSettings settings).decryptIfNeeded crypto body = .ok p) ∧
    (∀ data x : ByteArray, data.size % blockSize = 0 → (unpad data = some x ↔ data = pad x)) ∧
    ∀ (settings : Settings) (body : Dict) (encrypted : String),
      body.get "encrypt" = .str encrypted →
      (∃ p text,
        (FeishuCallbackVerifier.ofSettings settings).decryptIfNeeded crypto body = .ok p ∧
        loads text = .ok (.obj p)) ∨
      ∃ exc, (FeishuCallbackVerifier.ofSettings settings).decryptIfNeeded crypto body =
        .error exc ∧ exc.InFamily := by
  refine ⟨?_, fun data x haligned => unpad_eq_some_iff haligned, ?_⟩
  · intro settings encryptKey iv text p body hkey hnonempty hiv htext hbody
    have hsecret : (FeishuCallbackVerifier.ofSettings settings).encryptKey = some encryptKey := by
      simp [FeishuCallbackVerifier.ofSettings, secretValue, hkey, hnonempty]
    have hdecrypted := aes.decrypt_encrypt (hsha encryptKey.toUTF8) hiv (size_pad text.toUTF8)
    unfold FeishuCallbackVerifier.decryptIfNeeded
    simp only [hbody, hsecret, encryptedText, b64decode_b64encode, Option.bind_eq_bind,
      Option.bind_some, bytesTake_append hiv, bytesDrop_append hiv, hdecrypted, unpad_pad,
      Option.map_some, loadsJson_toUTF8 htext]
  · intro settings body encrypted hbody
    unfold FeishuCallbackVerifier.decryptIfNeeded
    simp only [hbody]
    split
    next => exact .inr ⟨_, rfl, _, .inl rfl⟩
    next encryptKey hkey =>
      split
      next payload hpayload =>
        obtain ⟨data, _, hload⟩ := Option.map_eq_some_iff.mp hpayload
        obtain ⟨text, _, htext⟩ := loadsJson_eq_ok hload
        exact .inl ⟨payload, text, rfl, htext⟩
      next message _ => exact .inr ⟨_, rfl, message, .inr (.inr rfl)⟩
      next => exact .inr ⟨_, rfl, _, .inr (.inl rfl)⟩

def sampleDigest : ByteArray :=
  ⟨#[0x39, 0xca, 0xb7, 0xcf, 0xff, 0x97, 0xb5, 0xd1, 0xcd, 0x01, 0x7e, 0xbd, 0x22, 0xf9, 0xa9, 0x81,
    0x59, 0x97, 0x4f, 0xc9, 0xc7, 0xa8, 0x88, 0x7b, 0xb8, 0xe3, 0x47, 0xe0, 0xab, 0xe6, 0x3b, 0xb0]⟩

def sampleIv : ByteArray := ⟨#[0, 1, 2, 3, 4, 5, 6, 7, 8, 9, 10, 11, 12, 13, 14, 15]⟩

def sampleText : String := "\x7b\"a\":true\x7d"

def sampleCipherText : ByteArray :=
  ⟨#[0x81, 0x4e, 0xb1, 0x1f, 0xb9, 0x8d, 0x1d, 0x33, 0xa2, 0x8a, 0x97, 0x9d, 0x68, 0xb2, 0x15, 0xdb]⟩

def swapSample (key iv data : ByteArray) : ByteArray :=
  if key = sampleDigest ∧ iv = sampleIv then
    Equiv.swap (pad sampleText.toUTF8) sampleCipherText data
  else data

def sampleCrypto : Crypto where
  sha1 := id
  sha256 data :=
    if data = "callback-key".toUTF8 then sampleDigest else ⟨(List.replicate 32 0).toArray⟩
  decryptCbc key iv cipherText :=
    if iv.size = blockSize ∧ cipherText.size % blockSize = 0 then
      some (swapSample key iv cipherText)
    else none

theorem swapSample_swapSample (key iv data : ByteArray) :
    swapSample key iv (swapSample key iv data) = data := by
  unfold swapSample
  split_ifs with h
  · exact Equiv.swap_apply_self _ _ _
  · rfl

theorem size_swapSample (key iv : ByteArray) {data : ByteArray}
    (h : data.size % blockSize = 0) : (swapSample key iv data).size % blockSize = 0 := by
  unfold swapSample
  split_ifs
  · rw [Equiv.swap_apply_def]
    split_ifs
    · decide +kernel
    · exact size_pad _
    · exact h
  · exact h

def sampleAes : AesCbc sampleCrypto where
  encrypt := swapSample
  decrypt_encrypt := by
    intro key iv plain _ hiv hplain
    have hsize := size_swapSample key iv hplain
    simp only [sampleCrypto, hiv, hsize, and_self, if_true, swapSample_swapSample]

theorem size_sampleDigest (data : ByteArray) : (sampleCrypto.sha256 data).size = 32 := by
  simp only [sampleCrypto]
  split_ifs
  · rfl
  · rfl

def encryptedSettings : Settings := { feishuEncryptKey := some "callback-key" }

theorem decryptIfNeeded_undoes_sampleText :
    (FeishuCallbackVerifier.ofSettings encryptedSettings).decryptIfNeeded sampleCrypto
      [("encrypt", .str (encryptedText sampleAes "callback-key" sampleIv sampleText))] =
        .ok [("a", .bool true)] :=
  (decryptIfNeeded_undoes sampleCrypto sampleAes size_sampleDigest).1 encryptedSettings
    "callback-key" sampleIv sampleText _ _ rfl (by decide) rfl (by decide +kernel) rfl

end Headhunt.Feishu
