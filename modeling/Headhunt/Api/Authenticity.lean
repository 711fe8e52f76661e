import Headhunt.Api.Feishu

/-! Which requests reach the service. The verifier exempts every challenge from the
signature, the endpoints answer only a challenge that is not empty, and a request
between the two is enqueued unauthenticated. -/
namespace Headhunt.Api
open Headhunt.Core Headhunt.Storage Headhunt.Feishu Py FeishuCallbackVerifier

def InWindow (now : Time) (timestamp : String) : Prop :=
  ∃ n, intOf 10 timestamp = some n ∧
    (nowSeconds now - n).natAbs ≤ feishuSignatureMaxAgeSeconds

def IsAscii (s : String) : Prop := ∀ c ∈ s.toList, c.toNat < 128

section Request

variable (v : FeishuCallbackVerifier) (crypto : Crypto) (request : Request)

/-- The request carries an in-window signature of its raw body under the encrypt key. -/
def SignedEvent : Prop :=
  ∃ encryptKey timestamp nonce, v.encryptKey = some encryptKey ∧
    signatureHeaders request.headers = some (timestamp, nonce,
      calculateFeishuSignature crypto timestamp nonce encryptKey request.body) ∧
    InWindow request.now timestamp

def SignedByToken : Prop :=
  ∃ verificationToken timestamp nonce, v.verificationToken = some verificationToken ∧
    signatureHeaders request.headers = some (timestamp, nonce,
      calculateFeishuCardSignature crypto timestamp nonce verificationToken request.body) ∧
    InWindow request.now timestamp

def Unsigned : Prop := v.encryptKey = none ∨ signatureHeaders request.headers = none

def TokenMatches (payload : Dict) : Prop :=
  ∃ verificationToken, v.verificationToken = some verificationToken ∧
    callbackToken payload = some verificationToken

/-- The payload the verifier reads out of the body. -/
def Carries (payload : Dict) : Prop :=
  ∃ body, loadsJson request.body = .ok body ∧ v.decryptIfNeeded crypto body = .ok payload

end Request

section Verifier

variable {v : FeishuCallbackVerifier} {crypto : Crypto} {request : Request}

theorem validateTimestampWindow_eq_ok {now : Time} {timestamp : String} :
    validateTimestampWindow now timestamp = .ok () ↔ InWindow now timestamp := by
  unfold validateTimestampWindow InWindow
  cases h : intOf 10 timestamp with
  | none => simp
  | some n => simp

theorem compareDigest_eq_ok {a b : String} {r : Bool} :
    compareDigest a b = .ok r ↔ IsAscii a ∧ IsAscii b ∧ r = decide (a = b) := by
  have hall : ((a.toList ++ b.toList).all fun c => decide (c.toNat < 128)) = true ↔
      IsAscii a ∧ IsAscii b := by
    simp [IsAscii, List.all_append]
  unfold compareDigest
  split_ifs with h
  · have hab := hall.mp h
    simp only [hab, true_and, Except.ok.injEq]
    constructor
    · intro hr
      simp [← hr, beq_eq_decide]
    · intro hr
      simp [hr, beq_eq_decide]
  · constructor
    · intro hr
      simp at hr
    · rintro ⟨ha, hb, _⟩
      exact absurd (hall.mpr ⟨ha, hb⟩) h

theorem isAscii_digitChar {n : Nat} (hn : n < 16) : (Nat.digitChar n).toNat < 128 := by
  revert n
  decide

theorem isAscii_hexdigest (digest : ByteArray) : IsAscii (hexdigest digest) := by
  intro c hc
  simp only [hexdigest, String.toList_ofList, List.mem_flatMap] at hc
  obtain ⟨b, _, hb⟩ := hc
  have hlt : b.toNat < 256 := b.toNat_lt
  rcases List.mem_pair.mp hb with rfl | rfl
  · exact isAscii_digitChar (by omega)
  · exact isAscii_digitChar (by omega)

theorem validateSignatureIfPresent_eq_ok {signed : Bool} :
    v.validateSignatureIfPresent crypto request.now request.body request.headers = .ok signed ↔
      (signed = true ∧ SignedEvent v crypto request) ∨ (signed = false ∧ Unsigned v request) := by
  unfold validateSignatureIfPresent SignedEvent Unsigned
  cases hk : v.encryptKey with
  | none => simp [eq_comm]
  | some encryptKey =>
    rcases hh : signatureHeaders request.headers with _ | ⟨timestamp, nonce, expected⟩
    · simp [eq_comm]
    · simp only [Except.bind_eq_ok, compareDigest_eq_ok]
      constructor
      · rintro ⟨_, hw, valid, ⟨_, _, rfl⟩, hs⟩
        by_cases he : calculateFeishuSignature crypto timestamp nonce encryptKey request.body =
            expected
        · left
          have ht : signed = true := by simpa [he, eq_comm] using hs
          exact ⟨ht, encryptKey, timestamp, nonce, rfl, by rw [he],
            validateTimestampWindow_eq_ok.mp hw⟩
        · simp [he] at hs
      · rintro (⟨rfl, key, t, n, hkey, heq, hw⟩ | ⟨_, hno⟩)
        · obtain rfl := Option.some.inj hkey
          obtain ⟨rfl, rfl, rfl⟩ : timestamp = t ∧ nonce = n ∧ expected =
              calculateFeishuSignature crypto t n encryptKey request.body := by
            simpa using heq
          have hascii := isAscii_hexdigest
            (crypto.sha256 ((timestamp ++ nonce ++ encryptKey).toUTF8 ++ request.body))
          exact ⟨(), validateTimestampWindow_eq_ok.mpr hw, true, ⟨hascii, hascii, by simp⟩, by simp⟩
        · simp at hno

theorem mem_of_anyDigest {expected : String} {candidates : List String}
    (h : anyDigest expected candidates = .ok true) : expected ∈ candidates := by
  induction candidates with
  | nil => simp [anyDigest] at h
  | cons actual candidates ih =>
    obtain ⟨r, hr, hrest⟩ := Except.bind_eq_ok.mp h
    obtain ⟨_, _, rfl⟩ := compareDigest_eq_ok.mp hr
    by_cases he : actual = expected
    · simp [he]
    · have := ih (by simpa [he] using hrest)
      simp [this]

/-- An accepted card signature is one of the two the request could carry. -/
theorem signed_of_validateCardSignature
    (h : v.validateCardSignatureIfPresent crypto request.now request.body request.headers =
      .ok true) : SignedByToken v crypto request ∨ SignedEvent v crypto request := by
  unfold validateCardSignatureIfPresent at h
  cases ht : v.verificationToken with
  | none => simp [ht] at h
  | some verificationToken =>
    rcases hh : signatureHeaders request.headers with _ | ⟨timestamp, nonce, expected⟩
    · simp [ht, hh] at h
    · simp only [ht, hh] at h
      cases hw : validateTimestampWindow request.now timestamp with
      | error exc =>
        by_cases he : exc = .verification "Invalid Feishu callback timestamp"
        · simp [hw, he] at h
        · simp [hw, he] at h
      | ok u =>
        have hin := validateTimestampWindow_eq_ok.mp hw
        have hmem := mem_of_anyDigest (by simpa only [hw] using h)
        rcases List.mem_cons.mp hmem with rfl | hmem
        · exact Or.inl ⟨verificationToken, timestamp, nonce, ht, hh, hin⟩
        · right
          obtain ⟨encryptKey, hk, rfl⟩ : ∃ key, v.encryptKey = some key ∧
              calculateFeishuSignature crypto timestamp nonce key request.body = expected := by
            simpa using hmem
          exact ⟨encryptKey, timestamp, nonce, hk, hh, hin⟩

theorem verifyToken_eq_ok {payload : Dict} {isChallenge : Bool} :
    v.verifyToken payload isChallenge = .ok () ↔
      (v.verificationToken = none ∧ isChallenge = true) ∨
        ∃ verificationToken, v.verificationToken = some verificationToken ∧
          callbackToken payload = some verificationToken ∧ IsAscii verificationToken := by
  unfold verifyToken
  cases ht : v.verificationToken with
  | none => cases isChallenge <;> simp
  | some verificationToken =>
    cases ha : callbackToken payload with
    | none => simp
    | some actual =>
      simp only [Except.bind_eq_ok, compareDigest_eq_ok]
      constructor
      · rintro ⟨r, ⟨_, hascii, rfl⟩, hr⟩
        by_cases he : actual = verificationToken
        · exact Or.inr ⟨verificationToken, rfl, by rw [he], hascii⟩
        · simp [he] at hr
      · rintro (⟨h, _⟩ | ⟨t, h1, h2, hascii⟩)
        · simp at h
        · obtain rfl := Option.some.inj h1
          obtain rfl := Option.some.inj h2
          exact ⟨true, ⟨hascii, hascii, by simp⟩, by simp⟩

theorem verifiedCallback_eq_ok {payload : Dict} {rawBody : ByteArray} {isChallenge : Bool}
    {callback : VerifiedFeishuCallback}
    (h : verifiedCallback crypto payload rawBody isChallenge = .ok callback) :
    callback.payload = payload ∧ callback.isChallenge = isChallenge ∧
      (isChallenge = true → callback.challenge = (payload.get "challenge").asStr) ∧
      eventTypeOf payload isChallenge = some callback.eventType := by
  unfold verifiedCallback at h
  cases ht : eventTypeOf payload isChallenge with
  | none => simp [ht] at h
  | some eventType =>
    simp only [ht, Except.ok.injEq] at h
    subst h
    simp +contextual

theorem verifiedCallback_body {payload : Dict} {rawBody : ByteArray} {isChallenge : Bool}
    {callback : VerifiedFeishuCallback}
    (h : verifiedCallback crypto payload rawBody isChallenge = .ok callback) :
    callback.rawBody = rawBody ∧ callback.payloadHash = hexdigest (crypto.sha256 rawBody) := by
  unfold verifiedCallback at h
  cases ht : eventTypeOf payload isChallenge with
  | none => simp [ht] at h
  | some eventType =>
    simp only [ht, Except.ok.injEq] at h
    subst h
    exact ⟨rfl, rfl⟩

/-- A challenge always has an event type. -/
theorem exists_verifiedCallback (crypto : Crypto) (payload : Dict) (rawBody : ByteArray) :
    ∃ callback, verifiedCallback crypto payload rawBody true = .ok callback := by
  unfold verifiedCallback
  cases ht : eventTypeOf payload true with
  | none => simp [eventTypeOf] at ht
  | some eventType => exact ⟨_, rfl⟩

/-- Accepted event callbacks: the signature is waived for challenges only. -/
theorem verifyEvent_eq_ok {callback : VerifiedFeishuCallback} :
    v.verifyEvent crypto request.now request.body request.headers = .ok callback ↔
      ∃ payload, Carries v crypto request payload ∧
        (SignedEvent v crypto request ∨
          Unsigned v request ∧ (payload.get "challenge").asStr.isSome = true) ∧
        v.verifyToken payload (payload.get "challenge").asStr.isSome = .ok () ∧
        verifiedCallback crypto payload request.body (payload.get "challenge").asStr.isSome =
          .ok callback := by
  simp only [verifyEvent, Except.bind_eq_ok, Carries]
  constructor
  · rintro ⟨body, hbody, signed, hsigned, payload, hpayload, h⟩
    refine ⟨payload, ⟨body, hbody, hpayload⟩, ?_⟩
    rcases validateSignatureIfPresent_eq_ok.mp hsigned with ⟨rfl, hs⟩ | ⟨rfl, hu⟩
    · have hk : v.encryptKey.isNone = false := by
        obtain ⟨key, _, _, hkey, _⟩ := hs
        simp [hkey]
      simp only [hk, Bool.and_false, Bool.not_true, Bool.false_eq_true, if_false,
        Except.check_eq_ok] at h
      exact ⟨Or.inl hs, h⟩
    · cases hc : (payload.get "challenge").asStr.isSome with
      | false => cases hk : v.encryptKey.isNone <;> simp [hc, hk] at h
      | true =>
        simp only [hc, Bool.not_true, Bool.false_and, Bool.false_eq_true, if_false,
          Except.check_eq_ok] at h
        exact ⟨Or.inr ⟨hu, rfl⟩, h⟩
  · rintro ⟨payload, ⟨body, hbody, hpayload⟩, hs | ⟨hu, hc⟩, ht, hv⟩
    · have hsigned := validateSignatureIfPresent_eq_ok.mpr (Or.inl ⟨rfl, hs⟩)
      obtain ⟨key, _, _, hkey, _⟩ := hs
      refine ⟨body, hbody, true, hsigned, payload, hpayload, ?_⟩
      simp only [hkey, Option.isNone_some, Bool.and_false, Bool.not_true, Bool.false_eq_true,
        if_false, Except.check_eq_ok]
      exact ⟨ht, hv⟩
    · have hsigned : v.validateSignatureIfPresent crypto request.now request.body
          request.headers = .ok false :=
        validateSignatureIfPresent_eq_ok.mpr (Or.inr ⟨rfl, hu⟩)
      refine ⟨body, hbody, false, hsigned, payload, hpayload, ?_⟩
      simp only [hc, Bool.not_true, Bool.false_and, Bool.false_eq_true, if_false,
        Except.check_eq_ok] at ht hv ⊢
      exact ⟨ht, hv⟩

/-- Accepted card callbacks: a missing signature is made up for by the token check. -/
theorem verifyCardAction_eq_ok {callback : VerifiedFeishuCallback} :
    v.verifyCardAction crypto request.now request.body request.headers = .ok callback ↔
      ∃ payload signed, Carries v crypto request payload ∧
        v.validateCardSignatureIfPresent crypto request.now request.body request.headers =
          .ok signed ∧
        (signed = false ∨ (callbackToken payload).isSome = true →
          v.verifyToken payload (payload.get "challenge").asStr.isSome = .ok ()) ∧
        verifiedCallback crypto payload request.body (payload.get "challenge").asStr.isSome =
          .ok callback := by
  have htail : ∀ payload signed isChallenge,
      (if !isChallenge && !signed then do
          v.verifyToken payload isChallenge
          verifiedCallback crypto payload request.body false
        else do
          if !signed || (callbackToken payload).isSome then v.verifyToken payload isChallenge
          verifiedCallback crypto payload request.body isChallenge) = .ok callback ↔
        (signed = false ∨ (callbackToken payload).isSome = true →
          v.verifyToken payload isChallenge = .ok ()) ∧
        verifiedCallback crypto payload request.body isChallenge = .ok callback := by
    intro payload signed isChallenge
    cases signed <;> cases isChallenge <;> cases (callbackToken payload).isSome <;>
      simp [Except.check_eq_ok]
  simp only [verifyCardAction, Except.bind_eq_ok, Carries, htail]
  constructor
  · rintro ⟨body, hbody, signed, hsigned, payload, hpayload, h⟩
    exact ⟨payload, signed, ⟨body, hbody, hpayload⟩, hsigned, h⟩
  · rintro ⟨payload, signed, ⟨body, hbody, hpayload⟩, hsigned, h⟩
    exact ⟨body, hbody, signed, hsigned, payload, hpayload, h⟩

/-- The endpoints answer a challenge themselves unless its text is empty. -/
theorem challengeAnswer_eq_none {payload : Dict} {rawBody : ByteArray}
    {callback : VerifiedFeishuCallback}
    (h : verifiedCallback crypto payload rawBody (payload.get "challenge").asStr.isSome =
      .ok callback) :
    challengeAnswer callback = none ↔
      (payload.get "challenge").asStr = none ∨ payload.get "challenge" = .str "" := by
  obtain ⟨_, hc, hch, _⟩ := verifiedCallback_eq_ok h
  unfold challengeAnswer
  rw [hc]
  cases hp : payload.get "challenge" with
  | str s =>
    have hsome : callback.challenge = some s := by simpa [hp, Json.asStr] using hch
    simp [Json.asStr, hsome]
  | _ => simp [Json.asStr]

end Verifier

section Endpoints

variable (settings : Settings) (crypto : Crypto) (request : Request)

/-- Whatever reaches `enqueue_event` is signed and has the token. -/
def EventAuthentic : Prop :=
  let v := FeishuCallbackVerifier.ofSettings settings
  ∀ callback, receiveFeishuEvent settings crypto request = .ok (.enqueue callback) →
    SignedEvent v crypto request ∧ TokenMatches v callback.payload

def CardActionAuthentic : Prop :=
  let v := FeishuCallbackVerifier.ofSettings settings
  ∀ callback, receiveFeishuCardAction settings crypto request = .ok (.enqueue callback) →
    (SignedByToken v crypto request ∨ SignedEvent v crypto request) ∨
      TokenMatches v callback.payload

/-- An event whose challenge is the empty string: it needs no signature, and no token
where none is configured. -/
def EmptyChallengeEvent : Prop :=
  let v := FeishuCallbackVerifier.ofSettings settings
  ∃ payload, Carries v crypto request payload ∧ payload.get "challenge" = .str "" ∧
    eventTypeOf payload true ≠ some "card.action.trigger" ∧
    (Unsigned v request ∧ (v.verificationToken = none ∨
        ∃ token, v.verificationToken = some token ∧ callbackToken payload = some token ∧
          IsAscii token) ∨
      SignedEvent v crypto request ∧ v.verificationToken = none)

def EmptyChallengeCardAction : Prop :=
  let v := FeishuCallbackVerifier.ofSettings settings
  (∃ payload, Carries v crypto request payload ∧ payload.get "challenge" = .str "") ∧
    v.verificationToken = none ∧ ¬SignedEvent v crypto request

variable {settings crypto request}

theorem receiveFeishuEvent_eq_enqueue {callback : VerifiedFeishuCallback} :
    receiveFeishuEvent settings crypto request = .ok (.enqueue callback) ↔
      (FeishuCallbackVerifier.ofSettings settings).verifyEvent crypto request.now request.body
          request.headers = .ok callback ∧
        challengeAnswer callback = none ∧ callback.eventType ≠ "card.action.trigger" := by
  unfold receiveFeishuEvent
  simp only [Except.bind_eq_ok, Except.mapError_eq_ok]
  constructor
  · rintro ⟨c, hc, h⟩
    cases hch : challengeAnswer c with
    | some challenge => simp [hch] at h
    | none =>
      simp only [hch, Except.ite_error_eq_ok, Except.ok.injEq, Outcome.enqueue.injEq] at h
      obtain ⟨hne, rfl⟩ := h
      exact ⟨hc, hch, hne⟩
  · rintro ⟨hc, hch, hne⟩
    exact ⟨callback, hc, by simp [hch, hne]⟩

theorem receiveFeishuCardAction_eq_enqueue {callback : VerifiedFeishuCallback} :
    receiveFeishuCardAction settings crypto request = .ok (.enqueue callback) ↔
      (FeishuCallbackVerifier.ofSettings settings).verifyCardAction crypto request.now request.body
          request.headers = .ok callback ∧
        challengeAnswer callback = none := by
  unfold receiveFeishuCardAction
  simp only [Except.bind_eq_ok, Except.mapError_eq_ok]
  constructor
  · rintro ⟨c, hc, h⟩
    cases hch : challengeAnswer c with
    | some challenge => simp [hch] at h
    | none =>
      obtain rfl : c = callback := by simpa [hch] using h
      exact ⟨hc, hch⟩
  · rintro ⟨hc, hch⟩
    exact ⟨callback, hc, by simp [hch]⟩

theorem Unsigned.not_signedEvent {v : FeishuCallbackVerifier} (h : Unsigned v request) :
    ¬SignedEvent v crypto request := by
  rintro ⟨key, timestamp, nonce, hkey, hheaders, _⟩
  rcases h with h | h
  · simp [h] at hkey
  · simp [h] at hheaders

theorem eventAuthentic_iff :
    EventAuthentic settings crypto request ↔ ¬EmptyChallengeEvent settings crypto request := by
  set v := FeishuCallbackVerifier.ofSettings settings
  constructor
  · rintro hauth ⟨payload, hcarries, hch, htype, hhole⟩
    have hstr : (payload.get "challenge").asStr.isSome = true := by simp [hch, Json.asStr]
    obtain ⟨callback, hcb⟩ := exists_verifiedCallback crypto payload request.body
    obtain ⟨hpayload, _, _, hev⟩ := verifiedCallback_eq_ok hcb
    have hverify : v.verifyEvent crypto request.now request.body request.headers =
        .ok callback := by
      refine verifyEvent_eq_ok.mpr ⟨payload, hcarries, ?_, ?_, by rwa [hstr]⟩
      · rcases hhole with ⟨hu, _⟩ | ⟨hs, _⟩
        · exact Or.inr ⟨hu, hstr⟩
        · exact Or.inl hs
      · rw [hstr]
        refine verifyToken_eq_ok.mpr ?_
        rcases hhole with ⟨_, hn | ht⟩ | ⟨_, hn⟩
        · exact Or.inl ⟨hn, rfl⟩
        · exact Or.inr ht
        · exact Or.inl ⟨hn, rfl⟩
    have hanswer : challengeAnswer callback = none := by
      rw [← hstr] at hcb
      exact (challengeAnswer_eq_none hcb).mpr (Or.inr hch)
    have htype' : callback.eventType ≠ "card.action.trigger" := by
      intro he
      exact htype (by rw [hev, he])
    obtain ⟨hsigned, token, htoken, _⟩ :=
      hauth callback (receiveFeishuEvent_eq_enqueue.mpr ⟨hverify, hanswer, htype'⟩)
    rcases hhole with ⟨hu, _⟩ | ⟨_, hn⟩
    · exact hu.not_signedEvent hsigned
    · exact absurd (hn.symm.trans htoken) (by simp)
  · intro hhole callback hcall
    obtain ⟨hverify, hanswer, hne⟩ := receiveFeishuEvent_eq_enqueue.mp hcall
    obtain ⟨payload, hcarries, hsig, htoken, hcb⟩ := verifyEvent_eq_ok.mp hverify
    obtain ⟨hpayload, _, _, hev⟩ := verifiedCallback_eq_ok hcb
    rw [hpayload]
    rcases (challengeAnswer_eq_none hcb).mp hanswer with hnone | hempty
    · -- no challenge: neither the signature nor the token is waived
      rw [hnone] at hsig htoken
      refine ⟨by simpa using hsig, ?_⟩
      rcases verifyToken_eq_ok.mp htoken with ⟨_, hc⟩ | ⟨token, ht, hm, _⟩
      · simp at hc
      · exact ⟨token, ht, hm⟩
    · have hstr : (payload.get "challenge").asStr.isSome = true := by simp [hempty, Json.asStr]
      rw [hstr] at htoken hev
      have htype : eventTypeOf payload true ≠ some "card.action.trigger" := by
        intro he
        exact hne (Option.some.inj (hev.symm.trans he))
      have htok := verifyToken_eq_ok.mp htoken
      rcases hsig with hs | ⟨hu, _⟩
      · refine ⟨hs, ?_⟩
        rcases htok with ⟨hn, _⟩ | ⟨token, ht, hm, _⟩
        · exact absurd ⟨payload, hcarries, hempty, htype, Or.inr ⟨hs, hn⟩⟩ hhole
        · exact ⟨token, ht, hm⟩
      · refine absurd ⟨payload, hcarries, hempty, htype, Or.inl ⟨hu, ?_⟩⟩ hhole
        exact htok.imp_left And.left

theorem cardActionAuthentic_iff :
    CardActionAuthentic settings crypto request ↔
      ¬EmptyChallengeCardAction settings crypto request := by
  set v := FeishuCallbackVerifier.ofSettings settings
  constructor
  · rintro hauth ⟨⟨payload, hcarries, hch⟩, hnone, hunsigned⟩
    have hstr : (payload.get "challenge").asStr.isSome = true := by simp [hch, Json.asStr]
    obtain ⟨callback, hcb⟩ := exists_verifiedCallback crypto payload request.body
    have hsig : v.validateCardSignatureIfPresent crypto request.now request.body
        request.headers = .ok false := by
      unfold validateCardSignatureIfPresent
      rw [show v.verificationToken = none from hnone]
    have hverify : v.verifyCardAction crypto request.now request.body request.headers =
        .ok callback := by
      refine verifyCardAction_eq_ok.mpr ⟨payload, false, hcarries, hsig, ?_, by rwa [hstr]⟩
      intro _
      exact verifyToken_eq_ok.mpr (Or.inl ⟨hnone, hstr⟩)
    have hanswer : challengeAnswer callback = none := by
      rw [← hstr] at hcb
      exact (challengeAnswer_eq_none hcb).mpr (Or.inr hch)
    rcases hauth callback (receiveFeishuCardAction_eq_enqueue.mpr ⟨hverify, hanswer⟩) with
      (⟨token, _, _, ht, _⟩ | hs) | ⟨token, ht, _⟩
    · exact absurd (hnone.symm.trans ht) (by simp)
    · exact hunsigned hs
    · exact absurd (hnone.symm.trans ht) (by simp)
  · intro hhole callback hcall
    obtain ⟨hverify, hanswer⟩ := receiveFeishuCardAction_eq_enqueue.mp hcall
    obtain ⟨payload, signed, hcarries, hsig, htoken, hcb⟩ := verifyCardAction_eq_ok.mp hverify
    obtain ⟨hpayload, _, _, _⟩ := verifiedCallback_eq_ok hcb
    rw [hpayload]
    cases signed with
    | true => exact Or.inl (signed_of_validateCardSignature hsig)
    | false =>
      rcases verifyToken_eq_ok.mp (htoken (Or.inl rfl)) with ⟨hn, hc⟩ | ⟨token, ht, hm, _⟩
      · left
        right
        by_contra hs
        have hempty := (challengeAnswer_eq_none hcb).mp hanswer
        rcases hempty with hnone | hempty
        · simp [hnone] at hc
        · exact hhole ⟨⟨payload, hcarries, hempty⟩, hn, hs⟩
      · exact Or.inr ⟨token, ht, hm⟩

end Endpoints

/-- For every configuration and every request, only authentic callbacks are enqueued. -/
def CallbackAuthenticity (crypto : Crypto) : Prop :=
  ∀ settings request,
    EventAuthentic settings crypto request ∧ CardActionAuthentic settings crypto request

/-- Only authentic callbacks are enqueued exactly when the challenge is not the empty
string, or the empty challenge meets a check that is not waived for it. -/
theorem callback_authentic_iff (settings : Settings) (crypto : Crypto) (request : Request) :
    EventAuthentic settings crypto request ∧ CardActionAuthentic settings crypto request ↔
      ¬EmptyChallengeEvent settings crypto request ∧
        ¬EmptyChallengeCardAction settings crypto request :=
  and_congr eventAuthentic_iff cardActionAuthentic_iff

/-- With both secrets configured, an event that knows the token but carries no
signature is enqueued if its challenge is the empty string. -/
theorem not_callbackAuthenticity : ¬∃ crypto, CallbackAuthenticity crypto := by
  rintro ⟨crypto, hauth⟩
  let settings : Settings :=
    { feishuVerificationToken := some "token", feishuEncryptKey := some "key" }
  let request : Request :=
    { body := "\x7b\"challenge\":\"\",\"token\":\"token\",\"type\":\"message\"\x7d".toUTF8
      headers := []
      now := 0 }
  have hbody : loadsJson request.body = .ok
      [("challenge", .str ""), ("token", .str "token"), ("type", .str "message")] := by
    decide +kernel
  refine (callback_authentic_iff settings crypto request).mp (hauth settings request) |>.1 ?_
  refine ⟨_, ⟨_, hbody, rfl⟩, by decide, by decide, Or.inl ⟨Or.inr rfl, Or.inr ⟨"token", rfl, ?_⟩⟩⟩
  refine ⟨by decide, ?_⟩
  simp [IsAscii]

end Headhunt.Api
