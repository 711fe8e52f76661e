import Headhunt.Feishu.Callbacks
import Headhunt.Lib.Result

/-! The two callback endpoints, up to the call of the service. -/
namespace Headhunt.Api
open Headhunt.Core Headhunt.Storage Headhunt.Feishu Py

structure Request where
  body : ByteArray
  headers : Headers
  /-- The clock while the request is verified. -/
  now : Time

inductive HttpError
  | http (statusCode : Nat) (detail : String)
  | unhandled (name : String)
deriving DecidableEq

/-- What an endpoint does with a request it does not refuse. -/
inductive Outcome
  | urlChallenge (challenge : String)
  | enqueue (callback : VerifiedFeishuCallback)

/-- The status codes of `_verify_event_request` and `_verify_card_request`. -/
def HttpError.ofCallbackError : FeishuCallbackError → HttpError
  | .configuration message => .http 503 message
  | .verification message => .http 401 message
  | .payload message => .http 400 message
  | .uncaught name => .unhandled name

/-- The text the endpoint answers with: `callback.is_challenge and callback.challenge`. -/
def challengeAnswer (callback : VerifiedFeishuCallback) : Option String :=
  if callback.isChallenge then callback.challenge.filter (· ≠ "") else none

variable (settings : Settings) (crypto : Crypto) (request : Request)

def receiveFeishuEvent : Except HttpError Outcome := do
  let callback ← ((FeishuCallbackVerifier.ofSettings settings).verifyEvent crypto request.now
    request.body request.headers).mapError HttpError.ofCallbackError
  match challengeAnswer callback with
  | some challenge => .ok (.urlChallenge challenge)
  | none =>
    if callback.eventType = "card.action.trigger" then
      .error (.http 400 "card.action.trigger callbacks must use /feishu/card-actions")
    else .ok (.enqueue callback)

def receiveFeishuCardAction : Except HttpError Outcome := do
  let callback ← ((FeishuCallbackVerifier.ofSettings settings).verifyCardAction crypto request.now
    request.body request.headers).mapError HttpError.ofCallbackError
  match challengeAnswer callback with
  | some challenge => .ok (.urlChallenge challenge)
  | none => .ok (.enqueue callback)

end Headhunt.Api
