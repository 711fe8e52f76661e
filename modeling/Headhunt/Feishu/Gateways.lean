import Headhunt.Feishu.OutboxHandlers
import Headhunt.Feishu.TaskCards

/-! The answers of the Feishu API: what they are taken for, the delay their `Retry-After`
header asks for, and what the outbox handler tells the dispatcher about a failed call. -/
namespace Headhunt.Feishu
open Py

/-- `response.json()` is missing where the body is no JSON. -/
structure Response where
  statusCode : Nat
  retryAfter : Option String
  json : Option Json

/-- A `FeishuRateLimitError` where `rateLimited`. -/
structure FeishuGatewayError where
  rateLimited : Bool
  message : String
  statusCode : Option Nat
  code : Option Int
  retryAfterSeconds : Option Int
deriving DecidableEq

def retryAfterSeconds (response : Response) : Option Int :=
  match response.retryAfter with
  | none => none
  | some value => if value = "" then none else (intOf 10 value).map fun n => max n 0

def parseResponseJson (response : Response) : Except FeishuGatewayError Dict :=
  match response.json with
  | none =>
    if response.statusCode = 429 then
      .error {
        rateLimited := true
        message := "Feishu API returned non-JSON rate limit response"
        statusCode := some response.statusCode
        code := none
        retryAfterSeconds := retryAfterSeconds response }
    else
      .error {
        rateLimited := false
        message := "Feishu API returned non-JSON response"
        statusCode := some response.statusCode
        code := none
        retryAfterSeconds := retryAfterSeconds response }
  | some (.obj payload) => .ok payload
  | some _ =>
    .error {
      rateLimited := false
      message := "Feishu API returned non-object response"
      statusCode := some response.statusCode
      code := none
      retryAfterSeconds := none }

def tokenExpiredCodes : List Int := [99991663, 99991664, 99991668]

def needsTokenRefresh (response : Response) (payload : Dict) : Bool :=
  response.statusCode = 401 || tokenExpiredCodes.any fun code => (payload.get "code").pyEq (.int code)

/-- `isinstance(code, int)`, which the booleans are too. -/
def intCode : Json → Option Int
  | .int n => some n
  | .bool b => some (if b then 1 else 0)
  | _ => none

def raiseForFeishuError (response : Response) (payload : Dict) : Except FeishuGatewayError Unit :=
  let retryAfter := retryAfterSeconds response
  let code := intCode (payload.get "code")
  let message := formatValue
    (((payload.get "msg").orElse (payload.get "message")).orElse (.str "Feishu API error"))
  if response.statusCode = 429 then
    .error ⟨true, message, some response.statusCode, code, retryAfter⟩
  else if 400 ≤ response.statusCode then
    .error ⟨false, message, some response.statusCode, code, retryAfter⟩
  else
    match code with
    | some n =>
      if n ≠ 0 then
        .error ⟨retryAfter.any (· ≠ 0), message, some response.statusCode, some n, retryAfter⟩
      else .ok ()
    | none => .ok ()

def checkResponse (response : Response) : Except FeishuGatewayError Dict := do
  let payload ← parseResponseJson response
  raiseForFeishuError response payload
  pure payload

/-- How a handler fails: an answer that is refused, another error of the gateway (which
then names no delay), or an error of its own. -/
inductive HandlerFailure
  | refused (response : Response) (exc : FeishuGatewayError)
      (raised : checkResponse response = .error exc)
  | gateway (message : String)
  | handler (exc : HandlerError)

namespace HandlerFailure

def reportedRetryAfter : HandlerFailure → Option Int
  | refused response _ _ => retryAfterSeconds response
  | _ => none

/-- What the dispatcher is told: `handle` wraps the errors of the gateway. -/
def dispatchError : HandlerFailure → OutboxDispatchError
  | refused _ exc _ => ⟨exc.message, exc.retryAfterSeconds⟩
  | gateway message => ⟨message, none⟩
  | handler exc => handlerDispatchError exc

end HandlerFailure

end Headhunt.Feishu
