import Headhunt.Feishu.Dispatcher
import Headhunt.Storage.Repositories

/-! `FeishuOutboxHandler._write_bitable`: the approval is checked again right before the
external write. -/
namespace Headhunt.Feishu
open Headhunt.Storage Py

def bitableBatchCreateMaxRecords : Nat := 1000

structure BatchCreate where
  appToken : String
  tableId : String
  records : List Json
  clientToken : String
deriving DecidableEq

inductive HandlerError
  | dispatch (exc : OutboxDispatchError)
  /-- Another exception with its `str`, or with its class where the database driver raised it. -/
  | uncaught (message : String)
deriving DecidableEq

def dispatchError (message : String) : HandlerError := .dispatch ⟨message, none⟩

/-- What the dispatcher makes of an exception of the handler. -/
def handlerDispatchError : HandlerError → OutboxDispatchError
  | .dispatch exc => exc
  | .uncaught message => ⟨message, none⟩

def optionalUuid (value : Json) : Except HandlerError (Option UUID) :=
  match firstStr [value] with
  | none => .ok none
  | some text =>
    match UUID.parse text with
    | some id => .ok (some id)
    | none => .error (.uncaught (UUID.errorText text))

def requiredPayloadStr (payload : Dict) (key : String) : Except HandlerError String :=
  match firstStr [payload.get key] with
  | some value => .ok value
  | none => .error (dispatchError s!"outbox payload missing {key}")

/-- `_write_bitable` up to the call it makes. -/
def writeBitable (payload : Dict) (db : Database) : Except HandlerError BatchCreate := do
  match ← optionalUuid (payload.get "action_id") with
  | none => .error (dispatchError "bitable_write payload.action_id is required")
  | some actionId =>
    match ensureActionApproved actionId db with
    | .error (.bitableActionNotApproved message) => .error (.dispatch ⟨message, some 300⟩)
    -- nothing else is raised by the check
    | .error _ => .error (.uncaught "")
    | .ok () => do
      let appToken ← requiredPayloadStr payload "app_token"
      let tableId ← requiredPayloadStr payload "table_id"
      let clientToken ← requiredPayloadStr payload "client_token"
      match payload.get "records" with
      | .arr records =>
        if records.all (fun record => (dictOrNone record).isSome) = false then
          .error (dispatchError "bitable_write payload.records must be a list of objects")
        else if records = [] ∨ bitableBatchCreateMaxRecords < records.length then
          .error (dispatchError (s!"bitable_write payload.records must contain " ++
            s!"1-{bitableBatchCreateMaxRecords} objects"))
        else .ok ⟨appToken, tableId, records, clientToken⟩
      | _ => .error (dispatchError "bitable_write payload.records must be a list of objects")

end Headhunt.Feishu
