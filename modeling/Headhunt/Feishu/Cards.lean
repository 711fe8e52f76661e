import Headhunt.Lib.PyJson
import Headhunt.Storage.Models

/-! Interactive cards: their frame, their buttons and the values those send back. -/
namespace Headhunt.Feishu
open Headhunt.Storage Py

def plainText (content : String) : Json :=
  .obj (Dict.ofList [("tag", .str "plain_text"), ("content", .str content)])

/-- `_base_card` with the elements that are appended to its body. -/
def baseCard (title template markdown : String) (more : List Json) : Dict := Dict.ofList
  [("schema", .str "2.0"),
    ("header", .obj (Dict.ofList [("template", .str template), ("title", plainText title)])),
    ("body", .obj (Dict.ofList [("elements", .arr (.obj (Dict.ofList
      [("tag", .str "div"), ("text", .obj (Dict.ofList
        [("tag", .str "lark_md"), ("content", .str markdown)]))]) :: more))]))]

def button (label buttonType : String) (value : Dict) : Dict := Dict.ofList
  [("tag", .str "button"), ("text", plainText label), ("type", .str buttonType),
    ("behaviors", .arr [.obj (Dict.ofList [("type", .str "callback"), ("value", .obj value)])])]

def cardSection (label content : String) : String := s!"**{label}**\n{content}"

def cardText (sections : List String) : String := "\n\n".intercalate sections

/-- The value of the two buttons `build_approval_card` makes. -/
def approvalCardValue (threadId interruptId actionId : UUID) (idempotencyKey : String)
    (payloadRef : Option String) (decision : Decision) : Dict :=
  let value := Dict.ofList
    [("thread_id", .str threadId.str), ("interrupt_id", .str interruptId.str),
      ("action_id", .str actionId.str), ("idempotency_key", .str idempotencyKey),
      ("decision", .str decision.value)]
  match payloadRef.filter (· ≠ "") with
  | some ref => value.set "payload_ref" (.str ref)
  | none => value

/-- What the buttons of a task confirmation card are made of. -/
structure TaskCard where
  threadId : UUID
  taskId : UUID
  taskPayloadRef : String
  sourceRef : String
deriving DecidableEq

def taskConfirmKey (sourceRef : String) : String := s!"task_confirm:{sourceRef}"

def TaskCard.idempotencyKey (card : TaskCard) : String := taskConfirmKey card.sourceRef

/-- The value of the two buttons `build_task_confirmation_card` makes. -/
def TaskCard.value (card : TaskCard) (decision : Decision) : Dict := Dict.ofList
  [("action_kind", .str "task_double_check"), ("thread_id", .str card.threadId.str),
    ("task_id", .str card.taskId.str), ("task_payload_ref", .str card.taskPayloadRef),
    ("source_ref", .str card.sourceRef), ("idempotency_key", .str card.idempotencyKey),
    ("decision", .str decision.value)]

end Headhunt.Feishu
