import NodePanel.Json.Reader
import NodePanel.Json.Writer
import NodePanel.Panel.Error
import NodePanel.Record.Exchange

/-!
The envelope around every answer of the panel, `{"response": {"code": …, "message": …}, "datas":
…}`. What is absent or of another type counts as an envelope without a code, and only the code of
success gives the data. A message of any type is made a text, whatever the code; nothing else can
fail.
-/
namespace NodePanel

structure Envelope where
  code : Option Int
  message : Text
  datas : Json

namespace Envelope

def successCode : Int := 200

/-- An integer, also one written as a floating-point number; a truth value is no code. -/
def codeOf : Json → Option Int
  | .int n => some n
  | .float x => x.toInt?
  | _ => none

def field (tree : Json) (key : Text) : Json :=
  ((tree.get? "response").bind (·.get? key)).getD .null

variable [Machine]

/-- A text as it is, nothing for null, and the JSON text of anything else. -/
def messageOf : Json → Except Escape Text
  | .null => .ok []
  | .str t => .ok t
  | v => if v.depth ≤ Machine.messageLimit then .ok (v.write .spaced) else .error .nesting

def ofJson (tree : Json) : Except Escape Envelope := do
  let message ← messageOf (field tree "message")
  pure { code := codeOf (field tree "code"), message, datas := (tree.get? "datas").getD .null }

end Envelope

/-- What became of a request: an answer, an error, or neither. -/
structure Delivery where
  response : Option Response
  error : Option SendError

namespace Delivery

def noResponse : SendError := ⟨.state, "no response"⟩

def answered (response : Response) : Delivery := ⟨some response, none⟩

def failed (error : SendError) : Delivery := ⟨none, some error⟩

variable [Machine]

/-- The data of an answer, with the status looked at before the body and the body before the code. -/
def openEnvelope (path url : Text) (response : Response) : Except CallError Json :=
  let fail (fault : PanelFault) : Except CallError Json := .error (PanelError.raised ⟨path, url, fault⟩)
  if 400 ≤ response.statusCode then fail (.http response.statusCode response.body)
  else
    match Json.ofOctets? response.body with
    | none => fail (.malformedBody response.body)
    | some tree =>
      match Envelope.ofJson tree with
      | .error escape => .error (.escape escape)
      | .ok envelope =>
        if envelope.code = some Envelope.successCode then .ok envelope.datas
        else fail (.application envelope.code envelope.message response.body)

/-- The data of an answer or the one error that describes why there are none. -/
def datas (path url : Text) (d : Delivery) : Except CallError Json :=
  match d.error, d.response with
  | some error, _ => .error (PanelError.raised ⟨path, url, .transport error true⟩)
  | none, none => .error (PanelError.raised ⟨path, url, .transport noResponse false⟩)
  | none, some response => openEnvelope path url response

end Delivery

end NodePanel
