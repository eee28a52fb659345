import NodePanel.Http.Headers
import NodePanel.Http.Url
import NodePanel.Json.Writer
import NodePanel.Panel.Error
import NodePanel.Record.Exchange
import NodePanel.Settings.Basic

/-!
The client that puts requests into their form on the wire: an address below that of the panel, the
headers with the secret, and a body of compact JSON.
-/
namespace NodePanel

structure HttpClient where
  baseUrl : Url
  headers : Headers
  timeout : Binary64
  retries : Nat

structure WireRequest where
  method : Method
  url : Url
  headers : Headers
  contentType : Option Text
  body : Octets
  retries : Nat

namespace WireError

def toSendError : WireError → SendError
  | invalidUrl => ⟨.address, "Invalid URL"⟩
  | partTooLong part => ⟨.address,
      Text.ofString "URL component '" ++ part.name ++ Text.ofString "' too long"⟩
  | encoding fault => ⟨.encoding, fault.message⟩

end WireError

namespace LabelError

def fault : LabelError → SendFault
  | point .. => .labelPoint
  | misplaced .. => .labelPlace
  | unknownDirection .. | directionlessStart _ | wrongDirection .. | mixedNumbers
  | directionlessEnd => .labelDirection
  | _ => .label

def toSendError (e : LabelError) : SendError := ⟨e.fault, e.message⟩

end LabelError

namespace HttpClient

def keyHeader : Text := "key"

def acceptHeader : Text := "Accept"

def jsonType : Text := "application/json"

/-- The headers of every request. One of `extra` with the spelling of another replaces it. -/
def headersFor (key : Text) (extra : Headers) : Headers :=
  Keyed.putAll [(keyHeader, key), (acceptHeader, jsonType)] extra

def create (settings : Settings) (extra : Headers) : Except WireError HttpClient := do
  let url ← Url.ofText settings.apiHost
  let baseUrl ← url.asBase
  let headers := headersFor settings.key extra
  match headers.fault? with
  | some fault => .error (.encoding fault)
  | none =>
    pure { baseUrl, headers, timeout := settings.timeoutSeconds, retries := settings.retryCount }

def baseText (client : HttpClient) : Text := Text.dropEndWhile Url.isSlash client.baseUrl.toText

/-- The address of a request. Its query takes the place of one in its path. -/
def urlFor (client : HttpClient) (r : Request) : Except WireError Url := do
  let relative ← Url.ofText r.path
  let url ← client.baseUrl.resolve relative
  if r.query.isEmpty then pure url
  else
    let query ← Url.formQuery r.query
    url.withQuery query

def numberMessage : Json.NumberFault → Text
  | .notFinite => "Out of range float values are not JSON compliant"
  | .digits => digitsMessage

def bodyFor : Json → Except SendError (Option Octets)
  | .null => .ok none
  | v =>
    match v.numberFault? with
    | some fault => .error ⟨.value, numberMessage fault⟩
    | none =>
      match Utf8.encode (v.write .compact) with
      | .ok octets => .ok (some octets)
      | .error fault => .error ⟨.encoding, fault.message⟩

/-- Every request names its host, which has to be a name and in ASCII. -/
def checkHost (url : Url) : Except SendError Unit := do
  (HostName.checkWire url.host).mapError LabelError.toSendError
  match Headers.textFault? url.hostAndPort with
  | some fault => .error ⟨.encoding, fault.message⟩
  | none => pure ()

def prepare (client : HttpClient) (r : Request) : Except SendError WireRequest := do
  let url ← (client.urlFor r).mapError WireError.toSendError
  let body ← bodyFor r.body
  checkHost url
  pure
    { method := r.method, url, headers := client.headers, retries := client.retries
      contentType := body.map fun _ => jsonType
      body := body.getD [] }

end HttpClient

end NodePanel
