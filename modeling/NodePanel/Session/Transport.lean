import NodePanel.Session.Channel

/-!
How requests travel. An injected transport hands them on as they are; the session's own puts them on
the wire, can be closed, and reports in the log every exchange that failed and, when asked to, all
that is sent and received. An answer is an answer whatever its status, but to report one it has to be
read in the encoding that it names.
-/
namespace NodePanel

inductive Transport where
  | injected (debug : Bool)
  | owned (client : HttpClient) (debug closed : Bool)

namespace Transport

def closedError : SendError := ⟨.state, "Cannot send a request, as the client has been closed."⟩

def isDebug : Transport → Bool
  | injected debug => debug
  | owned _ debug _ => debug

def setDebug (enabled : Bool) : Transport → Transport
  | injected _ => injected enabled
  | owned client _ closed => owned client enabled closed

def close : Transport → Transport
  | injected debug => injected debug
  | owned client debug _ => owned client debug true

def headline (r : WireRequest) : Text := r.method.name ++ CodePoint.ofChar ' ' :: r.url.toText

def requestMessages (r : WireRequest) : List Text :=
  (Text.ofString "--> " ++ headline r)
    :: if r.body.isEmpty then [] else [Text.ofString "--> body " ++ Utf8.decodeLossy r.body]

def answerMessage (r : WireRequest) (status : Int) : Text :=
  Text.ofString "<-- " ++ Text.ofInt status ++ CodePoint.ofChar ' ' :: headline r

def answerBodyMessage (t : Text) : Text := Text.ofString "<-- body " ++ t

/-- The body of an answer as a text, in the encoding that the answer names if that is known. -/
def answerText [Machine] (answer : Answer) : Except SendError Text :=
  if answer.body.isEmpty then .ok []
  else
    match answer.charset.bind Machine.charset? with
    | some read => read answer.body
    | none => .ok (Utf8.decodeLossy answer.body)

def trace (debug : Bool) (messages : List Text) : List LogRecord :=
  if debug then messages.map fun message => ⟨.debug, .transport, message⟩ else []

def failureMessage (r : Request) (error : SendError) : Text :=
  Text.ofString "Request " ++ r.method.name ++ CodePoint.ofChar ' ' :: r.path
    ++ Text.ofString " failed: " ++ error.message.getD []

def failureLogs (r : Request) (error : SendError) : List LogRecord :=
  if error.fault.isExchange then [⟨.warning, .transport, failureMessage r error⟩] else []

def shownText (url : Url) : Text :=
  let t := url.toText
  if t.getLast? == some (CodePoint.ofChar '#') then t.dropLast else t

def untypedError (url : Url) : SendError :=
  ⟨.value, Text.ofString "unknown url type: " ++ Text.quoted (shownText url)⟩

variable [Machine]

/-- Report an answer, which is lost if its body cannot be read. -/
def traceAnswer (debug : Bool) (c : Channel) (wire : WireRequest) (answer : Answer) :
    Channel × Except SendError Unit :=
  if debug then
    let c := c.logAll (trace debug [answerMessage wire answer.status])
    match answerText answer with
    | .ok t => (c.logAll (trace debug [answerBodyMessage t]), .ok ())
    | .error error => (c, .error error)
  else (c, .ok ())

/-- The answer to a request on the wire belongs to an address with a type; if the address has none,
the answer is lost. -/
def receive (debug : Bool) (c : Channel) (wire : WireRequest) (answer : Answer) :
    Channel × Except SendError Response :=
  if wire.url.hasType then
    match traceAnswer debug c wire answer with
    | (c, .ok ()) => (c, .ok ⟨answer.status, answer.body, wire.url.toText⟩)
    | (c, .error error) => (c, .error error)
  else (c, .error (untypedError wire.url))

def sendWire (debug : Bool) (c : Channel) (r : Request) (wire : WireRequest) :
    Channel × Except SendError Response :=
  match (c.logAll (trace debug (requestMessages wire))).exchange (.wire wire) with
  | (c, .ok answer) =>
    match receive debug c wire answer with
    | (c, .ok response) => (c, .ok response)
    | (c, .error error) => (c.logAll (failureLogs r error), .error error)
  | (c, .error error) => (c.logAll (failureLogs r error), .error error)

def send (t : Transport) (c : Channel) (r : Request) : Channel × Except SendError Response :=
  match t with
  | injected _ =>
    match c.exchange (.request r) with
    | (c, .ok answer) => (c, .ok ⟨answer.status, answer.body, answer.url⟩)
    | (c, .error error) => (c, .error error)
  | owned client debug closed =>
    match client.prepare r with
    | .error error => (c, .error error)
    | .ok wire => if closed then (c, .error closedError) else sendWire debug c r wire

end Transport

end NodePanel
