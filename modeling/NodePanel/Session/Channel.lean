import NodePanel.Http.Client
import NodePanel.Log

/-!
The far side of a transport as a value: what it will answer, what was sent to it, and what was
logged on the way. Each request takes the next outcome, and one more than there are outcomes is
refused.
-/
namespace NodePanel

structure Answer where
  status : Int
  body : Octets
  /-- The address that answered, if it says so. -/
  url : Text
  /-- The name that the answer has for the encoding of its body. -/
  charset : Option Text

inductive Outcome where
  | answer (answer : Answer)
  | failure (error : SendError)

inductive Sent where
  | request (r : Request)
  | wire (r : WireRequest)

structure Channel where
  outcomes : List Outcome
  sent : List Sent
  logs : List LogRecord

namespace Channel

def exhausted : SendError := ⟨.state, "no outcome queued"⟩

def ofOutcomes (outcomes : List Outcome) : Channel := ⟨outcomes, [], []⟩

def log (c : Channel) (level : LogLevel) (source : LogSource) (message : Text) : Channel :=
  { c with logs := c.logs ++ [⟨level, source, message⟩] }

def logAll (c : Channel) (records : List LogRecord) : Channel :=
  { c with logs := c.logs ++ records }

def exchange (c : Channel) (sent : Sent) : Channel × Except SendError Answer :=
  let c := { c with sent := c.sent ++ [sent] }
  match c.outcomes with
  | [] => (c, .error exhausted)
  | .answer answer :: outcomes => ({ c with outcomes }, .ok answer)
  | .failure error :: outcomes => ({ c with outcomes }, .error error)

end Channel

end NodePanel
