import NodePanel.Session.Basic

/-!
Runs of a session: what its user does, one thing after the other, in a world whose files others may
change meanwhile. An action on the session tells what it gave.
-/
namespace NodePanel

namespace Session

inductive Action where
  | perform (operation : Operation)
  | describe
  | setDebug (enabled : Bool)
  /-- Somebody else changes the files. -/
  | changeFiles (files : Tree)

inductive Event where
  | result (result : Except CallError Reply)
  | description (info : SessionInfo)
  | done

end Session

/-- An open session and everything around it. -/
structure World where
  session : Session
  channel : Channel
  files : Tree

namespace World

open Session

variable [Machine]

/-- Open a session over an injected transport that will have some outcomes. -/
def start (files : Tree) (settings : Settings) (debug : Bool) (outcomes : List Outcome) :
    Except SessionError World := do
  let (session, logs) ← Session.openOver files settings (.injected debug)
  pure ⟨session, (Channel.ofOutcomes outcomes).logAll logs, files⟩

/-- Open a session over its own transport, on a wire that will have some outcomes. -/
def startOwned (files : Tree) (settings : Settings) (outcomes : List Outcome) :
    Except SessionError World := do
  let (session, logs) ← Session.openOwned files settings
  pure ⟨session, (Channel.ofOutcomes outcomes).logAll logs, files⟩

def step (w : World) : Action → World × Event
  | .perform operation =>
    let (channel, result) := w.session.perform w.channel operation
    ({ w with channel }, .result result)
  | .describe => (w, .description w.session.describe)
  | .setDebug enabled => ({ w with session := w.session.setDebug enabled }, .done)
  | .changeFiles files => ({ w with files }, .done)

def run (w : World) : List Action → World × List Event
  | [] => (w, [])
  | action :: actions =>
    let (w, event) := w.step action
    let (w, events) := w.run actions
    (w, event :: events)

end World

end NodePanel
