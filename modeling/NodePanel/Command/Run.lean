import NodePanel.Command.Checkup
import NodePanel.Command.Invocation
import NodePanel.Command.Setup

/-!
Carrying out what a command line asks for. Every command that talks to the panel opens a session of
its own, sends one request, and prints what came of it. An error of the panel is printed and ends
the command with a code. What stands in tables is not escaped, so the console may refuse it.
-/
namespace NodePanel

namespace Invocation

def warningMarkup (warning : RuleWarning) : Text :=
  Markup.styled "yellow" (Text.ofString "Local rule list ignored ("
      ++ Markup.escape warning.path.toText ++ Text.ofString "):")
    ++ CodePoint.ofChar ' ' :: Markup.escape warning.reason

def errorMarkup (error : PanelError) : Text :=
  Markup.styled "red" "Panel error:" ++ CodePoint.ofChar ' ' :: Markup.escape error.message

def usersMarkup (users : List User) : Text :=
  Markup.styled "dim" (Text.ofNat users.length ++ Text.ofString " users")

def statusMarkup : Text := Markup.styled "green" "Node status reported."

def hitsMarkup (hits : List Hit) : Text :=
  Markup.styled "green"
    (Text.ofString "Reported " ++ Text.ofNat hits.length ++ Text.ofString " illegal hits.")

variable [Machine]

/-- Open a session and go on with it. Rules that cannot be read are mentioned. -/
def withSession (i : Invocation) (t : Terminal)
    (go : Session → Terminal → Terminal × Ending) : Terminal × Ending :=
  match t.loadSettings with
  | .error error => t.stop (.settings error)
  | .ok settings =>
    match Session.openOwned t.files settings with
    | .error error => t.stop (.session error)
    | .ok (session, logs) =>
      let warnings := session.load.warning.toList.map fun w => Printed.markup (warningMarkup w)
      (t.log logs).print warnings (go (if i.debug then session.setDebug true else session))

/-- What is printed for a reply; a report has the receipt `done`. -/
def printedOf (done : List Printed) : Reply → List Printed
  | .node info => [.table info.table]
  | .users users => [.table (User.table users), .markup (usersMarkup users)]
  | .rules rules => [.table (Rule.table rules)]
  | .accepted => done

def perform (operation : Operation) (done : List Printed) (session : Session) (t : Terminal) :
    Terminal × Ending :=
  match session.perform t.channel operation with
  | (channel, .ok reply) => { t with channel }.print (printedOf done reply) (Terminal.finish .success)
  | (channel, .error (.panel error)) =>
    { t with channel }.print [.markup (errorMarkup error)] (Terminal.finish .failed)
  | (channel, .error (.escape escape)) => { t with channel }.stop (.escape escape)

def runCommand (i : Invocation) (command : Command) (t : Terminal) : Terminal × Ending :=
  match command with
  | .describe =>
    t.print [.banner] fun t => i.withSession t fun session t =>
      t.print [session.describe.panel] (Terminal.finish .success)
  | .nodeInfo => i.withSession t (perform .nodeInfo [])
  | .users => i.withSession t (perform .userList [])
  | .rules => i.withSession t (perform .nodeRules [])
  | .reportStatus status =>
    i.withSession t (perform (.reportStatus status) [.markup statusMarkup])
  | .reportIllegal hits =>
    i.withSession t (perform (.reportIllegal hits) [.markup (hitsMarkup hits)])
  | .checkup => Checkup.run t
  | .setup => Setup.run t

/-- Carry out what is asked for. Nothing is known about the shell, so there is nothing that could
complete its lines. -/
def run (i : Invocation) (t : Terminal) : Terminal × Ending :=
  match i.purpose with
  | .error _ => (t, .misused)
  | .ok .help => (t, .success)
  | .ok .completion => (t, .failed)
  | .ok (.run command) => i.runCommand command t

end Invocation

end NodePanel
