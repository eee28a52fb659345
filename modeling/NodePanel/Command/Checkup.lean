import NodePanel.Command.Terminal

/-!
A check of everything that a session needs: the settings, the local rules, and the panel itself. All
findings are shown in one table, and only the panel decides whether the check has failed.
-/
namespace NodePanel

inductive CheckStatus where
  | good
  | bad
  | missing
  | unused
deriving DecidableEq

def CheckStatus.text : CheckStatus → Text
  | good => "OK"
  | bad => "FAIL"
  | missing => "MISSING"
  | unused => "OPTIONAL"

structure Finding where
  subject : Text
  status : CheckStatus
  detail : Text
deriving DecidableEq

def Finding.row (f : Finding) : List Text := [f.subject, f.status.text, f.detail]

namespace Checkup

def ofHost (settings : Settings) : Finding := ⟨"API host", .good, settings.apiHost⟩

def ofKey (settings : Settings) : Finding :=
  if settings.key.isEmpty then ⟨"Key", .missing, "Set SAKURA_KEY or run `doctor setup`"⟩
  else ⟨"Key", .good, Text.masked settings.key⟩

def ofNode (settings : Settings) : Finding :=
  ⟨"Node", .good, NodeInfo.caption settings.nodeId settings.nodeType⟩

def ofRules (path : Option Path) (load : RuleLoad) : Finding :=
  let subject : Text := "Local rules"
  match path, load.warning with
  | none, _ => ⟨subject, .unused, "No local rule file configured"⟩
  | some _, some warning => ⟨subject, .bad, warning.reason⟩
  | some path, none =>
    ⟨subject, .good,
      Text.ofNat load.rules.length ++ Text.ofString " rules from " ++ path.toText⟩

def portText (n : NodeInfo) : Text :=
  Text.ofString "port=" ++ Text.ofInt n.port ++ Text.ofString " transport="
    ++ if n.transportProtocol.isEmpty then Text.ofString "-" else n.transportProtocol

def ofPanel (result : Except PanelError NodeInfo) : Finding :=
  let subject : Text := "Panel node_info"
  match result with
  | .ok info => ⟨subject, .good, portText info⟩
  | .error error => ⟨subject, .bad, error.message⟩

def table (findings : List Finding) : Table :=
  { title := "sakura-panel Doctor"
    columns := Table.columnsOf ["Check", "Status", "Details"]
    rows := findings.map Finding.row }

/-- What to look at when the panel does not answer as it should. -/
def advice : Text :=
  Text.ofString "\n" ++ Markup.styled "yellow" "Note:"
    ++ Text.ofString " check SAKURA_API_HOST / SAKURA_KEY / SAKURA_NODE_ID."

def report (t : Terminal) (settings : Settings) (load : RuleLoad)
    (result : Except PanelError NodeInfo) : Terminal × Ending :=
  let findings := [ofHost settings, ofKey settings, ofNode settings,
    ofRules settings.ruleListPath load, ofPanel result]
  match result with
  | .ok _ => t.print [.table (table findings)] (Terminal.finish .success)
  | .error _ => t.print [.table (table findings), .markup advice] (Terminal.finish .failed)

variable [Machine]

/-- The rules are loaded once for the check itself and once more by the session. -/
def run (t : Terminal) : Terminal × Ending :=
  match t.loadSettings with
  | .error error => t.stop (.settings error)
  | .ok settings =>
    match RuleLoad.ofOption t.files (settings.ruleListPath.map Path.toText) with
    | .error error => t.stop (.file error)
    | .ok (load, logs) =>
      let t := t.log logs
      match Session.openOwned t.files settings with
      | .error error => t.stop (.session error)
      | .ok (session, logs) =>
        match session.askNodeInfo (t.log logs).channel with
        | (channel, .error (.escape escape)) => { t with channel }.stop (.escape escape)
        | (channel, .error (.panel error)) => report { t with channel } settings load (.error error)
        | (channel, .ok info) => report { t with channel } settings load (.ok info)

end Checkup

end NodePanel
