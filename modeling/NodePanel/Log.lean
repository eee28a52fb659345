import NodePanel.Text.Basic

/-!
Messages for the log. Whoever writes one returns it along with the result.
-/
namespace NodePanel

inductive LogLevel where
  | debug
  | warning
deriving DecidableEq

def LogLevel.name : LogLevel → Text
  | debug => "DEBUG"
  | warning => "WARNING"

inductive LogSource where
  | rules
  | session
  | transport
deriving DecidableEq

def LogSource.name : LogSource → Text
  | rules => "core.rules_loader"
  | session => "core.services.panel_client"
  | transport => "adapters.http_client"

structure LogRecord where
  level : LogLevel
  source : LogSource
  message : Text
deriving DecidableEq

def LogRecord.line (r : LogRecord) : Text :=
  Text.join " " [r.level.name, r.source.name, r.message]

end NodePanel
