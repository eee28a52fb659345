import NodePanel.Text.Basic

/-!
What keeps a request from being answered.
-/
namespace NodePanel

inductive SendFault where
  | connection
  | connectTimeout
  | readTimeout
  | protocol
  | state
  | timeout
  | value
  | system
  | encoding
  | address
  | label
  | labelPoint
  | labelPlace
  | labelDirection
  /-- A fault of any other class, and whether it is one of the exchange itself. -/
  | other (name : Text) (exchange : Bool)
deriving DecidableEq

/-- The faults of an exchange itself, which the transport reports in the log. -/
def SendFault.isExchange : SendFault → Bool
  | connection | connectTimeout | readTimeout | protocol => true
  | other _ exchange => exchange
  | _ => false

structure SendError where
  fault : SendFault
  /-- There are errors that fail when they are asked for their text. -/
  message : Option Text
deriving DecidableEq

end NodePanel
