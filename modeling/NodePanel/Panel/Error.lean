import NodePanel.Encoding.Utf8
import NodePanel.Http.SendError
import NodePanel.Number.Numeral

/-!
The four ways in which a call to the panel can fail: the request was not answered, the answer has
an error status, its body is no JSON, or the panel itself refuses. Each has one line of text for
people, in which a body is cut to a readable length. An error is made along with its line, and where
there can be no such line something else ends the call.
-/
namespace NodePanel

inductive PanelFault where
  /-- `chained` says that `cause` came from the transport. -/
  | transport (cause : SendError) (chained : Bool)
  | http (status : Int) (body : Octets)
  | malformedBody (body : Octets)
  /-- The panel answered with another code than success, or with none. -/
  | application (code : Option Int) (message : Text) (body : Octets)
deriving DecidableEq

structure PanelError where
  path : Text
  url : Text
  fault : PanelFault
deriving DecidableEq

/-- What ends a call in the place of an error of the panel. -/
inductive Escape where
  /-- The limit of speed in the settings is no number of octets. -/
  | speedLimit (error : IntegerError)
  /-- An integer has more digits than its text may have. -/
  | digits
  /-- A value nests too deep for its text to be made. -/
  | nesting
  /-- What went wrong cannot say what it is. -/
  | silent (cause : SendError)
deriving DecidableEq

def Escape.message : Escape → Text
  | speedLimit error => error.message
  | digits => digitsMessage
  | nesting => "maximum recursion depth exceeded while encoding a JSON object"
  | silent _ => []

inductive CallError where
  | panel (error : PanelError)
  | escape (escape : Escape)
deriving DecidableEq

namespace PanelError

def clipLimit : Nat := 240

def ellipsis : CodePoint := '…'

def clip (t : Text) : Text :=
  let t := Text.strip t
  if clipLimit < t.length then t.take clipLimit ++ [ellipsis] else t

def clipOctets (octets : Octets) : Text := clip (Utf8.decodeLossy octets)

def codeText : Option Int → Text
  | some code => Text.ofInt code
  | none => "None"

def reason : PanelFault → Text
  | .transport cause _ => cause.message.getD []
  | .http status body =>
    Text.ofString "HTTP " ++ Text.ofInt status ++ Text.ofString ", " ++ clipOctets body
  | .malformedBody body => Text.ofString "invalid body " ++ Text.quoted (clipOctets body)
  | .application code message _ =>
    Text.ofString "code=" ++ codeText code ++ Text.ofString ", message=" ++ Text.quoted message

def message (e : PanelError) : Text :=
  Text.ofString "request " ++ e.url ++ Text.ofString " failed: " ++ reason e.fault

def escape? : PanelFault → Option Escape
  | .transport cause _ => if cause.message.isNone then some (.silent cause) else none
  | .http status _ => if HasText status then none else some .digits
  | .malformedBody _ => none
  | .application code _ _ =>
    if ∃ n ∈ code, ¬ HasText n then some .digits else none

def raised (e : PanelError) : CallError :=
  match escape? e.fault with
  | some escape => .escape escape
  | none => .panel e

end PanelError

end NodePanel
