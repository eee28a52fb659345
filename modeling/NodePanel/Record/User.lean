import NodePanel.Record.Node

/-!
The users of a node: who may connect, who is connected, and how much each has transferred.
-/
namespace NodePanel

/-- A user who may connect. The panel calls the number a port. -/
structure User where
  uid : Int
  email : Text
  uuid : Text
  alterId : Int
  /-- Octets in a second. -/
  speedLimit : Nat
  deviceLimit : Int
deriving DecidableEq

structure OnlineUser where
  uid : Int
  ip : Text
deriving DecidableEq

structure Traffic where
  uid : Int
  email : Text
  upload : Int
  download : Int
deriving DecidableEq

open Coercion Checked

namespace User

def ofJson (v : Json) : Checked User :=
  record v fun o => mk
    <$> required o ["uid"] readInt
    <*> required o ["email"] readText
    <*> optional o ["uuid"] [] readText
    <*> optional o ["alter_id"] 0 readInt
    <*> optional o ["speed_limit"] 0 readNat
    <*> optional o ["device_limit"] 0 readInt

def toJson (u : User) : Json := .obj [
  ("uid", .int u.uid),
  ("email", .str u.email),
  ("uuid", .str u.uuid),
  ("alter_id", .int u.alterId),
  ("speed_limit", .int u.speedLimit),
  ("device_limit", .int u.deviceLimit)]

end User

namespace OnlineUser

def ofJson (v : Json) : Checked OnlineUser :=
  record v fun o => mk
    <$> required o ["UID", "uid"] readInt
    <*> required o ["IP", "ip"] readText

def toJson (u : OnlineUser) : Json := .obj [("UID", .int u.uid), ("IP", .str u.ip)]

end OnlineUser

namespace Traffic

def ofJson (v : Json) : Checked Traffic :=
  record v fun o => mk
    <$> required o ["UID", "uid"] readInt
    <*> optional o ["Email", "email"] [] readText
    <*> optional o ["Upload", "upload"] 0 readInt
    <*> optional o ["Download", "download"] 0 readInt

def toJson (t : Traffic) : Json := .obj [
  ("UID", .int t.uid),
  ("Email", .str t.email),
  ("Upload", .int t.upload),
  ("Download", .int t.download)]

end Traffic

end NodePanel
