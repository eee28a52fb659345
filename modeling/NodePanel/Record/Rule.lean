import NodePanel.Record.Coercion

/-!
Detection rules and the hits that are reported for them. A report names the rule first and keeps
nothing of a hit but the two numbers.
-/
namespace NodePanel

structure Rule where
  id : Int
  pattern : Text
deriving DecidableEq

/-- The number of every rule that the panel does not know. -/
def Rule.localId : Int := -1

/-- A rule that a user has set off. -/
structure Hit where
  uid : Int
  ruleId : Int
deriving DecidableEq

structure HitReport where
  ruleId : Int
  uid : Int
deriving DecidableEq

open Coercion Checked

namespace Rule

def ofJson (v : Json) : Checked Rule :=
  record v fun o => mk <$> required o ["id"] readInt <*> required o ["pattern"] readText

def toJson (r : Rule) : Json := .obj [("id", .int r.id), ("pattern", .str r.pattern)]

end Rule

namespace Hit

def ofJson (v : Json) : Checked Hit :=
  record v fun o => mk <$> required o ["uid"] readInt <*> required o ["rule_id"] readInt

def toJson (r : Hit) : Json := .obj [("uid", .int r.uid), ("rule_id", .int r.ruleId)]

end Hit

namespace HitReport

def ofHit (r : Hit) : HitReport := ⟨r.ruleId, r.uid⟩

def ofJson (v : Json) : Checked HitReport :=
  record v fun o => mk <$> required o ["id", "rule_id"] readInt <*> required o ["uid"] readInt

def toJson (i : HitReport) : Json := .obj [("id", .int i.ruleId), ("uid", .int i.uid)]

end HitReport

end NodePanel
