import NodePanel.Text.Basic

/-!
Properties of code points as tables of runs. A run goes from its first code point to its last one,
both counted; the runs of a table are in ascending order and do not overlap, so they are searched by
halving.
-/
namespace NodePanel

/-- The entry at an index from `low` to `high`, `high` not counted, whose run holds `n`. -/
def findRun? (run : α → Nat × Nat) (table : Array α) (n low high : Nat) : Option α :=
  if _h : low < high then
    let middle := (low + high) / 2
    match table[middle]? with
    | none => none
    | some entry =>
      if n < (run entry).1 then findRun? run table n low middle
      else if (run entry).2 < n then findRun? run table n (middle + 1) high
      else some entry
  else none
termination_by high - low

namespace CodePoint

def runIn? (c : CodePoint) (run : α → Nat × Nat) (table : Array α) : Option α :=
  findRun? run table c.val 0 table.size

def isInRuns (c : CodePoint) (runs : Array (Nat × Nat)) : Bool := (c.runIn? id runs).isSome

end CodePoint

end NodePanel
