import DessMonitor.Foundation.PyFormat
import DessMonitor.Foundation.PyString
import DessMonitor.ReadingPolicies

/-!
# Snapshots of an agent

An agent answers with one flat dictionary, which is split into the sections
that the commands of a device would give.
-/

namespace DessMonitor
namespace Agent

open Direct (Section)

/-- `int(value)`. -/
def toInt : PyValue → Except PyValue.FloatError ℤ
  | .none => .error .typeOrValue
  | .bool value => .ok (if value then 1 else 0)
  | .int value => .ok value
  | .float (.infinity _) => .error .overflow
  | .float value =>
      match PyFormat.truncate value with
      | some truncated => .ok truncated
      | Option.none => .error .typeOrValue
  | .str text =>
      match PyString.toInt? text.toList with
      | some value => .ok value
      | Option.none => .error .typeOrValue
  | .list _ => .error .typeOrValue
  | .dict _ => .error .typeOrValue

/-- A warning flag; `none` is the error that is not caught. -/
def warningFlag (value : PyValue) : Option Bool :=
  match toInt value with
  | .ok number => some (decide (number ≠ 0))
  | .error .typeOrValue => some value.truthy
  | .error .overflow => none

def addToQfws (result : Section) (entry : String × PyValue) :
    Option Section :=
  if PyString.startsWith entry.1 "warn_" then
    (warningFlag entry.2).map fun flag => result.set entry.1 (.bool flag)
  else if entry.1 ∈ ["fault_code", "fault_description"] then
    some (result.set entry.1 entry.2)
  else
    some result

/-- `split_raw_by_command(raw, "QFWS")`. -/
def splitRawQfws (raw : Section) : Option Section :=
  raw.entries.foldlM addToQfws .empty

example : ((splitRawQfws (.ofPairs [("warn_overload", .str "1"),
    ("grid_voltage", .str "230")])).bind fun qfws =>
      qfws.get? "warn_overload") = some (.bool true) := rfl

end Agent
end DessMonitor
