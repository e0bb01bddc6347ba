/-!
# WlanAdmin.Session.Gate

The gate that lets one operation at a time log in. The others wait in the order in which they came,
and when the owner leaves, ownership passes at once to the first that still waits.
-/

namespace WlanAdmin

/-- Names an operation of a session. -/
abbrev TaskId := Nat

structure Gate where
  owner : Option TaskId := none
  /-- The tasks that wait, the first in front. -/
  waiting : List TaskId := []
  deriving DecidableEq, Repr

namespace Gate

/-- Comes to the gate: owns it where it is free, and waits otherwise. -/
def enter (gate : Gate) (id : TaskId) : Gate :=
  match gate.owner with
  | none => { gate with owner := some id }
  | some _ => { gate with waiting := gate.waiting ++ [id] }

/-- Gives up the gate, or a place among those that wait. -/
def leave (gate : Gate) (id : TaskId) : Gate :=
  if gate.owner = some id then { owner := gate.waiting.head?, waiting := gate.waiting.tail }
  else { gate with waiting := gate.waiting.filter (· ≠ id) }

end Gate
end WlanAdmin
