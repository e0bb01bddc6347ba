import WlanAdmin.Field.Codec

/-!
# WlanAdmin.Field.QueuePriority

The priority class of a WLAN's traffic. The controller keeps it as four queue numbers, one for each
kind of traffic, and only two combinations of them stand for a class.
-/

namespace WlanAdmin

inductive QueuePriority where
  | high
  | low
  deriving DecidableEq, Repr, Inhabited

/-- The queue of each kind of traffic. -/
structure QueueNumbers where
  voice : Int32
  video : Int32
  data : Int32
  background : Int32
  deriving DecidableEq, Repr, Inhabited

namespace QueuePriority

/-- The queues of a class. -/
def numbers : QueuePriority → QueueNumbers
  | .high => ⟨0, 2, 4, 6⟩
  | .low => ⟨1, 3, 5, 7⟩

def all : List QueuePriority := [.high, .low]

/-- The class of four queues. -/
def ofNumbers (numbers : QueueNumbers) : Except FormatError QueuePriority :=
  match all.find? fun priority => priority.numbers = numbers with
  | some priority => .ok priority
  | none =>
    .error (.unknownPriority numbers.voice.toInt numbers.video.toInt numbers.data.toInt
      numbers.background.toInt)

def word : QueuePriority → String
  | .high => "high"
  | .low => "low"

theorem ofNumbers_numbers (priority : QueuePriority) :
    ofNumbers priority.numbers = .ok priority := by
  cases priority <;> rfl

end QueuePriority
end WlanAdmin
