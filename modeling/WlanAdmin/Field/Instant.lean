import WlanAdmin.Field.Codec

/-!
# WlanAdmin.Field.Instant

Points in time, written as decimal seconds since the start of 1970 (UTC). The calendar reaches from
the year -262143 to the year 262142; seconds outside it are no instant.
-/

namespace WlanAdmin

/-- A second between the first and the last of the calendar. -/
structure Instant where
  seconds : Int
  first_le : -8334601228800 ≤ seconds := by omega
  le_last : seconds ≤ 8210266876799 := by omega
  deriving DecidableEq, Repr

namespace Instant

/-- The instant of a number of seconds. -/
def ofSeconds (seconds : Int) : Except FormatError Instant :=
  if h : -8334601228800 ≤ seconds ∧ seconds ≤ 8210266876799 then .ok ⟨seconds, h.1, h.2⟩
  else .error (.instantOutOfRange seconds)

def read (text : String) : Except FormatError Instant := do
  ofSeconds (← readNumber "timestamp" .signed64 text)

def write (instant : Instant) : String := writeInteger instant.seconds

def codec : Codec Instant := ⟨read, write⟩

end Instant
end WlanAdmin
