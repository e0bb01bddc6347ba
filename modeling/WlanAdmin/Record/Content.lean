import WlanAdmin.Envelope.Request
import WlanAdmin.Record.Station
import WlanAdmin.Record.Wlan

/-!
# WlanAdmin.Record.Content

Values that can be put into a request. Records have an element of their own; a bare text value has
none, so a request with it cannot be built.
-/

namespace WlanAdmin

inductive Content where
  | wlan (wlan : Wlan)
  | wpa (wpa : WlanWpa)
  | qos (qos : WlanQos)
  | priority (priority : QueuePriority)
  | schedule (schedule : Schedule)
  | address (address : HardwareAddress)
  | authentication (authentication : Authentication)

/-- The element of a value. -/
def Content.write : Content → Except EnvelopeError Bytes
  | .wlan w => .ok w.write
  | .wpa w => .ok (w.write "WlanWpa")
  | .qos q => .ok (q.write "WlanQos")
  | .priority p => .ok (p.numbers.write "PriorityTuple")
  | .schedule s => .ok (s.writeElement "ScheduleElement")
  | .address _ | .authentication _ => .error .encode

/-- Puts the element of a value into a request. -/
def RequestEnvelope.withContent (envelope : RequestEnvelope) (content : Content) :
    Except EnvelopeError RequestEnvelope :=
  envelope.apply (.payload content.write)

end WlanAdmin
