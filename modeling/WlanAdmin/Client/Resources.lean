import WlanAdmin.Client.Call
import WlanAdmin.Record.Station
import WlanAdmin.Record.Sysinfo
import WlanAdmin.Record.Wlan
import WlanAdmin.Record.WlanStatus

/-!
# WlanAdmin.Client.Resources

The calls on the records of a controller: itself, its WLANs and its stations.
-/

namespace WlanAdmin

/-- The component of the system as a whole. -/
def systemComp : String := "system"

/-- The component of the stored WLANs. -/
def wlanComp : String := "wlansvc-list"

/-- The component of live stations and WLANs. -/
def stationComp : String := "stamgr"

/-- A request with an element for its payload. -/
def RequestEnvelope.asking (envelope : RequestEnvelope) (element : Bytes) : RequestEnvelope :=
  { envelope with payload := element }

namespace Sysinfo

/-- Asks the controller about itself. -/
def call : Call Sysinfo :=
  .statOf (Payload.decode statShape)
    ((RequestEnvelope.stat systemComp).asking (Xml.writeElement "sysinfo" [] []))

end Sysinfo

namespace Wlan

/-- Lists all WLANs, with passphrases in clear text. -/
def listCall : Call (List Wlan) :=
  .confOf (Payload.decode listShape) { RequestEnvelope.conf .getConf wlanComp with decrypt := true }

/-- Creates a WLAN and gives it as it was stored. The number of the record does not matter. -/
def createCall (wlan : Wlan) : Call Wlan :=
  .confOf (Payload.decode shape)
    ((RequestEnvelope.conf .addObj wlanComp).asking { wlan with id := none }.write)

/-- Replaces the WLAN that has the number of the record. -/
def updateCall (wlan : Wlan) : Call Unit :=
  .confDone ((RequestEnvelope.conf .updObj wlanComp).asking wlan.write)

/-- The element that names a WLAN by its number. -/
def writeReference (id : UInt32) : Bytes :=
  Xml.writeElement "wlansvc" [("id", writeInteger id.toNat)] []

def deleteCall (id : UInt32) : Call Unit :=
  .confDone ((RequestEnvelope.conf .delObj wlanComp).asking (writeReference id))

/-- The element that asks for the state of all WLANs over an hour. -/
def writeStatusQuery : Bytes :=
  Xml.writeElement "wlan" [("LEVEL", "1"), ("PERIOD", "3600")] []

/-- Asks for the live state of all WLANs. -/
def statusesCall : Call (List WlanStatus) :=
  .statOf (Payload.decode WlanStatus.statShape)
    ((RequestEnvelope.stat stationComp).asking writeStatusQuery)

end Wlan

namespace Station

/-- Asks for all stations, or for those of a WLAN. -/
def listCall (wlan : Option String) : Call (List Station) :=
  .statOf (Payload.decode statShape)
    ((RequestEnvelope.stat stationComp).asking (writeQuery wlan))

/-- Has the controller do something to a station. -/
def commandCall (command : StationCommand) (station : HardwareAddress) : Call Unit :=
  .command ((RequestEnvelope.command stationComp).asking (command.write station))

end Station
end WlanAdmin
