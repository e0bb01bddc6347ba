import WlanAdmin.Field.Flag
import WlanAdmin.Field.HardwareAddress
import WlanAdmin.Field.Instant
import WlanAdmin.Record.WlanStatus
import WlanAdmin.Xml.Element

/-!
# WlanAdmin.Record.Station

Stations: the devices associated with a WLAN, as the controller sees them, and the commands that
act on one of them.
-/

namespace WlanAdmin

structure Station where
  mac : HardwareAddress := .zero
  status : Int32 := 0
  extStatus : Int32 := 0
  firstAssoc : Option Instant := none
  ap : HardwareAddress := .zero
  apName : String := ""
  user : String := ""
  location : String := ""
  wlanId : UInt32 := 0
  wlan : String := ""
  ssid : String := ""
  /-- The radio address the station is associated with. -/
  vapMac : HardwareAddress := .zero
  encryption : String := ""
  ip : String := ""
  ipv6 : String := ""
  vlan : UInt32 := 0
  description : String := ""
  hostname : String := ""
  /-- The name before it was changed. -/
  originalName : String := ""
  deviceInfo : String := ""
  deviceType : String := ""
  model : String := ""
  favourite : Bool := false
  /-- Marked as a device of the older kind. -/
  legacy : Bool := false
  blocked : Bool := false
  channelization : String := ""
  radioTypeText : String := ""
  rssi : Int32 := 0
  receivedSignalStrength : Int32 := 0
  noiseFloor : Int32 := 0
  rssiLevel : String := ""
  authMethod : String := ""
  avgRssi : Int32 := 0
  channel : UInt32 := 0
  radioType : String := ""
  radioBand : String := ""
  totalRxPkts : UInt64 := 0
  totalTxPkts : UInt64 := 0
  totalRxBytes : UInt64 := 0
  totalTxBytes : UInt64 := 0
  totalUsageBytes : UInt64 := 0
  totalRetries : UInt64 := 0
  txDropData : UInt64 := 0
  deriving DecidableEq, Repr

namespace Station

open RecordField in
def fields : List (RecordField Station) :=
  [coded "mac" HardwareAddress.codec (·.mac) fun v r => { r with mac := v },
   signed32 "status" (·.status) fun v r => { r with status := v },
   signed32 "ext-status" (·.extStatus) fun v r => { r with extStatus := v },
   optionalCoded "first-assoc" Instant.codec (·.firstAssoc)
     fun v r => { r with firstAssoc := some v },
   coded "ap" HardwareAddress.codec (·.ap) fun v r => { r with ap := v },
   text "ap-name" (·.apName) fun v r => { r with apName := v },
   text "user" (·.user) fun v r => { r with user := v },
   text "location" (·.location) fun v r => { r with location := v },
   count32 "wlan-id" (·.wlanId) fun v r => { r with wlanId := v },
   text "wlan" (·.wlan) fun v r => { r with wlan := v },
   text "ssid" (·.ssid) fun v r => { r with ssid := v },
   coded "vap-mac" HardwareAddress.codec (·.vapMac) fun v r => { r with vapMac := v },
   text "encryption" (·.encryption) fun v r => { r with encryption := v },
   text "ip" (·.ip) fun v r => { r with ip := v },
   text "ipv6" (·.ipv6) fun v r => { r with ipv6 := v },
   count32 "vlan" (·.vlan) fun v r => { r with vlan := v },
   text "description" (·.description) fun v r => { r with description := v },
   text "hostname" (·.hostname) fun v r => { r with hostname := v },
   text "oldname" (·.originalName) fun v r => { r with originalName := v },
   text "dvcinfo" (·.deviceInfo) fun v r => { r with deviceInfo := v },
   text "dvctype" (·.deviceType) fun v r => { r with deviceType := v },
   text "model" (·.model) fun v r => { r with model := v },
   coded "favourite" .bit (·.favourite) fun v r => { r with favourite := v },
   coded "iot" .bit (·.legacy) fun v r => { r with legacy := v },
   coded "blocked" .bit (·.blocked) fun v r => { r with blocked := v },
   text "channelization" (·.channelization) fun v r => { r with channelization := v },
   text "radio-type-text" (·.radioTypeText) fun v r => { r with radioTypeText := v },
   signed32 "rssi" (·.rssi) fun v r => { r with rssi := v },
   signed32 "received-signal-strength" (·.receivedSignalStrength)
     fun v r => { r with receivedSignalStrength := v },
   signed32 "noise-floor" (·.noiseFloor) fun v r => { r with noiseFloor := v },
   text "rssi-level" (·.rssiLevel) fun v r => { r with rssiLevel := v },
   text "auth-method" (·.authMethod) fun v r => { r with authMethod := v },
   signed32 "avg-rssi" (·.avgRssi) fun v r => { r with avgRssi := v },
   count32 "channel" (·.channel) fun v r => { r with channel := v },
   text "radio-type" (·.radioType) fun v r => { r with radioType := v },
   text "radio-band" (·.radioBand) fun v r => { r with radioBand := v },
   count64 "total-rx-pkts" (·.totalRxPkts) fun v r => { r with totalRxPkts := v },
   count64 "total-tx-pkts" (·.totalTxPkts) fun v r => { r with totalTxPkts := v },
   count64 "total-rx-bytes" (·.totalRxBytes) fun v r => { r with totalRxBytes := v },
   count64 "total-tx-bytes" (·.totalTxBytes) fun v r => { r with totalTxBytes := v },
   count64 "total-usage-bytes" (·.totalUsageBytes) fun v r => { r with totalUsageBytes := v },
   count64 "total-retries" (·.totalRetries) fun v r => { r with totalRetries := v },
   count64 "tx-drop-data" (·.txDropData) fun v r => { r with txDropData := v }]

def shape : Shape Station Station := .ofFields {} fields

/-- The `client` elements of a list. -/
def listShape : Shape (List Station) (List Station) where
  start := []
  children := [("client", .listed fun element before => do return before ++ [← shape.read element])]
  finish := .ok

/-- The statistics of all stations. -/
def statShape : Shape (Option (List Station)) (List Station) :=
  .within "apstamgr-stat" listShape

end Station

/-- What a command does to a station. -/
inductive StationCommand where
  | setFavourite (on : Bool)
  | setLegacy (on : Bool)
  /-- An empty name makes the controller forget the station. -/
  | rename (name : String)
  deriving DecidableEq, Repr

/-- The element of a command. -/
def StationCommand.write (command : StationCommand) (station : HardwareAddress) : Bytes :=
  let client := ("client", station.write)
  Xml.writeElement "xcmd"
    (match command with
      | .setFavourite on =>
        [("cmd", "favourite"), ("tag", "client"), ("enable", Codec.bit.write on), client]
      | .setLegacy on =>
        [("cmd", "mark-iot"), ("tag", "client"), ("enable", Codec.bit.write on), client]
      | .rename name => [("cmd", "rename"), ("tag", "client"), client, ("rename", name)])
    []

/-- The element that asks for stations: all of them, or those of a WLAN, whose name is meant
literally. -/
def Station.writeQuery (wlan : Option String) : Bytes :=
  Xml.writeElement "client"
    (match wlan with
      | some name => [("wlan", name), ("USE_REGEX", "false")]
      | none => [])
    []

end WlanAdmin
