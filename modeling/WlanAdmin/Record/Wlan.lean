import WlanAdmin.Field.Flag
import WlanAdmin.Field.QueuePriority
import WlanAdmin.Field.Schedule
import WlanAdmin.Field.Security
import WlanAdmin.Record.Shape
import WlanAdmin.Xml.Element

/-!
# WlanAdmin.Record.Wlan

The configuration of a WLAN service. The controller does not check what it is sent; `Wlan.named`
makes a record that it accepts.
-/

namespace WlanAdmin

/-- Passphrases, for the encryptions that have them. -/
structure WlanWpa where
  xPassphrase : String := ""
  passphrase : String := ""
  cipher : String := ""
  xSaePassphrase : String := ""
  saePassphrase : String := ""
  dynamicPsk : Bool := false
  dynamicPskLen : String := ""
  dpskType : String := ""
  deriving DecidableEq, Repr

/-- Rate limits by preset; `DISABLE` takes the limit off. -/
structure WlanQos where
  uplinkPreset : String := "DISABLE"
  downlinkPreset : String := "DISABLE"
  perssidUplinkPreset : UInt32 := 0
  perssidDownlinkPreset : UInt32 := 0
  deriving DecidableEq, Repr

structure Wlan where
  /-- Given by the controller. -/
  id : Option UInt32 := none
  name : String := ""
  ssid : String := ""
  description : String := ""
  usage : String := ""
  isGuest : Bool := false
  authentication : Authentication := .open
  encryption : Encryption := .none
  enableType : Enablement := .alwaysOn
  allowIotConnect : Bool := false
  acctUpdInterval : UInt32 := 0
  closeSystem : Bool := false
  vlanId : UInt32 := 0
  dvlan : Bool := false
  maxClientsPerRadio : UInt32 := 0
  doWmmAc : Bool := false
  aclId : UInt32 := 0
  fastBss : Bool := false
  bgscan : Bool := false
  bandBalance : Bool := false
  do80211d : Bool := false
  forceDhcp : Bool := false
  forceDhcpTimeout : UInt32 := 0
  maxIdleTimeout : UInt32 := 0
  idleTimeout : Bool := false
  clientIsolation : Bool := false
  dtimPeriod : UInt32 := 0
  directedMbc : UInt32 := 0
  wifi6 : Bool := false
  do80211w : Bool := false
  txRateConfig : UInt32 := 0
  staInfoExtraction : Bool := false
  localBridge : Bool := false
  precedenceId : UInt32 := 0
  wpa : Option WlanWpa := none
  queuePriority : QueuePriority := .high
  qos : WlanQos := {}
  schedule : Schedule := .off
  deriving DecidableEq

namespace WlanWpa

open RecordField in
def fields : List (RecordField WlanWpa) :=
  [text "x-passphrase" (·.xPassphrase) fun v r => { r with xPassphrase := v },
   text "passphrase" (·.passphrase) fun v r => { r with passphrase := v },
   text "cipher" (·.cipher) fun v r => { r with cipher := v },
   text "x-sae-passphrase" (·.xSaePassphrase) fun v r => { r with xSaePassphrase := v },
   text "sae-passphrase" (·.saePassphrase) fun v r => { r with saePassphrase := v },
   coded "dynamic-psk" .enabled (·.dynamicPsk) fun v r => { r with dynamicPsk := v },
   text "dynamic-psk-len" (·.dynamicPskLen) fun v r => { r with dynamicPskLen := v },
   text "dpsk-type" (·.dpskType) fun v r => { r with dpskType := v }]

def shape : Shape WlanWpa WlanWpa := .ofFields {} fields

def write (name : String) (wpa : WlanWpa) : Bytes :=
  Xml.writeElement name (writeFields fields wpa) []

end WlanWpa

namespace WlanQos

open RecordField in
def fields : List (RecordField WlanQos) :=
  [text "uplink-preset" (·.uplinkPreset) fun v r => { r with uplinkPreset := v },
   text "downlink-preset" (·.downlinkPreset) fun v r => { r with downlinkPreset := v },
   count32 "perssid-uplink-preset" (·.perssidUplinkPreset)
     fun v r => { r with perssidUplinkPreset := v },
   count32 "perssid-downlink-preset" (·.perssidDownlinkPreset)
     fun v r => { r with perssidDownlinkPreset := v }]

def shape : Shape WlanQos WlanQos := .ofFields {} fields

def write (name : String) (qos : WlanQos) : Bytes :=
  Xml.writeElement name (writeFields fields qos) []

end WlanQos

namespace QueueNumbers

/-- Queue numbers of which some have not been read. -/
structure Partial where
  voice : Option Int32 := none
  video : Option Int32 := none
  data : Option Int32 := none
  background : Option Int32 := none

def Partial.finish (p : Partial) : Except DecodeError QueueNumbers :=
  match p.voice, p.video, p.data, p.background with
  | some voice, some video, some data, some background => .ok ⟨voice, video, data, background⟩
  | _, _, _, _ => .error .mismatch

/-- The partial form of queue numbers. -/
def toPartial (numbers : QueueNumbers) : Partial :=
  ⟨some numbers.voice, some numbers.video, some numbers.data, some numbers.background⟩

open RecordField in
def fields : List (RecordField Partial) :=
  [signed32 "voice" (·.voice.getD 0) fun v r => { r with voice := some v },
   signed32 "video" (·.video.getD 0) fun v r => { r with video := some v },
   signed32 "data" (·.data.getD 0) fun v r => { r with data := some v },
   signed32 "background" (·.background.getD 0) fun v r => { r with background := some v }]

/-- All four numbers are needed. -/
def shape : Shape Partial QueueNumbers := { start := {}, fields, finish := Partial.finish }

def write (name : String) (numbers : QueueNumbers) : Bytes :=
  Xml.writeElement name (writeFields fields numbers.toPartial) []

end QueueNumbers

/-- The four queue numbers of a class. -/
def QueuePriority.shape : Shape QueueNumbers.Partial QueuePriority where
  start := {}
  fields := QueueNumbers.fields
  finish p := do
    let numbers ← p.finish
    match QueuePriority.ofNumbers numbers with
    | .ok priority => .ok priority
    | .error error => .error (.field error)

namespace Schedule

def fields : List (RecordField (Option String)) :=
  [.text "value" (·.getD "") fun v _ => some v]

/-- The text of a schedule stands in an attribute, which is needed. -/
def shape : Shape (Option String) Schedule where
  start := none
  fields
  finish value :=
    match value with
    | none => .error .mismatch
    | some text =>
      match Schedule.read text with
      | .ok schedule => .ok schedule
      | .error error => .error (.field error)

def writeElement (name : String) (schedule : Schedule) : Bytes :=
  Xml.writeElement name (writeFields fields (some schedule.write)) []

end Schedule

namespace Wlan

open RecordField in
def fields : List (RecordField Wlan) :=
  [optionalCount32 "id" (·.id) fun v r => { r with id := some v },
   text "name" (·.name) fun v r => { r with name := v },
   text "ssid" (·.ssid) fun v r => { r with ssid := v },
   text "description" (·.description) fun v r => { r with description := v },
   text "usage" (·.usage) fun v r => { r with usage := v },
   boolean "is-guest" (·.isGuest) fun v r => { r with isGuest := v },
   coded "authentication" Authentication.codec (·.authentication)
     fun v r => { r with authentication := v },
   coded "encryption" Encryption.codec (·.encryption) fun v r => { r with encryption := v },
   coded "enable-type" Enablement.codec (·.enableType) fun v r => { r with enableType := v },
   coded "allow-iot-connect" .enabled (·.allowIotConnect)
     fun v r => { r with allowIotConnect := v },
   count32 "acct-upd-interval" (·.acctUpdInterval) fun v r => { r with acctUpdInterval := v },
   boolean "close-system" (·.closeSystem) fun v r => { r with closeSystem := v },
   count32 "vlan-id" (·.vlanId) fun v r => { r with vlanId := v },
   coded "dvlan" .enabled (·.dvlan) fun v r => { r with dvlan := v },
   count32 "max-clients-per-radio" (·.maxClientsPerRadio)
     fun v r => { r with maxClientsPerRadio := v },
   coded "do-wmm-ac" .enabled (·.doWmmAc) fun v r => { r with doWmmAc := v },
   count32 "acl-id" (·.aclId) fun v r => { r with aclId := v },
   coded "fast-bss" .enabled (·.fastBss) fun v r => { r with fastBss := v },
   coded "bgscan" .bit (·.bgscan) fun v r => { r with bgscan := v },
   coded "band-balance" .bit (·.bandBalance) fun v r => { r with bandBalance := v },
   coded "do-802-11d" .enabled (·.do80211d) fun v r => { r with do80211d := v },
   coded "force-dhcp" .bit (·.forceDhcp) fun v r => { r with forceDhcp := v },
   count32 "force-dhcp-timeout" (·.forceDhcpTimeout) fun v r => { r with forceDhcpTimeout := v },
   count32 "max-idle-timeout" (·.maxIdleTimeout) fun v r => { r with maxIdleTimeout := v },
   boolean "idle-timeout" (·.idleTimeout) fun v r => { r with idleTimeout := v },
   coded "client-isolation" .enabled (·.clientIsolation)
     fun v r => { r with clientIsolation := v },
   count32 "dtim-period" (·.dtimPeriod) fun v r => { r with dtimPeriod := v },
   count32 "directed-mbc" (·.directedMbc) fun v r => { r with directedMbc := v },
   boolean "wifi6" (·.wifi6) fun v r => { r with wifi6 := v },
   coded "do-802-11w" .bit (·.do80211w) fun v r => { r with do80211w := v },
   count32 "tx-rate-config" (·.txRateConfig) fun v r => { r with txRateConfig := v },
   coded "sta-info-extraction" .bit (·.staInfoExtraction)
     fun v r => { r with staInfoExtraction := v },
   coded "local-bridge" .bit (·.localBridge) fun v r => { r with localBridge := v },
   count32 "precedence-id" (·.precedenceId) fun v r => { r with precedenceId := v }]

/-- The child elements, each at most once. -/
def children : List (String × ChildRule Wlan) :=
  [("wpa", .single fun element r => do
      return { r with wpa := some (← WlanWpa.shape.read element) }),
   ("queue-priority", .single fun element r => do
      return { r with queuePriority := ← QueuePriority.shape.read element }),
   ("qos", .single fun element r => do return { r with qos := ← WlanQos.shape.read element }),
   ("wlan-schedule", .single fun element r => do
      return { r with schedule := ← Schedule.shape.read element })]

def shape : Shape Wlan Wlan := .ofFields {} fields children

/-- The content of a record's element. -/
def writeChildren (wlan : Wlan) : Bytes :=
  (match wlan.wpa with
    | some wpa => wpa.write "wpa"
    | none => []) ++
  wlan.queuePriority.numbers.write "queue-priority" ++ wlan.qos.write "qos" ++
  wlan.schedule.writeElement "wlan-schedule"

/-- The element of a record. -/
def write (wlan : Wlan) : Bytes :=
  Xml.writeElement "wlansvc" (writeFields fields wlan) wlan.writeChildren

/-- A new WLAN that is open and always on, named and broadcast as `name`, with the settings of the
controller's own pages. -/
def named (name : String) : Wlan where
  name
  ssid := name
  description := name
  usage := "user"
  acctUpdInterval := 10
  vlanId := 1
  maxClientsPerRadio := 100
  aclId := 1
  do80211d := true
  forceDhcpTimeout := 10
  maxIdleTimeout := 300
  idleTimeout := true
  dtimPeriod := 1
  directedMbc := 1
  wifi6 := true
  txRateConfig := 1
  staInfoExtraction := true
  precedenceId := 1
  queuePriority := .high
  schedule := .alwaysOn

/-- The records of a list, in document order. -/
def listShape : Shape (List Wlan) (List Wlan) where
  start := []
  children := [("wlansvc", .listed fun element before => do
    return before ++ [← shape.read element])]
  finish := .ok

end Wlan
end WlanAdmin
