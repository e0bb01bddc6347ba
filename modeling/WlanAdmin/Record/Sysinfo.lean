import WlanAdmin.Record.WlanStatus

/-!
# WlanAdmin.Record.Sysinfo

What the controller says about itself.
-/

namespace WlanAdmin

structure Sysinfo where
  /-- Seconds since it was started. -/
  uptime : UInt64 := 0
  version : String := ""
  versionNum : String := ""
  buildNum : String := ""
  model : String := ""
  uuid : String := ""
  serial : String := ""
  /-- The most access points it manages. -/
  maxAp : UInt32 := 0
  fixedCountryCode : String := ""
  ethNum : UInt32 := 0
  poePort : String := ""
  maxConnectAp : UInt32 := 0
  deriving DecidableEq, Repr

namespace Sysinfo

open RecordField in
def fields : List (RecordField Sysinfo) :=
  [count64 "uptime" (·.uptime) fun v r => { r with uptime := v },
   text "version" (·.version) fun v r => { r with version := v },
   text "version-num" (·.versionNum) fun v r => { r with versionNum := v },
   text "build-num" (·.buildNum) fun v r => { r with buildNum := v },
   text "model" (·.model) fun v r => { r with model := v },
   text "uuid" (·.uuid) fun v r => { r with uuid := v },
   text "serial" (·.serial) fun v r => { r with serial := v },
   count32 "maxap" (·.maxAp) fun v r => { r with maxAp := v },
   text "fixed-ctry-code" (·.fixedCountryCode) fun v r => { r with fixedCountryCode := v },
   count32 "eth-num" (·.ethNum) fun v r => { r with ethNum := v },
   text "poe-port" (·.poePort) fun v r => { r with poePort := v },
   count32 "max_connect_ap" (·.maxConnectAp) fun v r => { r with maxConnectAp := v }]

def shape : Shape Sysinfo Sysinfo := .ofFields {} fields

/-- The statistics the controller answers with. -/
def statShape : Shape (Option Sysinfo) Sysinfo := .within "response" (.within "sysinfo" shape)

end Sysinfo
end WlanAdmin
