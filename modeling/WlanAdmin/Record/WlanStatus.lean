import WlanAdmin.Field.Series
import WlanAdmin.Record.Shape

/-!
# WlanAdmin.Record.WlanStatus

The live state of a WLAN, with its history.
-/

namespace WlanAdmin

/-- Bytes and signal quality over time. -/
structure WlanHistory where
  rxBytes : List ByteSample := []
  txBytes : List ByteSample := []
  rssi : List SignalSample := []
  deriving DecidableEq, Repr

structure WlanStatus where
  id : UInt32 := 0
  ssid : String := ""
  /-- How many stations are associated. -/
  assocStas : UInt32 := 0
  state : String := ""
  history : WlanHistory := {}
  deriving DecidableEq, Repr

namespace WlanHistory

open RecordField in
def fields : List (RecordField WlanHistory) :=
  [coded "rx-bytes" Series.bytesCodec (·.rxBytes) fun v r => { r with rxBytes := v },
   coded "tx-bytes" Series.bytesCodec (·.txBytes) fun v r => { r with txBytes := v },
   coded "rssi" Series.signalsCodec (·.rssi) fun v r => { r with rssi := v }]

def shape : Shape WlanHistory WlanHistory := .ofFields {} fields

end WlanHistory

namespace WlanStatus

open RecordField in
def fields : List (RecordField WlanStatus) :=
  [count32 "id" (·.id) fun v r => { r with id := v },
   text "ssid" (·.ssid) fun v r => { r with ssid := v },
   count32 "assoc-stas" (·.assocStas) fun v r => { r with assocStas := v },
   text "state" (·.state) fun v r => { r with state := v }]

def shape : Shape WlanStatus WlanStatus :=
  .ofFields {} fields
    [("history", .single fun element r => do
        return { r with history := ← WlanHistory.shape.read element })]

/-- The `wlan` elements of a list. -/
def listShape : Shape (List WlanStatus) (List WlanStatus) where
  start := []
  children := [("wlan", .listed fun element before => do return before ++ [← shape.read element])]
  finish := .ok

end WlanStatus

/-- An element with one child of a given name, which is needed. -/
def Shape.within {P R : Type} (name : String) (inner : Shape P R) : Shape (Option R) R where
  start := none
  children := [(name, .single fun element _ => do return some (← inner.read element))]
  finish value :=
    match value with
    | some value => .ok value
    | none => .error .mismatch

/-- The statistics of all WLANs. -/
def WlanStatus.statShape : Shape (Option (List WlanStatus)) (List WlanStatus) :=
  .within "apstamgr-stat" WlanStatus.listShape

end WlanAdmin
