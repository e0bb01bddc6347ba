import WlanAdmin.Proofs.Record.Priority

/-!
# WlanAdmin.Proofs.Record.Codecs

Records and codecs agree: what the codec of a field makes of a text is what reading a record with
that text makes of it.

* `codedFields` : for each type of record, the fields that have a codec.
* `keeps`       : for each type of record, these fields are apart from all others.
* `Schedule.FollowsValue` : an element whose text may not be absent.
* `records_follow_codecs` : all of them.
* `schedule_needs_value`  : a schedule without its text is refused.
-/

namespace WlanAdmin

open Xml RecordField

namespace WlanWpa

def codedFields : List (CodedField WlanWpa) :=
  [.plain "dynamic-psk" .enabled (·.dynamicPsk) (fun v r => { r with dynamicPsk := v })
    (fun _ _ => rfl) fun _ => rfl]

theorem keeps : ∀ c ∈ codedFields, ∀ other ∈ fields, other.name ≠ c.field.name →
    ∀ held, other.Keeps (c.set held) := by
  repeat' refine List.forall_mem_cons.mpr ⟨?_, ?_⟩
  all_goals first
    | exact List.forall_mem_nil _
    | exact fun ne => absurd rfl ne
    | exact fun _ _ => keeps_text fun _ _ => rfl

end WlanWpa

namespace WlanHistory

theorem fieldNames : FieldNames fields := ⟨by decide +kernel, by decide +kernel⟩

def codedFields : List (CodedField WlanHistory) :=
  [.plain "rx-bytes" Series.bytesCodec (·.rxBytes) (fun v r => { r with rxBytes := v })
     (fun _ _ => rfl) fun _ => rfl,
   .plain "tx-bytes" Series.bytesCodec (·.txBytes) (fun v r => { r with txBytes := v })
     (fun _ _ => rfl) fun _ => rfl,
   .plain "rssi" Series.signalsCodec (·.rssi) (fun v r => { r with rssi := v })
     (fun _ _ => rfl) fun _ => rfl]

theorem keeps : ∀ c ∈ codedFields, ∀ other ∈ fields, other.name ≠ c.field.name →
    ∀ held, other.Keeps (c.set held) := by
  repeat' refine List.forall_mem_cons.mpr ⟨?_, ?_⟩
  all_goals first
    | exact List.forall_mem_nil _
    | exact fun ne => absurd rfl ne
    | exact fun _ _ => keeps_coded fun _ _ => rfl

end WlanHistory

namespace Station

theorem fieldNames : FieldNames fields := ⟨by decide +kernel, by decide +kernel⟩

def codedFields : List (CodedField Station) :=
  [.plain "mac" HardwareAddress.codec (·.mac) (fun v r => { r with mac := v })
     (fun _ _ => rfl) fun _ => rfl,
   .optional "first-assoc" Instant.codec (·.firstAssoc) (fun v r => { r with firstAssoc := v })
     (fun _ _ => rfl) fun _ => rfl,
   .plain "ap" HardwareAddress.codec (·.ap) (fun v r => { r with ap := v })
     (fun _ _ => rfl) fun _ => rfl,
   .plain "vap-mac" HardwareAddress.codec (·.vapMac) (fun v r => { r with vapMac := v })
     (fun _ _ => rfl) fun _ => rfl,
   .plain "favourite" .bit (·.favourite) (fun v r => { r with favourite := v })
     (fun _ _ => rfl) fun _ => rfl,
   .plain "iot" .bit (·.legacy) (fun v r => { r with legacy := v }) (fun _ _ => rfl) fun _ => rfl,
   .plain "blocked" .bit (·.blocked) (fun v r => { r with blocked := v })
     (fun _ _ => rfl) fun _ => rfl]

-- every pair of fields sets two parts of the record, which are told apart by evaluation
theorem keeps : ∀ c ∈ codedFields, ∀ other ∈ fields, other.name ≠ c.field.name →
    ∀ held, other.Keeps (c.set held) := by
  repeat' refine List.forall_mem_cons.mpr ⟨?_, ?_⟩
  all_goals first
    | exact List.forall_mem_nil _
    | exact fun ne => absurd rfl ne
    | exact fun _ _ => keeps_text fun _ _ => rfl
    | exact fun _ _ => keeps_integer fun _ _ => rfl
    | exact fun _ _ => keeps_coded fun _ _ => rfl
    | exact fun _ _ => keeps_optionalCoded fun _ _ => rfl

end Station

namespace Wlan

def codedFields : List (CodedField Wlan) :=
  [.plain "authentication" Authentication.codec (·.authentication)
     (fun v r => { r with authentication := v }) (fun _ _ => rfl) fun _ => rfl,
   .plain "encryption" Encryption.codec (·.encryption) (fun v r => { r with encryption := v })
     (fun _ _ => rfl) fun _ => rfl,
   .plain "enable-type" Enablement.codec (·.enableType) (fun v r => { r with enableType := v })
     (fun _ _ => rfl) fun _ => rfl,
   .plain "allow-iot-connect" .enabled (·.allowIotConnect)
     (fun v r => { r with allowIotConnect := v }) (fun _ _ => rfl) fun _ => rfl,
   .plain "dvlan" .enabled (·.dvlan) (fun v r => { r with dvlan := v })
     (fun _ _ => rfl) fun _ => rfl,
   .plain "do-wmm-ac" .enabled (·.doWmmAc) (fun v r => { r with doWmmAc := v })
     (fun _ _ => rfl) fun _ => rfl,
   .plain "fast-bss" .enabled (·.fastBss) (fun v r => { r with fastBss := v })
     (fun _ _ => rfl) fun _ => rfl,
   .plain "bgscan" .bit (·.bgscan) (fun v r => { r with bgscan := v })
     (fun _ _ => rfl) fun _ => rfl,
   .plain "band-balance" .bit (·.bandBalance) (fun v r => { r with bandBalance := v })
     (fun _ _ => rfl) fun _ => rfl,
   .plain "do-802-11d" .enabled (·.do80211d) (fun v r => { r with do80211d := v })
     (fun _ _ => rfl) fun _ => rfl,
   .plain "force-dhcp" .bit (·.forceDhcp) (fun v r => { r with forceDhcp := v })
     (fun _ _ => rfl) fun _ => rfl,
   .plain "client-isolation" .enabled (·.clientIsolation)
     (fun v r => { r with clientIsolation := v }) (fun _ _ => rfl) fun _ => rfl,
   .plain "do-802-11w" .bit (·.do80211w) (fun v r => { r with do80211w := v })
     (fun _ _ => rfl) fun _ => rfl,
   .plain "sta-info-extraction" .bit (·.staInfoExtraction)
     (fun v r => { r with staInfoExtraction := v }) (fun _ _ => rfl) fun _ => rfl,
   .plain "local-bridge" .bit (·.localBridge) (fun v r => { r with localBridge := v })
     (fun _ _ => rfl) fun _ => rfl]

theorem keeps : ∀ c ∈ codedFields, ∀ other ∈ fields, other.name ≠ c.field.name →
    ∀ held, other.Keeps (c.set held) := by
  repeat' refine List.forall_mem_cons.mpr ⟨?_, ?_⟩
  all_goals first
    | exact List.forall_mem_nil _
    | exact fun ne => absurd rfl ne
    | exact fun _ _ => keeps_text fun _ _ => rfl
    | exact fun _ _ => keeps_integer fun _ _ => rfl
    | exact fun _ _ => keeps_coded fun _ _ => rfl
    | exact fun _ _ => keeps_boolean fun _ _ => rfl
    | exact fun _ _ => keeps_optionalCount32 fun _ _ => rfl

theorem keeps_children : ∀ c ∈ codedFields, ∀ rule ∈ children,
    ∀ held, rule.2.Keeps (c.set held) := by
  repeat' refine List.forall_mem_cons.mpr ⟨?_, ?_⟩
  all_goals first
    | exact List.forall_mem_nil _
    | exact fun _ => ChildRule.keeps_single fun _ _ => rfl

end Wlan

/-! ## Schedules -/

namespace Schedule

/-- The text of a schedule is read by its codec, and is needed. -/
structure FollowsValue : Prop where
  accepted : ∀ (e : AttributedElement "value") (text : String) (rest : Option String)
    (schedule : Schedule), e.attr.text? = some text → e.rest shape = .ok rest →
    codec.read text = .ok schedule → shape.read e.node = .ok schedule
  refused : ∀ (e : AttributedElement "value") (text : String) (rest : Option String)
    (error : FormatError), e.attr.text? = some text → e.rest shape = .ok rest →
    codec.read text = .error error → shape.read e.node = .error (.field error) ∧
      (DecodeError.field error).message? = some error.message
  needed : ∀ element : ElementNode,
    (∀ attr ∈ (tagAttributes element.body).all, Shape.attributeKey attr.name ≠ utf8 "value") →
    ∀ schedule, shape.read element ≠ .ok schedule

theorem only_value : ∀ field ∈ fields, field.name = "value" := by simp [fields, text]

/-- The attribute sets the text, whatever was there. -/
def effect {attr : Attribute} (named : Shape.attributeKey attr.name = utf8 "value") {text : String}
    (spelled : attr.text? = some text) :
    shape.Effect "value" attr (.ok fun _ => some text) where
  field := .text "value" (·.getD "") fun v _ => some v
  text := text
  named := rfl
  known := by
    rw [named]
    exact find?_field fieldNames List.mem_cons_self
  taken := spelled
  acts _ := rfl
  keeps _ _ other mem ne := absurd (only_value other mem) ne
  keepsChildren _ _ := nofun

theorem read_node (e : AttributedElement "value") {text : String} {rest : Option String}
    (spelled : e.attr.text? = some text) (others : e.rest shape = .ok rest) :
    shape.read e.node =
      match codec.read text with
      | .ok schedule => .ok schedule
      | .error error => .error (.field error) := by
  rw [e.read (effect e.named spelled) others]
  rfl

theorem followsValue : FollowsValue := by
  constructor
  · intro e text rest schedule spelled others read
    rw [read_node e spelled others, read]
  · intro e text rest error spelled others read
    rw [read_node e spelled others, read]
    exact ⟨rfl, rfl⟩
  · intro element absent schedule read
    obtain ⟨-, -, value, gathered, done⟩ := Shape.read_ok_iff.mp read
    have keeps : ∀ field ∈ shape.fields, field.name ≠ "value" →
        field.Keeps (fun _ => (none : Option String)) := by
      intro field mem ne
      exact absurd (only_value field mem) ne
    have never : none = value := shape.gather_unchanged keeps nofun absent rfl gathered
    subst never
    cases done

end Schedule

/-- The fields of records are read as their codecs read texts, each apart from all others. A schedule
is read as its text, and a priority as its four numbers, none of which may be absent. -/
theorem records_follow_codecs :
    FollowsCodecs Wlan.shape Wlan.codedFields ∧
    FollowsCodecs WlanWpa.shape WlanWpa.codedFields ∧
    FollowsCodecs WlanHistory.shape WlanHistory.codedFields ∧
    FollowsCodecs Station.shape Station.codedFields ∧
    Schedule.FollowsValue ∧ QueuePriority.FollowsNumbers := by
  refine ⟨?_, ?_, ?_, ?_, Schedule.followsValue, QueuePriority.followsNumbers⟩
  · exact .of_keeps Wlan.fieldNames rfl rfl Wlan.keeps Wlan.keeps_children
  · exact .of_keeps WlanWpa.fieldNames rfl rfl WlanWpa.keeps fun _ _ => nofun
  · exact .of_keeps WlanHistory.fieldNames rfl rfl WlanHistory.keeps fun _ _ => nofun
  · exact .of_keeps Station.fieldNames rfl rfl Station.keeps fun _ _ => nofun

/-- The element of a station whose address is written with a reference in it. -/
def addressedStation : AttributedElement "mac" where
  body := utf8 "client wlan-id='3' mac='&#x61;a:bb:cc:00:11:22'"
  children := []
  before := [⟨utf8 "wlan-id", utf8 "3"⟩]
  attr := ⟨utf8 "mac", utf8 "&#x61;a:bb:cc:00:11:22"⟩
  after := []
  attributes := by decide +kernel
  sound := by decide +kernel
  named := by decide +kernel
  others := by decide +kernel

/-- The address of a station is read as its codec reads it; a priority is read of numbers that are
written in an unusual way, and not if one of them is absent. -/
theorem records_follow_codecs_address :
    let priority (numbers : String) : ElementNode := ⟨utf8 ("queue-priority " ++ numbers), [], true⟩
    addressedStation.attr.text? = some "aa:bb:cc:00:11:22" ∧
      Station.shape.read addressedStation.node =
        .ok { mac := ⟨#v[0xAA, 0xBB, 0xCC, 0x00, 0x11, 0x22]⟩, wlanId := 3 } ∧
      QueueNumbers.Lists (priority "data='5' voice=' 1' video='+3' background='007'") ⟨1, 3, 5, 7⟩ ∧
      QueuePriority.shape.read (priority "data='5' voice=' 1' video='+3' background='007'") =
        .ok .low ∧
      ∀ found, QueuePriority.shape.read (priority "voice='0' video='2' background='6'") ≠
        .ok found := by
  intro priority
  have spelled : addressedStation.attr.text? = some "aa:bb:cc:00:11:22" := by decide +kernel
  have others : addressedStation.rest Station.shape = .ok { wlanId := 3 } := by decide +kernel
  have read : HardwareAddress.codec.read "aa:bb:cc:00:11:22" =
      .ok ⟨#v[0xAA, 0xBB, 0xCC, 0x00, 0x11, 0x22]⟩ := by decide +kernel
  obtain ⟨-, -, -, stations, -, priorities⟩ := records_follow_codecs
  have follows := stations.follows _ List.mem_cons_self
  have low : QueueNumbers.shape.read
      (priority "data='5' voice=' 1' video='+3' background='007'") = .ok ⟨1, 3, 5, 7⟩ := by
    decide +kernel
  refine ⟨spelled, (follows.accepted addressedStation _ _ _ spelled others read).1,
    (priorities.numbers _ _).mp low, (priorities.low _).mpr low, ?_⟩
  exact priorities.needed "data" (by decide) _ (by decide +kernel)

/-- There is no schedule where its text is absent. -/
theorem schedule_needs_value :
    Payload.decode Schedule.shape (utf8 "<wlan-schedule/>") = .error .mismatch := by
  decide +kernel

end WlanAdmin
