import WlanAdmin.Field.Codec

/-!
# WlanAdmin.Field.Security

How a WLAN authenticates and encrypts, and when it is broadcast: settings the controller writes as
one of a few words.
-/

namespace WlanAdmin

/-- How stations authenticate to a WLAN. -/
inductive Authentication where
  | open
  | eap
  | macAddress
  deriving DecidableEq, Repr, Inhabited

/-- How a WLAN's traffic is encrypted. -/
inductive Encryption where
  | none
  | wpa2
  | wpa2Wpa3Mixed
  | wpa3
  | owe
  deriving DecidableEq, Repr, Inhabited

/-- When a WLAN is broadcast; `scheduled` follows its weekly schedule. -/
inductive Enablement where
  | alwaysOn
  | alwaysOff
  | scheduled
  deriving DecidableEq, Repr, Inhabited

namespace Authentication

def all : List Authentication := [.open, .eap, .macAddress]

def word : Authentication → String
  | .open => "open"
  | .eap => "802.1x-eap"
  | .macAddress => "mac-auth"

def codec : Codec Authentication := .words "WlanAuthentication" all word

theorem codec_lawful : codec.Lawful :=
  Codec.words_lawful (fun a => by cases a <;> decide)
    (fun a b => by cases a <;> cases b <;> decide)

end Authentication

namespace Encryption

def all : List Encryption := [.none, .wpa2, .wpa2Wpa3Mixed, .wpa3, .owe]

def word : Encryption → String
  | .none => "none"
  | .wpa2 => "wpa2"
  | .wpa2Wpa3Mixed => "wpa23mixed"
  | .wpa3 => "wpa3"
  | .owe => "owe"

def codec : Codec Encryption := .words "WlanEncryption" all word

theorem codec_lawful : codec.Lawful :=
  Codec.words_lawful (fun a => by cases a <;> decide)
    (fun a b => by cases a <;> cases b <;> decide)

end Encryption

namespace Enablement

def all : List Enablement := [.alwaysOn, .alwaysOff, .scheduled]

def word : Enablement → String
  | .alwaysOn => "0"
  | .alwaysOff => "1"
  | .scheduled => "2"

def codec : Codec Enablement := .words "WlanEnablement" all word

theorem codec_lawful : codec.Lawful :=
  Codec.words_lawful (fun a => by cases a <;> decide)
    (fun a b => by cases a <;> cases b <;> decide)

end Enablement

end WlanAdmin
